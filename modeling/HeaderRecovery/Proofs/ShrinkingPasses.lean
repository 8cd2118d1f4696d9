import Mathlib
import HeaderRecovery.Cleanup.Basic
import HeaderRecovery.Proofs.MatchLengths
import HeaderRecovery.Proofs.OmittedDefaults

/-!
Passes of the built-in cleanup. Every rewriting replaces its matches by something shorter, and an
omission of default arguments is one of characters, so a pass that has an effect makes the text
shorter. Main statement: passes come to an end, no later than there are characters, and where the
cleanup comes to it within its limit, there is nothing left to clean up.
-/
namespace HeaderRecovery.Cleanup

open Pattern (literal many optional sequenceAll choiceAll)

/-! ### Functions that make a text shorter -/

/-- The function makes a text shorter or leaves it as it is. -/
def Shrinks (f : String → String) : Prop := ∀ text, f text = text ∨ (f text).length < text.length

namespace Shrinks

variable {f g : String → String}

lemma comp (hg : Shrinks g) (hf : Shrinks f) : Shrinks fun text => g (f text) := by
  intro text
  rcases hf text with hsame | hless
  · simp only [hsame]
    exact hg text
  · refine .inr ?_
    rcases hg (f text) with hsame | hless'
    · simp only [hsame]
      exact hless
    · exact hless'.trans hless

lemma foldl {rewrites : List Pattern.Rewrite} (h : ∀ r ∈ rewrites, Shrinks r.apply) :
    Shrinks fun text => rewrites.foldl (fun text rewrite => rewrite.apply text) text := by
  induction rewrites with
  | nil => exact fun _ => .inl rfl
  | cons r rest ih =>
    have hrest := ih fun r hr => h r (List.mem_cons_of_mem _ hr)
    exact hrest.comp (h r List.mem_cons_self)

/-- There are no more rounds with an effect than characters. -/
lemma exists_fixed (h : Shrinks f) (text : String) :
    ∃ n ≤ text.length, f (f^[n] text) = f^[n] text := by
  induction hlength : text.length using Nat.strong_induction_on generalizing text with
  | _ length ih =>
    rcases h text with hsame | hless
    · exact ⟨0, Nat.zero_le _, hsame⟩
    · rw [hlength] at hless
      obtain ⟨n, hn, hfixed⟩ := ih _ hless (f text) rfl
      exact ⟨n + 1, Nat.lt_of_le_of_lt hn hless, hfixed⟩

end Shrinks

/-! ### Passes -/

lemma iterate_of_le {f : String → String} {n m : Nat} {text : String}
    (hfixed : f (f^[n] text) = f^[n] text) (h : n ≤ m) : f^[m] text = f^[n] text := by
  obtain ⟨k, rfl⟩ := Nat.exists_eq_add_of_le' h
  rw [Function.iterate_add_apply]
  exact Function.iterate_fixed hfixed k

/-- Where passes come to an end within the limit, the text is the one they come to. -/
lemma settle_eq_iterate {c : Cleanup} (passes : Nat) : ∀ n < passes, ∀ text,
    c.pass (c.pass^[n] text) = c.pass^[n] text → c.settle passes text = c.pass^[n] text := by
  induction passes with
  | zero => exact fun n hn => absurd hn (Nat.not_lt_zero n)
  | succ passes ih =>
    intro n hn text hfixed
    rw [settle]
    split
    · rename_i hsame
      -- The limit counts more passes than it takes, and those change nothing.
      exact (Function.iterate_fixed hsame n).symm
    · rename_i hchanged
      cases n with
      | zero => exact absurd hfixed hchanged
      | succ n => exact ih n (Nat.lt_of_succ_lt_succ hn) _ hfixed

lemma settle_of_pass_eq {c : Cleanup} {text : String} (h : c.pass text = text) (passes : Nat) :
    c.settle passes text = text := by
  cases passes with
  | zero => rfl
  | succ passes =>
    rw [settle]
    exact if_pos h

lemma shrinks_rewriting {pattern : List Pattern} {short : String}
    (h : ∀ p ∈ pattern, p.HasRounds) (hplain : '$' ∉ short.toList)
    (hshort : short.length < (pattern.map Pattern.minLength).sum) :
    Shrinks (rewriting pattern short).apply := by
  rw [← Pattern.minLength_sequenceAll] at hshort
  exact Pattern.Rewrite.apply_eq_or_lt (Pattern.hasRounds_sequenceAll h) hplain hshort

lemma shrinks_builtIn : ∀ r ∈ builtIn, Shrinks r.apply := by
  have hblanks : blanks.HasRounds := Pattern.hasRounds_many trivial
  have hoptional : (optional (literal "L")).HasRounds :=
    Pattern.hasRounds_optional (Pattern.hasRounds_literal _)
  have hversion : (choiceAll [literal "1", literal "ndk1"]).HasRounds :=
    ⟨Pattern.hasRounds_literal _, Pattern.hasRounds_literal _⟩
  intro r hr
  simp only [builtIn, List.mem_cons, List.not_mem_nil, or_false] at hr
  obtain rfl | rfl | rfl | rfl := hr
  all_goals
    refine shrinks_rewriting ?_ (by decide) (by decide)
    simp [hblanks, hoptional, hversion, Pattern.hasRounds_literal]

/-- The cleanup without rewritings of the user. -/
def unextended : Cleanup := ⟨builtIn⟩

lemma shrinks_stripDefaultArguments : Shrinks stripDefaultArguments := by
  intro text
  have homits := omitsDefaults_iff.mpr (Eq.refl (stripDefaultArguments text))
  rcases homits.eq_or_lt with hsame | hless
  · exact .inl (String.toList_inj.mp hsame)
  · rw [String.length_toList, String.length_toList] at hless
    exact .inr hless

lemma shrinks_pass : Shrinks unextended.pass :=
  shrinks_stripDefaultArguments.comp (Shrinks.foldl shrinks_builtIn)

/-- Without rewritings of the user, a pass makes a text shorter or leaves it as it is. So passes
come to an end after no more of them than the text has characters. Where the cleanup sees the end
before its limit, its result is the text that passes come to, and cleaning that up again changes
nothing. -/
theorem passes_settle :
    ofReplacements [] = .ok unextended ∧ ∀ text,
      (unextended.pass text = text ∨ (unextended.pass text).length < text.length) ∧
      (∃ n ≤ text.length, ∀ m ≥ n, unextended.pass^[m] text = unextended.pass^[n] text) ∧
      ∀ n < maxPasses, unextended.pass (unextended.pass^[n] text) = unextended.pass^[n] text →
        unextended.apply text = unextended.pass^[n] text ∧
        unextended.pass (unextended.apply text) = unextended.apply text ∧
        unextended.apply (unextended.apply text) = unextended.apply text := by
  refine ⟨rfl, fun text => ⟨shrinks_pass text, ?_, fun n hn hfixed => ?_⟩⟩
  · obtain ⟨n, hn, hfixed⟩ := shrinks_pass.exists_fixed text
    exact ⟨n, hn, fun m hm => iterate_of_le hfixed hm⟩
  · have hresult : unextended.apply text = unextended.pass^[n] text :=
      settle_eq_iterate maxPasses n hn text hfixed
    have hsettled : unextended.pass (unextended.apply text) = unextended.apply text := by
      rw [hresult]
      exact hfixed
    exact ⟨hresult, hsettled, settle_of_pass_eq hsettled maxPasses⟩

/-- The cleanup of a short text sees the end of its passes. -/
theorem versionedString_settles :
    ∃ n < maxPasses,
      unextended.pass (unextended.pass^[n] "std::__1::string") =
        unextended.pass^[n] "std::__1::string" ∧
      unextended.apply "std::__1::string" = unextended.pass^[n] "std::__1::string" ∧
      unextended.pass (unextended.apply "std::__1::string") = unextended.apply "std::__1::string" ∧
      unextended.apply (unextended.apply "std::__1::string") =
        unextended.apply "std::__1::string" := by
  obtain ⟨-, ⟨n, hn, hfixed⟩, happly⟩ := passes_settle.2 "std::__1::string"
  have hlimit : "std::__1::string".length < maxPasses := by decide
  have hsettled : unextended.pass (unextended.pass^[n] "std::__1::string") =
      unextended.pass^[n] "std::__1::string" :=
    (Function.iterate_succ_apply' unextended.pass n _).symm.trans (hfixed (n + 1) (Nat.le_succ n))
  have hbelow := Nat.lt_of_le_of_lt hn hlimit
  exact ⟨n, hbelow, hsettled, happly n hbelow hsettled⟩

end HeaderRecovery.Cleanup
