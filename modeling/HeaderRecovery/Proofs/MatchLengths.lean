import Mathlib
import HeaderRecovery.Pattern.Rewrite

/-!
How many characters a match takes. The instructions of a program are priced with the number of
characters that have to be taken from there at least before the program accepts; putting the code
of a pattern in front of an instruction raises the price by the least length of the pattern. Main
statements: every match takes at least that many characters, and a rewriting whose replacement is
shorter than that makes a text shorter or leaves it as it is.
-/
namespace HeaderRecovery.Pattern

variable {holes : Set Nat} {code code' code'' : Code} {cost cost' cost'' : Nat → Nat}
variable {next entry length : Nat}

/-! ### Patterns with sensible repetitions -/

/-- No repetition asks for more rounds than it allows. -/
def HasRounds : Pattern → Prop
  | .empty | .one _ | .look _ => True
  | .sequence first second => first.HasRounds ∧ second.HasRounds
  | .choice left right => left.HasRounds ∧ right.HasRounds
  | .repetition least most _ body => (∀ n ∈ most, least ≤ n) ∧ body.HasRounds
  | .group _ body => body.HasRounds

lemma minLength_of_isEmptyOnly {p : Pattern} (h : p.HasRounds) (hempty : p.isEmptyOnly = true) :
    p.minLength = 0 := by
  induction p with
  | empty => rfl
  | one => cases hempty
  | look => rfl
  | sequence first second ihfirst ihsecond =>
    simp only [isEmptyOnly, Bool.and_eq_true] at hempty
    rw [minLength, ihfirst h.1 hempty.1, ihsecond h.2 hempty.2]
  | choice left right ihleft ihright =>
    simp only [isEmptyOnly, Bool.and_eq_true] at hempty
    rw [minLength, ihleft h.1 hempty.1, ihright h.2 hempty.2, Nat.min_self]
  | repetition least most greedy body ih =>
    simp only [isEmptyOnly, Bool.or_eq_true, decide_eq_true_eq] at hempty
    rcases hempty with rfl | hempty
    · have hleast : least ≤ 0 := h.1 0 rfl
      rw [minLength, Nat.le_zero.mp hleast, Nat.zero_mul]
    · rw [minLength, ih h.2 hempty, Nat.mul_zero]
  | group index body ih => exact ih h hempty

lemma minLength_sequenceAll (ps : List Pattern) :
    (sequenceAll ps).minLength = (ps.map minLength).sum := by
  induction ps with
  | nil => rfl
  | cons p rest ih =>
    cases rest with
    | nil => rfl
    | cons q rest =>
      rw [sequenceAll, minLength, ih]
      · rfl
      · exact List.cons_ne_nil q rest

lemma hasRounds_sequenceAll {ps : List Pattern} (h : ∀ p ∈ ps, p.HasRounds) :
    (sequenceAll ps).HasRounds := by
  induction ps with
  | nil => trivial
  | cons p rest ih =>
    cases rest with
    | nil => exact h p List.mem_cons_self
    | cons q rest =>
      exact ⟨h p List.mem_cons_self, ih fun r hr => h r (List.mem_cons_of_mem p hr)⟩

lemma hasRounds_literal (text : String) : (literal text).HasRounds := by
  refine hasRounds_sequenceAll fun p hp => ?_
  obtain ⟨c, -, rfl⟩ := List.mem_map.mp hp
  trivial

lemma hasRounds_many {p : Pattern} (h : p.HasRounds) : (many p).HasRounds :=
  ⟨fun n hn => absurd hn (Option.not_mem_none n), h⟩

lemma hasRounds_optional {p : Pattern} (h : p.HasRounds) : (optional p).HasRounds :=
  ⟨fun n _ => Nat.zero_le n, h⟩

/-! ### Prices of instructions -/

/-- An instruction goes on inside of the program, where no more characters are missing than its
price says, but for the one that it takes itself. -/
def Fits (size : Nat) (cost : Nat → Nat) (price : Nat) : Instruction → Prop
  | .take _ next => next < size ∧ price ≤ cost next + 1
  | .check _ next => next < size ∧ price ≤ cost next
  | .mark _ next => next < size ∧ price ≤ cost next
  | .fork first second => (first < size ∧ price ≤ cost first) ∧ second < size ∧ price ≤ cost second
  | .accept => price = 0

/-- All instructions but those at the holes, which are yet to be written, have a price. -/
def Priced (holes : Set Nat) (code : Code) (cost : Nat → Nat) : Prop :=
  ∀ i instruction, i ∉ holes → code[i]? = some instruction → Fits code.size cost (cost i) instruction

/-- Prices of a program that goes on where another one ends. -/
structure Extends (holes : Set Nat) (code : Code) (cost : Nat → Nat) (code' : Code)
    (cost' : Nat → Nat) : Prop where
  size_le : code.size ≤ code'.size
  agree : ∀ i < code.size, cost' i = cost i
  priced : Priced holes code' cost'

lemma Fits.mono {size size' price : Nat} {instruction : Instruction}
    (h : Fits size cost price instruction) (hsize : size ≤ size')
    (hcost : ∀ i < size, cost' i = cost i) : Fits size' cost' price instruction := by
  have htarget : ∀ {next bound : Nat}, next < size ∧ bound ≤ cost next →
      next < size' ∧ bound ≤ cost' next := by
    rintro next bound ⟨hnext, hbound⟩
    rw [hcost next hnext]
    exact ⟨Nat.lt_of_lt_of_le hnext hsize, hbound⟩
  cases instruction with
  | take _ next =>
    rw [Fits, hcost next h.1]
    exact ⟨Nat.lt_of_lt_of_le h.1 hsize, h.2⟩
  | check _ next => exact htarget h
  | mark _ next => exact htarget h
  | fork first second => exact ⟨htarget h.1, htarget h.2⟩
  | accept => exact h

namespace Extends

lemma refl (h : Priced holes code cost) : Extends holes code cost code cost :=
  ⟨Nat.le_refl _, fun _ _ => rfl, h⟩

lemma trans (h : Extends holes code cost code' cost') (h' : Extends holes code' cost' code'' cost'') :
    Extends holes code cost code'' cost'' :=
  ⟨h.size_le.trans h'.size_le,
    fun i hi => (h'.agree i (Nat.lt_of_lt_of_le hi h.size_le)).trans (h.agree i hi), h'.priced⟩

/-- One more instruction with its price. -/
lemma push {instruction : Instruction} {price : Nat} (h : Priced holes code cost)
    (hfits : code.size ∉ holes → Fits code.size cost price instruction) :
    Extends holes code cost (code.push instruction) (Function.update cost code.size price) := by
  have hcost : ∀ i < code.size, Function.update cost code.size price i = cost i :=
    fun i hi => Function.update_of_ne (Nat.ne_of_lt hi) price cost
  have hsize : code.size ≤ (code.push instruction).size := by
    rw [Array.size_push]
    exact Nat.le_succ _
  refine ⟨hsize, hcost, fun i other hi hother => ?_⟩
  rw [Array.getElem?_push] at hother
  split at hother
  · rename_i hlast
    obtain rfl := Option.some.inj hother
    subst hlast
    rw [Function.update_self]
    exact (hfits hi).mono hsize hcost
  · have hlt := (Array.getElem?_eq_some_iff.mp hother).1
    rw [hcost i hlt]
    exact (h i other hi hother).mono hsize hcost

/-- An instruction that fits is written where the hole was. -/
lemma fill {i : Nat} {instruction : Instruction}
    (h : Extends (insert i holes) code cost code' cost')
    (hfits : Fits code'.size cost' (cost' i) instruction) :
    Extends holes code cost (code'.setIfInBounds i instruction) cost' := by
  refine ⟨?_, h.agree, fun j other hj hother => ?_⟩
  · rw [Array.size_setIfInBounds]
    exact h.size_le
  rw [Array.size_setIfInBounds]
  rw [Array.getElem?_setIfInBounds] at hother
  by_cases hij : i = j
  · subst hij
    simp only [if_true, Option.ite_none_right_eq_some, Option.some.injEq] at hother
    obtain ⟨-, rfl⟩ := hother
    exact hfits
  · rw [if_neg hij] at hother
    refine h.priced j other ?_ hother
    rw [Set.mem_insert_iff]
    rintro (heq | hmem)
    · exact hij heq.symm
    · exact hj hmem

end Extends

/-- An entry into code that has grown, from which a number of characters at least is missing. -/
def Enters (holes : Set Nat) (code : Code) (cost : Nat → Nat) (price : Nat) (result : Nat × Code) :
    Prop :=
  ∃ cost', Extends holes code cost result.2 cost' ∧ result.1 < result.2.size ∧
    price ≤ cost' result.1

/-- Code in front of an instruction that takes at least `length` characters. -/
def Takes (length : Nat) (build : Nat → Code → Nat × Code) : Prop :=
  ∀ ⦃holes next code cost⦄, next < code.size → Priced holes code cost →
    Enters holes code cost (cost next + length) (build next code)

/-- An instruction behind code that has grown before. -/
lemma Extends.enters_push {instruction : Instruction} {price : Nat}
    (h : Extends holes code cost code' cost')
    (hfits : code'.size ∉ holes → Fits code'.size cost' price instruction) :
    Enters holes code cost price (code'.size, code'.push instruction) := by
  refine ⟨_, h.trans (.push h.priced hfits), ?_, ?_⟩
  · rw [Array.size_push]
    exact Nat.lt_succ_self _
  · rw [Function.update_self]

/-! ### Code of repetitions -/

section Repetitions

variable {body : Nat → Code → Nat × Code} {greedy : Bool} {out : Nat}

lemma fits_round {size price again out : Nat} (greedy : Bool)
    (hagain : again < size ∧ price ≤ cost again) (hout : out < size ∧ price ≤ cost out) :
    Fits size cost price (.round greedy again out) := by
  cases greedy
  · exact ⟨hout, hagain⟩
  · exact ⟨hagain, hout⟩

lemma takes_times (h : Takes length body) (n : Nat) : Takes (n * length) (times body n) := by
  induction n with
  | zero =>
    intro holes next code cost hnext hpriced
    exact ⟨cost, .refl hpriced, hnext, by simp [times]⟩
  | succ n ih =>
    intro holes next code cost hnext hpriced
    obtain ⟨cost', hextends, hentry, hcost⟩ := h hnext hpriced
    obtain ⟨cost'', hextends', hentry', hcost'⟩ := ih hentry hextends.priced
    refine ⟨cost'', hextends.trans hextends', hentry', ?_⟩
    rw [Nat.succ_mul]
    simp only [times]
    omega

lemma enters_upTo (h : Takes length body) (greedy : Bool) (hout : out < code.size)
    (hpriced : Priced holes code cost) (n : Nat) :
    Enters holes code cost (cost out) (upTo body greedy out n code) := by
  induction n with
  | zero => exact ⟨cost, .refl hpriced, hout, Nat.le_refl _⟩
  | succ n ih =>
    obtain ⟨cost', hextends, hentry, hcost⟩ := ih
    obtain ⟨cost'', hextends', hentry', hcost'⟩ := h hentry hextends.priced
    have hgrown := hextends.trans hextends'
    have hsame := hgrown.agree out hout
    refine hgrown.enters_push fun _ => fits_round greedy ⟨hentry', ?_⟩ ⟨?_, ?_⟩
    · omega
    · exact Nat.lt_of_lt_of_le hout hgrown.size_le
    · omega

/-- The fork behind a body that may be entered again is a hole while the body is written. -/
lemma enters_oneOrMore (h : Takes length body) (greedy : Bool) (hout : out < code.size)
    (hpriced : Priced holes code cost) :
    Enters holes code cost (cost out + length)
        ((oneOrMore body greedy out code).1, (oneOrMore body greedy out code).2.2) ∧
      Enters holes code cost (cost out)
        ((oneOrMore body greedy out code).2.1, (oneOrMore body greedy out code).2.2) := by
  have hweaker : Priced (insert code.size holes) code cost :=
    fun i instruction hi => hpriced i instruction fun hmem => hi (Set.mem_insert_of_mem _ hmem)
  have hfork : Extends (insert code.size holes) code cost (code.push .accept)
      (Function.update cost code.size (cost out)) :=
    .push hweaker fun hmem => absurd (Set.mem_insert _ _) hmem
  have hlt : code.size < (code.push .accept).size := by
    rw [Array.size_push]
    exact Nat.lt_succ_self _
  obtain ⟨cost', hextends, hentry, hcost⟩ := h hlt hfork.priced
  have hgrown := hfork.trans hextends
  have hforkCost := hextends.agree code.size hlt
  have hsame := hgrown.agree out hout
  rw [Function.update_self] at hcost hforkCost
  have hfilled := hgrown.fill (fits_round greedy ⟨hentry, by omega⟩
    ⟨Nat.lt_of_lt_of_le hout hgrown.size_le, by omega⟩)
  refine ⟨⟨cost', hfilled, ?_, hcost⟩, ⟨cost', hfilled, ?_, Nat.le_of_eq hforkCost.symm⟩⟩
  · simpa [oneOrMore] using hentry
  · simpa [oneOrMore] using Nat.lt_of_lt_of_le hlt hextends.size_le

/-- A number of rounds between bounds. -/
lemma enters_between (h : Takes length body) (greedy : Bool) (hout : out < code.size)
    (hpriced : Priced holes code cost) (least most : Nat) :
    Enters holes code cost (cost out + least * length)
      (let (entry, code) := upTo body greedy out (most - least) code
       times body least entry code) := by
  obtain ⟨cost', hextends, hentry, hcost⟩ := enters_upTo h greedy hout hpriced (most - least)
  obtain ⟨cost'', hextends', hentry', hcost'⟩ := takes_times h least hentry hextends.priced
  exact ⟨cost'', hextends.trans hextends', hentry',
    (Nat.add_le_add_right hcost (least * length)).trans hcost'⟩

/-- Any number of rounds from a bound on. -/
lemma enters_atLeast (h : Takes length body) (greedy : Bool) (hout : out < code.size)
    (hpriced : Priced holes code cost) (least chars : Nat) :
    Enters holes code cost (cost out + least * length)
      (let (entry, fork, code) := oneOrMore body greedy out code
       if least > 0 then times body (least - 1) entry code
       else if chars > 0 then (fork, code)
       else (code.size, code.push (.round greedy entry out))) := by
  obtain ⟨⟨cost', hextends, hentry, hcost⟩, hfork⟩ := enters_oneOrMore h greedy hout hpriced
  cases least with
  | zero =>
    rw [Nat.zero_mul, Nat.add_zero]
    simp only [gt_iff_lt, Nat.lt_irrefl, if_false]
    split
    · exact hfork
    · have hsame := hextends.agree out hout
      refine hextends.enters_push fun _ => fits_round greedy
        ⟨hentry, (Nat.le_add_right _ length).trans hcost⟩
        ⟨Nat.lt_of_lt_of_le hout hextends.size_le, Nat.le_of_eq hsame.symm⟩
  | succ least =>
    obtain ⟨cost'', hextends', hentry', hcost'⟩ := takes_times h least hentry hextends.priced
    refine ⟨cost'', hextends.trans hextends', hentry', le_trans ?_ hcost'⟩
    rw [Nat.succ_mul]
    omega

end Repetitions

/-! ### Code of patterns -/

/-- The code of a pattern takes at least as many characters as its least length says. -/
lemma takes_assemble {p : Pattern} (h : p.HasRounds) : Takes p.minLength (assemble p) := by
  induction p with
  | empty => exact fun _ next _ cost hnext hpriced => ⟨cost, .refl hpriced, hnext, Nat.le_refl _⟩
  | one set =>
    intro holes next code cost hnext hpriced
    exact (Extends.refl hpriced).enters_push fun _ => ⟨hnext, Nat.le_refl _⟩
  | look condition =>
    intro holes next code cost hnext hpriced
    exact (Extends.refl hpriced).enters_push fun _ => ⟨hnext, Nat.le_refl _⟩
  | sequence first second ihfirst ihsecond =>
    intro holes next code cost hnext hpriced
    obtain ⟨cost', hextends, hentry, hcost⟩ := ihsecond h.2 hnext hpriced
    obtain ⟨cost'', hextends', hentry', hcost'⟩ := ihfirst h.1 hentry hextends.priced
    refine ⟨cost'', hextends.trans hextends', hentry', ?_⟩
    rw [minLength]
    simp only [assemble]
    omega
  | choice left right ihleft ihright =>
    intro holes next code cost hnext hpriced
    obtain ⟨cost', hextends, hentry, hcost⟩ := ihleft h.1 hnext hpriced
    have hnext' := Nat.lt_of_lt_of_le hnext hextends.size_le
    obtain ⟨cost'', hextends', hentry', hcost'⟩ := ihright h.2 hnext' hextends.priced
    have hfirst := hextends'.agree _ hentry
    have hsame := hextends.agree next hnext
    refine (hextends.trans hextends').enters_push fun _ =>
      ⟨⟨Nat.lt_of_lt_of_le hentry hextends'.size_le, ?_⟩, hentry', ?_⟩
    · rw [minLength]
      omega
    · rw [minLength]
      omega
  | group index body ih =>
    intro holes next code cost hnext hpriced
    have hmark : Enters holes code cost (cost next)
        (code.size, code.push (.mark (2 * index + 1) next)) :=
      (Extends.refl hpriced).enters_push fun _ => ⟨hnext, Nat.le_refl _⟩
    obtain ⟨cost', hextends, hentry, hcost⟩ := hmark
    obtain ⟨cost'', hextends', hentry', hcost'⟩ := ih h hentry hextends.priced
    exact (hextends.trans hextends').enters_push fun _ =>
      ⟨hentry', (Nat.add_le_add_right hcost body.minLength).trans hcost'⟩
  | repetition least most greedy body ih =>
    intro holes next code cost hnext hpriced
    have hbody := ih h.2
    -- Rounds are only taken away from a body that matches nothing.
    have hleast : (if body.isEmptyOnly then min least 1 else least) * body.minLength =
        least * body.minLength := by
      split
      · rename_i hempty
        rw [minLength_of_isEmptyOnly h.2 hempty, Nat.mul_zero, Nat.mul_zero]
      · rfl
    rw [minLength, ← hleast, assemble]
    cases (if body.isEmptyOnly then some (min (most.getD 1) 1) else most) with
    | some most => exact enters_between hbody greedy hnext hpriced _ most
    | none => exact enters_atLeast hbody greedy hnext hpriced _ body.minLength

/-- The program of a pattern has prices, and that of its first instruction is no less than the
least length. -/
lemma priced_compile {p : Pattern} (h : p.HasRounds) :
    ∃ cost, Priced ∅ (compile p).code cost ∧ p.minLength ≤ cost (compile p).start := by
  have haccept : Priced ∅ #[.accept] fun _ => 0 := by
    intro i instruction _ hi
    obtain ⟨hlt, rfl⟩ := Array.getElem?_eq_some_iff.mp hi
    obtain rfl : i = 0 := Nat.lt_one_iff.mp hlt
    rfl
  obtain ⟨cost, hextends, -, hcost⟩ := takes_assemble h Nat.zero_lt_one haccept
  rw [Nat.zero_add] at hcost
  exact ⟨cost, hextends.priced, hcost⟩

/-! ### Threads and matches -/

section Matches

variable {text : Array Char} {target least size start : Nat} {t : Thread}

/-- A thread inside of the text that can take enough characters to get to the target. -/
structure Reaches (cost : Nat → Nat) (text : Array Char) (target : Nat) (t : Thread) : Prop where
  inside : t.position ≤ text.size
  enough : target ≤ t.position + cost t.instruction

lemma Reaches.step {instruction : Instruction} (hpriced : Priced ∅ code cost)
    (hi : code[t.instruction]? = some instruction) (h : Reaches cost text target t) :
    ∀ t' ∈ step text t instruction, Reaches cost text target t' := by
  have hfits := hpriced _ _ (Set.notMem_empty _) hi
  obtain ⟨hinside, henough⟩ := h
  intro t' ht'
  cases instruction with
  | take set next =>
    have hprice : cost t.instruction ≤ cost next + 1 := hfits.2
    simp only [Pattern.step] at ht'
    split at ht'
    · rename_i c hc
      have hlt := (Array.getElem?_eq_some_iff.mp hc).1
      split at ht'
      · obtain rfl := List.mem_singleton.mp ht'
        exact ⟨hlt, by simp only; omega⟩
      · cases ht'
    · cases ht'
  | check condition next =>
    have hprice : cost t.instruction ≤ cost next := hfits.2
    simp only [Pattern.step] at ht'
    generalize condition.holds _ _ = holds at ht'
    cases holds
    · cases ht'
    · obtain rfl := List.mem_singleton.mp ht'
      exact ⟨hinside, henough.trans (Nat.add_le_add_left hprice _)⟩
  | mark slot next =>
    have hprice : cost t.instruction ≤ cost next := hfits.2
    obtain rfl := List.mem_singleton.mp ht'
    exact ⟨hinside, henough.trans (Nat.add_le_add_left hprice _)⟩
  | fork first second =>
    have hfirst : cost t.instruction ≤ cost first := hfits.1.2
    have hsecond : cost t.instruction ≤ cost second := hfits.2.2
    simp only [Pattern.step, List.mem_cons, List.not_mem_nil, or_false] at ht'
    obtain rfl | rfl := ht'
    · exact ⟨hinside, henough.trans (Nat.add_le_add_left hfirst _)⟩
    · exact ⟨hinside, henough.trans (Nat.add_le_add_left hsecond _)⟩
  | accept => cases ht'

/-- The thread that accepts has got to the target. -/
lemma Reaches.run (hpriced : Priced ∅ code cost) (fuel : Nat) :
    ∀ seen threads, (∀ t ∈ threads, Reaches cost text target t) →
      ∀ t ∈ (run code text fuel seen threads).1, target ≤ t.position ∧ t.position ≤ text.size := by
  induction fuel with
  | zero =>
    intro seen threads _ t ht
    cases ht
  | succ fuel ih =>
    intro seen threads hall t ht
    cases threads with
    | nil => cases ht
    | cons first rest =>
      have hfirst := hall first List.mem_cons_self
      have hrest : ∀ t ∈ rest, Reaches cost text target t :=
        fun t ht => hall t (List.mem_cons_of_mem _ ht)
      simp only [Pattern.run] at ht
      split at ht
      · exact ih _ _ hrest t ht
      · split at ht
        · rename_i haccept
          obtain rfl := Option.some.inj ht
          -- An instruction that accepts takes no more characters, so the target has been reached.
          have hprice : cost first.instruction = 0 :=
            hpriced _ _ (Set.notMem_empty _) haccept
          have henough := hfirst.enough
          exact ⟨by omega, hfirst.inside⟩
        · rename_i instruction _ hi
          refine ih _ _ (fun t ht => ?_) t ht
          rcases List.mem_append.mp ht with hstep | hlater
          · exact hfirst.step hpriced hi t hstep
          · exact hrest t hlater
        · exact ih _ _ hrest t ht

/-- A match from `start` on that takes `least` characters at least. -/
structure Spans (size least start : Nat) (m : Match) : Prop where
  start_le : start ≤ m.start
  long : m.start + least ≤ m.stop
  inside : m.stop ≤ size

lemma spans_searchFrom {p : Program} (hpriced : Priced ∅ p.code cost)
    (hleast : least ≤ cost p.start) (more : Nat) :
    ∀ seen start, start + more ≤ text.size →
      ∀ m ∈ searchFrom p text more seen start, Spans text.size least start m := by
  have hreaches : ∀ start ≤ text.size, ∀ seen, ∀ t,
      (run p.code text (p.steps text) seen [⟨p.start, start, []⟩]).1 = some t →
      start + least ≤ t.position ∧ t.position ≤ text.size := by
    intro start hstart seen t ht
    refine Reaches.run hpriced _ seen _ (fun t ht => ?_) t ht
    obtain rfl := List.mem_singleton.mp ht
    exact ⟨hstart, Nat.add_le_add_left hleast start⟩
  induction more with
  | zero =>
    intro seen start hstart m hm
    rw [searchFrom] at hm
    split at hm
    · rename_i t _ hrun
      obtain rfl := Option.some.inj hm
      obtain ⟨hlong, hinside⟩ := hreaches start hstart seen t (by rw [hrun])
      exact ⟨Nat.le_refl _, hlong, hinside⟩
    · cases hm
  | succ more ih =>
    intro seen start hstart m hm
    rw [searchFrom] at hm
    split at hm
    · rename_i t _ hrun
      obtain rfl := Option.some.inj hm
      obtain ⟨hlong, hinside⟩ := hreaches start (by omega) seen t (by rw [hrun])
      exact ⟨Nat.le_refl _, hlong, hinside⟩
    · obtain ⟨hlater, hlong, hinside⟩ := ih _ (start + 1) (by omega) m hm
      exact ⟨by omega, hlong, hinside⟩

/-- Matches that stand one behind the other from `start` on, each with `least` characters at
least. -/
def Successive (size least : Nat) : Nat → List Match → Prop
  | _, [] => True
  | start, m :: rest => Spans size least start m ∧ Successive size least m.stop rest

lemma Successive.mono {ms : List Match} (h : Successive size least (start + 1) ms) :
    Successive size least start ms := by
  cases ms with
  | nil => trivial
  | cons m rest => exact ⟨⟨Nat.le_of_succ_le h.1.start_le, h.1.long, h.1.inside⟩, h.2⟩

lemma successive_matchesFrom {p : Program} (hpriced : Priced ∅ p.code cost)
    (hleast : least ≤ cost p.start) (fuel : Nat) :
    ∀ last start, Successive text.size least start (matchesFrom p text fuel last start) := by
  induction fuel with
  | zero => exact fun _ _ => trivial
  | succ fuel ih =>
    intro last start
    rw [matchesFrom]
    split
    · trivial
    · rename_i m hm
      split
      · exact (ih last (start + 1)).mono
      · refine ⟨?_, ih _ _⟩
        rw [search?] at hm
        split at hm
        · exact spans_searchFrom hpriced hleast _ _ _ (by omega) m hm
        · cases hm

/-- Every match of a pattern takes as many characters at least as its least length says, and no
two matches overlap. -/
theorem successive_allMatches {p : Pattern} (h : p.HasRounds) (text : Array Char) :
    Successive text.size p.minLength 0 (allMatches (compile p) text) := by
  obtain ⟨cost, hpriced, hleast⟩ := priced_compile h
  exact successive_matchesFrom hpriced hleast _ _ _

end Matches

/-! ### Replacements -/

lemma piecesFrom_of_notMem (fuel : Nat) : ∀ cs : List Char, cs.length < fuel → '$' ∉ cs →
    piecesFrom fuel cs = cs.map .text := by
  induction fuel with
  | zero => exact fun cs hlt => absurd hlt (Nat.not_lt_zero _)
  | succ fuel ih =>
    intro cs hlt hplain
    cases cs with
    | nil => rfl
    | cons c rest =>
      obtain ⟨hc, hrest⟩ := not_or.mp (mt List.mem_cons.mpr hplain)
      have hpieces := ih rest (Nat.lt_of_succ_lt_succ hlt) hrest
      rw [piecesFrom]
      · rw [hpieces, List.map_cons]
      · rintro _ rfl
        exact absurd rfl hc
      · rintro rfl
        exact absurd rfl hc

namespace Rewrite

variable {text : Array Char} {least : Nat}

/-- A replacement without references stands as it is written. -/
lemma expand_ofText {program : Program} {names : List (String × Nat)} {short : String}
    (hplain : '$' ∉ short.toList) (m : Match) :
    expand ⟨program, names, .ofText short⟩ text m = short.toList := by
  have hpieces : Replacement.ofText short = short.toList.map .text := by
    refine piecesFrom_of_notMem _ _ ?_ hplain
    rw [String.length_toList]
    exact Nat.lt_succ_self _
  rw [expand, hpieces, List.flatMap_map]
  exact List.flatMap_singleton' _

/-- Every match that is replaced by less makes the text shorter. -/
lemma length_fill (r : Rewrite) (hshort : ∀ m, (r.expand text m).length < least) (ms : List Match) :
    ∀ start ≤ text.size, Successive text.size least start ms →
      (r.fill text start ms).length + ms.length ≤ text.size - start := by
  induction ms with
  | nil =>
    intro start _ _
    simp [fill]
  | cons m rest ih =>
    rintro start - ⟨⟨hstart, hlong, hinside⟩, hrest⟩
    have hfill := ih m.stop hinside hrest
    have hexpand := hshort m
    simp only [fill, List.length_append, Array.length_toList, Array.size_extract, List.length_cons]
    omega

/-- A rewriting by a text that is shorter than every match makes a text shorter or leaves it as it
is. -/
theorem apply_eq_or_lt {p : Pattern} {names : List (String × Nat)} {short : String}
    (h : p.HasRounds) (hplain : '$' ∉ short.toList) (hshort : short.length < p.minLength)
    (text : String) :
    apply ⟨compile p, names, .ofText short⟩ text = text ∨
      (apply ⟨compile p, names, .ofText short⟩ text).length < text.length := by
  have hsuccessive := successive_allMatches h text.toList.toArray
  rw [apply]
  cases hms : allMatches (compile p) text.toList.toArray with
  | nil =>
    refine .inl ?_
    simp [fill]
  | cons m rest =>
    refine .inr ?_
    rw [hms] at hsuccessive
    have hlength := length_fill ⟨compile p, names, .ofText short⟩ (fun m => by
      rw [expand_ofText hplain]
      exact hshort) _ 0 (Nat.zero_le _) hsuccessive
    simp only [List.length_cons, List.size_toArray, String.length_toList] at hlength
    rw [String.length_ofList]
    omega

end Rewrite
end HeaderRecovery.Pattern
