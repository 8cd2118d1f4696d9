import HeaderRecovery.Cleanup.DefaultArguments
import HeaderRecovery.Pattern.Reading

/-!
Cleaning up spellings of the standard library. Compilers write out inline namespaces and default
arguments; a pass replaces such spellings by short ones, and passes go on until one has no effect.
-/
namespace HeaderRecovery

/-- Rewritings in the order in which a pass applies them. -/
structure Cleanup where
  rewrites : List Pattern.Rewrite

namespace Cleanup

open Pattern (literal many optional sequenceAll choiceAll)

def blanks : Pattern := many (.one .blank)

def rewriting (pattern : List Pattern) (short : String) : Pattern.Rewrite :=
  ⟨Pattern.compile (sequenceAll pattern), [], .ofText short⟩

/-- The inline namespaces of the library, strings, views of strings and points of a clock. -/
def builtIn : List Pattern.Rewrite :=
  [rewriting
    [literal "std::__", choiceAll [literal "1", literal "ndk1"], literal "::"]
    "std::",
   rewriting
    [literal "std::basic_string<char,", blanks, literal "std::char_traits<char>", blanks,
      literal ",", blanks, literal "std::allocator<char>", blanks, literal ">"]
    "std::string",
   rewriting
    [literal "std::basic_string_view<char,", blanks, literal "std::char_traits<char>", blanks,
      literal ">"]
    "std::string_view",
   rewriting
    [literal "std::chrono::time_point<std::chrono::steady_clock,", blanks,
      literal "std::chrono::duration<long long,", blanks, literal "std::ratio<1",
      optional (literal "L"), literal ",", blanks, literal "1000000000", optional (literal "L"),
      literal ">", blanks, literal ">", blanks, literal ">"]
    "std::chrono::steady_clock::time_point"]

/-- The built-in rewritings and then others, each by a pattern and a replacement. The first text
that is no pattern is given back. -/
def ofReplacements (extra : List (String × String)) : Except String Cleanup := do
  let rewrites ← extra.mapM fun (pattern, replacement) =>
    match Pattern.Rewrite.ofTexts? pattern replacement with
    | some rewrite => .ok rewrite
    | none => .error pattern
  return ⟨builtIn ++ rewrites⟩

def pass (c : Cleanup) (text : String) : String :=
  stripDefaultArguments (c.rewrites.foldl (fun text rewrite => rewrite.apply text) text)

/-- Passes until one has no effect. -/
def settle (c : Cleanup) : Nat → String → String
  | 0, text => text
  | passes + 1, text =>
    let next := c.pass text
    if next = text then text else settle c passes next

def maxPasses : Nat := 64

def apply (c : Cleanup) (text : String) : String := c.settle maxPasses text

end Cleanup
end HeaderRecovery
