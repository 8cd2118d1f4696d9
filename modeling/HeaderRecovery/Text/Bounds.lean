/-! Classes of characters by their bounds: the codes at which a class begins and ends in turn, in
ascending order. -/
namespace HeaderRecovery.Text

/-- Whether a code lies between a beginning and the end after it. -/
def between : List Nat → Nat → Bool
  | [], _ => false
  | [first], n => first ≤ n
  | first :: stop :: rest, n =>
    if n < first then false else if n < stop then true else between rest n

end HeaderRecovery.Text
