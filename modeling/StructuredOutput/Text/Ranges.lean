/-!
Classes of characters given by ranges of code points. A table lists inclusive ranges in ascending
order, so that a class is read off the standard's data and its size can be counted.
-/
namespace StructuredOutput.Text

/-- Inclusive ranges of code points, in ascending order. -/
abbrev Ranges := List (Nat × Nat)

namespace Ranges

def holds : Ranges → Nat → Bool
  | [], _ => false
  | (low, high) :: rest, n => if n < low then false else n ≤ high || holds rest n

def count : Ranges → Nat
  | [] => 0
  | (low, high) :: rest => (high + 1 - low) + count rest

def startOf? : Ranges → Nat → Option Nat
  | [], _ => none
  | (low, high) :: rest, n =>
    if n < low then none else if n ≤ high then some low else startOf? rest n

end Ranges

end StructuredOutput.Text
