/-!
# Sets of code points

A set of code points is kept as the ascending list of its edges: the first edge is its least
member, the next the first code point after that run, and so on in turn.
-/
namespace BemLint.Text

/-- Walk past the edges up to a code point; each one passed turns membership round. -/
def insideFrom (state : Bool) (n : Nat) : List Nat → Bool
  | [] => state
  | edge :: edges => if n < edge then state else insideFrom (!state) n edges

/-- Whether a code point belongs to the set with the given edges. -/
def inside (edges : List Nat) (n : Nat) : Bool := insideFrom false n edges

/-- The edge at which the run around a code point begins, or the least edge of all. -/
def runStartFrom (start n : Nat) : List Nat → Nat
  | [] => start
  | edge :: edges => if n < edge then start else runStartFrom edge n edges

end BemLint.Text
