/-!
# Sets of code points

A property of characters is held as the ascending list of the code points at which membership
changes: the first entry is the first member, the second the first non-member after it, and so on.
-/

namespace FormLine.Text

/-- A set of code points. -/
structure CodeSet where
  /-- Where membership changes, ascending. -/
  changes : List Nat

/-- Membership flips at every change that is not above the code point. -/
def inside : List Nat → Nat → Bool
  | [], _ => false
  | b :: later, n => if n < b then false else !inside later n

/-- Whether the code point is a member of the set. -/
def CodeSet.contains (s : CodeSet) (n : Nat) : Bool := inside s.changes n

end FormLine.Text
