/-!
# Sets of code points

A Unicode property holds on long stretches of neighbouring code points, so a set is written down as the
increasing list of the points where membership changes: the first boundary opens a stretch, the second
closes it, and so on.
-/

namespace TaskSwitcher.Text

/-- A set of code points, given by the points where membership changes. -/
structure CodePoints where
  boundaries : List Nat

/-- A character belongs to the set when an odd number of boundaries lies at or below it. -/
def CodePoints.contains (set : CodePoints) (character : Char) : Bool :=
  (set.boundaries.takeWhile (· ≤ character.toNat)).length % 2 = 1

end TaskSwitcher.Text
