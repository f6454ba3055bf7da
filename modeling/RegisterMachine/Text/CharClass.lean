/-!
# Classes of characters

A class of characters is given by closed ranges of code points. The ranges are
kept in ascending order and apart from each other, so that a search may stop at
the first range that begins beyond the code point it looks for.
-/

namespace RegisterMachine
namespace Text

/-- Whether every range is well formed and ends before the next one begins. -/
def ascending : List (Nat × Nat) → Bool
  | [] => true
  | [(first, last)] => decide (first ≤ last)
  | (first, last) :: (next, upper) :: later =>
      decide (first ≤ last) && decide (last < next) && ascending ((next, upper) :: later)

/-- Whether a code point lies in one of some ascending ranges. -/
def inRanges (point : Nat) : List (Nat × Nat) → Bool
  | [] => false
  | (first, last) :: later =>
      decide (first ≤ point) && (decide (point ≤ last) || inRanges point later)

/-- A class of characters, as the code points of ascending closed ranges. -/
structure CharClass where
  /-- The first and the last code point of each range. -/
  ranges : List (Nat × Nat)
  /-- The ranges are in ascending order and apart from each other. -/
  ranges_ascending : ascending ranges = true := by decide +kernel

namespace CharClass

/-- Whether a character belongs to the class. -/
def contains (charClass : CharClass) (c : Char) : Bool :=
  inRanges c.toNat charClass.ranges

end CharClass
end Text
end RegisterMachine
