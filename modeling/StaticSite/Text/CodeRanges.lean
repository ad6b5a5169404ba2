/-
Module: StaticSite.Text.CodeRanges
Purpose: Sets of code points given as ranges.
Trusted boundary: none
Main exports:
  CodeRanges, CodeRanges.contains
-/
namespace StaticSite.Text

/-- A set of code points: each pair is a range with both ends included. -/
abbrev CodeRanges := List (Nat × Nat)

/-- The code point lies in one of the ranges. -/
def CodeRanges.contains (ranges : CodeRanges) (n : Nat) : Bool :=
  ranges.any fun range => range.1 ≤ n && n ≤ range.2

end StaticSite.Text
