/-
Module: StaticSite.FileTime
Purpose: The time of a file's last change as it is compared: the floating-point number of seconds
  that comes closest to it.
Trusted boundary: none
Main exports:
  Binary64.roundNat, Binary64.roundWhole, FileTime.seconds
-/
import StaticSite.Binary64

namespace StaticSite

namespace Binary64

/-- The natural number of at most 53 binary digits, and zeros behind them, that is nearest to a
natural number; of two equally near ones the one that ends in an even digit. -/
def roundNat (n : Nat) : Nat :=
  let step := 1 <<< (Nat.log2 n - 52)
  roundDiv n step * step

/-- The same for a whole number; its sign stays. -/
def roundWhole : Int → Int
  | .ofNat n => roundNat n
  | .negSucc n => -(roundNat (n + 1))

end Binary64

/-!
File systems keep times in whole nanoseconds.  A program that asks for one as a number of seconds
gets a floating-point number: the whole seconds, plus the nanoseconds left times the number that is
nearest to a billionth.  All numbers on the way are whole multiples of `2 ^ -82`.  The whole seconds
are a floating-point number as they are, as long as there are not more than `2 ^ 53` of them; beyond
that, where there are no dates, they are taken to come without nanoseconds.
-/

namespace FileTime

/-- The number of nanoseconds in a second. -/
def perSecond : Int :=
  1000000000

/-- A second in the unit `2 ^ -82`. -/
def second : Int :=
  4835703278458516698824704

example : second = (1 <<< 82 : Nat) := by
  decide +kernel

/-- The number nearest to a billionth of a second, in this unit. -/
def nanosecond : Int :=
  4835703278458517

example : Binary64.ofDecimal false 1 (-9) = .finite false nanosecond.toNat (-82) := by
  decide +kernel

/-- A time in nanoseconds as the number of seconds that it is compared as, in this unit. -/
def seconds (time : Int) : Int :=
  Binary64.roundWhole
    (time / perSecond * second + Binary64.roundWhole (nanosecond * (time % perSecond)))

-- The same by general floating-point arithmetic, a hundred nanoseconds after a whole second.
example :
    (Binary64.add (.ofNat 1700000000)
        (Binary64.mul (.ofDecimal false 1 (-9)) (.ofNat 100))).units? =
      some (seconds 1700000000000000100 * (1 <<< (1074 - 82) : Nat)) := by
  decide +kernel

end FileTime

end StaticSite
