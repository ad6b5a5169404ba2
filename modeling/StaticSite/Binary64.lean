/-
Module: StaticSite.Binary64
Purpose: Floating-point numbers as exact values, read from and written in decimal.
Trusted boundary: none
Main exports:
  Binary64, Binary64.ofDecimal, Binary64.ofNat, Binary64.add, Binary64.mul, Binary64.shown,
  Binary64.isZero, Binary64.same, Binary64.eqInt, Binary64.round?
-/
import StaticSite.Text.Search

namespace StaticSite

open Text

/-- A number of the 64-bit binary format.  A finite one is
`significand * 2 ^ exponent`, with its sign, where the significand has at most
53 bits and the exponent is at least -1074. -/
inductive Binary64 where
  | finite (negative : Bool) (significand : Nat) (exponent : Int)
  | infinite (negative : Bool)
  | nan
deriving DecidableEq, Repr, Inhabited

namespace Binary64

/-- Divide, and round to the nearest integer; of two equally near ones to the even one. -/
def roundDiv (num den : Nat) : Nat :=
  let q := num / den
  let r := num % den
  if 2 * r < den then q else if den < 2 * r then q + 1 else q + q % 2

/-- The fraction `num / den` divided by `2 ^ e`, as a fraction again. -/
def scaleTwo (num den : Nat) (e : Int) : Nat × Nat :=
  if 0 ≤ e then (num, den <<< e.toNat) else (num <<< (-e).toNat, den)

/-- Significands stay below this number, which is two to the power of 53. -/
def significandBound : Nat :=
  1 <<< 53

/-- A power of ten. -/
def powerOfTen (n : Nat) : Nat :=
  Nat.pow 10 n

/-- The number nearest to the positive fraction `num / den`. -/
def ofFraction (negative : Bool) (num den : Nat) : Binary64 :=
  let guess : Int := (Nat.log2 num : Int) - Nat.log2 den - 53
  let (n0, d0) := scaleTwo num den guess
  let exponent := max (if significandBound ≤ n0 / d0 then guess + 1 else guess) (-1074)
  let (n, d) := scaleTwo num den exponent
  let significand := roundDiv n d
  let (significand, exponent) :=
    if significand = significandBound then (significandBound / 2, exponent + 1)
    else (significand, exponent)
  if 971 < exponent then .infinite negative else .finite negative significand exponent

/-- The number of decimal digits; zero has none. -/
def digitCount (n : Nat) : Nat :=
  if n = 0 then 0 else (toString n).length

/-- The number nearest to `digits * 10 ^ exponent`. -/
def ofDecimal (negative : Bool) (digits : Nat) (exponent : Int) : Binary64 :=
  let magnitude := (digitCount digits : Int) + exponent
  if digits = 0 || magnitude < -400 then .finite negative 0 (-1074)
  else if 400 < magnitude then .infinite negative
  else if 0 ≤ exponent then ofFraction negative (digits * powerOfTen exponent.toNat) 1
  else ofFraction negative digits (powerOfTen (-exponent).toNat)

/-- The number is zero, of either sign. -/
def isZero : Binary64 → Bool
  | .finite _ significand _ => significand == 0
  | _ => false

/-- The number has a minus sign. -/
def isNegative : Binary64 → Bool
  | .finite negative _ _ => negative
  | .infinite negative => negative
  | .nan => false

/-- The number with the other sign. -/
def neg : Binary64 → Binary64
  | .finite negative significand exponent => .finite (!negative) significand exponent
  | .infinite negative => .infinite (!negative)
  | .nan => .nan

/-! ### Arithmetic

Every finite number is a whole multiple of the least positive one, `2 ^ -1074`.
Sums and products are taken exactly in these units and then rounded. -/

/-- The exponent of the least positive number, without its sign. -/
def unitExponent : Nat :=
  1074

/-- A finite number in units of the least positive one. -/
def units? : Binary64 → Option Int
  | .finite negative significand exponent =>
      let magnitude : Nat := significand <<< (exponent + unitExponent).toNat
      some (if negative then -(magnitude : Int) else (magnitude : Int))
  | _ => none

/-- The number nearest to `units` of the size `2 ^ -exponent`; a zero has the sign given. -/
def ofUnits (units : Int) (exponent : Nat) (zeroNegative : Bool) : Binary64 :=
  if units = 0 then .finite zeroNegative 0 (-1074)
  else ofFraction (units < 0) units.natAbs (1 <<< exponent)

/-- The sum of two numbers. -/
def add (x y : Binary64) : Binary64 :=
  match x.units?, y.units? with
  | some a, some b => ofUnits (a + b) unitExponent (x.isNegative && y.isNegative)
  | some _, none => y
  | none, some _ => x
  | none, none => if x = y then x else .nan

/-- The product of two numbers. -/
def mul (x y : Binary64) : Binary64 :=
  let negative := x.isNegative != y.isNegative
  match x.units?, y.units? with
  | some a, some b => ofUnits (a * b) (2 * unitExponent) negative
  | _, _ => if x = .nan || y = .nan || x.isZero || y.isZero then .nan else .infinite negative

/-- The number nearest to a natural number. -/
def ofNat (n : Nat) : Binary64 :=
  if n = 0 then .finite false 0 (-1074) else ofFraction false n 1

/-- The number is exactly this integer. -/
def eqInt (x : Binary64) (n : Int) : Bool :=
  match x with
  | .finite negative significand exponent =>
      let (num, den) := scaleTwo significand 1 (-exponent)
      (if negative then -(num : Int) else (num : Int)) == n * (den : Int)
  | _ => false

/-- The integer nearest to the number, and of two equally near ones the even one. -/
def round? : Binary64 → Option Int
  | .finite negative significand exponent =>
      let (num, den) := scaleTwo significand 1 (-exponent)
      let magnitude := roundDiv num den
      some (if negative then -(magnitude : Int) else (magnitude : Int))
  | _ => none

/-- Both numbers are one and the same; so are the two zeros. -/
def same (x y : Binary64) : Bool :=
  x == y || (x.isZero && y.isZero)

/-! ### Decimal form -/

/-- The position of the decimal point of a positive fraction below one: minus
the number of zeros after the point. -/
def leadingZeros : (fuel : Nat) → (num den : Nat) → Nat
  | 0, _, _ => 0
  | fuel + 1, num, den => if den ≤ 10 * num then 0 else leadingZeros fuel (10 * num) den + 1

/-- The number of digits before the decimal point of a positive fraction, or
minus the number of zeros right after it. -/
def pointPosition (num den : Nat) : Int :=
  if den ≤ num then (digitCount (num / den) : Int) else -(leadingZeros 400 num den : Int)

/-- The fraction `num / den` in units of `10 ^ e`, as a fraction again. -/
def scaleTen (num den : Nat) (e : Int) : Nat × Nat :=
  if 0 ≤ e then (num, den * powerOfTen e.toNat) else (num * powerOfTen (-e).toNat, den)

/-- The digits in units of `10 ^ unit` that read back as `x`, if there are any:
of the two neighbours of the fraction `num / den`, which `x` is, the nearer one
that does. -/
def digitsAt? (x : Binary64) (num den : Nat) (unit : Int) : Option Nat :=
  let (num, den) := scaleTen num den unit
  let below := num / den
  [roundDiv num den, below, below + 1].find? fun digits => ofDecimal false digits unit = x

/-- The shortest digits, and the position of their end, that read back as the
positive number `x`, which is the fraction `num / den`.  `count` digits are tried
first, then more as long as `more` allows. -/
def shortestFrom (x : Binary64) (num den : Nat) (point : Int) : (more count : Nat) → Nat × Int
  | 0, count =>
      let (num, den) := scaleTen num den (point - count)
      (roundDiv num den, point - count)
  | more + 1, count =>
      match digitsAt? x num den (point - count) with
      | some digits => (digits, point - count)
      | none => shortestFrom x num den point more (count + 1)

/-- Digits with their point at a given position, written out. -/
def writeDigits (digits : String) (point : Int) : String :=
  let ds := digits.toList
  if -4 < point && point ≤ 16 then
    if point ≤ 0 then
      "0." ++ String.ofList (List.replicate (-point).toNat '0') ++ digits
    else if (ds.length : Int) ≤ point then
      digits ++ String.ofList (List.replicate (point.toNat - ds.length) '0') ++ ".0"
    else
      String.ofList (ds.take point.toNat) ++ "." ++ String.ofList (ds.drop point.toNat)
  else
    let e := point - 1
    let mantissa := match ds with
      | [] => "0"
      | [d] => String.ofList [d]
      | d :: more => String.ofList (d :: '.' :: more)
    let size := toString e.natAbs
    mantissa ++ "e" ++ (if e < 0 then "-" else "+")
      ++ (if size.length < 2 then "0" ++ size else size)

/-- Drop the zeros at the end of a number's digits. -/
def dropZeros (digits : String) : String :=
  String.ofList (digits.toList.reverse.dropWhile (· == '0')).reverse

/-- The number in its shortest decimal form. -/
def shown : Binary64 → String
  | .nan => "nan"
  | .infinite negative => if negative then "-inf" else "inf"
  | .finite negative significand exponent =>
      let sign := if negative then "-" else ""
      if significand = 0 then
        sign ++ "0.0"
      else
        let (num, den) := scaleTwo significand 1 (-exponent)
        let (digits, unit) :=
          shortestFrom (.finite false significand exponent) num den (pointPosition num den) 17 1
        let written := toString digits
        sign ++ writeDigits (dropZeros written) (written.length + unit)

end Binary64

end StaticSite
