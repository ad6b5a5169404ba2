/-
Module: StaticSite.Numeral
Purpose: Numbers as they are written by hand: in digits of any script, with underscores between
  digits, with or without a mark of their base.
Trusted boundary: none
Main exports:
  bare, ungrouped?, integer?, unsignedReal?, signedReal?, real?
-/
import StaticSite.Binary64
import StaticSite.Text.Digits
import StaticSite.Text.Whitespace

namespace StaticSite.Numeral

open Text

/-! ### Characters -/

/-- White space that may stand around a number. -/
def isAround (c : Char) : Bool :=
  c == ' ' || ('\t' ≤ c && c ≤ '\r')

/-- A character of a number in its plain form: digits of every script become
decimal digits, and the white space of every script a space. -/
def plainChar (c : Char) : Char :=
  match decimalDigit? c with
  | some digit => Char.ofNat (48 + digit)
  | none => if 127 < c.toNat && isSpace c then ' ' else c

/-- A number in its plain form, without the white space around it. -/
def bare (cs : List Char) : List Char :=
  let trimmed := (cs.map plainChar).dropWhile isAround
  (trimmed.reverse.dropWhile isAround).reverse

/-- Digits without the single underscores that may stand between them. -/
def ungrouped? (cs : List Char) : Option (List Char) :=
  let groups := splitOnChar '_' cs
  if groups.any List.isEmpty then none else some groups.flatten

/-! ### Integers -/

/-- The letter that marks a base, after a zero. -/
def baseMark? (base : Nat) : Option Char :=
  if base = 16 then some 'x' else if base = 8 then some 'o' else if base = 2 then some 'b' else none

/-- Digits without the mark of their base, and without an underscore behind it. -/
def unmarked (base : Nat) (cs : List Char) : List Char :=
  match cs with
  | '0' :: mark :: digits =>
      if baseMark? base = some mark.toLower then
        if digits.head? = some '_' then digits.tail else digits
      else
        cs
  | _ => cs

/-- Decimal numbers have at most so many digits. -/
def mostDigits : Nat :=
  4300

/-- The integer written in a base, which may be marked. -/
def integer? (base : Nat) (cs : List Char) : Option Int := do
  let (negative, rest) := signed (bare cs)
  let digits ← ungrouped? (unmarked base rest)
  let magnitude ← digitsIn? base digits
  if base = 10 && mostDigits < digits.length then none
  else some (withSign negative magnitude)

/-! ### Decimal fractions -/

/-- The digits of a part of a decimal number, which may be missing. -/
def optionalDigits? (cs : List Char) : Option (List Char) :=
  match cs with
  | [] => some []
  | _ => (ungrouped? cs).filter fun digits => digits.all Char.isDigit

/-- The exponent of a decimal number, given what follows its mantissa. -/
def exponent? (cs : List Char) : Option Int :=
  match cs with
  | [] => some 0
  | _ :: rest =>
      let (negative, digits) := signed rest
      ((ungrouped? digits).bind (digitsIn? 10)).map (withSign negative)

/-- The value of a decimal number in lower case, which has the sign given. -/
def unsignedReal? (negative : Bool) (cs : List Char) : Option Binary64 :=
  let word := String.ofList cs
  if word = "inf" || word = "infinity" then some (.infinite negative)
  else if word = "nan" then some .nan
  else do
    let mantissa := cs.takeWhile (· != 'e')
    let exponent ← exponent? (cs.dropWhile (· != 'e'))
    let whole ← optionalDigits? (mantissa.takeWhile (· != '.'))
    let fraction ← optionalDigits? ((mantissa.dropWhile (· != '.')).drop 1)
    if (whole ++ fraction).isEmpty then
      none
    else
      some (Binary64.ofDecimal negative (decimalNumber (whole ++ fraction))
        (exponent - fraction.length))

/-- The value of a decimal number in lower case that may have a sign, with no
white space around it. -/
def signedReal? (cs : List Char) : Option Binary64 :=
  let (negative, body) := signed cs
  unsignedReal? negative body

/-- The value of a decimal number. -/
def real? (cs : List Char) : Option Binary64 :=
  signedReal? ((bare cs).map Char.toLower)

end StaticSite.Numeral
