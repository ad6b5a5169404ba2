/-
Module: StaticSite.Text.Base64
Purpose: Bytes written in the sixty-four letters that are safe in any text.
Trusted boundary: none
Main exports:
  sextet?, base64Bytes?, quotedBytes
-/
import StaticSite.Text.Quote

namespace StaticSite.Text

/-- The six bits that a letter stands for. -/
def sextet? (c : Char) : Option Nat :=
  if 'A' ≤ c && c ≤ 'Z' then some (c.toNat - 65)
  else if 'a' ≤ c && c ≤ 'z' then some (c.toNat - 71)
  else if '0' ≤ c && c ≤ '9' then some (c.toNat + 4)
  else if c == '+' then some 62
  else if c == '/' then some 63
  else none

/-- What is read of a group of four letters: how many of them, the bits of the
last one that belong to the next byte, and the equals signs right behind it. -/
structure Group where
  letters : Nat
  left : Nat
  pads : Nat
deriving DecidableEq, Repr, Inhabited

namespace Group

/-- No letter has been read. -/
def fresh : Group :=
  ⟨0, 0, 0⟩

/-- The group with one letter more, and the byte that is complete with it. -/
def push (group : Group) (bits : Nat) : Option UInt8 × Group :=
  match group.letters with
  | 0 => (none, ⟨1, bits, 0⟩)
  | 1 => (some (UInt8.ofNat (group.left * 4 + bits / 16)), ⟨2, bits % 16, 0⟩)
  | 2 => (some (UInt8.ofNat (group.left * 16 + bits / 4)), ⟨3, bits % 4, 0⟩)
  | _ => (some (UInt8.ofNat (group.left * 64 + bits)), fresh)

end Group

/-- The bytes that the letters from here on stand for.  Equals signs that fill up
a group end the text; all other characters mean nothing. -/
def base64From (group : Group) : List Char → Option (List UInt8)
  | [] => if group.letters = 0 then some [] else none
  | c :: rest =>
      if c = '=' then
        if group.letters < 2 then base64From group rest
        else if 4 ≤ group.letters + group.pads + 1 then some []
        else base64From { group with pads := group.pads + 1 } rest
      else
        match sextet? c with
        | none => base64From group rest
        | some bits =>
            let (byte?, group) := group.push bits
            (base64From group rest).map (byte?.toList ++ ·)

/-- The bytes that a text stands for, which has to be ASCII. -/
def base64Bytes? (text : String) : Option (List UInt8) :=
  let cs := text.toList
  if cs.all fun c => c.toNat < 128 then base64From .fresh cs else none

/-- How a byte is written inside quotes made of `mark`. -/
def escapeByte (mark : Char) (byte : UInt8) : List Char :=
  if 128 ≤ byte.toNat then '\\' :: 'x' :: hexDigits 2 byte.toNat
  else escapeChar mark (Char.ofNat byte.toNat)

/-- Bytes in quotes, behind a letter that tells them from a string. -/
def quotedBytes (bytes : List UInt8) : String :=
  let mark := if bytes.contains 39 && !bytes.contains 34 then '"' else '\''
  String.ofList ('b' :: mark :: bytes.flatMap (escapeByte mark) ++ [mark])

end StaticSite.Text
