/-
Module: StaticSite.Markup.Reference
Purpose: What character references mean, in running text and in attribute values.
Trusted boundary: none
Main exports:
  textOfCode, textOfName, unescape
-/
import StaticSite.Markup.NamedReference

namespace StaticSite.Markup

open Text

/-- The character written where a reference names no character. -/
def replacementChar : Char :=
  Char.ofNat 0xFFFD

/-- What the codes 80 to 9F stand for in the Windows code page 1252; zero where
the code page defines nothing. -/
def windowsCodes : List Nat :=
  [ 0x20AC, 0, 0x201A, 0x192, 0x201E, 0x2026, 0x2020, 0x2021, 0x2C6, 0x2030, 0x160, 0x2039,
    0x152, 0, 0x17D, 0, 0, 0x2018, 0x2019, 0x201C, 0x201D, 0x2022, 0x2013, 0x2014, 0x2DC,
    0x2122, 0x161, 0x203A, 0x153, 0, 0x17E, 0x178 ]

/-- The code point a code between 80 and 9F was meant to be; other codes are
left alone. -/
def windowsCode (n : Nat) : Nat :=
  if 0x80 ≤ n && n ≤ 0x9F then
    match windowsCodes[n - 0x80]? with
    | some code => if code = 0 then n else code
    | none => n
  else
    n

/-- The number is no character: a surrogate or beyond the last code point. -/
def isNoCharacter (n : Nat) : Bool :=
  (0xD800 ≤ n && n ≤ 0xDFFF) || 0x10FFFF < n

/-! ### Running text -/

/-- The character a numeric reference stands for in running text. -/
def textOfCode (n : Nat) : Char :=
  if n = 0 || isNoCharacter n then replacementChar else Char.ofNat (windowsCode n)

/-- The characters a named reference stands for in running text.  An unknown
name stays as written, without its semicolon. -/
def textOfName (name : List Char) : List Char :=
  match named? (String.ofList name) with
  | some value => value
  | none => '&' :: name

/-! ### Attribute values -/

/-- Control and non-characters that a numeric reference in an attribute value
removes. -/
def isDropped (n : Nat) : Bool :=
  (1 ≤ n && n ≤ 8) || n == 0xB || (0xE ≤ n && n ≤ 0x1F) || (0x7F ≤ n && n ≤ 0x9F)
    || (0xFDD0 ≤ n && n ≤ 0xFDEF) || (0xFFFE ≤ n && n % 0x10000 ≥ 0xFFFE)

/-- The characters a numeric reference stands for in an attribute value. -/
def valueOfCode (n : Nat) : List Char :=
  if n = 0 then [replacementChar]
  else if 0x80 ≤ n && n ≤ 0x9F then [Char.ofNat (windowsCode n)]
  else if isNoCharacter n then [replacementChar]
  else if isDropped n then []
  else [Char.ofNat n]

/-- The longest start of `name`, of at most `length` characters and at least
two, that is a name recognised without a semicolon, replaced by its characters. -/
def longestName? (name : List Char) : (length : Nat) → Option (List Char)
  | 0 => none
  | 1 => none
  | length + 2 =>
      match namedWithoutSemicolon? (String.ofList (name.take (length + 2))) with
      | some value => some (value ++ name.drop (length + 2))
      | none => longestName? name (length + 1)

/-- The characters a named reference stands for in an attribute value; `closed`
tells whether a semicolon follows the name. -/
def valueOfName (name : List Char) (closed : Bool) : List Char :=
  let whole := if closed then named? (String.ofList name)
    else namedWithoutSemicolon? (String.ofList name)
  let written := if closed then name ++ [';'] else name
  match whole with
  | some value => value
  | none => (longestName? written (written.length - 1)).getD ('&' :: written)

/-- A character that can be part of a name after an ampersand. -/
def isNameChar (c : Char) : Bool :=
  c != '\t' && c != '\n' && c != '\x0c' && c != ' ' && c != '<' && c != '&' && c != '#' && c != ';'

/-- Step over a semicolon, if there is one. -/
def skipSemicolon : List Char → List Char × Bool
  | ';' :: rest => (rest, true)
  | cs => (cs, false)

/-- Read the reference after an ampersand in an attribute value: the characters
it stands for and what follows it. -/
def valueReference? (cs : List Char) : Option (List Char × List Char) :=
  match cs with
  | '#' :: mark :: digit :: rest =>
      if mark.isDigit then
        let digits := (mark :: digit :: rest).takeWhile Char.isDigit
        let after := (mark :: digit :: rest).dropWhile Char.isDigit
        some (valueOfCode (decimalNumber digits), (skipSemicolon after).1)
      else if (mark = 'x' || mark = 'X') && isHexDigit digit then
        let digits := (digit :: rest).takeWhile isHexDigit
        let after := (digit :: rest).dropWhile isHexDigit
        some (valueOfCode (hexNumber digits), (skipSemicolon after).1)
      else
        none
  | ['#', digit] =>
      if digit.isDigit then some (valueOfCode (decimalNumber [digit]), []) else none
  | _ =>
      let name := (cs.takeWhile isNameChar).take 32
      if name.isEmpty then
        none
      else
        let (after, closed) := skipSemicolon (cs.drop name.length)
        some (valueOfName name closed, after)

/-- Replace the references in an attribute value, with `fuel` bounding the
number of characters still to read. -/
def unescapeFrom : (fuel : Nat) → List Char → List Char
  | 0, cs => cs
  | _ + 1, [] => []
  | fuel + 1, c :: rest =>
      if c = '&' then
        match valueReference? rest with
        | some (value, after) => value ++ unescapeFrom fuel after
        | none => c :: unescapeFrom fuel rest
      else
        c :: unescapeFrom fuel rest

/-- Replace the references in an attribute value. -/
def unescape (cs : List Char) : List Char :=
  unescapeFrom cs.length cs

end StaticSite.Markup
