/-
Module: StaticSite.CommandLine.Number
Purpose: Numbers and truth values as they are written on a command line.
Trusted boundary: none
Main exports:
  isNumber, integer?, boolean?, isNothing
-/
import StaticSite.Numeral
import StaticSite.Text.Case

namespace StaticSite.CommandLine

open Text

/-- The base that the mark at the start of a number in lower case stands for. -/
def markedBase? : List Char → Option Nat
  | '0' :: 'x' :: _ => some 16
  | '0' :: 'o' :: _ => some 8
  | '0' :: 'b' :: _ => some 2
  | _ => none

/-- The integer that a word stands for.  Its base may be marked; a number with a
point is rounded. -/
def integer? (word : String) : Option Int :=
  let cs := (toLower word).toList
  match markedBase? (signed cs).2 with
  | some base => Numeral.integer? base cs
  | none =>
      if cs.contains '.' then (Numeral.real? cs).bind Binary64.round?
      else Numeral.integer? 10 cs

/-- The characters, given in lower case, are the imaginary part of a number; a
sign alone stands for one unit. -/
def isImaginary (cs : List Char) : Bool :=
  match cs.reverse with
  | 'j' :: rest => rest = ['+'] || rest = ['-'] || (Numeral.signedReal? rest.reverse).isSome
  | _ => false

/-- The characters, given in lower case, are a real and an imaginary part, which
starts with its sign. -/
def isComplexSum (cs : List Char) : Bool :=
  (List.range cs.length).any fun n =>
    match cs.drop n with
    | c :: rest =>
        (c == '+' || c == '-') && (Numeral.signedReal? (cs.take n)).isSome
          && isImaginary (c :: rest)
    | [] => false

/-- The word is a number, perhaps a complex one.  A unit with nothing but a minus
sign is none. -/
def isNumber (word : String) : Bool :=
  let cs := Numeral.bare (toLower word).toList
  toLower word != "-j"
    && ((Numeral.signedReal? cs).isSome || isImaginary cs || isComplexSum cs
      || (integer? word).isSome)

/-- The truth value that a word stands for. -/
def boolean? (word : String) : Option Bool :=
  let word := toLower word
  if ["yes", "y", "1", "true", "t"].contains word then some true
  else if ["no", "n", "0", "false", "f"].contains word then some false
  else none

/-- The word stands for no value at all. -/
def isNothing (word : String) : Bool :=
  ["none", "null"].contains (toLower word)

end StaticSite.CommandLine
