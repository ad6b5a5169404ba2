/-
Module: StaticSite.Text.Whitespace
Purpose: The two notions of white space the library works with, and the edits made of them.
Trusted boundary: none
Main exports:
  isSpace, isHtmlSpace, trimChars, trim, isBlank, collapseChars, collapse
-/
namespace StaticSite.Text

/-- Unicode white space: the characters that separate words in any script,
including the information separators U+001C to U+001F and the no-break spaces. -/
def isSpace (c : Char) : Bool :=
  let n := c.toNat
  (9 ≤ n && n ≤ 13) || (28 ≤ n && n ≤ 32) || n == 0x85 || n == 0xA0 || n == 0x1680
    || (0x2000 ≤ n && n ≤ 0x200A) || n == 0x2028 || n == 0x2029 || n == 0x202F
    || n == 0x205F || n == 0x3000

/-- The white space that HTML collapses: space, tab, line feed, form feed and
carriage return. -/
def isHtmlSpace (c : Char) : Bool :=
  c == ' ' || c == '\t' || c == '\n' || c == '\x0c' || c == '\r'

/-- Drop white space from the end of a character list. -/
def trimEnd : List Char → List Char
  | [] => []
  | c :: rest =>
      match trimEnd rest with
      | [] => if isSpace c then [] else [c]
      | kept => c :: kept

/-- Drop white space from both ends of a character list. -/
def trimChars (cs : List Char) : List Char :=
  trimEnd (cs.dropWhile isSpace)

/-- Drop white space from both ends of a string. -/
def trim (s : String) : String :=
  String.ofList (trimChars s.toList)

/-- A string is blank when it holds nothing but white space. -/
def isBlank (s : String) : Bool :=
  s.toList.all isSpace

/-- Replace every maximal run of white space by one space.  The flag says
whether the character before was already part of a run. -/
def collapseFrom : Bool → List Char → List Char
  | _, [] => []
  | inRun, c :: rest =>
      if isSpace c then
        if inRun then collapseFrom true rest else ' ' :: collapseFrom true rest
      else
        c :: collapseFrom false rest

/-- Replace every maximal run of white space by one space. -/
def collapseChars (cs : List Char) : List Char :=
  collapseFrom false cs

/-- Replace every maximal run of white space in a string by one space. -/
def collapse (s : String) : String :=
  String.ofList (collapseChars s.toList)

end StaticSite.Text
