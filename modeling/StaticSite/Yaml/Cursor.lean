/-
Module: StaticSite.Yaml.Cursor
Purpose: A place in the text of a YAML document.
Trusted boundary: none
Main exports:
  YamlError, Version, Cursor, Cursor.peek, Cursor.forward, Cursor.lineBreak, isReadable
-/
namespace StaticSite.Yaml

/-- Why a text cannot be read as a YAML document. -/
inductive YamlError where
  /-- The text breaks a rule of the format, at a line counted from zero. -/
  | malformed (problem : String) (line : Nat)
  /-- The version of the document is not known. -/
  | unknownVersion (major minor : Nat)
  /-- There is no such number, date, time or character. -/
  | noSuchValue (text : String)
  /-- Nothing is written where a number should be. -/
  | emptyNumber
  /-- The word stands for no boolean. -/
  | notBoolean (word : String)
  /-- A collection is part of a key. -/
  | compositeKey
  /-- A key comes twice in an ordered map. -/
  | repeatedKey
deriving DecidableEq, Repr, Inhabited

/-- What went wrong, for a message. -/
def YamlError.message : YamlError → String
  | .malformed problem line => "line " ++ toString (line + 1) ++ ": " ++ problem
  | .unknownVersion major minor =>
      "unknown version " ++ toString major ++ "." ++ toString minor
  | .noSuchValue text => "there is no such value: " ++ text
  | .emptyNumber => "a number has no digits"
  | .notBoolean word => "not a boolean: " ++ word
  | .compositeKey => "a key holds a collection"
  | .repeatedKey => "a key comes twice"

/-- The version of YAML that a document is written in. -/
structure Version where
  major : Nat
  minor : Nat
deriving DecidableEq, Repr, Inhabited

/-- The version that documents are read in unless they say otherwise. -/
def Version.standard : Version :=
  ⟨1, 2⟩

/-- The version in which words such as `yes` are booleans. -/
def Version.old : Version :=
  ⟨1, 1⟩

/-- One version comes before another. -/
def Version.isBefore (a b : Version) : Bool :=
  a.major < b.major || (a.major == b.major && a.minor < b.minor)

/-- The meaning of plain scalars is known in this version. -/
def Version.isKnown (version : Version) : Bool :=
  version == Version.standard || version == Version.old

/-- A character that the text of a document may hold. -/
def isReadable (c : Char) : Bool :=
  let n := c.toNat
  n == 9 || n == 10 || n == 13 || (0x20 ≤ n && n ≤ 0x7E) || n == 0x85
    || (0xA0 ≤ n && n ≤ 0xFFFD) || 0x10000 ≤ n

/-- A character that ends a line. -/
def isBreak (c : Char) : Bool :=
  c == '\n' || c == '\r' || c.toNat == 0x85 || c.toNat == 0x2028 || c.toNat == 0x2029

/-- A character that ends a line, or the end of the text. -/
def isBreakOrEnd (c : Char) : Bool :=
  isBreak c || c == '\x00'

/-- A space, a tab, or the end of a line. -/
def isEndOrBlank (c : Char) : Bool :=
  isBreakOrEnd c || c == ' ' || c == '\t'

/-- A place in the text: what is still ahead, and where that is. -/
structure Cursor where
  rest : List Char
  index : Nat
  line : Nat
  column : Nat
deriving Repr, Inhabited

namespace Cursor

/-- The start of a text. -/
def start (text : List Char) : Cursor :=
  ⟨text, 0, 0, 0⟩

/-- The character `ahead` places further on; behind the end there are NULs. -/
def peek (cursor : Cursor) (ahead : Nat) : Char :=
  (cursor.rest.drop ahead).headD '\x00'

/-- The next character. -/
def next (cursor : Cursor) : Char :=
  cursor.peek 0

/-- Move over one character.  Lines are counted by line feeds and carriage
returns only. -/
def step (cursor : Cursor) : Cursor :=
  match cursor.rest with
  | [] => cursor
  | c :: rest =>
      if c == '\n' || (c == '\r' && rest.headD '\x00' != '\n') then
        ⟨rest, cursor.index + 1, cursor.line + 1, 0⟩
      else if c.toNat == 0xFEFF then
        ⟨rest, cursor.index + 1, cursor.line, cursor.column⟩
      else
        ⟨rest, cursor.index + 1, cursor.line, cursor.column + 1⟩

/-- Move over some characters. -/
def forward (cursor : Cursor) : (count : Nat) → Cursor
  | 0 => cursor
  | count + 1 => forward cursor.step count

/-- Move over the characters ahead that satisfy `p`, and read them. -/
def readWhile (cursor : Cursor) (p : Char → Bool) : List Char × Cursor :=
  let read := cursor.rest.takeWhile p
  (read, cursor.forward read.length)

/-- Move over the characters ahead that satisfy `p`. -/
def skipWhile (cursor : Cursor) (p : Char → Bool) : Cursor :=
  (cursor.readWhile p).2

/-- Move over an end of line, and read it: a line feed, unless it is one of the
separators that stay as they are. -/
def lineBreak (cursor : Cursor) : List Char × Cursor :=
  let c := cursor.next
  if c == '\r' && cursor.peek 1 == '\n' then (['\n'], cursor.forward 2)
  else if c == '\n' || c == '\r' || c.toNat == 0x85 then (['\n'], cursor.step)
  else if c.toNat == 0x2028 || c.toNat == 0x2029 then ([c], cursor.step)
  else ([], cursor)

/-- Three equal characters stand here with nothing right behind them. -/
def atMarker (cursor : Cursor) (c : Char) : Bool :=
  cursor.peek 0 == c && cursor.peek 1 == c && cursor.peek 2 == c && isEndOrBlank (cursor.peek 3)

/-- A marker of the start or the end of a document stands here, whatever the column. -/
def atSeparator (cursor : Cursor) : Bool :=
  cursor.atMarker '-' || cursor.atMarker '.'

/-- Skip the spaces and the comment at the end of a line, and the end of the line. -/
def skipLineEnd (cursor : Cursor) : Except YamlError Cursor :=
  let cursor := cursor.skipWhile (· == ' ')
  let cursor := if cursor.next == '#' then cursor.skipWhile (!isBreakOrEnd ·) else cursor
  if isBreakOrEnd cursor.next then
    .ok cursor.lineBreak.2
  else
    .error (.malformed "expected a comment or a line break" cursor.line)

end Cursor

end StaticSite.Yaml
