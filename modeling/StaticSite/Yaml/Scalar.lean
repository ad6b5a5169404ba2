/-
Module: StaticSite.Yaml.Scalar
Purpose: Reading the text of plain, quoted, literal and folded scalars.
Trusted boundary: none
Main exports:
  Cursor.plainScalar, Cursor.quotedScalar, Cursor.blockScalar
-/
import StaticSite.Yaml.Cursor
import StaticSite.Text.Digits
import StaticSite.Text.Search

namespace StaticSite.Yaml

open Text

namespace Cursor

/-! ### Plain scalars -/

/-- The number of characters up to the end of a piece of a plain scalar.
Outside of brackets it ends at white space and at a colon with white space
behind it; inside, also at the indicators of the collections. -/
def plainLength (version : Version) (inFlow : Bool) : List Char → Nat
  | [] => 0
  | c :: rest =>
      let colonInside := c == ':' && !isEndOrBlank (rest.headD '\x00')
      let questionInside := c == '?' && version != Version.old
      let ends := isEndOrBlank c || (!inFlow && c == ':')
        || (inFlow && [',', ':', '?', '[', ']', '\x7b', '\x7d'].contains c)
      if colonInside || questionInside || !ends then
        plainLength version inFlow rest + 1
      else
        0

/-- Skip spaces and ends of line inside a scalar that spans lines; the ends of
line are read.  The second component tells that a document separator was met. -/
def plainBreaks : (fuel : Nat) → Cursor → (breaks : List Char) → List Char × Bool × Cursor
  | 0, cursor, breaks => (breaks, false, cursor)
  | fuel + 1, cursor, breaks =>
      if cursor.next == ' ' then
        plainBreaks fuel cursor.step breaks
      else if isBreak cursor.next then
        let (read, cursor) := cursor.lineBreak
        if cursor.atSeparator then
          (breaks ++ read, true, cursor)
        else
          plainBreaks fuel cursor (breaks ++ read)
      else
        (breaks, false, cursor)

/-- The white space between two pieces of a plain scalar, folded; nothing if the
scalar ends here.  The second component tells that a new line was started. -/
def plainSpaces (cursor : Cursor) : List Char × Bool × Cursor :=
  let (spaces, cursor) := cursor.readWhile (· == ' ')
  if isBreak cursor.next then
    let (read, cursor) := cursor.lineBreak
    if cursor.atSeparator then
      ([], true, cursor)
    else
      let (breaks, separated, cursor) := plainBreaks (cursor.rest.length + 1) cursor []
      if separated then ([], true, cursor)
      else if read != ['\n'] then (read ++ breaks, true, cursor)
      else if breaks.isEmpty then ([' '], true, cursor)
      else (breaks, true, cursor)
  else
    (spaces, false, cursor)

/-- What is read of a plain scalar: its text, and whether it ends on a line of
its own behind it. -/
structure PlainText where
  text : List Char
  endsLine : Bool

/-- The pieces of a plain scalar from here on, `before` being the white space
read since the last one. -/
def plainPieces (version : Version) (inFlow : Bool) (indent : Int) :
    (fuel : Nat) → Cursor → (read before : List Char) → (newLine : Bool) → PlainText × Cursor
  | 0, cursor, read, _, newLine => (⟨read, newLine⟩, cursor)
  | fuel + 1, cursor, read, before, newLine =>
      let length := if cursor.next == '#' then 0 else plainLength version inFlow cursor.rest
      if length = 0 then
        (⟨read, newLine⟩, cursor)
      else
        let read := read ++ before ++ cursor.rest.take length
        let (spaces, newLine, cursor) := (cursor.forward length).plainSpaces
        if spaces.isEmpty || cursor.next == '#' || (!inFlow && (cursor.column : Int) < indent) then
          (⟨read, newLine⟩, cursor)
        else
          plainPieces version inFlow indent fuel cursor read spaces newLine

/-- Read a plain scalar; it goes on over lines indented by at least `indent`. -/
def plainScalar (version : Version) (inFlow : Bool) (indent : Int) (cursor : Cursor) :
    PlainText × Cursor :=
  plainPieces version inFlow indent (cursor.rest.length + 1) cursor [] [] false

/-! ### Quoted scalars -/

/-- The character that an escape of one letter stands for. -/
def escaped? (c : Char) : Option Char :=
  match c with
  | '0' => some '\x00'
  | 'a' => some '\x07'
  | 'b' => some '\x08'
  | 't' => some '\t'
  | '\t' => some '\t'
  | 'n' => some '\n'
  | 'v' => some '\x0b'
  | 'f' => some '\x0c'
  | 'r' => some '\r'
  | 'e' => some '\x1b'
  | ' ' => some ' '
  | '"' => some '"'
  | '/' => some '/'
  | '\\' => some '\\'
  | 'N' => some (Char.ofNat 0x85)
  | '_' => some (Char.ofNat 0xA0)
  | 'L' => some (Char.ofNat 0x2028)
  | 'P' => some (Char.ofNat 0x2029)
  | _ => none

/-- The number of digits of an escape by code. -/
def escapeLength? (c : Char) : Option Nat :=
  match c with
  | 'x' => some 2
  | 'u' => some 4
  | 'U' => some 8
  | _ => none

/-- The number that an escape by code of the length given writes, and what follows it. -/
def escapeCode? (length : Nat) (cs : List Char) : Option (Nat × List Char) :=
  let digits := cs.take length
  if digits.length == length && digits.all isHexDigit then
    some (hexNumber digits, cs.drop length)
  else
    none

/-- The characters beyond the first plane, written as two escapes: the lower half
that follows the upper half `high`, and the number of characters it takes up. -/
def lowerHalf? (high : Nat) (cs : List Char) : Option (Nat × Nat) := do
  if !(0xD800 ≤ high && high ≤ 0xDBFF) then
    none
  let rest ← dropStart? ['\\', 'u'] cs
  let (low, _) ← escapeCode? 4 rest
  if 0xDC00 ≤ low && low ≤ 0xDFFF then
    some (0x10000 + (high - 0xD800) * 0x400 + (low - 0xDC00), 6)
  else
    none

/-- Read an escape by code: the character, and the number of characters that it
takes up.  An upper or lower half that stands alone, which is no character and can be in no name of
a file, is read as the null character. -/
def escapeByCode (cursor : Cursor) (length : Nat) : Except YamlError (Char × Nat) :=
  match escapeCode? length cursor.rest with
  | none => .error (.malformed "expected an escape sequence of hexadecimal digits" cursor.line)
  | some (code, rest) =>
      if 0x10FFFF < code then
        .error (.noSuchValue "a character")
      else
        match lowerHalf? code rest with
        | some (code, more) => .ok (Char.ofNat code, length + more)
        | none => .ok (Char.ofNat code, length)

/-- The empty lines inside a quoted scalar. -/
def quotedBreaks : (fuel : Nat) → Cursor → (breaks : List Char) →
    Except YamlError (List Char × Cursor)
  | 0, cursor, breaks => .ok (breaks, cursor)
  | fuel + 1, cursor, breaks =>
      if cursor.atSeparator then
        .error (.malformed "found unexpected document separator" cursor.line)
      else
        let cursor := cursor.skipWhile fun c => c == ' ' || c == '\t'
        if isBreak cursor.next then
          let (read, cursor) := cursor.lineBreak
          quotedBreaks fuel cursor (breaks ++ read)
        else
          .ok (breaks, cursor)

/-- A character that means nothing special inside quotes. -/
def isQuotedChar (c : Char) : Bool :=
  !isBreakOrEnd c && c != ' ' && c != '\t' && c != '\'' && c != '"' && c != '\\'

/-- Read the rest of a quoted scalar, up to its closing quote. -/
def quotedPieces (double : Bool) : (fuel : Nat) → Cursor → (read : List Char) →
    Except YamlError (List Char × Cursor)
  | 0, cursor, _ => .error (.malformed "found unexpected end of stream" cursor.line)
  | fuel + 1, cursor, read =>
      let c := cursor.next
      if isQuotedChar c then
        let (more, cursor) := cursor.readWhile isQuotedChar
        quotedPieces double fuel cursor (read ++ more)
      else if !double && c == '\'' && cursor.peek 1 == '\'' then
        quotedPieces double fuel (cursor.forward 2) (read ++ ['\''])
      else if c == (if double then '"' else '\'') then
        .ok (read, cursor.step)
      else if c == '\'' || c == '"' || (!double && c == '\\') then
        quotedPieces double fuel cursor.step (read ++ [c])
      else if c == '\\' then
        let cursor := cursor.step
        let c := cursor.next
        match escaped? c with
        | some meant => quotedPieces double fuel cursor.step (read ++ [meant])
        | none =>
            match escapeLength? c with
            | some length =>
                match cursor.step.escapeByCode length with
                | .ok (meant, size) =>
                    quotedPieces double fuel (cursor.step.forward size) (read ++ [meant])
                | .error e => .error e
            | none =>
                if isBreak c then
                  match quotedBreaks (cursor.rest.length + 1) cursor.lineBreak.2 [] with
                  | .ok (breaks, cursor) => quotedPieces double fuel cursor (read ++ breaks)
                  | .error e => .error e
                else
                  .error (.malformed "found unknown escape character" cursor.line)
      else
        let (spaces, cursor) := cursor.readWhile fun c => c == ' ' || c == '\t'
        if cursor.next == '\x00' then
          .error (.malformed "found unexpected end of stream" cursor.line)
        else if isBreak cursor.next then
          let (first, cursor) := cursor.lineBreak
          match quotedBreaks (cursor.rest.length + 1) cursor [] with
          | .error e => .error e
          | .ok (breaks, cursor) =>
              let folded :=
                if first != ['\n'] then first ++ breaks
                else if breaks.isEmpty then [' ']
                else breaks
              quotedPieces double fuel cursor (read ++ folded)
        else
          quotedPieces double fuel cursor (read ++ spaces)

/-- Read a quoted scalar, from its opening quote on. -/
def quotedScalar (double : Bool) (cursor : Cursor) : Except YamlError (List Char × Cursor) :=
  quotedPieces double (cursor.rest.length + 1) cursor.step []

/-! ### Literal and folded scalars -/

/-- What becomes of the ends of line at the end of a block scalar. -/
inductive Chomping where
  | clip
  | keep
  | strip
deriving DecidableEq, Repr, Inhabited

/-- The chomping that an indicator asks for. -/
def chomping? (c : Char) : Option Chomping :=
  if c == '+' then some .keep else if c == '-' then some .strip else none

/-- Read the indicators of a block scalar: its chomping and its indentation. -/
def blockIndicators (cursor : Cursor) :
    Except YamlError (Chomping × Option Nat × Cursor) := do
  let size? (c : Char) : Option Nat := if c.isDigit then some (c.toNat - 48) else none
  let (chomping, size, cursor) :=
    match chomping? cursor.next with
    | some chomping =>
        match size? (cursor.peek 1) with
        | some size => (chomping, some size, cursor.forward 2)
        | none => (chomping, none, cursor.step)
    | none =>
        match size? cursor.next with
        | some size =>
            match chomping? (cursor.peek 1) with
            | some chomping => (chomping, some size, cursor.forward 2)
            | none => (.clip, some size, cursor.step)
        | none => (.clip, none, cursor)
  if size == some 0 then
    throw (.malformed "expected an indentation indicator in the range 1 to 9" cursor.line)
  else if isBreakOrEnd cursor.next || cursor.next == ' ' then
    return (chomping, size, cursor)
  else
    throw (.malformed "expected chomping or indentation indicators" cursor.line)

/-- Skip the empty lines before the first line of a block scalar: the ends of
line, and the greatest indentation met.  `first` is the column at which the first
of these lines ends. -/
def blockIndentation : (fuel : Nat) → Cursor → (breaks : List Char) → (first : Option Nat) →
    (deepest : Nat) → List Char × Option Nat × Nat × Cursor
  | 0, cursor, breaks, first, deepest => (breaks, first, deepest, cursor)
  | fuel + 1, cursor, breaks, first, deepest =>
      if cursor.next == ' ' then
        let cursor := cursor.step
        blockIndentation fuel cursor breaks first (max deepest cursor.column)
      else if isBreak cursor.next then
        let (read, after) := cursor.lineBreak
        blockIndentation fuel after (breaks ++ read) (first.or (some cursor.column)) deepest
      else
        (breaks, first, deepest, cursor)

/-- The empty lines before the first line of a block scalar, of which the first
one, if it is indented at all, has to be the deepest. -/
def blockStart (cursor : Cursor) : Except YamlError (List Char × Nat × Cursor) :=
  let (breaks, first, deepest, cursor) :=
    blockIndentation (cursor.rest.length + 1) cursor [] none 0
  match first with
  | some first =>
      if 0 < first && first < deepest then
        .error (.malformed "a line is indented deeper than the first one" cursor.line)
      else
        .ok (breaks, deepest, cursor)
  | none => .ok (breaks, deepest, cursor)

/-- Skip the indentation of a line, of at most `indent` columns. -/
def skipIndent (indent : Nat) (cursor : Cursor) : Cursor :=
  let spaces := cursor.rest.takeWhile (· == ' ')
  cursor.forward (min spaces.length (indent - cursor.column))

/-- Skip the empty lines of a block scalar, and the indentation of the line
after them. -/
def blockBreaks (indent : Nat) : (fuel : Nat) → Cursor → (breaks : List Char) → List Char × Cursor
  | 0, cursor, breaks => (breaks, cursor)
  | fuel + 1, cursor, breaks =>
      let cursor := cursor.skipIndent indent
      if isBreak cursor.next then
        let (read, cursor) := cursor.lineBreak
        blockBreaks indent fuel cursor (breaks ++ read)
      else
        (breaks, cursor)

/-- Read the lines of a block scalar.  `breaks` are the empty lines before the
next one, and `ending` is the end of the last line. -/
def blockLines (folded atTop : Bool) (indent : Nat) :
    (fuel : Nat) → Cursor → (read ending breaks : List Char) →
    List Char × List Char × List Char × Cursor
  | 0, cursor, read, ending, breaks => (read, ending, breaks, cursor)
  | fuel + 1, cursor, read, ending, breaks =>
      if cursor.column == indent && cursor.next != '\x00' then
        let leading := cursor.next == ' ' || cursor.next == '\t'
        let (line, cursor) := cursor.readWhile (!isBreakOrEnd ·)
        let (ending, cursor) := cursor.lineBreak
        let read := read ++ breaks ++ line
        let (breaks, cursor) := blockBreaks indent (cursor.rest.length + 1) cursor []
        if atTop && cursor.column == 0 && cursor.atSeparator then
          (read, ending, breaks, cursor)
        else if cursor.column == indent && cursor.next != '\x00' then
          let joint :=
            if folded && ending == ['\n'] && !leading && cursor.next != ' '
                && cursor.next != '\t' then
              if breaks.isEmpty then [' '] else []
            else
              ending
          blockLines folded atTop indent fuel cursor (read ++ joint) [] breaks
        else
          (read, ending, breaks, cursor)
      else
        (read, ending, breaks, cursor)

/-- Read a literal or folded scalar, from its indicator on; `indent` is the
indentation of the collection around it. -/
def blockScalar (folded : Bool) (indent : Int) (cursor : Cursor) :
    Except YamlError (List Char × Cursor) := do
  let (chomping, size, cursor) ← cursor.step.blockIndicators
  let cursor ← cursor.skipLineEnd
  let least := (indent + 1).toNat
  let fuel := cursor.rest.length + 1
  let (breaks, depth, cursor) ← match size with
    | none => do
        let (breaks, deepest, cursor) ← blockStart cursor
        pure (breaks, max least deepest, cursor)
    | some size =>
        let depth := max least 1 + size - 1
        let (breaks, cursor) := blockBreaks depth fuel cursor []
        pure (breaks, depth, cursor)
  let atTop := least == 0 && size.isNone
  let (read, ending, breaks, cursor) := blockLines folded atTop depth fuel cursor [] [] breaks
  let tail := match chomping with
    | .clip => ending
    | .keep => ending ++ breaks
    | .strip => []
  return (read ++ tail, cursor)

end Cursor

end StaticSite.Yaml
