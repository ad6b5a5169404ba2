/-
Module: StaticSite.Yaml.Scanner
Purpose: Splitting the text of a YAML document into tokens.
Trusted boundary: none
Main exports:
  Token, SimpleKey, Scanner, Scanned, scan
-/
import StaticSite.Yaml.Scalar

namespace StaticSite.Yaml

/-!
Whether a scalar or a collection is the key of an entry shows only when a colon
follows it.  The scanner therefore remembers, for each level of brackets, the
last token that could start such a key, and inserts the missing tokens in front
of it when the colon comes.
-/

/-- The tokens of a YAML document. -/
inductive Token where
  | yamlDirective (version : Version)
  | tagDirective (handle tagStart : String)
  | otherDirective
  | documentStart
  | documentEnd
  | blockSequenceStart
  | blockMappingStart
  | blockEnd
  | flowSequenceStart
  | flowSequenceEnd
  | flowMappingStart
  | flowMappingEnd
  | key
  | value
  | blockEntry
  | flowEntry
  | alias (name : String)
  | anchor (name : String)
  | tag (handle : Option String) (rest : String)
  | scalar (text : String) (plain : Bool)
deriving DecidableEq, Repr, Inhabited

/-- A token that could start a key: its number, and where it stands. -/
structure SimpleKey where
  token : Nat
  required : Bool
  index : Nat
  line : Nat
  column : Nat
deriving Repr, Inhabited

/-- The state of scanning.  `flow` holds the brackets that are open, innermost
first, and `keys` the possible key of each level of brackets. -/
structure Scanner where
  cursor : Cursor
  tokens : Array Token := #[]
  indent : Int := -1
  indents : List Int := []
  flow : List Char := []
  keyAllowed : Bool := true
  keys : List (Nat × SimpleKey) := []
  version : Option Version := none
  done : Bool := false
deriving Inhabited

/-- A step of scanning. -/
abbrev Scan := StateT Scanner (Except YamlError)

namespace Scan

/-- Stop because of a problem at the current place. -/
def fail {α : Type} (problem : String) : Scan α := do
  throw (.malformed problem (← get).cursor.line)

/-- Put a token at the end. -/
def emit (token : Token) : Scan Unit :=
  modify fun s => { s with tokens := s.tokens.push token }

/-- Put a token in front of the one with that number. -/
def emitAt (number : Nat) (token : Token) : Scan Unit :=
  modify fun s =>
    let tokens := s.tokens.toList
    { s with tokens := (tokens.take number ++ token :: tokens.drop number).toArray }

/-- Move over some characters. -/
def forward (count : Nat) : Scan Unit :=
  modify fun s => { s with cursor := s.cursor.forward count }

/-- Go on from another place. -/
def goTo (cursor : Cursor) : Scan Unit :=
  modify fun s => { s with cursor := cursor }

/-- Allow or forbid a key to start at the next token. -/
def allowKey (allowed : Bool) : Scan Unit :=
  modify fun s => { s with keyAllowed := allowed }

/-- The version the document is written in, as far as it is known. -/
def version : Scan Version := do
  return (← get).version.getD Version.standard

/-- Use the outcome of reading at the current place. -/
def reading {α : Type} (read : Cursor → Except YamlError (α × Cursor)) : Scan α := do
  let (value, cursor) ← read (← get).cursor
  goTo cursor
  return value

/-! ### Indentation -/

/-- Close the block collections that are indented deeper than `column`. -/
def unwind (column : Int) : Scan Unit := do
  let s ← get
  if s.flow.isEmpty then
    let closed := (s.indent :: s.indents).takeWhile (column < ·)
    let kept := (s.indent :: s.indents).dropWhile (column < ·)
    set { s with
      indent := kept.headD (-1)
      indents := kept.tail
      tokens := s.tokens ++ (closed.map fun _ => Token.blockEnd).toArray }

/-- Open a block collection at `column`, unless one is open there. -/
def indentTo (column : Int) : Scan Bool := do
  let s ← get
  if s.indent < column then
    set { s with indent := column, indents := s.indent :: s.indents }
    return true
  else
    return false

/-! ### Possible keys -/

/-- Forget the possible key of the current level of brackets. -/
def forgetKey : Scan Unit := do
  let s ← get
  match s.keys.lookup s.flow.length with
  | none => return
  | some key =>
      if key.required then
        fail "could not find expected ':'"
      else
        set { s with keys := s.keys.filter fun entry => entry.1 != s.flow.length }

/-- Remember that the next token could start a key. -/
def rememberKey : Scan Unit := do
  let s ← get
  if s.keyAllowed then
    forgetKey
    let key : SimpleKey :=
      { token := s.tokens.size
        required := s.flow.isEmpty && s.indent == (s.cursor.column : Int)
        index := s.cursor.index
        line := s.cursor.line
        column := s.cursor.column }
    modify fun s => { s with keys := (s.flow.length, key) :: s.keys }

/-- A key has to be on one line and not too long. -/
def isStale (cursor : Cursor) (key : SimpleKey) : Bool :=
  key.line != cursor.line || cursor.index > key.index + 1024

/-- Forget the possible keys that are too far back. -/
def forgetStaleKeys : Scan Unit := do
  let s ← get
  if s.keys.any fun entry => isStale s.cursor entry.2 && entry.2.required then
    fail "could not find expected ':'"
  else
    set { s with keys := s.keys.filter fun entry => !isStale s.cursor entry.2 }

/-! ### Between tokens -/

/-- Skip white space, comments and ends of line.  A key may start on a new line. -/
def skipToToken : (fuel : Nat) → Scan Unit
  | 0 => return
  | fuel + 1 => do
      let s ← get
      let inFlow := !s.flow.isEmpty
      let cursor := s.cursor.skipWhile fun c => c == ' ' || (inFlow && c == '\t')
      let cursor := if cursor.next == '#' then cursor.skipWhile (!isBreakOrEnd ·) else cursor
      if isBreak cursor.next then
        set { s with cursor := cursor.lineBreak.2, keyAllowed := s.keyAllowed || !inFlow }
        skipToToken fuel
      else
        goTo cursor

/-- Skip the byte order mark that a text may start with. -/
def skipByteOrderMark : Scan Unit := do
  let s ← get
  if s.cursor.index == 0 && s.cursor.next.toNat == 0xFEFF then
    forward 1

/-! ### Directives -/

/-- A character of the name of a directive or of a tag handle. -/
def isWordChar (c : Char) : Bool :=
  c.isAlphanum || c == '-' || c == '_'

/-- Read a number of a version. -/
def versionNumber : Scan Nat := do
  let (digits, cursor) := (← get).cursor.readWhile Char.isDigit
  if digits.isEmpty then
    fail "expected a digit"
  else
    goTo cursor
    return Text.decimalNumber digits

/-- A character of a tag. -/
def isTagChar (version : Version) (c : Char) : Bool :=
  c.isAlphanum || "-;/?:@&=+$,_.!~*'()[]%".toList.contains c
    || (c == '#' && Version.old.isBefore version)

/-- Decode the bytes that are written by percent signs and digits in a tag. -/
def percentDecode : List Char → Option (List UInt8)
  | [] => some []
  | '%' :: a :: b :: rest =>
      if Text.isHexDigit a && Text.isHexDigit b then
        (percentDecode rest).map (UInt8.ofNat (Text.hexNumber [a, b]) :: ·)
      else
        none
  | '%' :: _ => none
  | c :: rest => (percentDecode rest).map (c.toString.toUTF8.data.toList ++ ·)

/-- Read the part of a tag after its handle. -/
def tagText : Scan String := do
  let (chars, cursor) := (← get).cursor.readWhile (isTagChar (← version))
  if chars.isEmpty then
    fail "expected a tag"
  else
    match (percentDecode chars).bind fun bytes => String.fromUTF8? ⟨bytes.toArray⟩ with
    | none => fail "expected an escape sequence of hexadecimal digits"
    | some text => do
        goTo cursor
        return text

/-- Read a tag handle: an exclamation mark, or a word between two. -/
def tagHandle : Scan String := do
  let cursor := (← get).cursor
  if cursor.next != '!' then
    fail "expected '!'"
  else
    let (word, after) := cursor.step.readWhile isWordChar
    if after.next == '!' then
      goTo after.step
      return String.ofList ('!' :: word ++ ['!'])
    else if word.isEmpty && after.next == ' ' then
      goTo after
      return "!"
    else
      fail "expected '!'"

/-- Skip spaces. -/
def skipSpaces : Scan Unit :=
  modify fun s => { s with cursor := s.cursor.skipWhile (· == ' ') }

/-- Read the directive that starts here. -/
def directive : Scan Unit := do
  forward 1
  let (name, cursor) := (← get).cursor.readWhile fun c => isWordChar c || c == ':' || c == '.'
  goTo cursor
  if name.isEmpty || !(isBreakOrEnd cursor.next || cursor.next == ' ') then
    fail "expected the name of a directive"
  if String.ofList name = "YAML" then
    skipSpaces
    let major ← versionNumber
    if (← get).cursor.next != '.' then
      fail "expected a '.'"
    forward 1
    let minor ← versionNumber
    let after := (← get).cursor.next
    if !(isBreakOrEnd after || after == ' ') then
      fail "expected the end of the version"
    modify fun s => { s with version := some ⟨major, minor⟩ }
    emit (.yamlDirective ⟨major, minor⟩)
  else if String.ofList name = "TAG" then
    skipSpaces
    let handle ← tagHandle
    if (← get).cursor.next != ' ' then
      fail "expected a space"
    skipSpaces
    let tagStart ← tagText
    let after := (← get).cursor.next
    if !(isBreakOrEnd after || after == ' ') then
      fail "expected the end of the tag"
    emit (.tagDirective handle tagStart)
  else
    goTo (cursor.skipWhile (!isBreakOrEnd ·))
    emit .otherDirective
  reading fun cursor => cursor.skipLineEnd.map fun cursor => ((), cursor)

/-! ### Tokens -/

/-- End all block collections; a document ends or starts here. -/
def leaveDocument : Scan Unit := do
  unwind (-1)
  forgetKey
  allowKey false

/-- A sequence or a mapping in brackets starts here. -/
def flowStart (bracket : Char) (token : Token) : Scan Unit := do
  rememberKey
  modify fun s => { s with flow := bracket :: s.flow, keyAllowed := true }
  forward 1
  emit token

/-- A sequence or a mapping in brackets ends here. -/
def flowEnd (token : Token) : Scan Unit := do
  forgetKey
  modify fun s => { s with flow := s.flow.tail, keyAllowed := false }
  forward 1
  emit token

/-- A comma between brackets. -/
def flowEntry : Scan Unit := do
  allowKey true
  forgetKey
  forward 1
  emit .flowEntry

/-- The dash of a sequence. -/
def blockEntry : Scan Unit := do
  let s ← get
  if s.flow.isEmpty then
    if !s.keyAllowed then
      fail "sequence entries are not allowed here"
    if ← indentTo s.cursor.column then
      emit .blockSequenceStart
  allowKey true
  forgetKey
  forward 1
  emit .blockEntry

/-- The question mark before a key. -/
def explicitKey : Scan Unit := do
  let s ← get
  if s.flow.isEmpty then
    if !s.keyAllowed then
      fail "mapping keys are not allowed here"
    if ← indentTo s.cursor.column then
      emit .blockMappingStart
  allowKey s.flow.isEmpty
  forgetKey
  forward 1
  emit .key

/-- The colon before a value. -/
def valueIndicator : Scan Unit := do
  let s ← get
  match s.keys.lookup s.flow.length with
  | some key => do
      modify fun s => { s with keys := s.keys.filter fun entry => entry.1 != s.flow.length }
      emitAt key.token .key
      if s.flow.isEmpty then
        if ← indentTo key.column then
          emitAt key.token .blockMappingStart
      allowKey false
  | none => do
      if s.flow.isEmpty then
        if !s.keyAllowed then
          fail "mapping values are not allowed here"
        if ← indentTo s.cursor.column then
          emit .blockMappingStart
      allowKey s.flow.isEmpty
      forgetKey
  forward 1
  emit .value

/-- A character of the name of an anchor. -/
def isAnchorChar (c : Char) : Bool :=
  let n := c.toNat
  ((0x21 ≤ n && n ≤ 0x7E) || (0xA0 ≤ n && n ≤ 0xFFFD && n != 0xFEFF) || 0x10000 ≤ n)
    && c != ',' && c != '[' && c != ']' && c != '\x7b' && c != '\x7d'

/-- The characters besides white space that may follow an anchor. -/
def anchorEnds : List Char :=
  ['?', ':', ',', '[', ']', '\x7b', '\x7d', '%', '@', '\x60']

/-- An anchor or an alias. -/
def anchor (token : String → Token) : Scan Unit := do
  rememberKey
  allowKey false
  let (name, cursor) := (← get).cursor.step.readWhile isAnchorChar
  if name.isEmpty then
    fail "expected the name of an anchor"
  goTo cursor
  let c := cursor.next
  if !(isBreakOrEnd c || c == ' ' || c == '\t' || anchorEnds.contains c) then
    fail "expected the end of the name of an anchor"
  emit (token (String.ofList name))

/-- A tag.  Without a word between exclamation marks, its handle is the one or
two exclamation marks that it starts with. -/
def tag : Scan Unit := do
  rememberKey
  allowKey false
  let doubled := (← get).cursor.peek 1 == '!'
  let short := if doubled then "!!" else "!"
  if doubled then
    forward 1
  let cursor := (← get).cursor
  let c := cursor.peek 1
  if c == '<' then
    forward 2
    let text ← tagText
    if (← get).cursor.next != '>' then
      fail "expected '>'"
    forward 1
    emit (.tag none text)
  else if isEndOrBlank c then
    forward 1
    emit (.tag none short)
  else
    let ahead := cursor.step.rest.takeWhile fun c => !(isBreakOrEnd c || c == ' ')
    let handle ← if ahead.contains '!' then tagHandle else do
      forward 1
      pure short
    let text ← tagText
    emit (.tag (some handle) text)
  let after := (← get).cursor.next
  if !(isBreakOrEnd after || after == ' ') then
    fail "expected a space"

/-- A literal or folded scalar. -/
def block (folded : Bool) : Scan Unit := do
  allowKey true
  forgetKey
  let indent := (← get).indent
  let text ← reading (Cursor.blockScalar folded indent)
  emit (.scalar (String.ofList text) false)

/-- A quoted scalar. -/
def quoted (double : Bool) : Scan Unit := do
  rememberKey
  allowKey false
  let text ← reading (Cursor.quotedScalar double)
  emit (.scalar (String.ofList text) false)

/-- A plain scalar. -/
def plain : Scan Unit := do
  rememberKey
  allowKey false
  let s ← get
  let (read, cursor) := s.cursor.plainScalar (← version) (!s.flow.isEmpty) (s.indent + 1)
  set { s with cursor := cursor, keyAllowed := read.endsLine }
  emit (.scalar (String.ofList read.text) true)

/-- The last token read is still in wait for a colon that makes an earlier one
the start of a key. -/
def waits (s : Scanner) : Bool :=
  s.keys.any fun entry => !isStale s.cursor entry.2

/-- A colon starts a value here.  In braces it does not right behind another one,
as long as these tokens may turn out to belong to a key. -/
def atValue (waiting : Bool) : Scan Bool := do
  let s ← get
  let spaced := isEndOrBlank (s.cursor.peek 1)
  match s.flow with
  | [] => return spaced
  | bracket :: _ =>
      if (← version) == Version.old then
        return true
      else if bracket == '[' then
        return spaced
      else
        return spaced || !(waiting && s.tokens.back? == some .value)

/-- Characters that no plain scalar starts with, unless something follows some of them. -/
def isIndicator (c : Char) : Bool :=
  "-?:,[]\x7b\x7d#&*!|>'\"%@\x60".toList.contains c

/-- A plain scalar can start here. -/
def atPlain : Scan Bool := do
  let s ← get
  let c := s.cursor.next
  let inFlow := !s.flow.isEmpty
  let next := s.cursor.peek 1
  if !(isBreakOrEnd c || c == ' ' || c == '\t' || isIndicator c) then
    return true
  else if c == ':' && inFlow && (← version) != Version.old && next != ' ' && next != '\t' then
    return true
  else
    return !isEndOrBlank next && (c == '-' || (!inFlow && (c == '?' || c == ':')))

/-- Read the next token, with the ones that have to come before it. -/
def token : Scan Unit := do
  let waiting := waits (← get)
  skipByteOrderMark
  skipToToken ((← get).cursor.rest.length + 1)
  forgetStaleKeys
  unwind (← get).cursor.column
  let s ← get
  let cursor := s.cursor
  let c := cursor.next
  let inFlow := !s.flow.isEmpty
  let spaced := isEndOrBlank (cursor.peek 1)
  let isValue ← atValue waiting
  let isPlain ← atPlain
  if c == '\x00' then
    leaveDocument
    modify fun s => { s with keys := [], done := true }
  else if c == '%' && cursor.column == 0 then
    leaveDocument
    directive
  else if c == '-' && cursor.column == 0 && cursor.atMarker '-' then
    leaveDocument
    forward 3
    emit .documentStart
  else if c == '.' && cursor.column == 0 && cursor.atMarker '.' then
    leaveDocument
    forward 3
    emit .documentEnd
  else if c == '[' then flowStart '[' .flowSequenceStart
  else if c == '\x7b' then flowStart '\x7b' .flowMappingStart
  else if c == ']' then flowEnd .flowSequenceEnd
  else if c == '\x7d' then flowEnd .flowMappingEnd
  else if c == ',' then flowEntry
  else if c == '-' && spaced then blockEntry
  else if c == '?' && (inFlow || spaced) then explicitKey
  else if c == ':' && isValue then valueIndicator
  else if c == '*' then anchor .alias
  else if c == '&' then anchor .anchor
  else if c == '!' then tag
  else if c == '|' && !inFlow then block false
  else if c == '>' && !inFlow then block true
  else if c == '\'' then quoted false
  else if c == '"' then quoted true
  else if isPlain then plain
  else fail "found a character that cannot start any token"

end Scan

/-- What scanning gives: the tokens, the version that the text declares, and the
problem that the scanner stopped at, if it did. -/
structure Scanned where
  tokens : List Token
  version : Option Version
  stop : Option YamlError
deriving Inhabited

namespace Scanner

/-- What has been read when the scanner stops at a problem.  From a token on that
could start a key, nothing counts as read. -/
def stopped (s : Scanner) (e : YamlError) : Scanned :=
  let kept := s.keys.foldl (fun least entry =>
    if Scan.isStale s.cursor entry.2 then least else min least entry.2.token) s.tokens.size
  { tokens := s.tokens.toList.take kept, version := s.version, stop := some e }

/-- Read tokens up to the end of the text, or up to a problem. -/
def finish : (fuel : Nat) → Scanner → Scanned
  | 0, s => s.stopped (.malformed "found no end" s.cursor.line)
  | fuel + 1, s =>
      match Scan.token.run s with
      | .error e => s.stopped e
      | .ok ((), s) =>
          if s.done then { tokens := s.tokens.toList, version := s.version, stop := none }
          else finish fuel s

end Scanner

/-- The tokens of a text. -/
def scan (text : String) : Scanned :=
  let chars := text.toList
  if chars.all isReadable then
    Scanner.finish (chars.length + 2) { cursor := Cursor.start chars }
  else
    { tokens := []
      version := none
      stop := some (.malformed "special characters are not allowed" 0) }

end StaticSite.Yaml
