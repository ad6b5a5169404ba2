/-
Module: StaticSite.Markup.Token
Purpose: Reading HTML source as a sequence of tags, text and other markup.
Trusted boundary: none
Main exports:
  Token, Step, Pass, Step.ofMarkup, Step.ofReference, tokens
-/
import StaticSite.Markup.Node
import StaticSite.Markup.Reference
import StaticSite.Text.Case

namespace StaticSite.Markup

open Text

/-!
The source is read from left to right.  Nothing is ever rejected for being
malformed, apart from marked sections with an unknown keyword: a construct that
does not come to its end is text.  Since the end could still follow as long as
the input grows, the text is read in two passes.  The first one stops at the
first construct that looks unfinished; the second one knows that nothing
follows, and takes such a construct as text.
-/

/-- The pieces of an HTML source. -/
inductive Token where
  /-- A start tag; `closed` when it is written with a slash before its end. -/
  | startTag (name : String) (attributes : List (String × String)) (closed : Bool)
  | endTag (name : String)
  | text (chars : List Char)
  /-- A comment, document type, processing instruction or marked section. -/
  | special (kind : StringKind) (chars : List Char)
deriving DecidableEq, Repr, Inhabited

/-- The source holds a marked section that no document can have. -/
structure RejectedMarkup where
deriving DecidableEq, Repr, Inhabited

/-- The outcome of reading at one place of the source. -/
inductive Step where
  /-- These tokens were read; `raw` names the element whose raw text follows. -/
  | read (tokens : List Token) (raw : Option String) (rest : List Char)
  /-- The construct at this place does not come to its end. -/
  | unfinished
  /-- The pass ends here, with `rest` not read. -/
  | halt (tokens : List Token) (rest : List Char)
  | reject
deriving DecidableEq, Repr, Inhabited

/-- The first pass over a source may be followed by a second one. -/
inductive Pass where
  | first
  | last
deriving DecidableEq, Repr, Inhabited

/-- Tags with these names are followed by raw text, read up to their end tag. -/
def rawElements : List String :=
  ["script", "style"]

/-! ### Start tags -/

/-- A character of a tag name after its first letter. -/
def isTagNameChar (c : Char) : Bool :=
  c != '\t' && c != '\n' && c != '\r' && c != '\x0c' && c != ' ' && c != '/' && c != '>'
    && c != '\x00'

/-- Skip white space and slashes between attributes, but not the slash that
closes a tag. -/
def skipGap : List Char → List Char
  | [] => []
  | c :: rest =>
      if isSpace c then
        skipGap rest
      else if c = '/' then
        match rest with
        | '>' :: _ => c :: rest
        | _ => skipGap rest
      else
        c :: rest

/-- The character before the place reached, when `before` came first and
`consumed` was read since. -/
def lastRead (before : Char) (consumed : List Char) : Char :=
  consumed.getLastD before

/-- An attribute may only start after a quote, white space or a slash. -/
def startsAttribute (before : Char) : Bool :=
  before == '\'' || before == '"' || before == '/' || isSpace before

/-- A character that can follow the first one in the name of an attribute. -/
def isAttributeNameChar (c : Char) : Bool :=
  !isSpace c && c != '/' && c != '=' && c != '>'

/-- A character of a value without quotes. -/
def isBareValueChar (c : Char) : Bool :=
  !isSpace c && c != '>'

/-- The value of an attribute as written, with its quotes removed, and what
follows it.  A quote that is not closed starts no value; then the value is
empty if white space stands before the quote, and begins with the last of
several equals signs otherwise. -/
def attributeValue? (cs : List Char) : Option (List Char × List Char) :=
  match cs.dropWhile isSpace with
  | '=' :: more =>
      let signs := more.takeWhile (· == '=')
      let afterSigns := more.dropWhile (· == '=')
      let spaces := afterSigns.takeWhile isSpace
      let start := afterSigns.dropWhile isSpace
      let bare := (start.takeWhile isBareValueChar, start.dropWhile isBareValueChar)
      match start with
      | [] => some bare
      | quote :: inner =>
          if quote = '"' || quote = '\'' then
            match splitAtFirst? (· == quote) inner with
            | some found => some found
            | none =>
                match spaces.reverse with
                | space :: _ => some ([], space :: start)
                | [] =>
                    match signs with
                    | [] => none
                    | _ :: _ =>
                        some ('=' :: start.takeWhile isBareValueChar,
                          start.dropWhile isBareValueChar)
          else
            some bare
  | _ => none

/-- One attribute, with references in its value replaced, and what follows it. -/
def attribute? (before : Char) (cs : List Char) : Option ((String × String) × List Char) :=
  match cs with
  | [] => none
  | c :: more =>
      if startsAttribute before && !isSpace c && c != '/' && c != '>' then
        let name := c :: more.takeWhile isAttributeNameChar
        let afterName := more.dropWhile isAttributeNameChar
        let (value, rest) := (attributeValue? afterName).getD ([], afterName)
        some ((toLower (String.ofList name), String.ofList (unescape value)), rest)
      else
        none

/-- The attributes of a tag in order, and what follows the last one.  `before`
is the character before `cs`; `fuel` bounds the number of attributes. -/
def attributesFrom : (fuel : Nat) → (before : Char) → List Char →
    List (String × String) × List Char
  | 0, _, cs => ([], cs)
  | fuel + 1, before, cs =>
      match attribute? before cs with
      | none => ([], cs)
      | some (pair, rest) =>
          let next := skipGap rest
          let consumed := cs.take (cs.length - next.length)
          let (more, last) := attributesFrom fuel (lastRead before consumed) next
          (pair :: more, last)

/-- The element whose raw text follows a start tag. -/
def rawAfter (name : String) : Option String :=
  if rawElements.contains name then some name else none

/-- Read a start tag; `cs` begins with the first letter of its name. -/
def Step.ofStartTag (cs : List Char) : Step :=
  let name := cs.takeWhile isTagNameChar
  let afterName := cs.dropWhile isTagNameChar
  let start := skipGap afterName
  let consumed := cs.take (cs.length - start.length)
  let (attributes, last) := attributesFrom cs.length (lastRead '<' consumed) start
  let tag := toLower (String.ofList name)
  match last with
  | [] => .unfinished
  | '>' :: rest => .read [.startTag tag attributes false] (rawAfter tag) rest
  | '/' :: '>' :: rest => .read [.startTag tag attributes true] none rest
  | c :: _ =>
      if c.isAlpha || c = '=' || c = '/' then
        .unfinished
      else
        .read [.text ('<' :: cs.take (cs.length - last.length))] none last

/-! ### End tags -/

/-- A character of the name in a well-formed end tag, after its first letter. -/
def isEndNameChar (c : Char) : Bool :=
  c.isAlphanum || c == '-' || c == '.' || c == ':' || c == '_'

/-- A well-formed end tag after `</`: its name and what follows it. -/
def endTag? (cs : List Char) : Option (List Char × List Char) :=
  let start := cs.dropWhile isSpace
  match start with
  | c :: _ =>
      if c.isAlpha then
        match (start.dropWhile isEndNameChar).dropWhile isSpace with
        | '>' :: rest => some (start.takeWhile isEndNameChar, rest)
        | _ => none
      else
        none
  | [] => none

/-- Read what begins with `</`; `cs` is what follows these two characters. -/
def Step.ofEndTag (cs : List Char) : Step :=
  match splitAtFirst? (· == '>') cs with
  | none => .unfinished
  | some (inside, rest) =>
      match endTag? cs with
      | some (name, after) => .read [.endTag (toLower (String.ofList name))] none after
      | none =>
          match inside with
          | [] => .read [] none rest
          | c :: _ =>
              if c.isAlpha then
                .read [.endTag (toLower (String.ofList (cs.takeWhile isTagNameChar)))] none rest
              else
                .read [.special .comment inside] none rest

/-! ### Comments, declarations and marked sections -/

/-- The end of a comment: two hyphens and a `>`, with white space between. -/
def commentClose? : List Char → Option (List Char)
  | '-' :: '-' :: more =>
      match more.dropWhile isSpace with
      | '>' :: rest => some rest
      | _ => none
  | _ => none

/-- The end of a conditional section: `]` and `>`, with white space between. -/
def conditionalClose? : List Char → Option (List Char)
  | ']' :: more =>
      match more.dropWhile isSpace with
      | '>' :: rest => some rest
      | _ => none
  | _ => none

/-- The end of a marked section: two `]` and a `>`, with white space between. -/
def sectionClose? : List Char → Option (List Char)
  | ']' :: more => conditionalClose? (more.dropWhile isSpace)
  | _ => none

/-- What a marked section holds: character data, or any other declaration. -/
def sectionToken (inside : List Char) : Token :=
  match dropStartNoCase? "cdata[".toList inside with
  | some chars => .special .cdata chars
  | none => .special .declaration inside

/-- A character of a section keyword after its first letter. -/
def isKeywordChar (c : Char) : Bool :=
  c.isAlphanum || c == '-' || c == '_' || c == '.'

/-- Read a marked section; `cs` is what follows `<![`. -/
def Step.ofSection (cs : List Char) : Step :=
  match cs with
  | [] => .unfinished
  | c :: _ =>
      if c.isAlpha then
        let keyword := toLower (String.ofList (cs.takeWhile isKeywordChar))
        let close? : Option (List Char → Option (List Char)) :=
          if ["temp", "cdata", "ignore", "include", "rcdata"].contains keyword then
            some sectionClose?
          else if ["if", "else", "endif"].contains keyword then
            some conditionalClose?
          else
            none
        match (cs.dropWhile isKeywordChar).dropWhile isSpace, close? with
        | [], _ => .unfinished
        | _ :: _, none => .reject
        | _ :: _, some close =>
            match splitWhere? close cs with
            | some (inside, rest) => .read [sectionToken inside] none rest
            | none => .unfinished
      else
        .reject

/-- Read up to the next `>`, and make a token of kind `kind` of what comes
before it. -/
def Step.upToEnd (kind : StringKind) (cs : List Char) : Step :=
  match splitAtFirst? (· == '>') cs with
  | some (inside, rest) => .read [.special kind inside] none rest
  | none => .unfinished

/-- Read what begins with `<!`; `cs` is what follows these two characters.  The
text of a document type starts one character after the keyword. -/
def Step.ofDeclaration (cs : List Char) : Step :=
  match cs with
  | '-' :: '-' :: more =>
      match splitWhere? commentClose? more with
      | some (inside, rest) => .read [.special .comment inside] none rest
      | none => .unfinished
  | '[' :: more => .ofSection more
  | _ =>
      match dropStartNoCase? "doctype".toList cs with
      | some more =>
          match splitAtFirst? (· == '>') more with
          | some (inside, rest) => .read [.special .doctype (inside.drop 1)] none rest
          | none => .unfinished
      | none => .upToEnd .comment cs

/-- Read what begins with `<`; `cs` is what follows it. -/
def Step.ofMarkup (cs : List Char) : Step :=
  match cs with
  | [] => .halt [] ['<']
  | '/' :: more => .ofEndTag more
  | '!' :: more => .ofDeclaration more
  | '?' :: more => .upToEnd .instruction more
  | c :: _ => if c.isAlpha then .ofStartTag cs else .read [.text ['<']] none cs

/-! ### References in running text -/

/-- Read the number of a reference after `&#`: its value and what follows the
digits.  Some character that is no hexadecimal digit has to follow. -/
def numericReference? (cs : List Char) : Option (Nat × List Char) :=
  match cs with
  | [] => none
  | c :: more =>
      let (digits, after, value) :=
        if c = 'x' || c = 'X' then
          (more.takeWhile isHexDigit, more.dropWhile isHexDigit,
            hexNumber (more.takeWhile isHexDigit))
        else
          (cs.takeWhile Char.isDigit, cs.dropWhile Char.isDigit,
            decimalNumber (cs.takeWhile Char.isDigit))
      match digits, after with
      | _ :: _, next :: _ => if isHexDigit next then none else some (value, after)
      | _, _ => none

/-- A character of a reference's name after its first letter. -/
def isReferenceNameChar (c : Char) : Bool :=
  c.isAlphanum || c == '-' || c == '.'

/-- Shorten a name, given backwards, until the character after it is neither
letter nor digit. -/
def shortenName : (backwards after : List Char) → Option (List Char × List Char)
  | [], _ => none
  | c :: earlier, after =>
      match after with
      | next :: _ =>
          if next.isAlphanum then shortenName earlier (c :: after)
          else some ((c :: earlier).reverse, after)
      | [] => shortenName earlier (c :: after)

/-- Read the name of a reference after `&`: the name and what follows it.  Some
character that is neither letter nor digit has to follow. -/
def namedReference? (cs : List Char) : Option (List Char × List Char) :=
  match cs with
  | [] => none
  | c :: _ =>
      if c.isAlpha then
        shortenName (cs.takeWhile isReferenceNameChar).reverse (cs.dropWhile isReferenceNameChar)
      else
        none

/-- Read what begins with `&`; `cs` is what follows it. -/
def Step.ofReference (pass : Pass) (cs : List Char) : Step :=
  match cs with
  | [] => .halt [] ['&']
  | '#' :: more =>
      match numericReference? more with
      | some (value, after) => .read [.text [textOfCode value]] none (skipSemicolon after).1
      | none => if more.contains ';' then .halt [.text ['&', '#']] more else .halt [] ('&' :: cs)
  | c :: more =>
      match namedReference? cs with
      | some (name, after) => .read [.text (textOfName name)] none (skipSemicolon after).1
      | none =>
          if c.isAlpha then
            match pass, more with
            | .last, [] => .halt [] cs
            | _, _ => .halt [] ('&' :: cs)
          else
            .read [.text ['&']] none cs

/-! ### Raw text -/

/-- The letters of a raw element's name are also recognised in these forms when
its end is searched for. -/
def sameRawLetter (p c : Char) : Bool :=
  p == c.toLower || (p == 's' && c == 'ſ') || (p == 'i' && (c == 'ı' || c == 'İ'))

/-- What follows the raw element's name, however its letters are written. -/
def dropRawName? : (name cs : List Char) → Option (List Char)
  | [], cs => some cs
  | _ :: _, [] => none
  | p :: name, c :: cs => if sameRawLetter p c then dropRawName? name cs else none

/-- Something that looks like the end tag of a raw element, and what follows it. -/
def rawClose? (name : String) : List Char → Option (List Char)
  | '<' :: '/' :: more =>
      match dropRawName? name.toList (more.dropWhile isSpace) with
      | none => none
      | some after =>
          match after.dropWhile isSpace with
          | '>' :: rest => some rest
          | _ => none
  | _ => none

/-- Read raw text up to the end tag of its element.  What only looks like the
end tag belongs to the text. -/
def Step.ofRawText (name : String) (cs : List Char) : Step :=
  match splitWhere? (rawClose? name) cs with
  | none => .halt [] cs
  | some (inside, rest) =>
      let closing := (cs.drop inside.length).take (cs.length - inside.length - rest.length)
      match endTag? (closing.drop 2) with
      | some _ => .read [.text inside, .endTag name] none rest
      | none => .read [.text (inside ++ closing)] (some name) rest

/-! ### The two passes -/

/-- Where running text ends. -/
def endsText (c : Char) : Bool :=
  c == '<' || c == '&'

/-- Read at a place outside raw text. -/
def Step.next (pass : Pass) (cs : List Char) : Step :=
  match cs with
  | [] => .halt [] []
  | '<' :: more => .ofMarkup more
  | '&' :: more => .ofReference pass more
  | _ => .read [.text (cs.takeWhile fun c => !endsText c)] none (cs.dropWhile fun c => !endsText c)

/-- Take an unfinished construct as text: up to and including the next `>`, or
up to the next `<`, or just its first character. -/
def unfinishedText (cs : List Char) : List Char × List Char :=
  match cs with
  | [] => ([], [])
  | c :: more =>
      match splitAtFirst? (· == '>') more with
      | some (inside, rest) => (c :: inside ++ ['>'], rest)
      | none =>
          match splitAtFirst? (· == '<') more with
          | some (inside, _) => (c :: inside, more.drop inside.length)
          | none => ([c], more)

/-- Read all tokens from here on.  Raw text that never ends is dropped; other
text that the last pass leaves is one piece.  `fuel` bounds the number of steps. -/
def tokensFrom : (fuel : Nat) → Pass → (raw : Option String) → List Char →
    Except RejectedMarkup (List Token)
  | 0, _, _, _ => .ok []
  | _ + 1, _, _, [] => .ok []
  | fuel + 1, pass, raw, cs =>
      let step := match raw with
        | some name => Step.ofRawText name cs
        | none => Step.next pass cs
      match step, pass with
      | .reject, _ => .error ⟨⟩
      | .read read raw' rest, _ => do
          let more ← tokensFrom fuel pass raw' rest
          pure (read ++ more)
      | .halt read rest, .first => do
          let more ← tokensFrom fuel .last raw rest
          pure (read ++ more)
      | .halt read rest, .last =>
          .ok (if raw.isSome then read else read ++ [.text rest])
      | .unfinished, .first => tokensFrom fuel .last raw cs
      | .unfinished, .last => do
          let (piece, rest) := unfinishedText cs
          let more ← tokensFrom fuel .last raw rest
          pure (.text piece :: more)

/-- All tokens of a source.  Every step but one reads at least one character. -/
def tokens (source : String) : Except RejectedMarkup (List Token) :=
  tokensFrom (source.toList.length + 2) .first none source.toList

end StaticSite.Markup
