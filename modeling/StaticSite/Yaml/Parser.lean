/-
Module: StaticSite.Yaml.Parser
Purpose: Building the tree of a YAML document from its tokens.
Trusted boundary: none
Main exports:
  Node, Document, Parse, Parse.node, Parse.document, parseDocument
-/
import StaticSite.Yaml.Scanner

namespace StaticSite.Yaml

/-- A node of a document, with the tag it is given explicitly.  A plain scalar
is one written without quotes.  Sequences and mappings are numbered. -/
inductive Node where
  | scalar (tag : Option String) (text : String) (plain : Bool)
  | sequence (number : Nat) (tag : Option String) (items : List Node)
  | mapping (number : Nat) (tag : Option String) (entries : List (Node × Node))
  /-- The sequence or mapping of that number, met again within itself. -/
  | again (number : Nat)
deriving Repr, Inhabited

/-- The state of building a tree: the tokens ahead, what stands behind them if
that cannot be read, the tag handles, the nodes that have names, latest first, how
many sequences and mappings there are, and those of them that have names, with
their numbers. -/
structure Parser where
  tokens : List Token
  stop : Option YamlError
  handles : List (String × String)
  anchors : List (String × Node) := []
  count : Nat := 0
  named : List (Nat × Node) := []
  version : Version
deriving Inhabited

/-- A step of building a tree. -/
abbrev Parse := StateT Parser (Except YamlError)

namespace Parse

/-- Stop because of a problem. -/
def fail {α : Type} (problem : String) : Parse α :=
  throw (.malformed problem 0)

/-- The next token; there is none at the end of the text. -/
def peek : Parse (Option Token) := do
  let s ← get
  match s.tokens, s.stop with
  | [], some e => throw e
  | tokens, _ => return tokens.head?

/-- Move over the next token. -/
def skip : Parse Unit :=
  modify fun s => { s with tokens := s.tokens.tail }

/-- Move over the next token if it is this one. -/
def accept (token : Token) : Parse Bool := do
  if (← peek) == some token then
    skip
    return true
  else
    return false

/-- Move over the next token, which has to be this one. -/
def expect (token : Token) (problem : String) : Parse Unit := do
  if !(← accept token) then
    fail problem

/-- The next token is one of these, or there is none although `none` is one of these. -/
def ahead (tokens : List (Option Token)) : Parse Bool := do
  return tokens.contains (← peek)

/-- The tag that a handle and the rest of a tag make. -/
def tagName (handle : Option String) (rest : String) : Parse String := do
  match handle with
  | none => return rest
  | some handle =>
      match (← get).handles.lookup handle with
      | some start => return start ++ rest
      | none => fail "found undefined tag handle"

/-- Read the anchor of a node. -/
def anchor? : Parse (Option String) := do
  match ← peek with
  | some (.anchor name) => do
      skip
      return some name
  | _ => return none

/-- Read the tag of a node. -/
def tag? : Parse (Option String) := do
  match ← peek with
  | some (.tag handle rest) => do
      skip
      return some (← tagName handle rest)
  | _ => return none

/-- Read the anchor and the tag of a node, in either order. -/
def properties : Parse (Option String × Option String) := do
  match ← anchor? with
  | some name => return (some name, ← tag?)
  | none =>
      match ← tag? with
      | some tag => return (← anchor?, some tag)
      | none => return (none, none)

/-- Give a node its name. -/
def register (anchor : Option String) (node : Node) : Parse Node := do
  match anchor with
  | none => return node
  | some name => do
      modify fun s => { s with anchors := (name, node) :: s.anchors }
      return node

/-- A scalar.  What a plain one means has to be known in the version of the document. -/
def scalar (anchor tag : Option String) (text : String) (plain : Bool) : Parse Node := do
  let version := (← get).version
  if !version.isKnown && ((tag.isNone && plain) || tag == some "!") then
    throw (.unknownVersion version.major version.minor)
  else
    register anchor (.scalar tag text plain)

/-- The node that stands where nothing is written. -/
def empty : Parse Node :=
  scalar none none "" true

/-- The node is the one of that number, met again within itself. -/
def isAgain (number : Nat) : Node → Bool
  | .again other => other == number
  | _ => false

/-- Read a sequence or mapping, and number it.  While its content is read, its
name stands for the node met again within itself. -/
def collection {α : Type} (anchor : Option String) (content : Parse α) (make : Nat → α → Node) :
    Parse Node := do
  let number := (← get).count
  modify fun s => { s with count := number + 1 }
  discard (register anchor (.again number))
  let node := make number (← content)
  if anchor.isSome then
    modify fun s => { s with
      anchors := s.anchors.map fun entry =>
        if isAgain number entry.2 then (entry.1, node) else entry
      named := (number, node) :: s.named }
  return node

/-- Where a node stands: whether it may be a block collection, and whether it
may be a sequence with its dashes at the indentation of the mapping around it. -/
structure Place where
  block : Bool
  indentless : Bool

mutual

/-- Read a node.  `fuel` bounds the steps of all these functions together. -/
def node : (fuel : Nat) → Place → Parse Node
  | 0, _ => fail "nested too deeply"
  | fuel + 1, place => do
      match ← peek with
      | some (.alias name) => do
          skip
          match (← get).anchors.lookup name with
          | some node => return node
          | none => fail "found undefined alias"
      | _ => do
          let (anchor, tag) ← properties
          let content ← peek
          match content with
          | some (.scalar text plain) => do
              skip
              scalar anchor tag text plain
          | some .flowSequenceStart => do
              skip
              collection anchor (flowItems fuel true) (.sequence · tag ·)
          | some .flowMappingStart => do
              skip
              collection anchor (flowEntries fuel true) (.mapping · tag ·)
          | some .blockEntry =>
              if place.indentless then
                collection anchor (indentlessItems fuel) (.sequence · tag ·)
              else if anchor.isSome || tag.isSome then
                scalar anchor tag "" true
              else
                fail "expected the node content"
          | some .blockSequenceStart =>
              if place.block then do
                skip
                collection anchor (blockItems fuel) (.sequence · tag ·)
              else
                fail "expected the node content"
          | some .blockMappingStart =>
              if place.block then do
                skip
                collection anchor (blockEntries fuel) (.mapping · tag ·)
              else
                fail "expected the node content"
          | _ =>
              if anchor.isSome || tag.isSome then
                scalar anchor tag "" true
              else
                fail "expected the node content"

/-- Read the items of a sequence with dashes, and its end. -/
def blockItems : (fuel : Nat) → Parse (List Node)
  | 0 => fail "nested too deeply"
  | fuel + 1 => do
      if ← accept .blockEntry then
        let item ← if ← ahead [some .blockEntry, some .blockEnd] then empty
          else node fuel ⟨true, false⟩
        return item :: (← blockItems fuel)
      else
        expect .blockEnd "expected the end of the sequence"
        return []

/-- Read the items of a sequence whose dashes stand at the indentation of the
mapping around it. -/
def indentlessItems : (fuel : Nat) → Parse (List Node)
  | 0 => fail "nested too deeply"
  | fuel + 1 => do
      if ← accept .blockEntry then
        let item ← if ← ahead [some .blockEntry, some .key, some .value, some .blockEnd] then
            empty
          else node fuel ⟨true, false⟩
        return item :: (← indentlessItems fuel)
      else
        return []

/-- Read the value of an entry of a block mapping. -/
def blockValue : (fuel : Nat) → Parse Node
  | 0 => fail "nested too deeply"
  | fuel + 1 => do
      if ← accept .value then
        if ← ahead [some .key, some .value, some .blockEnd] then
          empty
        else
          node fuel ⟨true, true⟩
      else
        empty

/-- Read the entries of a block mapping, and its end. -/
def blockEntries : (fuel : Nat) → Parse (List (Node × Node))
  | 0 => fail "nested too deeply"
  | fuel + 1 => do
      if ← accept .key then
        let key ← if ← ahead [some .key, some .value, some .blockEnd] then empty
          else node fuel ⟨true, true⟩
        let value ← blockValue fuel
        return (key, value) :: (← blockEntries fuel)
      else if Version.old.isBefore (← get).version && (← ahead [some .value]) then
        let key ← empty
        let value ← blockValue fuel
        return (key, value) :: (← blockEntries fuel)
      else
        expect .blockEnd "expected the end of the mapping"
        return []

/-- Read the value of an entry between brackets, of which `close` is the closing one. -/
def flowValue (close : Token) : (fuel : Nat) → Parse Node
  | 0 => fail "nested too deeply"
  | fuel + 1 => do
      if ← accept .value then
        if ← ahead [some .flowEntry, some close] then
          empty
        else
          node fuel ⟨false, false⟩
      else
        empty

/-- Read the items of a sequence in brackets, and its end. -/
def flowItems : (fuel : Nat) → (first : Bool) → Parse (List Node)
  | 0, _ => fail "nested too deeply"
  | fuel + 1, first => do
      if ← accept .flowSequenceEnd then
        return []
      else
        if !first then
          expect .flowEntry "expected ',' or ']'"
        if ← accept .key then
          let pair ← collection none (do
            let key ← if ← ahead [some .value, some .flowEntry, some .flowSequenceEnd] then empty
              else node fuel ⟨false, false⟩
            let value ← flowValue .flowSequenceEnd fuel
            return [(key, value)]) (.mapping · none ·)
          return pair :: (← flowItems fuel false)
        else if ← accept .flowSequenceEnd then
          return []
        else
          let item ← node fuel ⟨false, false⟩
          return item :: (← flowItems fuel false)

/-- Read the entries of a mapping in braces, and its end. -/
def flowEntries : (fuel : Nat) → (first : Bool) → Parse (List (Node × Node))
  | 0, _ => fail "nested too deeply"
  | fuel + 1, first => do
      if ← accept .flowMappingEnd then
        return []
      else
        if !first then
          expect .flowEntry "expected ',' or a closing brace"
        if ← accept .key then
          let key ← if ← ahead [some .value, some .flowEntry, some .flowMappingEnd] then
              empty
            else node fuel ⟨false, false⟩
          let value ← flowValue .flowMappingEnd fuel
          return (key, value) :: (← flowEntries fuel false)
        else if Version.old.isBefore (← get).version && (← ahead [some .value]) then
          let key ← empty
          let value ← flowValue .flowMappingEnd fuel
          return (key, value) :: (← flowEntries fuel false)
        else if ← accept .flowMappingEnd then
          return []
        else
          let key ← node fuel ⟨false, false⟩
          return (key, ← empty) :: (← flowEntries fuel false)

end

/-- The tag handles that every document has. -/
def standardHandles : List (String × String) :=
  [("!", "!"), ("!!", "tag:yaml.org,2002:")]

/-- Read the directives of a document.  `seen` tells that the version was given. -/
def directives : (fuel : Nat) → (seen : Bool) → (own : List (String × String)) → Parse Unit
  | 0, _, _ => return
  | fuel + 1, seen, own => do
      match ← peek with
      | some (.yamlDirective version) =>
          if seen || version.major != 1 then
            fail "found an unsuitable version"
          else
            skip
            directives fuel true own
      | some (.tagDirective handle start) =>
          if (own.lookup handle).isSome then
            fail "duplicate tag handle"
          else
            skip
            directives fuel seen ((handle, start) :: own)
      | some .otherDirective => do
          skip
          directives fuel seen own
      | _ => modify fun s => { s with handles := own ++ standardHandles }

/-- Read the only document there may be; without one the text stands for nothing. -/
def document : Parse Node := do
  let fuel := 4 * (← get).tokens.length + 8
  match ← peek with
  | none => empty
  | some first =>
      let explicit := match first with
        | .yamlDirective _ | .tagDirective _ _ | .otherDirective | .documentStart => true
        | _ => false
      let root ← if explicit then do
          directives fuel false []
          expect .documentStart "expected the start of a document"
          match ← peek with
          | none => empty
          | some (.yamlDirective _) => empty
          | some (.tagDirective _ _) => empty
          | some .otherDirective => empty
          | some .documentStart => empty
          | some .documentEnd => empty
          | some _ => node fuel ⟨true, false⟩
        else
          node fuel ⟨true, false⟩
      if ← accept .documentEnd then
        if (← get).version == Version.old then
          modify fun s => { s with tokens := s.tokens.dropWhile (· == .documentEnd) }
      match ← peek with
      | none => return root
      | some _ => fail "expected a single document"

end Parse

/-- A document: its root, the sequences and mappings that have names, with their
numbers, and the version it is written in. -/
structure Document where
  root : Node
  named : List (Nat × Node)
  version : Version
deriving Repr, Inhabited

/-- The document in a text. -/
def parseDocument (text : String) : Except YamlError Document := do
  let scanned := scan text
  let version := scanned.version.getD Version.standard
  let (root, s) ← Parse.document.run
    { tokens := scanned.tokens
      stop := scanned.stop
      handles := Parse.standardHandles
      version := version }
  return { root := root, named := s.named, version := version }

end StaticSite.Yaml
