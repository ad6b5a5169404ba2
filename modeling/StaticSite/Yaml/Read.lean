/-
Module: StaticSite.Yaml.Read
Purpose: Reading the value that a YAML document holds.
Trusted boundary: none
Main exports:
  Shape, shapeOf?, Reading, Spot, Context, valueOf, Document.value, read
-/
import StaticSite.Yaml.Parser
import StaticSite.Yaml.Resolve

namespace StaticSite.Yaml

open Text

/-! ### Tags -/

/-- What a tag makes of a node. -/
inductive Shape where
  | scalar (kind : Kind)
  | list
  | pairs
  | orderedMap
  | set
  | map
deriving DecidableEq, Repr, Inhabited

/-- What all standard tags start with. -/
def standardTag (name : String) : String :=
  "tag:yaml.org,2002:" ++ name

/-- What a standard tag makes of a node. -/
def shapeOfTag? (tag : String) : Option Shape :=
  [ ("null", Shape.scalar .null), ("bool", .scalar .bool), ("int", .scalar .int),
    ("float", .scalar .float), ("timestamp", .scalar .timestamp), ("binary", .scalar .binary),
    ("str", .scalar .string), ("merge", .scalar .merge), ("value", .scalar .default),
    ("seq", .list), ("pairs", .pairs), ("omap", .orderedMap), ("set", .set),
    ("map", .map) ].findSome? fun (name, shape) =>
      if tag = standardTag name then some shape else none

/-- What a collection is made to be: what its tag says, or else what it is by itself. -/
def shapeOfTagged? (tag : Option String) (own : Shape) : Option Shape :=
  match tag with
  | none => some own
  | some tag => if tag = "!" then some own else shapeOfTag? tag

/-- What a node is made to be.  The tag `!` makes a scalar count as plain. -/
def shapeOf? (version : Version) : Node → Option Shape
  | .scalar none text plain => some (.scalar (if plain then kindOf version text else .string))
  | .scalar (some tag) text _ =>
      if tag = "!" then some (.scalar (kindOf version text)) else shapeOfTag? tag
  | .sequence _ tag _ => shapeOfTagged? tag .list
  | .mapping _ tag _ => shapeOfTagged? tag .map
  | .again _ => none

/-- The node is a key that asks for a merge. -/
def isMergeKey (version : Version) (key : Node) : Bool :=
  shapeOf? version key == some (.scalar .merge)

/-- The node is an equals sign, the key of the default value of a mapping. -/
def isDefaultKey (version : Version) (key : Node) : Bool :=
  shapeOf? version key == some (.scalar .default)

mutual

/-- The text of a node that is made to be a scalar.  A mapping stands for its
default value. -/
def textOf? (version : Version) : Node → Option String
  | .scalar _ text _ => some text
  | .mapping _ _ entries => defaultText? version entries
  | _ => none

/-- The text of the default value among the entries of a mapping. -/
def defaultText? (version : Version) : List (Node × Node) → Option String
  | [] => none
  | (key, value) :: rest =>
      if isDefaultKey version key then textOf? version value else defaultText? version rest

end

/-! ### Readings -/

/-- What reading a part of a document gives: a value, and what is wrong with that
part, each problem with the number of collections around it.  With problems, the
value means nothing. -/
structure Reading (α : Type) where
  value : α
  problems : List (Nat × YamlError)
deriving Inhabited

namespace Reading

/-- The problem to report: of those with the fewest collections around them, the first. -/
def first? (problems : List (Nat × YamlError)) : Option YamlError :=
  (problems.foldl (fun best problem =>
    match best with
    | none => some problem
    | some found => if problem.1 < found.1 then some problem else some found) none).map (·.2)

/-- The value, or the problem to report. -/
def outcome {α : Type} (reading : Reading α) : Except YamlError α :=
  match first? reading.problems with
  | none => .ok reading.value
  | some e => .error e

/-- A value, or else a problem at that depth. -/
def ofExcept {α : Type} [Inhabited α] (depth : Nat) (result : Except YamlError α) : Reading α :=
  match result with
  | .ok value => ⟨value, []⟩
  | .error e => ⟨default, [(depth, e)]⟩

end Reading

/-- The reading with a function applied to its value. -/
def Reading.map {α β : Type} (f : α → β) (reading : Reading α) : Reading β :=
  ⟨f reading.value, reading.problems⟩

/-- A collection around a node: its number, whether it is a list, and whether it
is a key or part of one. -/
structure Frame where
  number : Nat
  isList : Bool
  inKey : Bool
deriving Repr, Inhabited

/-- The place of a node: the collections around it, innermost first, how many of
them count for the order of problems, and whether it is a key or part of one. -/
structure Spot where
  around : List Frame
  depth : Nat
  inKey : Bool
deriving Repr, Inhabited

namespace Spot

/-- The place of the root of a document. -/
def top : Spot :=
  ⟨[], 0, false⟩

/-- The place inside a collection that stands here.  The parts of a key are read
together with it, so that they count for it. -/
def inside (spot : Spot) (number : Nat) (isList : Bool) : Spot :=
  { spot with
    around := ⟨number, isList, spot.inKey⟩ :: spot.around
    depth := if spot.inKey then spot.depth else spot.depth + 1 }

/-- The place of a key of a collection of which this is the inside. -/
def key (spot : Spot) : Spot :=
  { spot with inKey := true }

/-- The collection of that number as it is met again here, if it is around this
place.  A key that holds itself holds null instead. -/
def again? (spot : Spot) (number : Nat) : Option Value :=
  (spot.around.findIdx? fun frame => frame.number == number).map fun level =>
    if (spot.around[level]?.map Frame.inKey).getD false then .null else .outer level

/-- A problem here. -/
def problem {α : Type} [Inhabited α] (spot : Spot) (e : YamlError) : Reading α :=
  ⟨default, [(spot.depth, e)]⟩

/-- A node that is not of the shape its tag says. -/
def mismatch {α : Type} [Inhabited α] (spot : Spot) (expected : String) : Reading α :=
  spot.problem (.malformed ("expected " ++ expected) 0)

end Spot

/-- The readings of the entries of a mapping: of each its key and its value. -/
abbrev Entries := List (Reading Value × Reading Value)

/-- What is wrong with a key before its value is read: maps and sets are no keys. -/
def openKey (spot : Spot) (key : Value) : List (Nat × YamlError) :=
  let isOpen : Bool :=
    match key with
    | .outer level => (spot.around[level]?.map Frame.isList).getD false
    | .map _ | .orderedMap _ | .set _ => false
    | _ => true
  if isOpen then [] else [(spot.depth, .malformed "found unhashable key" 0)]

/-- The value holds a collection, or is a collection that no list can stand for. -/
def isComposite : Value → Bool
  | .list items => items.any Value.isCollection
  | .pairs entries => entries.any fun entry => entry.1.isCollection || entry.2.isCollection
  | value => value.isCollection

/-- What is wrong with a key after its value is read: it holds a collection, or
it comes twice, if no key may. -/
def closedKey (spot : Spot) (unique : Bool) (seen : List Value) (key : Value) :
    List (Nat × YamlError) :=
  if isComposite key then [(spot.depth, .compositeKey)]
  else if unique && seen.any key.sameKey then [(spot.depth, .malformed "found duplicate key" 0)]
  else []

/-- Put the entries of a mapping together.  With `unique`, no key may come twice;
otherwise a later entry of the same key replaces an earlier one. -/
def mappingOf (spot : Spot) (unique : Bool) : (seen : List Value) → Entries → Reading Mapping
  | _, [] => ⟨[], []⟩
  | seen, (key, value) :: rest =>
      let more := mappingOf spot unique (key.value :: seen) rest
      ⟨(key.value, value.value) :: more.value,
        key.problems ++ openKey spot key.value ++ value.problems
          ++ closedKey spot unique seen key.value ++ more.problems⟩

/-- Put pairs together; in an ordered map no first part may come twice. -/
def pairsOf (spot : Spot) (ordered : Bool) :
    (seen : List Value) → List (Option (Reading Value × Reading Value)) → Reading Mapping
  | _, [] => ⟨[], []⟩
  | _, none :: _ => spot.mismatch "a mapping of length 1"
  | seen, some (key, value) :: rest =>
      let more := pairsOf spot ordered (key.value :: seen) rest
      let wrong : List (Nat × YamlError) :=
        if !ordered then []
        else if key.value.isCollection then [(spot.depth, .compositeKey)]
        else if seen.any key.value.sameKey then [(spot.depth, .repeatedKey)]
        else []
      ⟨(key.value, value.value) :: more.value,
        key.problems ++ wrong ++ value.problems ++ more.problems⟩

/-- Put the items of a list together. -/
def itemsOf : List (Reading Value) → Reading (List Value)
  | [] => ⟨[], []⟩
  | item :: rest =>
      let more := itemsOf rest
      ⟨item.value :: more.value, item.problems ++ more.problems⟩

/-- The entries with every key once, at its first place and with its last value. -/
def withoutRepeats (entries : Mapping) : Mapping :=
  entries.foldl (fun mapping entry => mapping.insert entry.1 entry.2) []

/-! ### Nodes -/

/-- What the reading of a node depends on: the version of the document, and the
collections that have names, to be met again where they are not around.  Such a
collection is read as a value, or as what a merge takes over. -/
structure Context where
  version : Version
  again : Spot → Nat → Reading Value
  source : Spot → List Nat → Nat → Except YamlError Entries

/-- A tag that means nothing here. -/
def Spot.unknownTag {α : Type} [Inhabited α] (spot : Spot) : Reading α :=
  spot.problem (.malformed "could not determine a constructor for a tag" 0)

/-- A mapping cannot be merged with what is no mapping. -/
def notMergeable {α : Type} : Except YamlError α :=
  .error (.malformed "expected a mapping or a list of mappings for merging" 0)

mutual

/-- The value a node stands for. -/
def valueOf (context : Context) (spot : Spot) : Node → Reading Value
  | .scalar tag text plain =>
      match shapeOf? context.version (.scalar tag text plain) with
      | some (.scalar kind) => Reading.ofExcept spot.depth (scalarOf context.version kind text)
      | some _ => (spot.inside 0 false).mismatch "a collection"
      | none => spot.unknownTag
  | .again number =>
      match spot.again? number with
      | some value => ⟨value, []⟩
      | none => context.again spot number
  | .sequence number tag items =>
      match spot.again? number with
      | some value => ⟨value, []⟩
      | none =>
          let shape? := shapeOfTagged? tag .list
          let inside := spot.inside number (shape? != some .orderedMap)
          match shape? with
          | some .list => (itemsOf (valuesOf context inside items)).map .list
          | some .pairs =>
              (pairsOf inside false [] (pairItems context inside items)).map .pairs
          | some .orderedMap =>
              (pairsOf inside true [] (pairItems context inside items)).map .orderedMap
          | some (.scalar _) => spot.mismatch "a scalar"
          | some _ => inside.mismatch "a mapping"
          | none => spot.unknownTag
  | .mapping number tag entries =>
      match spot.again? number with
      | some value => ⟨value, []⟩
      | none =>
          let inside := spot.inside number false
          let mapping : Reading Mapping :=
            let own := ownEntries context inside entries
            match mergedEntries context inside [number] [] entries with
            | .error e => inside.problem e
            | .ok [] => mappingOf inside true [] own
            | .ok merged => (mappingOf inside false [] (merged ++ own)).map withoutRepeats
          match shapeOfTagged? tag .map with
          | some .map => mapping.map .map
          | some .set => mapping.map fun mapping => .set (Value.setOrder (mapping.map (·.1)))
          | some (.scalar kind) =>
              match kind, defaultText? context.version entries with
              | .timestamp, _ => spot.mismatch "a scalar"
              | _, none => spot.mismatch "a scalar"
              | _, some text => Reading.ofExcept spot.depth (scalarOf context.version kind text)
          | some _ => inside.mismatch "a sequence"
          | none => spot.unknownTag

/-- The values nodes stand for. -/
def valuesOf (context : Context) (spot : Spot) : List Node → List (Reading Value)
  | [] => []
  | item :: rest => valueOf context spot item :: valuesOf context spot rest

/-- The pairs that nodes stand for, each a mapping of one entry; other nodes stand
for none. -/
def pairItems (context : Context) (spot : Spot) :
    List Node → List (Option (Reading Value × Reading Value))
  | [] => []
  | .mapping _ _ [(key, value)] :: rest =>
      some (valueOf context spot key, valueOf context spot value) :: pairItems context spot rest
  | _ :: rest => none :: pairItems context spot rest

/-- The entries of a mapping without its merges.  An equals sign is a string as a key. -/
def ownEntries (context : Context) (spot : Spot) : List (Node × Node) → Entries
  | [] => []
  | (key, value) :: rest =>
      if isMergeKey context.version key then
        ownEntries context spot rest
      else
        let keyReading :=
          if isDefaultKey context.version key then
            match textOf? context.version key with
            | some text => ⟨.string text, []⟩
            | none => spot.mismatch "a scalar"
          else
            valueOf context spot.key key
        (keyReading, valueOf context spot value) :: ownEntries context spot rest

/-- The entries that are merged into a mapping.  `merged` are those found so far;
another merge is a repeated key, unless those before it brought nothing. -/
def mergedEntries (context : Context) (spot : Spot) (within : List Nat) (merged : Entries) :
    List (Node × Node) → Except YamlError Entries
  | [] => .ok merged
  | (key, value) :: rest =>
      if !isMergeKey context.version key then
        mergedEntries context spot within merged rest
      else if merged.isEmpty then do
        mergedEntries context spot within (← sourceOf context spot within value) rest
      else
        .error (.malformed "found duplicate key" 0)

/-- The entries that the value of a merge brings: those of a mapping, or of the
mappings of a list, of which the first one comes last, so that it overrides.  A
mapping that is merged with itself brings its own entries only. -/
def sourceOf (context : Context) (spot : Spot) (within : List Nat) : Node → Except YamlError Entries
  | .mapping number _ entries =>
      if within.contains number then
        .ok (ownEntries context spot entries)
      else do
        let merged ← mergedEntries context spot (number :: within) [] entries
        return merged ++ ownEntries context spot entries
  | .sequence _ _ items => do
      return (← sourcesOf context spot within items).reverse.flatten
  | .again number => context.source spot within number
  | .scalar _ _ _ => notMergeable

/-- The entries that each of the mappings of a list brings to a merge. -/
def sourcesOf (context : Context) (spot : Spot) (within : List Nat) :
    List Node → Except YamlError (List Entries)
  | [] => .ok []
  | .sequence _ _ _ :: _ => notMergeable
  | item :: rest => do
      let entries ← sourceOf context spot within item
      return entries :: (← sourcesOf context spot within rest)

end

/-- The context of the nodes of a document, in which named collections are met
again up to `fuel` times within each other. -/
def contextOf (document : Document) : (fuel : Nat) → Context
  | 0 =>
      { version := document.version
        again := fun spot _ => spot.mismatch "an end"
        source := fun _ _ _ => notMergeable }
  | fuel + 1 =>
      let inner := contextOf document fuel
      { version := document.version
        again := fun spot number =>
          match document.named.lookup number with
          | some node => valueOf inner spot node
          | none => spot.mismatch "a name"
        source := fun spot within number =>
          match document.named.lookup number with
          | some node => sourceOf inner spot within node
          | none => notMergeable }

/-- The value that a document holds.  A collection that is met again within
itself ends there, so that each of them is met again at most twice on the way to
any node, as a value and in a merge. -/
def Document.value (document : Document) : Except YamlError Value :=
  (valueOf (contextOf document (2 * document.named.length + 1)) .top document.root).outcome

/-- The value that the only document in a text holds. -/
def read (text : String) : Except YamlError Value := do
  (← parseDocument text).value

end StaticSite.Yaml
