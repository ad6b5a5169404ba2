/-
Module: StaticSite.Yaml.Value
Purpose: The values a YAML document can hold.
Trusted boundary: none
Main exports:
  Value, Value.isTruthy, Value.text?, Value.sameKey, Value.setOrder, Value.shown, Obstacle,
  Value.obstacle?, Value.entries?, Mapping, Mapping.get?, Mapping.insert
-/
import StaticSite.Numeral
import StaticSite.Sort
import StaticSite.Text.Base64
import StaticSite.Yaml.Calendar

namespace StaticSite.Yaml

open Text

/-!
A document can name a collection and use the name within the collection itself.
Such a value has no end when it is written out, so the place where the collection
comes again says how many levels further out it is: `outer 0` is the collection
right around that place, `outer 1` the one around that, and so on.
-/

/-- A value of a YAML document.  The entries of a map are in document order, and
no two of them have the same key. -/
inductive Value where
  | null
  | bool (value : Bool)
  | int (value : Int)
  | float (value : Binary64)
  | date (value : Day)
  | time (value : DateTime)
  | string (value : String)
  | bytes (value : List UInt8)
  | list (items : List Value)
  /-- A list of pairs, of which several may have the same first part. -/
  | pairs (entries : List (Value × Value))
  /-- A set, its items in the order of `setOrder`. -/
  | set (items : List Value)
  | map (entries : List (Value × Value))
  /-- A map that is written as a list of its entries. -/
  | orderedMap (entries : List (Value × Value))
  /-- The collection that many levels further out. -/
  | outer (level : Nat)
deriving Repr, Inhabited

/-- The entries of a map in order. -/
abbrev Mapping := List (Value × Value)

namespace Value

/-- A value counts as true unless it is empty or zero. -/
def isTruthy : Value → Bool
  | .null => false
  | .bool value => value
  | .int value => value != 0
  | .float value => !value.isZero
  | .date _ => true
  | .time _ => true
  | .string value => value != ""
  | .bytes value => !value.isEmpty
  | .list items => !items.isEmpty
  | .pairs entries => !entries.isEmpty
  | .set items => !items.isEmpty
  | .map entries => !entries.isEmpty
  | .orderedMap entries => !entries.isEmpty
  | .outer _ => true

/-- The text of a string. -/
def text? : Value → Option String
  | .string value => some value
  | _ => none

/-- The integer that a boolean or an integer is as a key. -/
def asInt? : Value → Option Int
  | .bool value => some (if value then 1 else 0)
  | .int value => some value
  | _ => none

mutual

/-- Two values are one and the same as keys of a map.  Numbers are compared by
value, and booleans count as the numbers zero and one. -/
def sameKey : Value → Value → Bool
  | .null, .null => true
  | .date a, .date b => a == b
  | .time a, .time b => a.same b
  | .string a, .string b => a == b
  | .bytes a, .bytes b => a == b
  | .list as, .list bs => sameKeys as bs
  | .float a, .float b => a.same b
  | .float a, b => b.asInt?.any a.eqInt
  | a, .float b => a.asInt?.any b.eqInt
  | .bool a, b => b.asInt? == some (if a then 1 else 0)
  | .int a, b => b.asInt? == some a
  | _, _ => false

/-- Two lists are one and the same as keys of a map. -/
def sameKeys : List Value → List Value → Bool
  | [], [] => true
  | a :: as, b :: bs => sameKey a b && sameKeys as bs
  | _, _ => false

end

/-- The value is made of other values. -/
def isCollection : Value → Bool
  | .list _ | .pairs _ | .set _ | .map _ | .orderedMap _ | .outer _ => true
  | _ => false

/-! ### Showing -/

/-- The items of a set in the order in which they are kept and shown.  Integers come
by their remainder on division by a power of two, which has room for twice their
number; other items come in document order. -/
def setOrder (items : List Value) : List Value :=
  let room : Nat := if items.length < 5 then 8 else 2 <<< Nat.log2 (2 * items.length)
  match items.mapM asInt? with
  | none => items
  | some numbers =>
      let keyed := (numbers.map fun n => n.emod room).zip items
      (sortBy (fun a b => a.1 ≤ b.1) keyed).map (·.2)

/-- Items in parentheses; a comma tells a single one from a value in parentheses. -/
def inParentheses : List String → String
  | [item] => "(" ++ item ++ ",)"
  | items => "(" ++ joinWith ", " items ++ ")"

/-- How a collection is shown within itself. -/
def ellipsis (opening closing : String) : String :=
  opening ++ "..." ++ closing

mutual

/-- The value as it is shown in a message; `around` are the collections around
it as they are shown within themselves, innermost first. -/
def shownIn (around : List String) : Value → String
  | .null => "None"
  | .bool true => "True"
  | .bool false => "False"
  | .int value => toString value
  | .float value => value.shown
  | .date value => "datetime.date(" ++ joinWith ", " value.shownParts ++ ")"
  | .time value => "datetime.datetime(" ++ joinWith ", " value.shownParts ++ ")"
  | .string value => quoted value
  | .bytes value => quotedBytes value
  | .list items => "[" ++ joinWith ", " (shownItems (ellipsis "[" "]" :: around) items) ++ "]"
  | .pairs entries =>
      "[" ++ joinWith ", " (shownPairs (ellipsis "[" "]" :: around) entries) ++ "]"
  | .set [] => "set()"
  | .set items => "\x7b" ++ joinWith ", " (shownKeys around items) ++ "\x7d"
  | .map entries =>
      "\x7b" ++ joinWith ", " (shownEntries (ellipsis "\x7b" "\x7d" :: around) entries) ++ "\x7d"
  | .orderedMap [] => "ordereddict()"
  | .orderedMap entries =>
      "ordereddict([" ++ joinWith ", " (shownPairs ("..." :: around) entries) ++ "])"
  | .outer level => around.getD level "..."

/-- The values as they are shown in a list. -/
def shownItems (around : List String) : List Value → List String
  | [] => []
  | item :: rest => shownIn around item :: shownItems around rest

/-- The keys as they are shown: a list that is a key stands in parentheses. -/
def shownKeys (around : List String) : List Value → List String
  | [] => []
  | .list items :: rest => inParentheses (shownItems around items) :: shownKeys around rest
  | .pairs entries :: rest => inParentheses (shownPairs around entries) :: shownKeys around rest
  | key :: rest => shownIn around key :: shownKeys around rest

/-- The entries of a map as they are shown. -/
def shownEntries (around : List String) : List (Value × Value) → List String
  | [] => []
  | (.list items, value) :: rest =>
      (inParentheses (shownItems around items) ++ ": " ++ shownIn around value)
        :: shownEntries around rest
  | (.pairs entries, value) :: rest =>
      (inParentheses (shownPairs around entries) ++ ": " ++ shownIn around value)
        :: shownEntries around rest
  | (key, value) :: rest =>
      (shownIn around key ++ ": " ++ shownIn around value) :: shownEntries around rest

/-- The pairs as they are shown in a list. -/
def shownPairs (around : List String) : List (Value × Value) → List String
  | [] => []
  | (first, second) :: rest =>
      ("(" ++ shownIn around first ++ ", " ++ shownIn around second ++ ")")
        :: shownPairs around rest

end

/-- The value as it is shown in a message. -/
def shown (value : Value) : String :=
  value.shownIn []

end Value

/-- What keeps a value from being shown. -/
inductive Obstacle where
  /-- An integer has more digits than decimal numbers have. -/
  | longNumber
  /-- Too many calls for showing a value are made within each other. -/
  | tooDeep
deriving DecidableEq, Repr, Inhabited

/-- What is said when a value cannot be shown. -/
def Obstacle.message : Obstacle → String
  | .longNumber =>
      "Exceeds the limit (" ++ toString Numeral.mostDigits ++ " digits) for integer string "
        ++ "conversion; use sys.set_int_max_str_digits() to increase the limit"
  | .tooDeep => "maximum recursion depth exceeded while getting the repr of an object"

namespace Value

/-- The integer has more digits than decimal numbers have. -/
def isLongNumber (value : Int) : Bool :=
  Numeral.mostDigits < (Nat.toDigits 10 value.natAbs).length

mutual

/-- What comes up first that keeps the value from being shown, if only `room` calls can be made
within each other.  A value takes one call, and what it is made of further ones: the difference
to standard time is two calls away, a pair is shown within its list, the items of a set are shown
as a list, and the entries of an ordered map as a list of pairs. -/
def obstacle? : (room : Nat) → Value → Option Obstacle
  | 0, _ => some .tooDeep
  | _ + 1, .int value => if isLongNumber value then some .longNumber else none
  | room + 1, .time value => if value.zone.isSome && room < 2 then some .tooDeep else none
  | room + 1, .list items => itemsObstacle? room items
  | room + 1, .pairs entries => entriesObstacle? (room - 1) entries
  | room + 1, .set items => itemsObstacle? (room - 1) items
  | room + 1, .map entries => entriesObstacle? room entries
  | room + 1, .orderedMap entries => entriesObstacle? (room - 2) entries
  | _ + 1, _ => none

/-- What comes up first when the values are shown one after the other. -/
def itemsObstacle? (room : Nat) : List Value → Option Obstacle
  | [] => none
  | item :: rest => (obstacle? room item).or (itemsObstacle? room rest)

/-- What comes up first when the two parts of each pair are shown one after the other. -/
def entriesObstacle? (room : Nat) : List (Value × Value) → Option Obstacle
  | [] => none
  | (first, second) :: rest =>
      ((obstacle? room first).or (obstacle? room second)).or (entriesObstacle? room rest)

end

/-! ### Taking a value out of a map -/

mutual

/-- The value with `whole depth` in place of every collection met again that
stands `depth` levels deep in it and is the one right around it. -/
def settle (whole : Nat → Value) (depth : Nat) : Value → Value
  | .outer level => if level = depth then whole depth else .outer level
  | .list items => .list (settleItems whole (depth + 1) items)
  | .pairs entries => .pairs (settleEntries whole (depth + 1) entries)
  | .map entries => .map (settleEntries whole (depth + 1) entries)
  | .orderedMap entries => .orderedMap (settleEntries whole (depth + 1) entries)
  | value => value

/-- The values, each settled. -/
def settleItems (whole : Nat → Value) (depth : Nat) : List Value → List Value
  | [] => []
  | item :: rest => settle whole depth item :: settleItems whole depth rest

/-- The entries, each value settled.  Keys hold no collection that is around them. -/
def settleEntries (whole : Nat → Value) (depth : Nat) :
    List (Value × Value) → List (Value × Value)
  | [] => []
  | (key, value) :: rest =>
      (key, settle whole depth value) :: settleEntries whole depth rest

end

end Value

namespace Mapping

/-- The value of a key. -/
def get? (mapping : Mapping) (key : Value) : Option Value :=
  (mapping.find? fun entry => entry.1.sameKey key).map (·.2)

/-- Set a key.  A key already present keeps its place and takes the new value; a
new key goes to the end. -/
def insert : Mapping → Value → Value → Mapping
  | [], key, value => [(key, value)]
  | (old, oldValue) :: rest, key, value =>
      if old.sameKey key then (old, value) :: rest else (old, oldValue) :: insert rest key value

end Mapping

namespace Value

/-- The entries of a map, each value complete in itself: where the map comes again
in it, the map stands there, in which the value itself is the collection met
again. -/
def closedEntries (make : Mapping → Value) (entries : Mapping) : Mapping :=
  entries.map fun (key, value) =>
    (key, value.settle (fun depth => make (Mapping.insert entries key (.outer depth))) 0)

/-- The entries of a map. -/
def entries? : Value → Option Mapping
  | .map entries => some (closedEntries .map entries)
  | .orderedMap entries => some (closedEntries .orderedMap entries)
  | _ => none

end Value

end StaticSite.Yaml
