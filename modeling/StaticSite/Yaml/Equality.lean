/-
Module: StaticSite.Yaml.Equality
Purpose: Whether two values of a YAML document are equal can be decided.
Trusted boundary: none
Main exports:
  Value.equal, Value.equal_iff, the decidable equality of values
-/
import StaticSite.Yaml.Value

namespace StaticSite.Yaml.Value

mutual

/-- The values are equal. -/
def equal : Value → Value → Bool
  | .null, .null => true
  | .bool a, .bool b => a == b
  | .int a, .int b => a == b
  | .float a, .float b => a == b
  | .date a, .date b => a == b
  | .time a, .time b => a == b
  | .string a, .string b => a == b
  | .bytes a, .bytes b => a == b
  | .list as, .list bs => equalItems as bs
  | .pairs as, .pairs bs => equalEntries as bs
  | .set as, .set bs => equalItems as bs
  | .map as, .map bs => equalEntries as bs
  | .orderedMap as, .orderedMap bs => equalEntries as bs
  | .outer a, .outer b => a == b
  | _, _ => false

/-- The values are equal, one by one. -/
def equalItems : List Value → List Value → Bool
  | [], [] => true
  | a :: as, b :: bs => equal a b && equalItems as bs
  | _, _ => false

/-- The pairs are equal, one by one. -/
def equalEntries : List (Value × Value) → List (Value × Value) → Bool
  | [], [] => true
  | (a, x) :: as, (b, y) :: bs => equal a b && equal x y && equalEntries as bs
  | _, _ => false

end

mutual

theorem equal_iff : (a b : Value) → (equal a b = true ↔ a = b)
  | .list as, b => by cases b <;> simp [equal, equalItems_iff as]
  | .pairs as, b => by cases b <;> simp [equal, equalEntries_iff as]
  | .set as, b => by cases b <;> simp [equal, equalItems_iff as]
  | .map as, b => by cases b <;> simp [equal, equalEntries_iff as]
  | .orderedMap as, b => by cases b <;> simp [equal, equalEntries_iff as]
  | .null, b => by cases b <;> simp [equal]
  | .bool _, b => by cases b <;> simp [equal]
  | .int _, b => by cases b <;> simp [equal]
  | .float _, b => by cases b <;> simp [equal]
  | .date _, b => by cases b <;> simp [equal]
  | .time _, b => by cases b <;> simp [equal]
  | .string _, b => by cases b <;> simp [equal]
  | .bytes _, b => by cases b <;> simp [equal]
  | .outer _, b => by cases b <;> simp [equal]

theorem equalItems_iff : (as bs : List Value) → (equalItems as bs = true ↔ as = bs)
  | [], bs => by cases bs <;> simp [equalItems]
  | a :: as, [] => by simp [equalItems]
  | a :: as, b :: bs => by simp [equalItems, equal_iff a b, equalItems_iff as bs]

theorem equalEntries_iff :
    (as bs : List (Value × Value)) → (equalEntries as bs = true ↔ as = bs)
  | [], bs => by cases bs <;> simp [equalEntries]
  | (a, x) :: as, [] => by simp [equalEntries]
  | (a, x) :: as, (b, y) :: bs => by
      simp [equalEntries, equal_iff a b, equal_iff x y, equalEntries_iff as bs]

end

instance : DecidableEq Value :=
  fun a b => decidable_of_iff (equal a b = true) (equal_iff a b)

end StaticSite.Yaml.Value
