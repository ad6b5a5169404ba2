/-
Module: StaticSite.Proofs.Config.Showing
Purpose: What it says of a setting that something keeps it from being shown: an integer in it is
  too long, or its parts are further within each other than calls can be made.
Trusted boundary: none
Main exports:
  Value.callDepth, Value.holdsLongNumber, Value.Meets, Value.meets_of_obstacle?,
  Setting.callDepth, Setting.holdsLongNumber, Setting.Meets, Setting.meets_of_obstacle?
-/
import StaticSite.Config

namespace StaticSite

open Yaml

namespace Yaml.Value

mutual

/-- The number of calls within each other that showing the value takes. -/
def callDepth : Value → Nat
  | .time value => if value.zone.isSome then 3 else 1
  | .list items => itemsDepth 0 items + 1
  | .pairs entries => entriesDepth 1 entries + 1
  | .set items => itemsDepth 1 items + 1
  | .map entries => entriesDepth 0 entries + 1
  | .orderedMap entries => entriesDepth 2 entries + 1
  | _ => 1

/-- The number for values each of which is shown `further` calls within. -/
def itemsDepth (further : Nat) : List Value → Nat
  | [] => 0
  | item :: rest => max (callDepth item + further) (itemsDepth further rest)

/-- The number for both parts of pairs each of which is shown `further` calls within. -/
def entriesDepth (further : Nat) : List (Value × Value) → Nat
  | [] => 0
  | (first, second) :: rest =>
      max (max (callDepth first) (callDepth second) + further) (entriesDepth further rest)

end

mutual

/-- The value is an integer with too many digits, or such an integer is somewhere in it. -/
def holdsLongNumber : Value → Bool
  | .int value => isLongNumber value
  | .list items => holdLongNumber items
  | .pairs entries => entriesHoldLongNumber entries
  | .set items => holdLongNumber items
  | .map entries => entriesHoldLongNumber entries
  | .orderedMap entries => entriesHoldLongNumber entries
  | _ => false

/-- Some of the values hold such an integer. -/
def holdLongNumber : List Value → Bool
  | [] => false
  | item :: rest => holdsLongNumber item || holdLongNumber rest

/-- Some of the parts of the pairs hold such an integer. -/
def entriesHoldLongNumber : List (Value × Value) → Bool
  | [] => false
  | (first, second) :: rest =>
      holdsLongNumber first || holdsLongNumber second || entriesHoldLongNumber rest

end

end Yaml.Value

example : (Yaml.Value.list [.list [.null]]).obstacle? 2 = some .tooDeep ∧
    (Yaml.Value.list [.list [.null]]).obstacle? 3 = none := by
  decide

/-- What is shown holds a number that is too long, or takes more calls than there is room for. -/
inductive Meets (room depth : Nat) (long : Bool) : Obstacle → Prop where
  | longNumber (holds : long = true) : Meets room depth long .longNumber
  | tooDeep (deep : room < depth) : Meets room depth long .tooDeep

theorem Meets.mono {room roomAround depth around : Nat} {long longAround : Bool}
    {obstacle : Obstacle} (meets : Meets room depth long obstacle)
    (deep : room < depth → roomAround < around) (holds : long = true → longAround = true) :
    Meets roomAround around longAround obstacle := by
  cases meets with
  | longNumber here => exact .longNumber (holds here)
  | tooDeep here => exact .tooDeep (deep here)

namespace Yaml.Value

variable {obstacle : Obstacle} {first second : Option Obstacle}

theorem or_cases (found : first.or second = some obstacle) :
    first = some obstacle ∨ second = some obstacle :=
  (Option.or_eq_some_iff.mp found).imp id And.right

theorem callDepth_pos (value : Value) : 0 < value.callDepth := by
  cases value with
  | time value =>
      rw [callDepth]
      split <;> decide
  | _ => simp [callDepth]

mutual

theorem meets_of_obstacle? : (value : Value) → (room : Nat) →
    value.obstacle? room = some obstacle →
      Meets room value.callDepth value.holdsLongNumber obstacle
  | value, 0, found => by
      rw [obstacle?] at found
      cases found
      exact .tooDeep value.callDepth_pos
  | .int value, room + 1, found => by
      rw [obstacle?] at found
      split at found
      case isTrue long =>
        cases found
        exact .longNumber (by rw [holdsLongNumber, long])
      case isFalse => cases found
  | .time value, room + 1, found => by
      rw [obstacle?] at found
      split at found
      case isTrue narrow =>
        cases found
        simp only [Bool.and_eq_true, decide_eq_true_eq] at narrow
        refine .tooDeep ?_
        rw [callDepth, if_pos narrow.1]
        omega
      case isFalse => cases found
  | .list items, room + 1, found =>
      (meets_of_itemsObstacle? items 0 room found).mono Nat.succ_lt_succ id
  | .set items, room + 1, found =>
      (meets_of_itemsObstacle? items 1 room found).mono Nat.succ_lt_succ id
  | .pairs entries, room + 1, found =>
      (meets_of_entriesObstacle? entries 1 room found).mono Nat.succ_lt_succ id
  | .map entries, room + 1, found =>
      (meets_of_entriesObstacle? entries 0 room found).mono Nat.succ_lt_succ id
  | .orderedMap entries, room + 1, found =>
      (meets_of_entriesObstacle? entries 2 room found).mono Nat.succ_lt_succ id

theorem meets_of_itemsObstacle? : (items : List Value) → (further room : Nat) →
    itemsObstacle? (room - further) items = some obstacle →
      Meets room (itemsDepth further items) (holdLongNumber items) obstacle
  | [], _, _, found => by
      cases found
  | item :: rest, further, room, found => by
      rw [itemsDepth, holdLongNumber]
      rcases or_cases found with here | later
      · exact (meets_of_obstacle? item _ here).mono (by omega) (by simp +contextual)
      · exact (meets_of_itemsObstacle? rest further room later).mono (by omega)
          (by simp +contextual)

theorem meets_of_entriesObstacle? : (entries : List (Value × Value)) → (further room : Nat) →
    entriesObstacle? (room - further) entries = some obstacle →
      Meets room (entriesDepth further entries) (entriesHoldLongNumber entries) obstacle
  | [], _, _, found => by
      cases found
  | (first, second) :: rest, further, room, found => by
      rw [entriesDepth, entriesHoldLongNumber]
      rcases or_cases found with here | later
      · rcases or_cases here with isFirst | isSecond
        · exact (meets_of_obstacle? first _ isFirst).mono (by omega) (by simp +contextual)
        · exact (meets_of_obstacle? second _ isSecond).mono (by omega) (by simp +contextual)
      · exact (meets_of_entriesObstacle? rest further room later).mono (by omega)
          (by simp +contextual)

end

end Yaml.Value

namespace Setting

/-- The number of calls within each other that showing the setting takes, if it is a value. -/
def callDepth : Setting → Nat
  | .value given => given.callDepth
  | _ => 0

/-- The setting holds an integer with too many digits. -/
def holdsLongNumber : Setting → Bool
  | .path _ => false
  | .layout config => config.indentValue.holdsLongNumber
  | .value given => given.holdsLongNumber

theorem callDepth_indentValue (config : BeautifyConfig) : config.indentValue.callDepth = 1 := by
  unfold BeautifyConfig.indentValue
  split <;> rw [Value.callDepth] <;> simp

theorem meets_of_obstacle? {setting : Setting} {room : Nat} {obstacle : Obstacle}
    (found : setting.obstacle? room = some obstacle) :
    Meets room setting.callDepth setting.holdsLongNumber obstacle := by
  cases setting with
  | path given => cases found
  | layout config =>
      refine (Value.meets_of_obstacle? _ _ found).mono (fun deep => ?_) id
      rw [callDepth_indentValue] at deep
      exact absurd deep (Nat.lt_irrefl _)
  | value given => exact Value.meets_of_obstacle? _ _ found

end Setting

end StaticSite
