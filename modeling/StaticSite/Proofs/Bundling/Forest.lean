/-
Module: StaticSite.Proofs.Bundling.Forest
Purpose: Parent pointers as a forest: every number leads to one root, and neither
  shortening a way nor putting one root below another changes more than it says.
Trusted boundary: none
Main exports:
  Leads, Forest, rootOf, SameRoots, Forest.rootOf_push, Forest.rootOf_link,
  Forest.sameRoots_shorten
-/
import Mathlib.Data.List.Perm.Subperm
import StaticSite.Bundling.Registry

namespace StaticSite.Bundling

open Registry

/-- The number that a number points at; one that is not in use points at itself. -/
def pointer (parents : Array Nat) (id : Nat) : Nat :=
  parents.getD id id

theorem pointer_of_le {parents : Array Nat} {id : Nat} (unused : parents.size ≤ id) :
    pointer parents id = id := by
  simp [pointer, Array.getD_eq_getD_getElem?, unused]

/-- Following the pointers from a number visits the numbers of `way`, the last of
which is `root` and points at itself. -/
inductive Leads (parents : Array Nat) : (id : Nat) → (way : List Nat) → (root : Nat) → Prop where
  | here {id : Nat} (fixed : pointer parents id = id) : Leads parents id [id] id
  | up {id root : Nat} {way : List Nat} (moves : pointer parents id ≠ id)
      (rest : Leads parents (pointer parents id) way root) :
      Leads parents id (id :: way) root

namespace Leads

variable {parents : Array Nat} {id root : Nat} {way : List Nat}

/-- The way and the root are those of the number. -/
theorem deterministic {otherRoot : Nat} {otherWay : List Nat}
    (first : Leads parents id way root) (second : Leads parents id otherWay otherRoot) :
    way = otherWay ∧ root = otherRoot := by
  induction first generalizing otherWay with
  | here fixed =>
      cases second with
      | here => exact ⟨rfl, rfl⟩
      | up moves => exact False.elim (moves fixed)
  | up moves rest inductionHypothesis =>
      cases second with
      | here fixed => exact False.elim (moves fixed)
      | up _ otherRest =>
          obtain ⟨sameWay, sameRoot⟩ := inductionHypothesis otherRest
          exact ⟨by rw [sameWay], sameRoot⟩

theorem root_fixed (leads : Leads parents id way root) : pointer parents root = root := by
  induction leads with
  | here fixed => exact fixed
  | up _ _ inductionHypothesis => exact inductionHypothesis

theorem root_mem (leads : Leads parents id way root) : root ∈ way := by
  induction leads with
  | here => exact List.mem_singleton_self _
  | up _ _ inductionHypothesis => exact List.mem_cons_of_mem _ inductionHypothesis

theorem length_pos (leads : Leads parents id way root) : 0 < way.length := by
  cases leads <;> simp

/-- From every number on the way the rest of the way leads to the same root. -/
theorem of_mem (leads : Leads parents id way root) {visited : Nat} (member : visited ∈ way) :
    ∃ rest, Leads parents visited rest root ∧ rest.length ≤ way.length := by
  induction leads with
  | here fixed =>
      rw [List.mem_singleton.mp member]
      exact ⟨_, .here fixed, Nat.le_refl _⟩
  | up moves rest inductionHypothesis =>
      rcases List.mem_cons.mp member with rfl | later
      · exact ⟨_, .up moves rest, Nat.le_refl _⟩
      · obtain ⟨tail, leadsOn, shorter⟩ := inductionHypothesis later
        exact ⟨tail, leadsOn, Nat.le_succ_of_le shorter⟩

/-- No number is visited twice, for the way from there would be shorter than itself. -/
theorem nodup (leads : Leads parents id way root) : way.Nodup := by
  induction leads with
  | here => simp
  | @up id root way moves rest inductionHypothesis =>
      refine List.nodup_cons.mpr ⟨?_, inductionHypothesis⟩
      intro again
      obtain ⟨tail, leadsAgain, shorter⟩ := rest.of_mem again
      obtain ⟨sameWay, -⟩ := (Leads.up moves rest).deterministic leadsAgain
      rw [← sameWay, List.length_cons] at shorter
      exact Nat.not_succ_le_self _ shorter

/-- Climbing with enough steps ends at the root. -/
theorem climb_eq (leads : Leads parents id way root) {steps : Nat}
    (enough : way.length ≤ steps + 1) : climb parents steps id = root := by
  induction leads generalizing steps with
  | here fixed =>
      cases steps with
      | zero => rfl
      | succ steps => exact if_pos fixed
  | up moves rest inductionHypothesis =>
      have positive := rest.length_pos
      simp only [List.length_cons] at enough
      cases steps with
      | zero => omega
      | succ steps =>
          exact (if_neg moves).trans (inductionHypothesis (by omega))

end Leads

/-- The pointers stay among the numbers in use, and each of these leads to a root. -/
structure Forest (parents : Array Nat) : Prop where
  inside : ∀ {id : Nat}, id < parents.size → pointer parents id < parents.size
  rooted : ∀ {id : Nat}, id < parents.size → ∃ way root, Leads parents id way root

/-- The root of a number, found with as many steps as there are numbers. -/
def rootOf (parents : Array Nat) (id : Nat) : Nat :=
  climb parents parents.size id

namespace Forest

variable {parents : Array Nat} {id root : Nat} {way : List Nat}

theorem way_inside (forest : Forest parents) (leads : Leads parents id way root)
    (known : id < parents.size) : ∀ visited ∈ way, visited < parents.size := by
  induction leads with
  | here =>
      intro visited member
      rwa [List.mem_singleton.mp member]
  | up _ _ inductionHypothesis =>
      intro visited member
      rcases List.mem_cons.mp member with rfl | later
      · exact known
      · exact inductionHypothesis (forest.inside known) visited later

/-- A way visits different numbers only, so it is no longer than there are numbers. -/
theorem way_length_le (forest : Forest parents) (leads : Leads parents id way root)
    (known : id < parents.size) : way.length ≤ parents.size := by
  have among : way ⊆ List.range parents.size := fun visited member =>
    List.mem_range.mpr (forest.way_inside leads known visited member)
  simpa using (List.subperm_of_subset leads.nodup among).length_le

theorem rootOf_eq (forest : Forest parents) (leads : Leads parents id way root)
    (known : id < parents.size) : rootOf parents id = root :=
  leads.climb_eq (Nat.le_succ_of_le (forest.way_length_le leads known))

/-- Every number in use leads to its root. -/
theorem leads_rootOf (forest : Forest parents) (known : id < parents.size) :
    ∃ way, Leads parents id way (rootOf parents id) := by
  obtain ⟨way, root, leads⟩ := forest.rooted known
  exact ⟨way, by rwa [forest.rootOf_eq leads known]⟩

theorem rootOf_lt (forest : Forest parents) (known : id < parents.size) :
    rootOf parents id < parents.size := by
  obtain ⟨way, leads⟩ := forest.leads_rootOf known
  exact forest.way_inside leads known _ leads.root_mem

theorem rootOf_fixed (forest : Forest parents) (known : id < parents.size) :
    pointer parents (rootOf parents id) = rootOf parents id := by
  obtain ⟨way, leads⟩ := forest.leads_rootOf known
  exact leads.root_fixed

/-- A number that points at itself is its own root. -/
theorem rootOf_of_fixed (forest : Forest parents) (known : id < parents.size)
    (fixed : pointer parents id = id) : rootOf parents id = id :=
  forest.rootOf_eq (.here fixed) known

/-- A number has the root of the number it points at. -/
theorem rootOf_pointer (forest : Forest parents) (known : id < parents.size) :
    rootOf parents (pointer parents id) = rootOf parents id := by
  obtain ⟨way, root, leads⟩ := forest.rooted known
  rw [forest.rootOf_eq leads known]
  cases leads with
  | here fixed => rw [fixed, forest.rootOf_of_fixed known fixed]
  | up _ rest => exact forest.rootOf_eq rest (forest.inside known)

theorem rootOf_rootOf (forest : Forest parents) (known : id < parents.size) :
    rootOf parents (rootOf parents id) = rootOf parents id :=
  forest.rootOf_of_fixed (forest.rootOf_lt known) (forest.rootOf_fixed known)

end Forest

/-! ### Changing pointers -/

/-- The new pointer of one number. -/
theorem pointer_setIfInBounds {parents : Array Nat} {child : Nat} (known : child < parents.size)
    (target id : Nat) :
    pointer (parents.setIfInBounds child target) id =
      if id = child then target else pointer parents id := by
  by_cases same : id = child
  · subst same
    simp [pointer, Array.getD_eq_getD_getElem?, known]
  · rw [pointer, Array.getD_eq_getD_getElem?, Array.getElem?_setIfInBounds_ne (Ne.symm same)]
    simp [pointer, Array.getD_eq_getD_getElem?, same]

/-- A new number that points at itself looks like one that was never there. -/
theorem pointer_push (parents : Array Nat) (id : Nat) :
    pointer (parents.push parents.size) id = pointer parents id := by
  by_cases last : id = parents.size
  · subst last
    simp [pointer, Array.getD_eq_getD_getElem?]
  · simp [pointer, Array.getD_eq_getD_getElem?, Array.getElem?_push, last]

namespace Leads

variable {parents : Array Nat} {id root : Nat} {way : List Nat}

/-- Only the pointers matter. -/
theorem congr {others : Array Nat} (same : ∀ id, pointer others id = pointer parents id)
    (leads : Leads parents id way root) : Leads others id way root := by
  induction leads with
  | here fixed => exact .here (by rw [same, fixed])
  | up moves rest inductionHypothesis =>
      refine .up (by rwa [same]) ?_
      rwa [same]

/-- Once `child` points at the root `target`, every way through `child` ends there,
and every other way is as before. -/
theorem redirect {child target : Nat} (leads : Leads parents id way root)
    (known : child < parents.size) (targetFixed : pointer parents target = target)
    (different : child ≠ target) :
    ∃ newWay, Leads (parents.setIfInBounds child target) id newWay
      (if child ∈ way then target else root) := by
  have moved := pointer_setIfInBounds known target
  have fromTarget : Leads (parents.setIfInBounds child target) target [target] target :=
    .here (by rw [moved, if_neg (Ne.symm different), targetFixed])
  have fromChild : Leads (parents.setIfInBounds child target) child [child, target] target := by
    have atTarget := moved child
    rw [if_pos rfl] at atTarget
    exact .up (by rw [atTarget]; exact Ne.symm different) (by rwa [atTarget])
  induction leads with
  | @here id fixed =>
      by_cases atChild : id = child
      · subst atChild
        exact ⟨_, by simpa using fromChild⟩
      · refine ⟨[id], ?_⟩
        rw [if_neg (by simpa using Ne.symm atChild)]
        exact .here (by rw [moved, if_neg atChild, fixed])
  | @up id root way moves rest inductionHypothesis =>
      by_cases atChild : id = child
      · subst atChild
        exact ⟨_, by simpa using fromChild⟩
      · obtain ⟨newWay, leadsOn⟩ := inductionHypothesis
        have unmoved := moved id
        rw [if_neg atChild] at unmoved
        refine ⟨id :: newWay, .up (by rwa [unmoved]) ?_⟩
        rw [unmoved]
        simpa [Ne.symm atChild] using leadsOn

end Leads

/-- The second array has the same numbers as the first, and each has the same root. -/
structure SameRoots (before after : Array Nat) : Prop where
  size_eq : after.size = before.size
  forest : Forest after
  rootOf_eq : ∀ {id : Nat}, id < before.size → rootOf after id = rootOf before id

namespace SameRoots

theorem refl {parents : Array Nat} (forest : Forest parents) : SameRoots parents parents :=
  ⟨rfl, forest, fun _ => rfl⟩

theorem trans {first second third : Array Nat} (one : SameRoots first second)
    (two : SameRoots second third) : SameRoots first third where
  size_eq := two.size_eq.trans one.size_eq
  forest := two.forest
  rootOf_eq := fun known =>
    (two.rootOf_eq (by rwa [one.size_eq])).trans (one.rootOf_eq known)

end SameRoots

namespace Forest

variable {parents : Array Nat}

theorem empty : Forest #[] :=
  ⟨by simp, by simp⟩

/-- A new number is a root, and nothing else changes. -/
theorem push (forest : Forest parents) : Forest (parents.push parents.size) where
  inside := by
    intro id known
    rw [pointer_push, Array.size_push]
    rw [Array.size_push] at known
    rcases Nat.lt_succ_iff_lt_or_eq.mp known with old | rfl
    · exact Nat.lt_succ_of_lt (forest.inside old)
    · rw [pointer_of_le (Nat.le_refl _)]
      exact known
  rooted := by
    intro id known
    rw [Array.size_push] at known
    rcases Nat.lt_succ_iff_lt_or_eq.mp known with old | rfl
    · obtain ⟨way, root, leads⟩ := forest.rooted old
      exact ⟨way, root, leads.congr (pointer_push parents)⟩
    · exact ⟨_, _, .here (by rw [pointer_push, pointer_of_le (Nat.le_refl _)])⟩

theorem rootOf_push (forest : Forest parents) {id : Nat} (known : id < parents.size + 1) :
    rootOf (parents.push parents.size) id =
      if id = parents.size then id else rootOf parents id := by
  have knownAfter : id < (parents.push parents.size).size := by simpa using known
  split
  case isTrue new =>
    have fixed : pointer (parents.push parents.size) id = id := by
      rw [pointer_push, pointer_of_le (Nat.le_of_eq new.symm)]
    exact forest.push.rootOf_of_fixed knownAfter fixed
  case isFalse old =>
    obtain ⟨way, leads⟩ := forest.leads_rootOf (by omega : id < parents.size)
    exact forest.push.rootOf_eq (leads.congr (pointer_push parents)) knownAfter

/-- Pointing a number at a root keeps the forest a forest. -/
theorem redirect (forest : Forest parents) {child target : Nat} (childKnown : child < parents.size)
    (targetKnown : target < parents.size) (targetFixed : pointer parents target = target)
    (different : child ≠ target) : Forest (parents.setIfInBounds child target) where
  inside := by
    intro id known
    rw [Array.size_setIfInBounds] at known ⊢
    rw [pointer_setIfInBounds childKnown]
    split
    · exact targetKnown
    · exact forest.inside known
  rooted := by
    intro id known
    rw [Array.size_setIfInBounds] at known
    obtain ⟨way, root, leads⟩ := forest.rooted known
    obtain ⟨newWay, newLeads⟩ := leads.redirect childKnown targetFixed different
    exact ⟨newWay, _, newLeads⟩

/-- Putting one root below another moves its whole group there, and no other number. -/
theorem rootOf_link (forest : Forest parents) {child target : Nat}
    (childKnown : child < parents.size) (targetKnown : target < parents.size)
    (childFixed : pointer parents child = child)
    (targetFixed : pointer parents target = target) (different : child ≠ target)
    {id : Nat} (known : id < parents.size) :
    rootOf (parents.setIfInBounds child target) id =
      if rootOf parents id = child then target else rootOf parents id := by
  obtain ⟨way, leads⟩ := forest.leads_rootOf known
  obtain ⟨newWay, newLeads⟩ := leads.redirect childKnown targetFixed different
  rw [(forest.redirect childKnown targetKnown targetFixed different).rootOf_eq newLeads
    (by simpa using known)]
  have through : child ∈ way ↔ rootOf parents id = child := by
    constructor
    · intro visited
      obtain ⟨rest, leadsOn, -⟩ := leads.of_mem visited
      exact (leadsOn.deterministic (.here childFixed)).2
    · intro same
      rw [← same]
      exact leads.root_mem
  simp only [through]

/-- Pointing a number straight at its own root leaves every root as it is. -/
theorem sameRoots_redirect (forest : Forest parents) {id : Nat} (known : id < parents.size) :
    SameRoots parents (parents.setIfInBounds id (rootOf parents id)) := by
  by_cases isRoot : rootOf parents id = id
  · have fixed := forest.rootOf_fixed known
    rw [isRoot] at fixed ⊢
    have same : ∀ other, pointer (parents.setIfInBounds id id) other =
        pointer parents other := by
      intro other
      rw [pointer_setIfInBounds known]
      split
      case isTrue here => rw [here, fixed]
      case isFalse => rfl
    have after : Forest (parents.setIfInBounds id id) := by
      constructor
      · intro other otherKnown
        rw [Array.size_setIfInBounds] at otherKnown ⊢
        rw [same]
        exact forest.inside otherKnown
      · intro other otherKnown
        rw [Array.size_setIfInBounds] at otherKnown
        obtain ⟨way, root, leads⟩ := forest.rooted otherKnown
        exact ⟨way, root, leads.congr same⟩
    refine ⟨Array.size_setIfInBounds, after, fun {other} otherKnown => ?_⟩
    obtain ⟨way, leads⟩ := forest.leads_rootOf otherKnown
    exact after.rootOf_eq (leads.congr same) (by simpa using otherKnown)
  · have targetKnown := forest.rootOf_lt known
    have targetFixed := forest.rootOf_fixed known
    have after := forest.redirect known targetKnown targetFixed (Ne.symm isRoot)
    refine ⟨Array.size_setIfInBounds, after, fun {other} otherKnown => ?_⟩
    obtain ⟨way, leads⟩ := forest.leads_rootOf otherKnown
    obtain ⟨newWay, newLeads⟩ := leads.redirect known targetFixed (Ne.symm isRoot)
    rw [after.rootOf_eq newLeads (by simpa using otherKnown)]
    split
    case isTrue visited =>
      obtain ⟨rest, leadsOn, -⟩ := leads.of_mem visited
      exact forest.rootOf_eq leadsOn known
    case isFalse => rfl

/-- Shortening a way leaves every root as it is. -/
theorem sameRoots_shorten (forest : Forest parents) {id : Nat} (known : id < parents.size)
    (steps : Nat) : SameRoots parents (shorten (rootOf parents id) steps parents id) := by
  induction steps generalizing parents id with
  | zero => exact .refl forest
  | succ steps inductionHypothesis =>
      have parentEq : parents.getD id (rootOf parents id) = pointer parents id := by
        simp [pointer, Array.getD_eq_getD_getElem?, known]
      simp only [shorten, parentEq]
      split
      case isTrue => exact .refl forest
      case isFalse =>
        have redirected := forest.sameRoots_redirect known
        have parentKnown := forest.inside known
        have onwards := inductionHypothesis redirected.forest
          (by rwa [redirected.size_eq] : pointer parents id < _)
        rw [redirected.rootOf_eq parentKnown, forest.rootOf_pointer known] at onwards
        exact redirected.trans onwards

end Forest

end StaticSite.Bundling
