/-
Module: StaticSite.Proofs.FirstOccurrence
Purpose: Lists that keep only the first of equal elements, look-ups that find it, and which of
  two elements is found first.
Trusted boundary: none
Main exports:
  eraseDups_append_singleton, eraseDups_eq_foldl, nodup_eraseDups,
  eraseDups_eq_filterMap_range, lookup_cons_of_ne, MetBefore, metBefore_filter,
  metBefore_eraseDups, metBefore_filterMap_iff, metBefore_flatMap_of_same,
  metBefore_flatMap_of_apart
-/
import Mathlib.Data.List.Induction
import Mathlib.Data.List.Nodup

namespace StaticSite

open List

variable {α : Type} [DecidableEq α]

/-- An element at the end counts only if it has not been met before. -/
theorem eraseDups_append_singleton (values : List α) (value : α) :
    (values ++ [value]).eraseDups =
      if value ∈ values then values.eraseDups else values.eraseDups ++ [value] := by
  rw [eraseDups_append]
  by_cases present : value ∈ values
  · simp [removeAll, present]
  · simp [removeAll, present, eraseDups_cons]

/-- Keeping first occurrences is what a loop does that appends what is new. -/
theorem eraseDups_eq_foldl (values : List α) :
    values.eraseDups =
      values.foldl (fun seen value => if value ∈ seen then seen else seen ++ [value]) [] := by
  induction values using List.reverseRecOn with
  | nil => rfl
  | append_singleton values value inductionHypothesis =>
      rw [eraseDups_append_singleton, foldl_append, ← inductionHypothesis]
      simp only [foldl_cons, foldl_nil, mem_eraseDups]

theorem nodup_eraseDups (values : List α) : values.eraseDups.Nodup := by
  induction values using List.reverseRecOn with
  | nil => exact nodup_nil
  | append_singleton values value inductionHypothesis =>
      rw [eraseDups_append_singleton]
      split
      case isTrue => exact inductionHypothesis
      case isFalse absent =>
        refine nodup_append.mpr ⟨inductionHypothesis, by simp, ?_⟩
        intro kept keptMember other otherMember
        rw [mem_singleton.mp otherMember]
        rintro rfl
        exact absent (mem_eraseDups.mp keptMember)

/-- First occurrences are the elements that stand where they are found first. -/
theorem eraseDups_eq_filterMap_range (values : List α) :
    values.eraseDups =
      (range values.length).filterMap fun place =>
        values[place]?.filter fun value => values.idxOf value == place := by
  induction values using List.reverseRecOn with
  | nil => rfl
  | append_singleton values value inductionHypothesis =>
      have before : (range values.length).filterMap (fun place =>
            (values ++ [value])[place]?.filter fun other =>
              (values ++ [value]).idxOf other == place) =
          (range values.length).filterMap fun place =>
            values[place]?.filter fun other => values.idxOf other == place := by
        refine filterMap_congr fun place member => ?_
        have inside := mem_range.mp member
        rw [getElem?_append_left inside, getElem?_eq_getElem inside]
        simp only [Option.filter_some, idxOf_append_of_mem (getElem_mem inside)]
      rw [eraseDups_append_singleton, length_append, length_singleton, range_succ,
        filterMap_append, before, ← inductionHypothesis]
      by_cases present : value ∈ values
      · have earlier := idxOf_lt_length_of_mem present
        simp [present, idxOf_append_of_mem present, Nat.ne_of_lt earlier]
      · have last : (values ++ [value]).idxOf value = values.length := by
          rw [idxOf_append_of_notMem present]
          simp
        simp [present, last, Option.filter_some]

/-- A look-up passes over an entry with another key. -/
theorem lookup_cons_of_ne {β : Type} {key other : α} (apart : key ≠ other) (value : β)
    (rest : List (α × β)) : List.lookup key ((other, value) :: rest) = rest.lookup key := by
  rw [List.lookup_cons, beq_eq_false_iff_ne.mpr apart]

/-! ### Which of two elements is met first -/

/-- Going through the list, one meets the first element before the second, which may not be
there at all. -/
def MetBefore (values : List α) (first second : α) : Prop :=
  values.idxOf first < values.idxOf second

instance (values : List α) (first second : α) : Decidable (MetBefore values first second) :=
  inferInstanceAs (Decidable (_ < _))

section

variable {values rest : List α} {value first second : α}

theorem metBefore_cons_self : MetBefore (first :: rest) first second ↔ first ≠ second := by
  by_cases same : first = second
  · simp [MetBefore, same]
  · simp [MetBefore, idxOf_cons_ne _ same, same]

theorem not_metBefore_cons : ¬ MetBefore (second :: rest) first second := by
  simp [MetBefore]

theorem metBefore_cons_of_ne (apartFirst : value ≠ first) (apartSecond : value ≠ second) :
    MetBefore (value :: rest) first second ↔ MetBefore rest first second := by
  rw [MetBefore, MetBefore, idxOf_cons_ne _ apartFirst, idxOf_cons_ne _ apartSecond,
    Nat.succ_lt_succ_iff]

/-- Leaving out other elements does not change which of two is met first. -/
theorem metBefore_filter {keeps : α → Bool} (keepsFirst : keeps first = true)
    (keepsSecond : keeps second = true) :
    MetBefore (values.filter keeps) first second ↔ MetBefore values first second := by
  induction values with
  | nil => exact Iff.rfl
  | cons value rest inductionHypothesis =>
      by_cases isFirst : value = first
      · rw [isFirst, filter_cons_of_pos keepsFirst, metBefore_cons_self, metBefore_cons_self]
      · by_cases isSecond : value = second
        · rw [isSecond, filter_cons_of_pos keepsSecond]
          exact iff_of_false not_metBefore_cons not_metBefore_cons
        · rw [metBefore_cons_of_ne isFirst isSecond, ← inductionHypothesis]
          by_cases kept : keeps value = true
          · rw [filter_cons_of_pos kept, metBefore_cons_of_ne isFirst isSecond]
          · rw [filter_cons_of_neg kept]

/-- Nor does leaving out all but the first of equal elements. -/
theorem metBefore_eraseDups :
    MetBefore values.eraseDups first second ↔ MetBefore values first second := by
  induction length : values.length using Nat.strongRecOn generalizing values with
  | ind size inductionHypothesis =>
      cases values with
      | nil => exact Iff.rfl
      | cons value rest =>
          rw [eraseDups_cons]
          by_cases isFirst : value = first
          · rw [isFirst, metBefore_cons_self, metBefore_cons_self]
          · by_cases isSecond : value = second
            · rw [isSecond]
              exact iff_of_false not_metBefore_cons not_metBefore_cons
            · have shorter : (rest.filter fun other => !other == value).length < size := by
                rw [← length, length_cons]
                exact Nat.lt_succ_of_le (length_filter_le _ _)
              rw [metBefore_cons_of_ne isFirst isSecond, metBefore_cons_of_ne isFirst isSecond,
                inductionHypothesis _ shorter rfl, metBefore_filter]
              · simpa using Ne.symm isFirst
              · simpa using Ne.symm isSecond

/-- Of two images the one is met first that has an element before all elements of the other. -/
theorem metBefore_filterMap_iff {β : Type} [DecidableEq β] {image : α → Option β}
    {firstImage secondImage : β} :
    MetBefore (values.filterMap image) firstImage secondImage ↔
      ∃ first ∈ values, image first = some firstImage ∧
        ∀ second ∈ values, image second = some secondImage → MetBefore values first second := by
  induction values with
  | nil => simp [MetBefore]
  | cons value rest inductionHypothesis =>
      -- The head has another image: it is neither of the elements that are asked for.
      have onwards (notFirst : image value ≠ some firstImage)
          (notSecond : image value ≠ some secondImage) :
          (∃ first ∈ rest, image first = some firstImage ∧ ∀ second ∈ rest,
              image second = some secondImage → MetBefore rest first second) ↔
            ∃ first ∈ value :: rest, image first = some firstImage ∧ ∀ second ∈ value :: rest,
              image second = some secondImage → MetBefore (value :: rest) first second := by
        have apart {other : α} {otherImage : β} (found : image other = some otherImage)
            (differs : image value ≠ some otherImage) : value ≠ other := by
          rintro rfl
          exact differs found
        rw [exists_mem_cons_iff, or_iff_right fun found => notFirst found.1]
        refine exists_congr fun first => and_congr_right fun _ => and_congr_right fun found => ?_
        rw [forall_mem_cons, and_iff_right fun found => absurd found notSecond]
        refine forall₂_congr fun second _ => imp_congr_right fun secondFound => ?_
        rw [metBefore_cons_of_ne (apart found notFirst) (apart secondFound notSecond)]
      cases found : image value with
      | none =>
          rw [filterMap_cons_none found, inductionHypothesis]
          exact onwards (by simp [found]) (by simp [found])
      | some here =>
          rw [filterMap_cons_some found]
          by_cases isSecond : here = secondImage
          · rw [isSecond]
            refine iff_of_false not_metBefore_cons ?_
            rintro ⟨first, -, -, before⟩
            exact not_metBefore_cons (before value mem_cons_self (by rw [found, isSecond]))
          · by_cases isFirst : here = firstImage
            · rw [isFirst, metBefore_cons_self]
              refine iff_of_true (isFirst ▸ isSecond)
                ⟨value, mem_cons_self, by rw [found, isFirst], ?_⟩
              intro second _ secondFound
              rw [metBefore_cons_self]
              rintro rfl
              exact isSecond (Option.some.inj (found.symm.trans secondFound))
            · rw [metBefore_cons_of_ne isFirst isSecond, inductionHypothesis]
              exact onwards (by simpa [found] using isFirst) (by simpa [found] using isSecond)

theorem metBefore_append_of_not_mem (absentFirst : first ∉ values)
    (absentSecond : second ∉ values) :
    MetBefore (values ++ rest) first second ↔ MetBefore rest first second := by
  rw [MetBefore, MetBefore, idxOf_append_of_notMem absentFirst, idxOf_append_of_notMem absentSecond,
    Nat.add_lt_add_iff_left]

section Blocks

variable {β : Type} [DecidableEq β] {blocks : List β} {block firstBlock secondBlock : β}
  {contents : β → List α}

/-- If two elements stand in one block only, going through it tells which of them is met
first. -/
theorem metBefore_flatMap_of_same (member : block ∈ blocks)
    (firstThere : ∀ other ∈ blocks, first ∈ contents other ↔ other = block)
    (secondThere : ∀ other ∈ blocks, second ∈ contents other ↔ other = block) :
    MetBefore (blocks.flatMap contents) first second ↔
      MetBefore (contents block) first second := by
  induction blocks with
  | nil => cases member
  | cons head blocks inductionHypothesis =>
      rw [flatMap_cons]
      have firstHere := firstThere head mem_cons_self
      have secondHere := secondThere head mem_cons_self
      by_cases here : head = block
      · rw [MetBefore, MetBefore, idxOf_append_of_mem (firstHere.mpr here),
          idxOf_append_of_mem (secondHere.mpr here), here]
      · rw [metBefore_append_of_not_mem (mt firstHere.mp here) (mt secondHere.mp here)]
        exact inductionHypothesis ((mem_cons.mp member).resolve_left (Ne.symm here))
          (fun other later => firstThere other (mem_cons_of_mem _ later))
          (fun other later => secondThere other (mem_cons_of_mem _ later))

/-- If two elements stand in a block each, the block that is met first tells which of them is
met first. -/
theorem metBefore_flatMap_of_apart (apart : firstBlock ≠ secondBlock)
    (firstThere : ∀ other ∈ blocks, first ∈ contents other ↔ other = firstBlock)
    (secondThere : ∀ other ∈ blocks, second ∈ contents other ↔ other = secondBlock) :
    MetBefore (blocks.flatMap contents) first second ↔
      MetBefore blocks firstBlock secondBlock := by
  induction blocks with
  | nil => simp [MetBefore]
  | cons head blocks inductionHypothesis =>
      rw [flatMap_cons]
      have firstHere := firstThere head mem_cons_self
      have secondHere := secondThere head mem_cons_self
      by_cases isFirst : head = firstBlock
      · subst isFirst
        have inside := firstHere.mpr rfl
        rw [metBefore_cons_self, MetBefore, idxOf_append_of_mem inside,
          idxOf_append_of_notMem (mt secondHere.mp apart)]
        exact iff_of_true (Nat.lt_add_right _ (idxOf_lt_length_of_mem inside)) apart
      · by_cases isSecond : head = secondBlock
        · subst isSecond
          have inside := secondHere.mpr rfl
          have absent := mt firstHere.mp isFirst
          rw [MetBefore, idxOf_append_of_mem inside, idxOf_append_of_notMem absent]
          have earlier := Nat.le_of_lt (idxOf_lt_length_of_mem inside)
          exact iff_of_false (Nat.not_lt.mpr (Nat.le_add_right_of_le earlier)) not_metBefore_cons
        · rw [metBefore_append_of_not_mem (mt firstHere.mp isFirst) (mt secondHere.mp isSecond),
            metBefore_cons_of_ne isFirst isSecond]
          exact inductionHypothesis
            (fun other later => firstThere other (mem_cons_of_mem _ later))
            (fun other later => secondThere other (mem_cons_of_mem _ later))

end Blocks

end

end StaticSite
