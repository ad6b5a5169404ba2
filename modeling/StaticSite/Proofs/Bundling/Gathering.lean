/-
Module: StaticSite.Proofs.Bundling.Gathering
Purpose: What the bundles of a registry hold after any sequence of calls.  The surviving bundles
  are those of the groups into which merging divides the bundles that were added, and each holds
  what was added for its group, nothing lost and nothing twice.
Trusted boundary: none
Main exports:
  gathered, gathered_append, additions, Registry.call_cases, Registry.IsGroup,
  Registry.Gathering, Registry.Gathering.call, Registry.Gathering.stateAfter, survivors_gather
-/
import StaticSite.Proofs.Bundling.Carriers
import StaticSite.Proofs.Bundling.Labelling

namespace StaticSite.Bundling

open Text

/-! ### Bundles put together -/

/-- Several bundles as one: their names with dashes between them, their codes with line feeds
between them, and their components one after the other.  The URL is that of the first one. -/
def gathered : List Bundle → Bundle
  | [] => default
  | first :: rest =>
      { name := joinWith "-" ((first :: rest).map (·.name))
        code := joinWith "\n" ((first :: rest).map (·.code))
        components := (first :: rest).flatMap (·.components)
        src := first.src }

theorem gathered_singleton (bundle : Bundle) : gathered [bundle] = bundle := by
  simp [gathered, joinWith]

/-- Putting bundles together in two parts is absorbing the second part. -/
theorem gathered_append {first second : List Bundle} (firstNonempty : first ≠ [])
    (secondNonempty : second ≠ []) :
    gathered (first ++ second) = (gathered first).absorb (gathered second) := by
  cases first with
  | nil => exact absurd rfl firstNonempty
  | cons bundle others =>
      cases second with
      | nil => exact absurd rfl secondNonempty
      | cons bundle' others' =>
          have names := joinWith_append "-" (List.cons_ne_nil bundle.name (others.map (·.name)))
            (List.cons_ne_nil bundle'.name (others'.map (·.name)))
          have codes := joinWith_append "\n" (List.cons_ne_nil bundle.code (others.map (·.code)))
            (List.cons_ne_nil bundle'.code (others'.map (·.code)))
          simp only [List.cons_append] at names codes
          simp [gathered, Bundle.absorb, names, codes]

/-! ### What is added -/

/-- The number that a call gave to a bundle, with the bundle as it was then. -/
def addition? : Call × Except RegistryError Answer → Option (Nat × Bundle)
  | (.add _ bundle, .ok (.number id)) => some (id, bundle)
  | _ => none

/-- The bundles that calls have added, each with its number, in the order of the calls.  What was
refused is not among them. -/
def additions (calls : List Call) (answered : List (Except RegistryError Answer)) :
    List (Nat × Bundle) :=
  (calls.zip answered).filterMap addition?

namespace Registry

variable {registry after : Registry} {added : List (Nat × Bundle)} {root : Nat}

/-- All that a call can do: it adds a bundle for a new signature, or it merges two groups, or it
adds nothing and changes nothing that can be seen. -/
theorem call_cases (wellFormed : registry.WellFormed) (call : Call) :
    (∃ signature bundle, call = .add signature bundle ∧ registry.idOf? signature = none) ∨
      (∃ representative other, call = .union representative other ∧
        representative < registry.bundles.size ∧ other < registry.bundles.size ∧
        registry.root representative ≠ registry.root other) ∨
      (addition? (call, (registry.call call).1) = none ∧
        SameView registry (registry.call call).2) := by
  have here := SameView.refl wellFormed
  cases call with
  | add signature bundle =>
      cases owned : registry.idOf? signature with
      | none => exact .inl ⟨signature, bundle, rfl, owned⟩
      | some id =>
          have refused : registry.add signature bundle = .error (.alreadyOwned signature) := by
            simp [add, contains, owned]
          simp only [Registry.call, refused, settle_error]
          exact .inr (.inr ⟨rfl, here⟩)
  | find id =>
      refine .inr (.inr ⟨rfl, ?_⟩)
      by_cases known : id < registry.bundles.size
      · obtain ⟨_, found, view⟩ := find_spec wellFormed known
        simpa only [Registry.call, found, settle_ok] using view
      · simpa only [Registry.call, find_of_unused wellFormed known, settle_error] using here
  | union representative other =>
      have unseen := sameView_followed wellFormed [representative, other]
      obtain ⟨noRepresentative, noOther, sameGroup⟩ :=
        union_of_error wellFormed representative other
      by_cases representativeKnown : representative < registry.bundles.size
      · by_cases otherKnown : other < registry.bundles.size
        · by_cases same : registry.root representative = registry.root other
          · obtain ⟨kept, stored⟩ := exists_stored (wellFormed.root_lt representativeKnown)
            refine .inr (.inr ⟨rfl, ?_⟩)
            simpa only [Registry.call, sameGroup representativeKnown otherKnown same stored,
              settle_error] using unseen
          · exact .inr (.inl ⟨_, _, rfl, representativeKnown, otherKnown, same⟩)
        · refine .inr (.inr ⟨rfl, ?_⟩)
          simpa only [Registry.call, noOther representativeKnown otherKnown, settle_error]
            using unseen
      · refine .inr (.inr ⟨rfl, ?_⟩)
        simpa only [Registry.call, noRepresentative representativeKnown, settle_error]
          using unseen
  | resolve signature =>
      obtain ⟨_, resolved, view⟩ := resolve_spec wellFormed signature
      refine .inr (.inr ⟨rfl, ?_⟩)
      simpa only [Registry.call, resolved, settle_ok] using view
  | bundles =>
      obtain ⟨_, surviving, view⟩ := survivors_spec wellFormed
      refine .inr (.inr ⟨rfl, ?_⟩)
      simpa only [Registry.call, surviving, settle_ok] using view
  | idOf | signatures | contains | size => exact .inr (.inr ⟨rfl, here⟩)

/-! ### Groups -/

/-- The additions that were merged into the one of the number `root`, in the order in which
its bundle took them up. -/
structure IsGroup (added : List (Nat × Bundle)) (registry : Registry) (root : Nat)
    (group : List (Nat × Bundle)) : Prop where
  starts : ∃ bundle rest, group = (root, bundle) :: rest
  nodup : group.Nodup
  mem_iff : ∀ entry, entry ∈ group ↔ entry ∈ added ∧ registry.root entry.1 = root
  stored : registry.bundles[root]? = some (gathered (group.map (·.2)))

/-- The registry holds what was added: numbers were given in order, and the bundle of every
number that is its own root holds the group of that number. -/
structure Gathering (added : List (Nat × Bundle)) (registry : Registry) : Prop where
  wellFormed : registry.WellFormed
  ids_eq : added.map (·.1) = List.range registry.bundles.size
  exists_group : ∀ {root}, root < registry.bundles.size → registry.root root = root →
    ∃ group, IsGroup added registry root group

namespace IsGroup

variable {group : List (Nat × Bundle)}

theorem nonempty (isGroup : IsGroup added registry root group) : group.map (·.2) ≠ [] := by
  obtain ⟨bundle, rest, rfl⟩ := isGroup.starts
  exact List.cons_ne_nil _ _

/-- A group stays one when the same additions have the root as before and its bundle is not
touched. -/
theorem congr {added' : List (Nat × Bundle)} (isGroup : IsGroup added registry root group)
    (sameMembers : ∀ entry, entry ∈ added' ∧ after.root entry.1 = root ↔
      entry ∈ added ∧ registry.root entry.1 = root)
    (sameBundle : after.bundles[root]? = registry.bundles[root]?) :
    IsGroup added' after root group where
  starts := isGroup.starts
  nodup := isGroup.nodup
  mem_iff := fun entry => (isGroup.mem_iff entry).trans (sameMembers entry).symm
  stored := sameBundle.trans isGroup.stored

/-- An addition that has its root for itself is a group. -/
theorem singleton {bundle : Bundle}
    (alone : ∀ entry, entry ∈ added ∧ registry.root entry.1 = root ↔ entry = (root, bundle))
    (stored : registry.bundles[root]? = some bundle) :
    IsGroup added registry root [(root, bundle)] where
  starts := ⟨bundle, [], rfl⟩
  nodup := List.nodup_singleton _
  mem_iff := fun entry => List.mem_singleton.trans (alone entry).symm
  stored := by rw [stored, List.map_singleton, gathered_singleton]

/-- Two groups are one when their additions have come to the same root and the bundle there has
absorbed the other one. -/
theorem merge {other : Nat} {otherGroup : List (Nat × Bundle)}
    (isGroup : IsGroup added registry root group)
    (isOther : IsGroup added registry other otherGroup) (apart : root ≠ other)
    (together : ∀ entry ∈ added, after.root entry.1 = root ↔
      registry.root entry.1 = root ∨ registry.root entry.1 = other)
    (absorbed : after.bundles[root]? =
      some ((gathered (group.map (·.2))).absorb (gathered (otherGroup.map (·.2))))) :
    IsGroup added after root (group ++ otherGroup) where
  starts := by
    obtain ⟨bundle, rest, rfl⟩ := isGroup.starts
    exact ⟨bundle, rest ++ otherGroup, rfl⟩
  nodup := by
    -- no addition has both roots
    refine isGroup.nodup.append isOther.nodup fun entry inGroup inOther => ?_
    have ofGroup := ((isGroup.mem_iff entry).mp inGroup).2
    have ofOther := ((isOther.mem_iff entry).mp inOther).2
    exact apart (ofGroup.symm.trans ofOther)
  mem_iff := by
    intro entry
    rw [List.mem_append, isGroup.mem_iff, isOther.mem_iff, ← and_or_left]
    exact and_congr_right fun member => (together entry member).symm
  stored := by
    rw [absorbed, List.map_append, gathered_append isGroup.nonempty isOther.nonempty]

end IsGroup

namespace Gathering

theorem empty : Gathering [] .empty where
  wellFormed := .empty
  ids_eq := rfl
  exists_group := fun known => absurd known (Nat.not_lt_zero _)

/-- Numbers of additions are in use. -/
theorem lt_of_mem (gathering : Gathering added registry) {entry : Nat × Bundle}
    (member : entry ∈ added) : entry.1 < registry.bundles.size := by
  have listed : entry.1 ∈ added.map (·.1) := List.mem_map_of_mem member
  rw [gathering.ids_eq] at listed
  exact List.mem_range.mp listed

theorem nodup_ids (gathering : Gathering added registry) : (added.map (·.1)).Nodup := by
  rw [gathering.ids_eq]
  exact List.nodup_range

/-- Groups do not depend on how long the ways to the roots are. -/
theorem of_view (gathering : Gathering added registry) (view : SameView registry after) :
    Gathering added after where
  wellFormed := view.wellFormed gathering.wellFormed
  ids_eq := by rw [view.bundles_eq, gathering.ids_eq]
  exists_group := by
    intro root known isRoot
    rw [view.bundles_eq] at known
    rw [view.root_eq gathering.wellFormed known] at isRoot
    obtain ⟨group, isGroup⟩ := gathering.exists_group known isRoot
    refine ⟨group, isGroup.congr (fun entry => and_congr_right fun member => ?_) ?_⟩
    · rw [view.root_eq gathering.wellFormed (gathering.lt_of_mem member)]
    · rw [view.bundles_eq]

/-- An added bundle is a group of its own, and the other groups stay as they are. -/
theorem add (gathering : Gathering added registry) {signature : Signature} {bundle : Bundle}
    (unowned : registry.idOf? signature = none) :
    Gathering
      (added ++ (addition? (.add signature bundle,
        (registry.call (.add signature bundle)).1)).toList)
      (registry.call (.add signature bundle)).2 := by
  obtain ⟨after, answered, wellFormed, bundles, -, roots⟩ :=
    add_spec gathering.wellFormed unowned bundle
  simp only [Registry.call, answered, settle_ok, addition?, Option.toList_some]
  have old : ∀ {entry}, entry ∈ added → entry.1 ≠ registry.bundles.size ∧
      after.root entry.1 = registry.root entry.1 := by
    intro entry member
    have known := gathering.lt_of_mem member
    rw [roots (Nat.le_of_lt known), if_neg (Nat.ne_of_lt known)]
    exact ⟨Nat.ne_of_lt known, rfl⟩
  have newRoot : after.root registry.bundles.size = registry.bundles.size := by
    rw [roots (Nat.le_refl _), if_pos rfl]
  refine ⟨wellFormed, ?_, ?_⟩
  · rw [List.map_append, gathering.ids_eq, bundles, Array.size_push, List.range_succ]
    rfl
  · intro root known isRoot
    rw [bundles, Array.size_push] at known
    rcases Nat.lt_succ_iff_lt_or_eq.mp known with before | rfl
    · rw [roots (Nat.le_of_lt before), if_neg (Nat.ne_of_lt before)] at isRoot
      obtain ⟨group, isGroup⟩ := gathering.exists_group before isRoot
      refine ⟨group, isGroup.congr (fun entry => ?_) ?_⟩
      · rw [List.mem_append, List.mem_singleton]
        constructor
        · rintro ⟨member | rfl, rooted⟩
          · exact ⟨member, (old member).2 ▸ rooted⟩
          · exact absurd (newRoot.symm.trans rooted) (Nat.ne_of_gt before)
        · rintro ⟨member, rooted⟩
          exact ⟨.inl member, (old member).2.trans rooted⟩
      · rw [bundles, Array.getElem?_push, if_neg (Nat.ne_of_lt before)]
    · refine ⟨[(registry.bundles.size, bundle)], .singleton (fun entry => ?_) ?_⟩
      · rw [List.mem_append, List.mem_singleton]
        constructor
        · rintro ⟨member | rfl, rooted⟩
          · rw [(old member).2] at rooted
            have inside := gathering.wellFormed.root_lt (gathering.lt_of_mem member)
            exact absurd rooted (Nat.ne_of_lt inside)
          · rfl
        · rintro rfl
          exact ⟨.inr rfl, newRoot⟩
      · rw [bundles, Array.getElem?_push, if_pos rfl]

/-- Merging puts one group behind another, and the other groups stay as they are. -/
theorem union (gathering : Gathering added registry) {representative other : Nat}
    (representativeKnown : representative < registry.bundles.size)
    (otherKnown : other < registry.bundles.size)
    (apart : registry.root representative ≠ registry.root other) :
    Gathering added (registry.call (.union representative other)).2 := by
  have wellFormed := gathering.wellFormed
  have keepKnown := wellFormed.root_lt representativeKnown
  have dropKnown := wellFormed.root_lt otherKnown
  obtain ⟨kept, keptGroup⟩ :=
    gathering.exists_group keepKnown (wellFormed.root_root representativeKnown)
  obtain ⟨dropped, droppedGroup⟩ :=
    gathering.exists_group dropKnown (wellFormed.root_root otherKnown)
  obtain ⟨after, answered, afterWellFormed, bundles, -, roots⟩ :=
    union_spec wellFormed representativeKnown otherKnown apart keptGroup.stored
      droppedGroup.stored
  simp only [Registry.call, answered, settle_ok]
  generalize registry.root representative = keep at *
  generalize registry.root other = drop at *
  refine ⟨afterWellFormed, ?_, ?_⟩
  · rw [gathering.ids_eq, bundles, Array.size_setIfInBounds]
  · intro root known isRoot
    rw [bundles, Array.size_setIfInBounds] at known
    rw [roots known] at isRoot
    by_cases isKept : root = keep
    · subst isKept
      refine ⟨kept ++ dropped, keptGroup.merge droppedGroup apart (fun entry member => ?_) ?_⟩
      · rw [roots (gathering.lt_of_mem member)]
        split
        case isTrue moved => exact iff_of_true rfl (.inr moved)
        case isFalse stays => exact (or_iff_left stays).symm
      · rw [bundles, Array.getElem?_setIfInBounds_self_of_lt keepKnown]
    · -- a root other than the kept one is neither the dropped one
      have stays : registry.root root ≠ drop := by
        intro moved
        rw [if_pos moved] at isRoot
        exact isKept isRoot.symm
      rw [if_neg stays] at isRoot
      obtain ⟨group, isGroup⟩ := gathering.exists_group known isRoot
      refine ⟨group, isGroup.congr (fun entry => and_congr_right fun member => ?_) ?_⟩
      · rw [roots (gathering.lt_of_mem member)]
        split
        case isTrue moved =>
          rw [moved]
          exact iff_of_false (Ne.symm isKept) fun same => stays (isRoot.trans same.symm)
        case isFalse => rfl
      · rw [bundles, Array.getElem?_setIfInBounds_ne (Ne.symm isKept)]

/-- Every call keeps what was added together. -/
theorem call (gathering : Gathering added registry) (call : Call) :
    Gathering (added ++ (addition? (call, (registry.call call).1)).toList)
      (registry.call call).2 := by
  rcases call_cases gathering.wellFormed call with
    ⟨signature, bundle, rfl, unowned⟩ |
      ⟨representative, other, rfl, representativeKnown, otherKnown, apart⟩ | ⟨nothing, view⟩
  · exact gathering.add unowned
  · rw [show addition? (.union representative other, _) = none from rfl, Option.toList_none,
      List.append_nil]
    exact gathering.union representativeKnown otherKnown apart
  · rw [nothing, Option.toList_none, List.append_nil]
    exact gathering.of_view view

/-- Any sequence of calls keeps what was added together. -/
theorem stateAfter (gathering : Gathering added registry) (calls : List Call) :
    Gathering (added ++ additions calls (answers Registry.call registry calls))
      (Bundling.stateAfter Registry.call registry calls) := by
  induction calls generalizing registry added with
  | nil => simpa [additions, Bundling.stateAfter] using gathering
  | cons first rest inductionHypothesis =>
      have onwards := inductionHypothesis (gathering.call first)
      have split : additions (first :: rest) (answers Registry.call registry (first :: rest)) =
          (addition? (first, (registry.call first).1)).toList ++
            additions rest (answers Registry.call (registry.call first).2 rest) := by
        simp only [additions, answers, List.zip_cons_cons, List.filterMap_cons]
        cases addition? (first, (registry.call first).1) <;> rfl
      rw [split, ← List.append_assoc]
      exact onwards

/-- No addition has two roots, so the groups of different roots share nothing. -/
theorem nodup_flatMap {roots : List Nat} (distinct : roots.Nodup)
    {groupOf : Nat → List (Nat × Bundle)}
    (isGroup : ∀ root ∈ roots, IsGroup added registry root (groupOf root)) :
    (roots.flatMap groupOf).Nodup := by
  refine List.nodup_flatMap.mpr ⟨fun root isRoot => (isGroup root isRoot).nodup, ?_⟩
  refine distinct.imp_of_mem fun {first second} firstRoot secondRoot apart => ?_
  intro entry inFirst inSecond
  have ofFirst := (((isGroup first firstRoot).mem_iff entry).mp inFirst).2
  have ofSecond := (((isGroup second secondRoot).mem_iff entry).mp inSecond).2
  exact apart (ofFirst.symm.trans ofSecond)

/-- The groups of the roots are the additions in another order. -/
theorem perm_flatMap (gathering : Gathering added registry)
    {groupOf : Nat → List (Nat × Bundle)}
    (isGroup : ∀ root ∈ registry.roots, IsGroup added registry root (groupOf root)) :
    (registry.roots.flatMap groupOf).Perm added := by
  have distinct : registry.roots.Nodup := List.nodup_range.filter _
  refine (List.perm_ext_iff_of_nodup (nodup_flatMap distinct isGroup)
    gathering.nodup_ids.of_map).mpr fun entry => ?_
  rw [List.mem_flatMap]
  constructor
  · rintro ⟨root, isRoot, member⟩
    exact (((isGroup root isRoot).mem_iff entry).mp member).1
  · intro member
    have isRoot := root_mem_roots gathering.wellFormed (gathering.lt_of_mem member)
    exact ⟨_, isRoot, ((isGroup _ isRoot).mem_iff entry).mpr ⟨member, rfl⟩⟩

end Gathering

end Registry

/-- In every state that calls can lead to, some of which may have failed, the surviving bundles
stand for groups that divide the additions among them: each addition is in one group, once, and
it is in the group whose first number is the one that finding its number answers.  The bundle of
a group has the names, the codes and the components with which its members were added, those of
its own number first. -/
theorem survivors_gather (calls : List Call) :
    let registry := stateAfter Registry.call .empty calls
    let added := additions calls (answers Registry.call .empty calls)
    ∃ groups : List (List (Nat × Bundle)),
      (registry.call .bundles).1 =
          .ok (.surviving (groups.map fun group => gathered (group.map (·.2)))) ∧
        groups.flatten.Perm added ∧ (added.map (·.1)).Nodup ∧
        ∀ group ∈ groups, ∃ root bundle rest, group = (root, bundle) :: rest ∧
          ∀ entry ∈ added,
            entry ∈ group ↔ (registry.call (.find entry.1)).1 = .ok (.number root) := by
  intro registry added
  have gathering : Registry.Gathering added registry := by
    simpa using Registry.Gathering.empty.stateAfter calls
  have exists_group : ∀ root, ∃ group, root ∈ registry.roots →
      Registry.IsGroup added registry root group := by
    intro root
    by_cases isRoot : root ∈ registry.roots
    · obtain ⟨known, fixed⟩ := List.mem_filter.mp isRoot
      obtain ⟨group, isGroup⟩ :=
        gathering.exists_group (List.mem_range.mp known) (of_decide_eq_true fixed)
      exact ⟨group, fun _ => isGroup⟩
    · exact ⟨[], fun isRoot' => absurd isRoot' isRoot⟩
  choose groupOf isGroup using exists_group
  refine ⟨registry.roots.map groupOf, ?_, ?_, gathering.nodup_ids, ?_⟩
  · obtain ⟨_, surviving, -⟩ := Registry.survivors_spec gathering.wellFormed
    rw [Registry.call, surviving, settle_ok, Registry.survivingAmong_eq_map_roots, List.map_map]
    refine congrArg (Except.ok ∘ Answer.surviving) (List.map_congr_left fun root isRoot => ?_)
    have stored := Registry.stored_of_mem_roots isRoot
    exact Option.some_inj.mp (stored.symm.trans (isGroup root isRoot).stored)
  · rw [← List.flatMap_def]
    exact gathering.perm_flatMap isGroup
  · intro group member
    obtain ⟨root, isRoot, rfl⟩ := List.mem_map.mp member
    obtain ⟨bundle, rest, starts⟩ := (isGroup root isRoot).starts
    refine ⟨root, bundle, rest, starts, fun entry inAdded => ?_⟩
    obtain ⟨_, found, -⟩ :=
      Registry.find_spec gathering.wellFormed (gathering.lt_of_mem inAdded)
    rw [(isGroup root isRoot).mem_iff entry, and_iff_right inAdded, Registry.call, found, settle_ok,
      Except.ok.injEq, Answer.number.injEq]

end StaticSite.Bundling
