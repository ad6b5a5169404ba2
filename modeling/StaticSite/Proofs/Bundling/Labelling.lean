/-
Module: StaticSite.Proofs.Bundling.Labelling
Purpose: A registry answers every sequence of calls like one that keeps no pointers: each
  number is labelled with the one that represents it, merging relabels a whole group, and a
  call that fails changes nothing.
Trusted boundary: none
Main exports:
  Call, Answer, Registry.call, Labelling, Labelling.call, answers, Registry.Labelled,
  Registry.Labelled.agree_call, answers_eq_labelling
-/
import StaticSite.Proofs.Bundling.Registry

namespace StaticSite.Bundling

/-! ### Calls and answers -/

/-- What can be asked of a registry. -/
inductive Call where
  | add (signature : Signature) (bundle : Bundle)
  | find (id : Nat)
  | union (representative other : Nat)
  | idOf (signature : Signature)
  | resolve (signature : Signature)
  | bundles
  | signatures
  | contains (signature : Signature)
  | size
deriving DecidableEq, Repr, Inhabited

/-- What a registry answers. -/
inductive Answer where
  | number (id : Nat)
  | owned (id : Option Nat)
  | carrier (bundle : Option Bundle)
  | surviving (bundles : List Bundle)
  | signatures (signatures : List Signature)
  | truth (holds : Bool)
deriving DecidableEq, Repr, Inhabited

/-- The answer to a call with the state it leaves behind; `failed` is what it leaves behind
when it fails. -/
def settle {α σ : Type} (answer : α → Answer) (failed : σ) :
    Except RegistryError (α × σ) → Except RegistryError Answer × σ
  | .ok (value, after) => (.ok (answer value), after)
  | .error cause => (.error cause, failed)

@[simp] theorem settle_ok {α σ : Type} (answer : α → Answer) (failed : σ) (value : α)
    (after : σ) : settle answer failed (.ok (value, after)) = (.ok (answer value), after) :=
  rfl

@[simp] theorem settle_error {α σ : Type} (answer : α → Answer) (failed : σ)
    (cause : RegistryError) : settle answer failed (.error cause) = (.error cause, failed) :=
  rfl

/-- The answers to calls that are made one after the other. -/
def answers {σ : Type} (call : σ → Call → Except RegistryError Answer × σ) :
    σ → List Call → List (Except RegistryError Answer)
  | _, [] => []
  | state, first :: rest => (call state first).1 :: answers call (call state first).2 rest

/-- The state that calls leave behind. -/
def stateAfter {σ : Type} (call : σ → Call → Except RegistryError Answer × σ) :
    σ → List Call → σ
  | state, [] => state
  | state, first :: rest => stateAfter call (call state first).2 rest

namespace Registry

/-- The registry once some numbers have been looked for.  The search ends at the first one
that is not in use. -/
def followed (registry : Registry) : List Nat → Registry
  | [] => registry
  | id :: rest =>
      match registry.find id with
      | .ok (_, after) => after.followed rest
      | .error _ => registry

/-- The answer to a call and the registry that it leaves behind.  A merger that fails has
looked for its two numbers before. -/
def call (registry : Registry) : Call → Except RegistryError Answer × Registry
  | .add signature bundle => settle .number registry (registry.add signature bundle)
  | .find id => settle .number registry (registry.find id)
  | .union representative other =>
      settle .number (registry.followed [representative, other])
        (registry.union representative other)
  | .idOf signature => (.ok (.owned (registry.idOf? signature)), registry)
  | .resolve signature => settle .carrier registry (registry.resolve signature)
  | .bundles => settle .surviving registry registry.survivors
  | .signatures => (.ok (.signatures registry.signatures), registry)
  | .contains signature => (.ok (.truth (registry.contains signature)), registry)
  | .size => (.ok (.number registry.size), registry)

end Registry

/-! ### The registry without pointers -/

/-- Bundles by number, for each number the one that represents its group, and the number
each signature was given. -/
structure Labelling where
  bundles : List Bundle
  labels : List Nat
  owners : List (Signature × Nat)
deriving DecidableEq, Repr, Inhabited

namespace Labelling

/-- The labelling of no numbers. -/
def empty : Labelling :=
  ⟨[], [], []⟩

/-- The number that represents the group of `id`. -/
def label (labelling : Labelling) (id : Nat) : Except RegistryError Nat :=
  match labelling.labels[id]? with
  | some label => .ok label
  | none => .error (.noSuchNumber id)

/-- The bundle with that number. -/
def bundleAt (labelling : Labelling) (id : Nat) : Bundle :=
  labelling.bundles.getD id default

/-- Give a signature without a number the next one, with a bundle and a group of its own. -/
def add (labelling : Labelling) (signature : Signature) (bundle : Bundle) :
    Except RegistryError (Nat × Labelling) :=
  let id := labelling.bundles.length
  if (labelling.owners.lookup signature).isSome then
    .error (.alreadyOwned signature)
  else
    .ok
      ( id
      , { bundles := labelling.bundles ++ [bundle]
          labels := labelling.labels ++ [id]
          owners := labelling.owners ++ [(signature, id)] } )

/-- Relabel the group of `other` with the representative of the first group, whose bundle
takes up the other representative's. -/
def union (labelling : Labelling) (representative other : Nat) :
    Except RegistryError (Nat × Labelling) := do
  let keep ← labelling.label representative
  let drop ← labelling.label other
  if keep = drop then
    throw (.sameGroup (labelling.bundleAt keep).name)
  else
    return (keep, { labelling with
      bundles := labelling.bundles.set keep
        ((labelling.bundleAt keep).absorb (labelling.bundleAt drop))
      labels := labelling.labels.map fun label => if label = drop then keep else label })

/-- The bundle that a signature's number is labelled with. -/
def carrier? (labelling : Labelling) (signature : Signature) : Option Bundle := do
  let id ← labelling.owners.lookup signature
  let label ← labelling.labels[id]?
  labelling.bundles[label]?

/-- The bundles of the numbers that represent themselves, in ascending order. -/
def surviving (labelling : Labelling) : List Bundle :=
  (List.range labelling.bundles.length).filterMap fun id =>
    if labelling.labels[id]? = some id then labelling.bundles[id]? else none

/-- The answer to a call and the labelling that it leaves behind: the same one if the call
fails. -/
def call (labelling : Labelling) : Call → Except RegistryError Answer × Labelling
  | .add signature bundle => settle .number labelling (labelling.add signature bundle)
  | .find id => ((labelling.label id).map .number, labelling)
  | .union representative other =>
      settle .number labelling (labelling.union representative other)
  | .idOf signature => (.ok (.owned (labelling.owners.lookup signature)), labelling)
  | .resolve signature => (.ok (.carrier (labelling.carrier? signature)), labelling)
  | .bundles => (.ok (.surviving labelling.surviving), labelling)
  | .signatures => (.ok (.signatures (labelling.owners.map (·.1))), labelling)
  | .contains signature =>
      (.ok (.truth (labelling.owners.lookup signature).isSome), labelling)
  | .size => (.ok (.number labelling.owners.length), labelling)

/-- A call that fails leaves the labelling as it is. -/
theorem call_of_error {labelling : Labelling} {call : Call} {cause : RegistryError}
    (failed : (labelling.call call).1 = .error cause) : (labelling.call call).2 = labelling := by
  have settled : ∀ {result : Except RegistryError (Nat × Labelling)},
      (settle Answer.number labelling result).1 = .error cause →
        (settle Answer.number labelling result).2 = labelling := by
    intro result failed
    cases result with
    | error => rfl
    | ok => simp [settle] at failed
  cases call with
  | add => exact settled failed
  | union => exact settled failed
  | _ => rfl

end Labelling

/-! ### Pointers and labels -/

namespace Registry

variable {registry : Registry} {labelling : Labelling} {id : Nat}

/-- Each number is labelled with its root, and the rest is the same. -/
structure Labelled (registry : Registry) (labelling : Labelling) : Prop where
  wellFormed : registry.WellFormed
  bundles_eq : labelling.bundles = registry.bundles.toList
  owners_eq : labelling.owners = registry.owners
  labels_eq : labelling.labels = (List.range registry.bundles.size).map registry.root

/-! #### Calls that fail -/

theorem find_of_unused (wellFormed : registry.WellFormed)
    (unused : ¬ id < registry.bundles.size) : registry.find id = .error (.noSuchNumber id) := by
  rw [find, if_neg (by rwa [wellFormed.size_eq])]

/-- Looking for numbers changes nothing that can be seen. -/
theorem sameView_followed (wellFormed : registry.WellFormed) (ids : List Nat) :
    SameView registry (registry.followed ids) := by
  induction ids generalizing registry with
  | nil => exact .refl wellFormed
  | cons id rest inductionHypothesis =>
      by_cases known : id < registry.bundles.size
      · obtain ⟨after, found, view⟩ := find_spec wellFormed known
        simp only [followed, found]
        exact view.trans (inductionHypothesis (view.wellFormed wellFormed))
      · simp only [followed, find_of_unused wellFormed known]
        exact .refl wellFormed

/-- A merger fails at the first of its numbers that is not in use, and otherwise if both are
in one group. -/
theorem union_of_error (wellFormed : registry.WellFormed) (representative other : Nat) :
    (¬ representative < registry.bundles.size →
      registry.union representative other = .error (.noSuchNumber representative)) ∧
    (representative < registry.bundles.size → ¬ other < registry.bundles.size →
      registry.union representative other = .error (.noSuchNumber other)) ∧
    (representative < registry.bundles.size → other < registry.bundles.size →
      registry.root representative = registry.root other → ∀ {kept : Bundle},
        registry.bundles[registry.root representative]? = some kept →
          registry.union representative other = .error (.sameGroup kept.name)) := by
  refine ⟨fun unused => ?_, fun known unused => ?_, fun known otherKnown same kept stored => ?_⟩
  · simp only [union, find_of_unused wellFormed unused, bind, Except.bind]
  · obtain ⟨first, found, view⟩ := find_spec wellFormed known
    have notFound : first.find other = .error (.noSuchNumber other) :=
      find_of_unused (view.wellFormed wellFormed) (by rwa [view.bundles_eq])
    simp only [union, found, notFound, bind, Except.bind]
  · obtain ⟨first, foundFirst, viewFirst⟩ := find_spec wellFormed known
    obtain ⟨second, foundSecond, viewSecond⟩ :=
      find_spec (viewFirst.wellFormed wellFormed) (by rwa [viewFirst.bundles_eq] : other < _)
    rw [viewFirst.root_eq wellFormed otherKnown, ← same] at foundSecond
    rw [← (viewFirst.trans viewSecond).bundles_eq] at stored
    simp only [union, foundFirst, foundSecond, bundle?_eq_ok stored, bind, Except.bind, if_true]
    rfl

namespace Labelled

theorem empty : Labelled .empty .empty :=
  ⟨.empty, rfl, rfl, rfl⟩

/-- Labels tell nothing about how long the ways to the roots are. -/
theorem of_view {after : Registry} (labelled : Labelled registry labelling)
    (view : SameView registry after) : Labelled after labelling where
  wellFormed := view.wellFormed labelled.wellFormed
  bundles_eq := by rw [view.bundles_eq, labelled.bundles_eq]
  owners_eq := by rw [view.owners_eq, labelled.owners_eq]
  labels_eq := by
    rw [view.bundles_eq, labelled.labels_eq]
    refine List.map_congr_left fun id member => ?_
    rw [view.root_eq labelled.wellFormed (List.mem_range.mp member)]

theorem labels_getElem? (labelled : Labelled registry labelling) (id : Nat) :
    labelling.labels[id]? =
      if id < registry.bundles.size then some (registry.root id) else none := by
  rw [labelled.labels_eq, List.getElem?_map]
  split
  case isTrue known => rw [List.getElem?_range known, Option.map_some]
  case isFalse unused => simpa using unused

theorem label_eq (labelled : Labelled registry labelling) (known : id < registry.bundles.size) :
    labelling.label id = .ok (registry.root id) := by
  simp only [Labelling.label, labelled.labels_getElem?, if_pos known]

theorem label_of_unused (labelled : Labelled registry labelling)
    (unused : ¬ id < registry.bundles.size) :
    labelling.label id = .error (.noSuchNumber id) := by
  simp only [Labelling.label, labelled.labels_getElem?, if_neg unused]

theorem lookup_eq (labelled : Labelled registry labelling) (signature : Signature) :
    labelling.owners.lookup signature = registry.idOf? signature := by
  rw [labelled.owners_eq, idOf?]

theorem bundleAt_eq (labelled : Labelled registry labelling) {bundle : Bundle}
    (stored : registry.bundles[id]? = some bundle) : labelling.bundleAt id = bundle := by
  rw [Labelling.bundleAt, labelled.bundles_eq, List.getD_eq_getElem?_getD,
    Array.getElem?_toList, stored, Option.getD_some]

theorem carrier?_eq (labelled : Labelled registry labelling) (signature : Signature) :
    labelling.carrier? signature = registry.carrier? signature := by
  simp only [Labelling.carrier?, carrier?, labelled.lookup_eq]
  cases owned : registry.idOf? signature with
  | none => rfl
  | some id =>
      simp only [labelled.labels_getElem?, if_pos (labelled.wellFormed.idOf?_lt owned),
        labelled.bundles_eq, Array.getElem?_toList, bind, Option.bind_some]

theorem surviving_eq (labelled : Labelled registry labelling) :
    labelling.surviving = registry.survivingAmong (List.range registry.bundles.size) := by
  rw [Labelling.surviving, survivingAmong, labelled.bundles_eq, Array.length_toList]
  refine List.filterMap_congr fun id member => ?_
  rw [labelled.labels_getElem?, if_pos (List.mem_range.mp member), Array.getElem?_toList]
  simp only [Option.some_inj]

/-! #### Steps -/

/-- What it means that two states reply alike: the answers are equal, and the states that
are left behind are still related. -/
def Agree (reply : Except RegistryError Answer × Registry)
    (reference : Except RegistryError Answer × Labelling) : Prop :=
  reply.1 = reference.1 ∧ Labelled reply.2 reference.2

/-- A call that only looks, and answers the same, keeps the states related. -/
theorem agree_of_view (labelled : Labelled registry labelling) {after : Registry}
    (view : SameView registry after) (answer : Except RegistryError Answer) :
    Agree (answer, after) (answer, labelling) :=
  ⟨rfl, labelled.of_view view⟩

theorem agree_add (labelled : Labelled registry labelling) (signature : Signature)
    (bundle : Bundle) :
    Agree (registry.call (.add signature bundle)) (labelling.call (.add signature bundle)) := by
  have length : labelling.bundles.length = registry.bundles.size := by
    rw [labelled.bundles_eq, Array.length_toList]
  simp only [Registry.call, Labelling.call, Labelling.add, labelled.lookup_eq, length]
  cases owned : registry.idOf? signature with
  | some id =>
      have refused : registry.add signature bundle = .error (.alreadyOwned signature) := by
        simp [add, contains, owned]
      rw [refused, Option.isSome_some, if_pos rfl]
      exact labelled.agree_of_view (.refl labelled.wellFormed) _
  | none =>
      obtain ⟨after, added, afterWellFormed, bundles, owners, roots⟩ :=
        add_spec labelled.wellFormed owned bundle
      rw [added, Option.isSome_none, if_neg Bool.false_ne_true, settle_ok, settle_ok]
      refine ⟨rfl, afterWellFormed, ?_, ?_, ?_⟩
      · rw [bundles, Array.toList_push, labelled.bundles_eq]
      · rw [owners, labelled.owners_eq]
      · rw [bundles, Array.size_push, List.range_succ, List.map_append, List.map_singleton,
          roots (Nat.le_refl _), if_pos rfl]
        have old : (List.range registry.bundles.size).map after.root =
            (List.range registry.bundles.size).map registry.root := by
          refine List.map_congr_left fun id member => ?_
          have known := List.mem_range.mp member
          rw [roots (Nat.le_of_lt known), if_neg (Nat.ne_of_lt known)]
        rw [old, ← labelled.labels_eq]

theorem agree_find (labelled : Labelled registry labelling) (id : Nat) :
    Agree (registry.call (.find id)) (labelling.call (.find id)) := by
  simp only [Registry.call, Labelling.call]
  by_cases known : id < registry.bundles.size
  · obtain ⟨after, found, view⟩ := find_spec labelled.wellFormed known
    rw [found, labelled.label_eq known]
    exact labelled.agree_of_view view _
  · rw [find_of_unused labelled.wellFormed known, labelled.label_of_unused known]
    exact labelled.agree_of_view (.refl labelled.wellFormed) _

/-- Merging two groups relabels the second one. -/
theorem agree_union_apart (labelled : Labelled registry labelling) {representative other : Nat}
    (representativeKnown : representative < registry.bundles.size)
    (otherKnown : other < registry.bundles.size)
    (apart : registry.root representative ≠ registry.root other) :
    Agree (registry.call (.union representative other))
      (labelling.call (.union representative other)) := by
  obtain ⟨kept, keptStored⟩ := exists_stored (labelled.wellFormed.root_lt representativeKnown)
  obtain ⟨dropped, droppedStored⟩ := exists_stored (labelled.wellFormed.root_lt otherKnown)
  obtain ⟨after, merged, afterWellFormed, bundles, owners, roots⟩ :=
    union_spec labelled.wellFormed representativeKnown otherKnown apart keptStored droppedStored
  have relabelled : (List.range after.bundles.size).map after.root =
      labelling.labels.map fun label =>
        if label = registry.root other then registry.root representative else label := by
    rw [labelled.labels_eq, List.map_map, bundles, Array.size_setIfInBounds]
    exact List.map_congr_left fun id member => roots (List.mem_range.mp member)
  simp only [Registry.call, Labelling.call, merged, Labelling.union,
    labelled.label_eq representativeKnown, labelled.label_eq otherKnown, if_neg apart,
    labelled.bundleAt_eq keptStored, labelled.bundleAt_eq droppedStored, bind, Except.bind]
  refine ⟨rfl, afterWellFormed, ?_, ?_, relabelled.symm⟩
  · rw [settle_ok, bundles, Array.toList_setIfInBounds, ← labelled.bundles_eq]
    rfl
  · rw [settle_ok, owners, ← labelled.owners_eq]
    rfl

theorem agree_union (labelled : Labelled registry labelling) (representative other : Nat) :
    Agree (registry.call (.union representative other))
      (labelling.call (.union representative other)) := by
  obtain ⟨noRepresentative, noOther, sameGroup⟩ :=
    union_of_error labelled.wellFormed representative other
  have unseen := sameView_followed labelled.wellFormed [representative, other]
  by_cases representativeKnown : representative < registry.bundles.size
  · by_cases otherKnown : other < registry.bundles.size
    · by_cases same : registry.root representative = registry.root other
      · obtain ⟨kept, stored⟩ :=
          exists_stored (labelled.wellFormed.root_lt representativeKnown)
        simp only [Registry.call, Labelling.call, Labelling.union,
          sameGroup representativeKnown otherKnown same stored,
          labelled.label_eq representativeKnown, labelled.label_eq otherKnown, if_pos same,
          labelled.bundleAt_eq stored, bind, Except.bind]
        exact labelled.agree_of_view unseen _
      · exact labelled.agree_union_apart representativeKnown otherKnown same
    · simp only [Registry.call, Labelling.call, Labelling.union,
        noOther representativeKnown otherKnown, labelled.label_eq representativeKnown,
        labelled.label_of_unused otherKnown, bind, Except.bind]
      exact labelled.agree_of_view unseen _
  · simp only [Registry.call, Labelling.call, Labelling.union,
      noRepresentative representativeKnown, labelled.label_of_unused representativeKnown,
      bind, Except.bind]
    exact labelled.agree_of_view unseen _

/-- Every call is answered alike and keeps the states related. -/
theorem agree_call (labelled : Labelled registry labelling) (call : Call) :
    Agree (registry.call call) (labelling.call call) := by
  have here := SameView.refl labelled.wellFormed
  cases call with
  | add signature bundle => exact labelled.agree_add signature bundle
  | find id => exact labelled.agree_find id
  | union representative other => exact labelled.agree_union representative other
  | idOf signature =>
      simp only [Registry.call, Labelling.call, labelled.lookup_eq]
      exact labelled.agree_of_view here _
  | resolve signature =>
      obtain ⟨after, resolved, view⟩ := resolve_spec labelled.wellFormed signature
      simp only [Registry.call, Labelling.call, labelled.carrier?_eq, resolved]
      exact labelled.agree_of_view view _
  | bundles =>
      obtain ⟨after, surviving, view⟩ := survivors_spec labelled.wellFormed
      simp only [Registry.call, Labelling.call, labelled.surviving_eq, surviving]
      exact labelled.agree_of_view view _
  | signatures =>
      simp only [Registry.call, Labelling.call, Registry.signatures, labelled.owners_eq]
      exact labelled.agree_of_view here _
  | contains signature =>
      simp only [Registry.call, Labelling.call, Registry.contains, labelled.lookup_eq]
      exact labelled.agree_of_view here _
  | size =>
      simp only [Registry.call, Labelling.call, Registry.size, labelled.owners_eq]
      exact labelled.agree_of_view here _

/-! #### Runs -/

theorem stateAfter (labelled : Labelled registry labelling) (calls : List Call) :
    Labelled (Bundling.stateAfter Registry.call registry calls)
      (Bundling.stateAfter Labelling.call labelling calls) := by
  induction calls generalizing registry labelling with
  | nil => exact labelled
  | cons first rest inductionHypothesis =>
      exact inductionHypothesis (labelled.agree_call first).2

theorem answers_eq (labelled : Labelled registry labelling) (calls : List Call) :
    answers Registry.call registry calls = answers Labelling.call labelling calls := by
  induction calls generalizing registry labelling with
  | nil => rfl
  | cons first rest inductionHypothesis =>
      obtain ⟨sameAnswer, related⟩ := labelled.agree_call first
      rw [answers, answers, sameAnswer, inductionHypothesis related]

end Labelled

end Registry

/-- Whatever is called on an empty registry, all answers are those of the labelling; and a
call that fails, at whatever time, changes no later answer. -/
theorem answers_eq_labelling (calls : List Call) :
    answers Registry.call .empty calls = answers Labelling.call .empty calls ∧
      ∀ (failing : Call) (cause : RegistryError),
        ((stateAfter Registry.call .empty calls).call failing).1 = .error cause →
          ∀ later, answers Registry.call ((stateAfter Registry.call .empty calls).call failing).2
              later =
            answers Registry.call (stateAfter Registry.call .empty calls) later := by
  refine ⟨Registry.Labelled.empty.answers_eq calls, fun failing cause failed later => ?_⟩
  have before := Registry.Labelled.empty.stateAfter calls
  obtain ⟨sameAnswer, after⟩ := before.agree_call failing
  rw [sameAnswer] at failed
  rw [Labelling.call_of_error failed] at after
  rw [after.answers_eq later, before.answers_eq later]

/-- Three bundles are merged into one along a way that is longer than one step.  A script that
has a bundle, two members of one group and a number that is not in use are refused. -/
def sampleCalls : List Call :=
  let script (name : String) : Signature := ⟨"script", [], name ++ "()"⟩
  let bundle (name : String) : Bundle :=
    { name := name, code := name ++ "()", components := [name] }
  [ .add (script "a") (bundle "a"), .add (script "b") (bundle "b"), .add (script "c") (bundle "c"),
    .add (script "a") (bundle "d"), .union 1 2, .union 0 2, .union 2 1, .union 2 3, .find 2,
    .bundles ]

/-- The sample's answers are those of the labelling, and the failed mergers among them change
nothing that is answered later. -/
theorem answers_of_sample :
    answers Registry.call .empty sampleCalls =
        [ .ok (.number 0), .ok (.number 1), .ok (.number 2),
          .error (.alreadyOwned ⟨"script", [], "a()"⟩), .ok (.number 1), .ok (.number 0),
          .error (.sameGroup "a-b-c"), .error (.noSuchNumber 3), .ok (.number 0),
          .ok (.surviving
            [{ name := "a-b-c", code := "a()\nb()\nc()", components := ["a", "b", "c"] }]) ] ∧
      ((stateAfter Registry.call .empty sampleCalls).call (.union 2 1)).1 =
        .error (.sameGroup "a-b-c") ∧
      ∀ later, answers Registry.call
          ((stateAfter Registry.call .empty sampleCalls).call (.union 2 1)).2 later =
        answers Registry.call (stateAfter Registry.call .empty sampleCalls) later := by
  obtain ⟨same, unchanged⟩ := answers_eq_labelling sampleCalls
  have failed : ((stateAfter Registry.call .empty sampleCalls).call (.union 2 1)).1 =
      .error (.sameGroup "a-b-c") := by
    decide +kernel
  refine ⟨?_, failed, unchanged _ _ failed⟩
  rw [same]
  decide +kernel

end StaticSite.Bundling
