/-
Module: StaticSite.Proofs.Expansion.Route
Purpose: Components that lead from one to the next, and how long a way can get that meets none
  of them twice.
Trusted boundary: none
Main exports:
  ComponentTable.Follows, Route, Route.push, Route.length_le, Route.nodup_of_fresh
-/
import Mathlib.Data.List.Chain
import Mathlib.Data.List.Perm.Subperm
import StaticSite.Expansion
import StaticSite.Proofs.Expansion.References

namespace StaticSite

open Markup

/-- The second component is a fragment, and the first one mentions a tag that stands for it. -/
def ComponentTable.Follows (table : ComponentTable) (mentions : Component → String → Prop)
    (user used : Frame) : Prop :=
  used.registered = true ∧
    ∃ tag, mentions user.component tag ∧ table.get? tag = some used.component

/-- Components that lead from the root from one to the next. -/
structure Route (table : ComponentTable) (mentions : Component → String → Prop) (root : Frame)
    (frames : List Frame) : Prop where
  starts : frames.head? = some root
  follows : frames.IsChain (table.Follows mentions)

namespace Route

variable {table : ComponentTable} {mentions : Component → String → Prop} {root last used : Frame}
  {frames : List Frame}

theorem start (table : ComponentTable) (mentions : Component → String → Prop) (root : Frame) :
    Route table mentions root [root] :=
  ⟨rfl, .singleton root⟩

theorem push (route : Route table mentions root (frames ++ [last]))
    (onwards : table.Follows mentions last used) :
    Route table mentions root (frames ++ [last] ++ [used]) := by
  constructor
  · rw [List.head?_append_of_ne_nil _ (by simp)]
    exact route.starts
  · apply route.follows.append (.singleton used)
    simpa using onwards

/-- All but the first are entries of the table. -/
theorem entry_of_mem_tail (route : Route table mentions root frames) :
    ∀ frame ∈ frames.tail, frame.registered = true ∧ frame.component ∈ table.entries := by
  have entry : ∀ user used, table.Follows mentions user used →
      used.registered = true ∧ used.component ∈ table.entries := by
    rintro user used ⟨registered, tag, -, found⟩
    exact ⟨registered, ComponentTable.get?_mem found⟩
  obtain ⟨-, follows⟩ := route
  induction follows with
  | nil => simp
  | singleton => simp
  | @cons_cons user used rest leads onwards inductionHypothesis =>
      intro frame member
      rcases List.mem_cons.mp member with rfl | later
      · exact entry user frame leads
      · exact inductionHypothesis frame later

/-- A route that meets nothing twice is no longer than the table and its root. -/
theorem length_le (route : Route table mentions root frames) (distinct : frames.Nodup) :
    frames.length ≤ table.size + 1 := by
  have apart : (frames.tail.map (·.component)).Nodup := by
    apply List.Nodup.map_on _ distinct.tail
    rintro ⟨component, registered⟩ first ⟨other, registeredToo⟩ second same
    obtain rfl : component = other := same
    obtain rfl : registered = true := (route.entry_of_mem_tail _ first).1
    obtain rfl : registeredToo = true := (route.entry_of_mem_tail _ second).1
    rfl
  have inTable : frames.tail.map (·.component) ⊆ table.entries := by
    intro component member
    obtain ⟨frame, later, rfl⟩ := List.mem_map.mp member
    exact (route.entry_of_mem_tail frame later).2
  have bounded := (apart.subperm inTable).length_le
  rw [List.length_map, List.length_tail] at bounded
  rw [ComponentTable.size]
  omega

theorem ne_nil (route : Route table mentions root frames) : frames ≠ [] := by
  rintro rfl
  cases route.starts

/-- What the last component of a route is no entry of has not been met before. -/
theorem nodup_of_fresh (route : Route table mentions root (frames ++ [last]))
    (distinct : frames.Nodup) (fresh : ¬ (frames.any fun entry => last.sameEntry entry) = true) :
    (frames ++ [last]).Nodup := by
  rw [List.nodup_append]
  refine ⟨distinct, List.nodup_singleton last, ?_⟩
  rintro frame member _ isLast rfl
  obtain rfl := List.mem_singleton.mp isLast
  have registered : frame.registered = true := by
    refine (route.entry_of_mem_tail frame ?_).1
    rw [List.tail_append_of_ne_nil (List.ne_nil_of_mem member)]
    simp
  refine fresh (List.any_eq_true.mpr ⟨frame, member, ?_⟩)
  simp [Frame.sameEntry, registered]

end Route

end StaticSite
