/-
Module: StaticSite.Proofs.Expansion.Progress
Purpose: Rendering one node at a time, with the components being expanded and the work that
  waits for them written out.  Nothing in it bounds the depth, and it comes to the outcome that
  rendering by recursion has.
Trusted boundary: none
Main exports:
  Use, Moment, Progress, Moment.next, ComponentTable.advance, Moment.ofExpansion,
  Moment.ofRendering, Reaches, expandWithin_reached, expand_reached, render_reached
-/
import Mathlib.Logic.Function.Iterate
import StaticSite.Proofs.Expansion.Route
import StaticSite.Proofs.Expansion.Walk

namespace StaticSite

open Markup

/-! ### Moments of a rendering -/

/-- A use of a component whose children are being rendered. -/
structure Use where
  target : Frame
  /-- The components that lead to the target, outermost first. -/
  stack : List Frame
  /-- The content for the target's slots so far. -/
  content : SlotBinding
  /-- What the siblings before the use have become. -/
  before : List Node
  /-- The siblings after the use. -/
  after : List Node

namespace Use

/-- Add content to one of the target's slots. -/
def give (use : Use) (slot : String) (nodes : List Node) : Use :=
  { use with content := use.content.extend slot nodes }

end Use

/-- What is at hand. -/
inductive Work where
  /-- Siblings to render, after some that are done. -/
  | siblings (done todo : List Node)
  /-- Children of a use to render. -/
  | fill (use : Use) (todo : List Node)

/-- What is to be done with nodes when they are rendered. -/
inductive Pending where
  /-- They are the children of this element, and its siblings are next. -/
  | wrap (name : String) (attributes : Attributes) (done todo : List Node)
  /-- They go to a slot, and the other children of the use are next. -/
  | give (slot : String) (use : Use) (todo : List Node)
  /-- They stand for a use in the template of `frame`, and the siblings of the use are next. -/
  | splice (outer : List Frame) (frame : Frame) (binding : SlotBinding) (done todo : List Node)

/-- The state of a rendering: the component whose template is being rendered, the components
that lead to it, outermost first, the content it was given, and the work. -/
structure Moment where
  outer : List Frame
  frame : Frame
  binding : SlotBinding
  work : Work
  pending : List Pending

/-- How far a rendering has come. -/
inductive Progress where
  | running (moment : Moment)
  | finished (outcome : Rendering)

namespace Moment

/-- The components that are being expanded, outermost first. -/
def stack (moment : Moment) : List Frame :=
  moment.outer ++ [moment.frame]

/-- Go on after the nodes at hand have become `rendered`. -/
def resume (moment : Moment) (rendered : List Node) : List Pending → Progress
  | [] => .finished (.ok rendered)
  | .wrap name attributes done todo :: pending =>
      .running { moment with
        work := .siblings (done ++ [.element name attributes rendered]) todo, pending := pending }
  | .give slot use todo :: pending =>
      .running { moment with work := .fill (use.give slot rendered) todo, pending := pending }
  | .splice outer frame binding done todo :: pending =>
      .running ⟨outer, frame, binding, .siblings (done ++ rendered) todo, pending⟩

/-- Go on with the template of a component that is used, unless it is being expanded already. -/
def enter (moment : Moment) (use : Use) : Progress :=
  if use.stack.any fun entry => use.target.sameEntry entry then
    .finished (.error (.cycle (chainNames use.stack use.target)))
  else
    .running
      { outer := use.stack
        frame := use.target
        binding := use.content
        work := .siblings [] use.target.component.template
        pending :=
          .splice moment.outer moment.frame moment.binding use.before use.after
            :: moment.pending }

/-- Take one step: look at one node, or go on after the last one. -/
def next (table : ComponentTable) (moment : Moment) : Progress :=
  match moment.work with
  | .siblings done [] => moment.resume done moment.pending
  | .siblings done (.string kind text :: rest) =>
      .running { moment with work := .siblings (done ++ [.string kind text]) rest }
  | .siblings done (.element name attributes children :: rest) =>
      match table.classifyTag moment.frame.component.path name with
      | .error cause => .finished (.error (.unknown cause))
      | .ok .slot =>
          .running { moment with
            work := .siblings (done ++ moment.binding.get (slotName attributes)) rest }
      | .ok (.component target) =>
          .running { moment with
            work := .fill ⟨⟨target, true⟩, moment.stack, [], done, rest⟩ children }
      | .ok .element =>
          .running { moment with
            work := .siblings [] children
            pending := .wrap name attributes done rest :: moment.pending }
  | .fill use [] => moment.enter use
  | .fill use (.string kind text :: rest) =>
      .running { moment with work := .fill (use.give defaultSlot [.string kind text]) rest }
  | .fill use (.element name attributes children :: rest) =>
      match wrapperSlot? name attributes with
      | some slot =>
          .running { moment with
            work := .siblings [] children, pending := .give slot use rest :: moment.pending }
      | none =>
          .running { moment with
            work := .siblings [] [.element name attributes children]
            pending := .give defaultSlot use rest :: moment.pending }

/-- The first moment of expanding a component with content that is already rendered. -/
def ofExpansion (root : Frame) (binding : SlotBinding) : Moment :=
  ⟨[], root, binding, .siblings [] root.component.template, []⟩

/-- The first moment of rendering a component.  The content comes first, as that of a use which
nothing leads to. -/
def ofRendering (root : Frame) (content : List Node) : Moment :=
  ⟨[], root, [], .fill ⟨root, [], [], [], []⟩ content, []⟩

end Moment

/-- Take one step, unless the rendering is finished. -/
def ComponentTable.advance (table : ComponentTable) : Progress → Progress
  | .running moment => moment.next table
  | .finished outcome => .finished outcome

/-! ### Runs -/

/-- Some number of steps leads from the first state to the second one. -/
def Reaches (table : ComponentTable) (first last : Progress) : Prop :=
  ∃ steps, table.advance^[steps] first = last

section Reaches

variable {table : ComponentTable} {first middle last : Progress}

theorem Reaches.refl (table : ComponentTable) (state : Progress) : Reaches table state state :=
  ⟨0, rfl⟩

theorem Reaches.trans (start : Reaches table first middle) (rest : Reaches table middle last) :
    Reaches table first last := by
  obtain ⟨steps, rfl⟩ := start
  obtain ⟨more, rfl⟩ := rest
  exact ⟨more + steps, Function.iterate_add_apply _ _ _ _⟩

/-- The first step of a run. -/
theorem Reaches.step {moment : Moment} (rest : Reaches table (moment.next table) last) :
    Reaches table (.running moment) last :=
  Reaches.trans ⟨1, rfl⟩ rest

theorem advance_finished (outcome : Rendering) (steps : Nat) :
    table.advance^[steps] (.finished outcome) = .finished outcome :=
  Function.iterate_fixed rfl steps

/-- A run comes to one outcome only. -/
theorem Reaches.outcome_unique {one other : Rendering} (toOne : Reaches table first (.finished one))
    (toOther : Reaches table first (.finished other)) : one = other := by
  obtain ⟨steps, atOne⟩ := toOne
  obtain ⟨more, atOther⟩ := toOther
  have late : table.advance^[steps + more] first = .finished one := by
    rw [Nat.add_comm, Function.iterate_add_apply, atOne, advance_finished]
  have lateToo : table.advance^[steps + more] first = .finished other := by
    rw [Function.iterate_add_apply, atOther, advance_finished]
  exact Progress.finished.inj (late.symm.trans lateToo)

end Reaches

/-- Go on from a value, or stop. -/
def Progress.after {α : Type} (onwards : α → Moment) : Except ExpansionError α → Progress
  | .ok value => .running (onwards value)
  | .error cause => .finished (.error cause)

/-- A sequence is reached when its first step is, and the rest from there. -/
theorem Reaches.bind {table : ComponentTable} {state : Progress} {α β : Type}
    {first : Except ExpansionError α} {rest : α → Except ExpansionError β} {middle : α → Moment}
    {onwards : β → Moment} (start : Reaches table state (.after middle first))
    (more : ∀ value, Reaches table (.running (middle value)) (.after onwards (rest value))) :
    Reaches table state (.after onwards (first >>= rest)) := by
  cases first with
  | error cause => exact start
  | ok value => exact start.trans (more value)

/-! ### Agreement with rendering by recursion -/

section Agreement

variable {table : ComponentTable} {depth : Nat} {outer : List Frame} {frame : Frame}
  {binding : SlotBinding}

/-- In the template of `frame`, the fragments that are used are entered as recursion does. -/
def EntersAlike (table : ComponentTable) (depth : Nat) (outer : List Frame) (frame : Frame)
    (binding : SlotBinding) : Prop :=
  ∀ target content before after pending, (∃ tag, table.get? tag = some target) →
    Reaches table
      (.running
        ⟨outer, frame, binding, .fill ⟨⟨target, true⟩, outer ++ [frame], content, before, after⟩ [],
          pending⟩)
      (.after (fun nodes => ⟨outer, frame, binding, .siblings (before ++ nodes) after, pending⟩)
        (expandWithin table depth (outer ++ [frame]) ⟨target, true⟩ content))

mutual

/-- A node at hand becomes what recursion renders it to. -/
theorem node_reached (enters : EntersAlike table depth outer frame binding) :
    ∀ node done rest pending,
      Reaches table
        (.running ⟨outer, frame, binding, .siblings done (node :: rest), pending⟩)
        (.after (fun nodes => ⟨outer, frame, binding, .siblings (done ++ nodes) rest, pending⟩)
          ((frameScope table depth outer frame binding).render node))
  | .string kind text, done, rest, pending => .step (.refl table _)
  | .element name attributes children, done, rest, pending => by
      apply Reaches.step
      cases kind : table.classifyTag frame.component.path name with
      | error cause =>
          simp only [Moment.next, Scope.render, Scope.classify, frameScope, kind, Except.mapError]
          exact .refl table _
      | ok meaning =>
          cases meaning with
          | slot =>
              simp only [Moment.next, Scope.render, Scope.classify, frameScope, kind,
                Except.mapError]
              exact .refl table _
          | component target =>
              have found := (ComponentTable.get?_of_classifyTag kind).2
              simp only [Moment.next, Scope.render, Scope.classify, frameScope, kind,
                Except.mapError]
              apply (fill_reached enters children _ pending).bind
              intro content
              exact enters target content done rest pending ⟨name, found⟩
          | element =>
              simp only [Moment.next, Scope.render, Scope.classify, frameScope, kind,
                Except.mapError]
              apply (siblings_reached enters children [] _).bind
              intro rendered
              exact .step (.refl table _)

/-- The siblings at hand become what recursion renders them to. -/
theorem siblings_reached (enters : EntersAlike table depth outer frame binding) :
    ∀ nodes done pending,
      Reaches table
        (.running ⟨outer, frame, binding, .siblings done nodes, pending⟩)
        (.after (fun nodes => ⟨outer, frame, binding, .siblings (done ++ nodes) [], pending⟩)
          ((frameScope table depth outer frame binding).renderAll nodes))
  | [], done, pending => by
      rw [Scope.renderAll, Progress.after, List.append_nil]
      exact .refl table _
  | node :: rest, done, pending => by
      rw [Scope.renderAll]
      apply (node_reached enters node done rest pending).bind
      intro first
      apply (siblings_reached enters rest (done ++ first) pending).bind
      intro more
      rw [List.append_assoc]
      exact .refl table _

/-- The children of a use at hand fill the slots as recursion fills them. -/
theorem fill_reached (enters : EntersAlike table depth outer frame binding) :
    ∀ nodes use pending,
      Reaches table
        (.running ⟨outer, frame, binding, .fill use nodes, pending⟩)
        (.after (fun content =>
            ⟨outer, frame, binding, .fill { use with content := content } [], pending⟩)
          ((frameScope table depth outer frame binding).fill use.content nodes))
  | [], use, pending => .refl table _
  | .string kind text :: rest, use, pending => by
      apply Reaches.step
      rw [Scope.fill]
      exact fill_reached enters rest (use.give defaultSlot [.string kind text]) pending
  | .element name attributes children :: rest, use, pending => by
      apply Reaches.step
      rw [Scope.fill]
      cases wrapper : wrapperSlot? name attributes with
      | some slot =>
          simp only [Moment.next, wrapper]
          apply (siblings_reached enters children [] (.give slot use rest :: pending)).bind
          intro rendered
          apply Reaches.step
          exact fill_reached enters rest (use.give slot rendered) pending
      | none =>
          simp only [Moment.next, wrapper]
          apply (node_reached enters (.element name attributes children) [] []
            (.give defaultSlot use rest :: pending)).bind
          intro rendered
          apply Reaches.step
          exact fill_reached enters rest (use.give defaultSlot rendered) pending

end

end Agreement

section Expanding

variable {table : ComponentTable} {root : Frame}

/-- Any component may follow any other. -/
def anyTag (_ : Component) (_ : String) : Prop :=
  True

/-- The depth that is left to recursion suffices for all routes that meet nothing twice, so
expanding by recursion ends as going step by step does.  The induction is on the depth. -/
theorem expandWithin_reached (depth : Nat) :
    ∀ use outer frame binding pending, Route table anyTag root (use.stack ++ [use.target]) →
      use.stack.Nodup → table.size + 1 ≤ depth + use.stack.length →
      Reaches table
        (.running ⟨outer, frame, binding, .fill use [], pending⟩)
        (.after
          (fun nodes =>
            ⟨outer, frame, binding, .siblings (use.before ++ nodes) use.after, pending⟩)
          (expandWithin table depth use.stack use.target use.content)) := by
  induction depth with
  | zero =>
      intro use outer frame binding pending route distinct enough
      apply Reaches.step
      change Reaches table (Moment.enter _ use) _
      rw [Moment.enter]
      split
      case isTrue => exact .refl table _
      case isFalse fresh =>
        have bounded := route.length_le (route.nodup_of_fresh distinct fresh)
        rw [List.length_append, List.length_singleton] at bounded
        omega
  | succ depth inductionHypothesis =>
      intro use outer frame binding pending route distinct enough
      apply Reaches.step
      change Reaches table (Moment.enter _ use) _
      rw [Moment.enter, expandWithin_succ]
      split
      case isTrue => exact .refl table _
      case isFalse fresh =>
        have enters : EntersAlike table depth use.stack use.target use.content := by
          intro target content before after pending found
          apply inductionHypothesis
          · exact route.push ⟨rfl, found.choose, trivial, found.choose_spec⟩
          · exact route.nodup_of_fresh distinct fresh
          · rw [List.length_append, List.length_singleton]
            omega
        have inside := siblings_reached enters use.target.component.template []
          (.splice outer frame binding use.before use.after :: pending)
        apply inside.trans
        cases (frameScope table depth use.stack use.target use.content).renderAll
            use.target.component.template with
        | error cause => exact .refl table _
        | ok nodes => exact .step (.refl table _)

/-- When the nodes at hand are done and nothing waits for them, they are the outcome. -/
theorem Reaches.finish {state : Progress} {outer : List Frame} {frame : Frame}
    {binding : SlotBinding} {outcome : Rendering}
    (run : Reaches table state
      (.after (fun nodes => ⟨outer, frame, binding, .siblings ([] ++ nodes) [], []⟩) outcome)) :
    Reaches table state (.finished outcome) := by
  cases outcome with
  | error cause => exact run
  | ok nodes => exact run.trans (.step (.refl table _))

/-- Depth that suffices does not show in the outcome. -/
theorem expandWithin_eq_of_enough {stack : List Frame} {target : Frame}
    (route : Route table anyTag root (stack ++ [target])) (distinct : stack.Nodup)
    {depth other : Nat} (enough : table.size + 1 ≤ depth + stack.length)
    (enoughToo : table.size + 1 ≤ other + stack.length) (content : SlotBinding) :
    expandWithin table depth stack target content =
      expandWithin table other stack target content := by
  have run := expandWithin_reached depth ⟨target, stack, content, [], []⟩ [] target [] [] route
    distinct enough
  have otherRun := expandWithin_reached other ⟨target, stack, content, [], []⟩ [] target [] []
    route distinct enoughToo
  exact run.finish.outcome_unique otherRun.finish

/-- In the first template as well, fragments are entered as recursion does. -/
theorem entersAlike_root (binding : SlotBinding) :
    EntersAlike table table.size [] root binding := by
  intro target content before after pending found
  apply expandWithin_reached table.size
  · exact (Route.start table anyTag root).push
      ⟨rfl, found.choose, trivial, found.choose_spec⟩
  · exact List.nodup_singleton root
  · rw [List.nil_append, List.length_singleton]

/-- Expanding a component step by step ends, with the outcome of recursion. -/
theorem expand_reached (binding : SlotBinding) :
    Reaches table (.running (.ofExpansion root binding))
      (.finished (expand table root binding)) := by
  have enters : EntersAlike table table.size [] root binding := entersAlike_root binding
  exact (siblings_reached enters root.component.template [] []).finish

/-- Rendering a component step by step ends, with the outcome of recursion. -/
theorem render_reached (content : List Node) :
    Reaches table (.running (.ofRendering root content))
      (.finished (render table root content)) := by
  have enters : EntersAlike table table.size [] root [] := entersAlike_root []
  apply (fill_reached enters content ⟨root, [], [], [], []⟩ []).trans
  have sameFill : (frameScope table table.size [] root []).fill [] content =
      (contentScope table root).fill [] content := rfl
  rw [render, sameFill]
  cases (contentScope table root).fill [] content with
  | error cause => exact .refl table _
  | ok binding =>
      exact (expandWithin_reached (table.size + 1) ⟨root, [], binding, [], []⟩ [] root [] []
        (.start table anyTag root) List.nodup_nil (Nat.le_refl _)).finish

end Expanding

end StaticSite
