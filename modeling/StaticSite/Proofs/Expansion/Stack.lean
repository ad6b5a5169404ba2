/-
Module: StaticSite.Proofs.Expansion.Stack
Purpose: What holds at every moment of a rendering.  The components being expanded lead from one
  to the next and none of them is met twice, so that every rendering ends, and an error names
  those that are to blame for it.
Trusted boundary: none
Main exports:
  Mentioned, Moment.Sound, Progress.Sound, Moment.Sound.next, Reaches.sound, rendering_ends,
  expand_error_blames
-/
import StaticSite.Proofs.Expansion.Progress
import StaticSite.Proofs.Expansion.Success

namespace StaticSite

open Markup Relation

/-! ### Sound moments -/

section Soundness

variable (table : ComponentTable) (mentions : Component → String → Prop) (root : Frame)

/-- The tags of these nodes are mentioned by the component, slots apart. -/
def Mentioned (component : Component) (nodes : List Node) : Prop :=
  ∀ tag ∈ tagsOfAll nodes, mentions component tag

/-- A use in the template of `frame` has a target that can be entered. -/
structure Use.Sound (frame : Frame) (use : Use) : Prop where
  route : Route table mentions root (use.stack ++ [use.target])
  distinct : use.stack.Nodup
  after : Mentioned mentions frame.component use.after

/-- The nodes at hand are those of the template of `frame`. -/
def Work.Sound (frame : Frame) : Work → Prop
  | .siblings _ todo => Mentioned mentions frame.component todo
  | .fill use todo =>
      use.Sound table mentions root frame ∧ Mentioned mentions frame.component todo

/-- What is to be done, from the template of `frame` outwards, is sound. -/
inductive Waiting : (frame : Frame) → List Pending → Prop where
  | nil {frame : Frame} : Waiting frame []
  | wrap {frame : Frame} {name : String} {attributes : Attributes} {done todo : List Node}
      {pending : List Pending} (mentioned : Mentioned mentions frame.component todo)
      (others : Waiting frame pending) :
      Waiting frame (.wrap name attributes done todo :: pending)
  | give {frame : Frame} {slot : String} {use : Use} {todo : List Node} {pending : List Pending}
      (sound : use.Sound table mentions root frame)
      (mentioned : Mentioned mentions frame.component todo) (others : Waiting frame pending) :
      Waiting frame (.give slot use todo :: pending)
  | splice {inner frame : Frame} {outer : List Frame} {binding : SlotBinding}
      {done todo : List Node} {pending : List Pending}
      (route : Route table mentions root (outer ++ [frame])) (distinct : (outer ++ [frame]).Nodup)
      (mentioned : Mentioned mentions frame.component todo) (others : Waiting frame pending) :
      Waiting inner (.splice outer frame binding done todo :: pending)

/-- The components being expanded lead from the root from one to the next, none is met twice,
and all nodes are in the template of the one they are rendered for. -/
structure Moment.Sound (moment : Moment) : Prop where
  route : Route table mentions root moment.stack
  distinct : moment.stack.Nodup
  work : moment.work.Sound table mentions root moment.frame
  pending : Waiting table mentions root moment.frame moment.pending

/-- The error tells what is wrong with the components it names: the template in the file of an
unknown tag mentions it, and each component of a cycle mentions the next one. -/
def ExpansionError.Blames : ExpansionError → Prop
  | .unknown cause =>
      ∃ frames culprit, Route table mentions root (frames ++ [culprit]) ∧
        culprit.component.path = cause.owner ∧ mentions culprit.component cause.tag ∧
        table.get? cause.tag = none ∧ isCustomName cause.tag = true
  | .cycle chain =>
      ∃ frames last, Route table mentions root (frames ++ [last]) ∧ frames.Nodup ∧
        last ∈ frames ∧ chain = (frames ++ [last]).map (·.component.name)

/-- A rendering under way is at a sound moment; one that failed blames the right components. -/
def Progress.Sound : Progress → Prop
  | .running moment => moment.Sound table mentions root
  | .finished outcome =>
      ∀ cause, outcome = .error cause → cause.Blames table mentions root

end Soundness

/-! ### Steps -/

section Steps

variable {table : ComponentTable} {mentions : Component → String → Prop} {root : Frame}

theorem mentioned_cons {component : Component} {node : Node} {rest : List Node} :
    Mentioned mentions component (node :: rest) ↔
      Mentioned mentions component [node] ∧ Mentioned mentions component rest := by
  simp only [Mentioned, tagsOfAll, List.append_nil, List.forall_mem_append]

theorem mentioned_element {component : Component} {name : String} {attributes : Attributes}
    {children : List Node} (notSlot : name ≠ slotTag)
    (mentioned : Mentioned mentions component [.element name attributes children]) :
    mentions component name ∧ Mentioned mentions component children := by
  rw [Mentioned, tagsOfAll, tagsOfAll, List.append_nil, tagsOf, if_neg notSlot,
    List.forall_mem_cons] at mentioned
  exact mentioned

/-- Where the target of a use is found among the components that lead to it, it is the same
entry. -/
theorem mem_of_sameEntry (entry : root.registered = true → root.component ∈ table.entries)
    {frames : List Frame} {target : Frame}
    (route : Route table mentions root (frames ++ [target]))
    (met : (frames.any fun frame => target.sameEntry frame) = true) : target ∈ frames := by
  obtain ⟨frame, member, same⟩ := List.any_eq_true.mp met
  simp only [Frame.sameEntry, Bool.and_eq_true, beq_iff_eq] at same
  obtain ⟨⟨targetRegistered, registered⟩, sameName⟩ := same
  have inTable : ∀ one ∈ frames ++ [target], one.registered = true →
      one.component ∈ table.entries := by
    intro one here isRegistered
    obtain ⟨first, others, whole⟩ := List.exists_cons_of_ne_nil route.ne_nil
    have starts := route.starts
    rw [whole, List.head?_cons] at starts
    rw [whole] at here
    rcases List.mem_cons.mp here with rfl | later
    · obtain rfl := Option.some.inj starts
      exact entry isRegistered
    · refine (route.entry_of_mem_tail one ?_).2
      rwa [whole, List.tail_cons]
  have sameComponent : target.component = frame.component :=
    ComponentTable.eq_of_name_eq (inTable target (by simp) targetRegistered)
      (inTable frame (List.mem_append_left _ member) registered) sameName
  have same : target = frame := by
    cases target
    cases frame
    simp_all
  rwa [same]

theorem Waiting.resume {moment : Moment} (route : Route table mentions root moment.stack)
    (distinct : moment.stack.Nodup) {pending : List Pending}
    (waiting : Waiting table mentions root moment.frame pending) (rendered : List Node) :
    (moment.resume rendered pending).Sound table mentions root := by
  cases waiting with
  | nil =>
      intro cause failed
      cases failed
  | wrap mentioned others => exact ⟨route, distinct, mentioned, others⟩
  | give sound mentioned others =>
      exact ⟨route, distinct, ⟨⟨sound.route, sound.distinct, sound.after⟩, mentioned⟩, others⟩
  | splice outerRoute outerDistinct mentioned others =>
      exact ⟨outerRoute, outerDistinct, mentioned, others⟩

variable (authored : ∀ component, Mentioned mentions component component.template)
  (entry : root.registered = true → root.component ∈ table.entries)

include authored entry

theorem Moment.Sound.enter {moment : Moment} (sound : moment.Sound table mentions root)
    {use : Use} (useSound : use.Sound table mentions root moment.frame) :
    (moment.enter use).Sound table mentions root := by
  rw [Moment.enter]
  split
  case isTrue met =>
    intro cause failed
    obtain rfl := Except.error.inj failed
    exact ⟨use.stack, use.target, useSound.route, useSound.distinct,
      mem_of_sameEntry entry useSound.route met, rfl⟩
  case isFalse fresh =>
    exact
      { route := useSound.route
        distinct := useSound.route.nodup_of_fresh useSound.distinct fresh
        work := authored use.target.component
        pending := .splice sound.route sound.distinct useSound.after sound.pending }

/-- A step from a sound moment leads to a sound moment, or ends the rendering with nodes or
with an error that blames the right components. -/
theorem Moment.Sound.next {moment : Moment} (sound : moment.Sound table mentions root) :
    (moment.next table).Sound table mentions root := by
  obtain ⟨outer, frame, binding, work, pending⟩ := moment
  obtain ⟨route, distinct, workSound, waiting⟩ := sound
  cases work with
  | siblings done todo =>
      cases todo with
      | nil => exact waiting.resume route distinct done
      | cons node rest =>
          obtain ⟨here, there⟩ := mentioned_cons.mp workSound
          cases node with
          | string kind text => exact ⟨route, distinct, there, waiting⟩
          | element name attributes children =>
              simp only [Moment.next]
              cases kind : table.classifyTag frame.component.path name with
              | error cause =>
                  intro failure failed
                  obtain rfl := Except.error.inj failed
                  obtain ⟨rfl, notSlot, missing, custom⟩ :=
                    ComponentTable.unknown_of_classifyTag kind
                  exact ⟨outer, frame, route, rfl, (mentioned_element notSlot here).1, missing,
                    custom⟩
              | ok meaning =>
                  cases meaning with
                  | slot => exact ⟨route, distinct, there, waiting⟩
                  | component target =>
                      obtain ⟨notSlot, found⟩ := ComponentTable.get?_of_classifyTag kind
                      obtain ⟨tag, inChildren⟩ := mentioned_element notSlot here
                      have useSound : Use.Sound table mentions root frame
                          ⟨⟨target, true⟩, outer ++ [frame], [], done, rest⟩ :=
                        ⟨route.push ⟨rfl, name, tag, found⟩, distinct, there⟩
                      exact ⟨route, distinct, ⟨useSound, inChildren⟩, waiting⟩
                  | element =>
                      have plain := ComponentTable.notSlot_of_classifyTag kind
                      exact ⟨route, distinct, (mentioned_element plain here).2,
                        .wrap there waiting⟩
  | fill use todo =>
      obtain ⟨useSound, mentioned⟩ := workSound
      cases todo with
      | nil =>
          exact Moment.Sound.enter authored entry
            ⟨route, distinct, ⟨useSound, mentioned⟩, waiting⟩ useSound
      | cons node rest =>
          obtain ⟨here, there⟩ := mentioned_cons.mp mentioned
          have given : ∀ slot nodes, (use.give slot nodes).Sound table mentions root frame :=
            fun _ _ => ⟨useSound.route, useSound.distinct, useSound.after⟩
          cases node with
          | string kind text => exact ⟨route, distinct, ⟨given _ _, there⟩, waiting⟩
          | element name attributes children =>
              simp only [Moment.next]
              cases wrapper : wrapperSlot? name attributes with
              | some slot =>
                  obtain rfl := Scope.eq_template_of_wrapperSlot? wrapper
                  exact ⟨route, distinct, (mentioned_element (by decide) here).2,
                    .give useSound there waiting⟩
              | none => exact ⟨route, distinct, here, .give useSound there waiting⟩

/-- Every run from a sound moment stays sound. -/
theorem Reaches.sound {moment : Moment} (sound : moment.Sound table mentions root)
    {state : Progress} (run : Reaches table (.running moment) state) :
    state.Sound table mentions root := by
  obtain ⟨steps, rfl⟩ := run
  induction steps with
  | zero => exact sound
  | succ steps inductionHypothesis =>
      rw [Function.iterate_succ_apply']
      cases reached : table.advance^[steps] (.running moment) with
      | finished outcome =>
          rw [reached] at inductionHypothesis
          exact inductionHypothesis
      | running later =>
          rw [reached] at inductionHypothesis
          exact Moment.Sound.next authored entry inductionHypothesis

end Steps

/-! ### Renderings -/

section Renderings

variable {table : ComponentTable} {mentions : Component → String → Prop} {root : Frame}

theorem sound_ofExpansion
    (authored : ∀ component, Mentioned mentions component component.template)
    (binding : SlotBinding) : (Moment.ofExpansion root binding).Sound table mentions root where
  route := .start table mentions root
  distinct := List.nodup_singleton root
  work := authored root.component
  pending := .nil

theorem sound_ofRendering (content : List Node) :
    (Moment.ofRendering root content).Sound table anyTag root where
  route := .start table anyTag root
  distinct := List.nodup_singleton root
  work := ⟨⟨.start table anyTag root, List.nodup_nil, fun _ _ => trivial⟩, fun _ _ => trivial⟩
  pending := .nil

/-- Rendering and expanding a component end after some number of steps with the outcome that
recursion gives, and more depth would not change it.  At every moment before, the components
being expanded start with the root and are distinct, and all but the root are entries of the
table; so there are no more of them than entries, and one. -/
theorem rendering_ends (entry : root.registered = true → root.component ∈ table.entries)
    (binding : SlotBinding) (content : List Node) :
    (∃ steps, table.advance^[steps] (.running (.ofExpansion root binding)) =
        .finished (expand table root binding)) ∧
      (∃ steps, table.advance^[steps] (.running (.ofRendering root content)) =
        .finished (render table root content)) ∧
      (∀ depth, table.size + 1 ≤ depth →
        expandWithin table depth [] root binding = expand table root binding) ∧
      ∀ first ∈ [Moment.ofExpansion root binding, Moment.ofRendering root content],
        ∀ steps moment, table.advance^[steps] (.running first) = .running moment →
          moment.stack.head? = some root ∧ moment.stack.Nodup ∧
            (∀ frame ∈ moment.stack.tail,
              frame.registered = true ∧ frame.component ∈ table.entries) ∧
            moment.stack.length ≤ table.size + 1 := by
  have anyAuthored : ∀ component, Mentioned anyTag component component.template :=
    fun _ _ _ => trivial
  refine ⟨expand_reached binding, render_reached content, ?_, ?_⟩
  · intro depth enough
    exact expandWithin_eq_of_enough (.start table anyTag root) List.nodup_nil enough
      (Nat.le_refl _) binding
  · intro first started steps moment reached
    have startSound : first.Sound table anyTag root := by
      rcases List.mem_cons.mp started with rfl | later
      · exact sound_ofExpansion anyAuthored binding
      · obtain rfl := List.mem_singleton.mp later
        exact sound_ofRendering content
    have sound : moment.Sound table anyTag root :=
      Reaches.sound anyAuthored entry startSound ⟨steps, reached⟩
    exact ⟨sound.route.starts, sound.distinct, sound.route.entry_of_mem_tail,
      sound.route.length_le sound.distinct⟩

end Renderings

/-! ### Two components that use each other -/

/-- A component that uses the next one. -/
def samplePing : Component where
  name := "x-ping"
  path := Path.ofString "x-ping.html"
  template := [.element "x-pong" [] [.string .text "back"]]
  source := "<x-pong>back</x-pong>"

/-- A component that uses the one before, around its own content. -/
def samplePong : Component where
  name := "x-pong"
  path := Path.ofString "x-pong.html"
  template := [.element "x-button" [] [.element "x-ping" [] [.element "slot" [] []]]]
  source := "<x-button><x-ping><slot></slot></x-ping></x-button>"

/-- A component that gives a button content which no component is registered for. -/
def sampleHolder : Component where
  name := "x-holder"
  path := Path.ofString "parts/x-holder.html"
  template := [.element "x-button" [] [.element "x-missing" [] []]]
  source := "<x-button><x-missing></x-missing></x-button>"

/-- The table of these components. -/
def sampleRound : ComponentTable where
  entries := [samplePing, samplePong, sampleButton, sampleHolder]
  distinct := by decide
  fragments := by decide

/-- The components that use each other are rendered to an end, which is an error, and no more
than the four entries and one are ever being expanded. -/
theorem rendering_ends_of_sample :
    samplePing ∈ sampleRound.entries ∧
      (∃ steps, sampleRound.advance^[steps] (.running (.ofRendering ⟨samplePing, true⟩ [])) =
        .finished (.error (.cycle ["x-ping", "x-pong", "x-ping"]))) ∧
      ∀ steps moment,
        sampleRound.advance^[steps] (.running (.ofRendering ⟨samplePing, true⟩ [])) =
          .running moment → moment.stack.Nodup ∧ moment.stack.length ≤ 5 := by
  have entry : samplePing ∈ sampleRound.entries := by simp [sampleRound]
  have outcome : render sampleRound ⟨samplePing, true⟩ [] =
      .error (.cycle ["x-ping", "x-pong", "x-ping"]) := by
    decide +kernel
  obtain ⟨-, ended, -, moments⟩ := @rendering_ends sampleRound ⟨samplePing, true⟩
    (fun _ => entry) [] []
  rw [outcome] at ended
  refine ⟨entry, ended, ?_⟩
  intro steps moment reached
  obtain ⟨-, distinct, -, short⟩ := moments _ (by simp) steps moment reached
  exact ⟨distinct, short⟩

end StaticSite
