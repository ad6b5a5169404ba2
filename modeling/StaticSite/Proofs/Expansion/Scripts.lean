/-
Module: StaticSite.Proofs.Expansion.Scripts
Purpose: The inline scripts of an expansion against those of the templates: a component's own
  scripts come out in order, and every script that comes out was written in a template that is
  reached, or was given as content.
Trusted boundary: none
Main exports:
  placedScripts, shownScripts, ComponentTable.Built.scriptsHoldText, Scope.render_cases,
  Scope.renderAll_shownScripts, Scope.Confined, Scope.renderAll_confined, expandWithin_confined,
  expanded_scripts
-/
import StaticSite.Bundling.Signature
import StaticSite.Proofs.Markup.RawText
import StaticSite.Proofs.Expansion.Parametric
import StaticSite.Proofs.Expansion.Success

namespace StaticSite

open Markup Relation

/-! ### Scripts of templates -/

mutual

/-- The inline scripts that belong to the template a node stands in, each with whether it is in a
slot.  What is in a slot is never rendered. -/
def placedScripts (inSlot : Bool) : Node → List (Script × Bool)
  | .string _ _ => []
  | .element name attributes children =>
      if isInlineScriptTag name attributes then
        [(⟨attributes, scriptText children⟩, inSlot)]
      else if isCustomName name then
        []
      else
        placedScriptsOfAll (inSlot || name == slotTag) children

/-- The inline scripts of some nodes that belong to their template, each with whether it is in a
slot. -/
def placedScriptsOfAll (inSlot : Bool) : List Node → List (Script × Bool)
  | [] => []
  | node :: rest => placedScripts inSlot node ++ placedScriptsOfAll inSlot rest

end

mutual

theorem map_placedScripts (inSlot : Bool) :
    ∀ node, (placedScripts inSlot node).map (·.1) = Node.ownScripts node
  | .string _ _ => rfl
  | .element name attributes children => by
      rw [placedScripts, Node.ownScripts]
      split
      case isTrue => rfl
      case isFalse =>
        split
        case isTrue => rfl
        case isFalse => exact map_placedScriptsOfAll _ children

/-- These are all the scripts that belong to the template. -/
theorem map_placedScriptsOfAll (inSlot : Bool) :
    ∀ nodes, (placedScriptsOfAll inSlot nodes).map (·.1) = Node.ownScriptsOfAll nodes
  | [] => rfl
  | node :: rest => by
      rw [placedScriptsOfAll, List.map_append, map_placedScripts, map_placedScriptsOfAll,
        Node.ownScriptsOfAll]

end

mutual

theorem placedScripts_in_slot : ∀ node, ∀ placed ∈ placedScripts true node, placed.2 = true
  | .string _ _ => List.forall_mem_nil _
  | .element name attributes children => by
      rw [placedScripts]
      split
      case isTrue => exact List.forall_mem_singleton.mpr rfl
      case isFalse =>
        split
        case isTrue => exact List.forall_mem_nil _
        case isFalse => exact placedScriptsOfAll_in_slot children

/-- All that is in a slot is marked so. -/
theorem placedScriptsOfAll_in_slot :
    ∀ nodes, ∀ placed ∈ placedScriptsOfAll true nodes, placed.2 = true
  | [] => List.forall_mem_nil _
  | node :: rest => List.forall_mem_append.mpr
      ⟨placedScripts_in_slot node, placedScriptsOfAll_in_slot rest⟩

end

/-- The scripts that belong to the template of the nodes and are not in a slot. -/
def shownScripts (nodes : List Node) : List Script :=
  ((placedScriptsOfAll false nodes).filter fun placed => !placed.2).map (·.1)

/-- The scripts that a component brings along are those that are shown and those in slots. -/
theorem clientScripts_eq_placed (component : Component) :
    component.clientScripts = (placedScriptsOfAll false component.template).map (·.1) :=
  (map_placedScriptsOfAll false component.template).symm

theorem shownScripts_cons (node : Node) (rest : List Node) :
    shownScripts (node :: rest) = shownScripts [node] ++ shownScripts rest := by
  simp [shownScripts, placedScriptsOfAll]

/-- An element shows itself if it is a script, and what its children show if it is neither a use
nor a slot. -/
theorem shownScripts_element (name : String) (attributes : Attributes) (children : List Node) :
    shownScripts [.element name attributes children] =
      if isInlineScriptTag name attributes then
        [⟨attributes, scriptText children⟩]
      else if isCustomName name || name == slotTag then
        []
      else
        shownScripts children := by
  rw [shownScripts, placedScriptsOfAll, placedScriptsOfAll, List.append_nil, placedScripts]
  split
  case isTrue => rfl
  case isFalse =>
    cases custom : isCustomName name with
    | true => rfl
    | false =>
        cases isSlot : name == slotTag with
        | false => rfl
        | true =>
            have hidden := placedScriptsOfAll_in_slot children
            simpa using hidden

theorem scriptsHoldText_of_compile {name : String} {path : Path} {source : String}
    {component : Component} (compiled : compile name path source = .ok component) :
    ScriptsHoldText component.template := by
  rw [compile] at compiled
  split at compiled
  case h_1 => cases compiled
  case h_2 template parsed =>
    simp only at compiled
    split at compiled
    case isTrue => cases compiled
    case isFalse =>
      obtain rfl := Except.ok.inj compiled
      exact scriptsHoldText_of_parse parsed

/-- In the templates of compiled fragments scripts hold nothing but text. -/
theorem ComponentTable.Built.scriptsHoldText {table : ComponentTable} (built : table.Built)
    {component : Component} (entry : component ∈ table.entries) :
    ScriptsHoldText component.template := by
  obtain ⟨name, path, source, compiled⟩ := built.compiled_of_mem entry
  exact scriptsHoldText_of_compile compiled

/-! ### What rendering makes of nodes -/

@[simp] theorem inlineScripts_append (first second : List Node) :
    inlineScripts (first ++ second) = inlineScripts first ++ inlineScripts second := by
  induction first with
  | nil => rfl
  | cons node rest inductionHypothesis =>
      simp only [inlineScripts] at inductionHypothesis ⊢
      rw [List.cons_append, Node.inlineScriptsOfAll, Node.inlineScriptsOfAll, inductionHypothesis,
        List.append_assoc]

@[simp] theorem inlineScripts_singleton (node : Node) :
    inlineScripts [node] = node.inlineScripts :=
  List.append_nil _

namespace Scope

variable {scope : Scope}

/-- All that rendering an element can give: the content of a slot, the expansion of a fragment, or
the element around its rendered children. -/
theorem render_cases {name : String} {attributes : Attributes} {children rendered : List Node}
    (done : scope.render (.element name attributes children) = .ok rendered) :
    (name = slotTag ∧ rendered = scope.binding.get (slotName attributes)) ∨
      (∃ target content, name ≠ slotTag ∧ scope.table.get? name = some target ∧
        scope.fill [] children = .ok content ∧ scope.invoke target content = .ok rendered) ∨
      (scope.table.Plain name ∧ ∃ inner, scope.renderAll children = .ok inner ∧
        rendered = [.element name attributes inner]) := by
  by_cases isSlot : name = slotTag
  · subst isSlot
    exact .inl ⟨rfl, (Except.ok.inj done).symm⟩
  · rw [render] at done
    cases found : scope.table.get? name with
    | some target =>
        rw [classify_of_some isSlot found] at done
        obtain ⟨content, filled, invoked⟩ := bind_eq_ok_iff.mp done
        exact .inr (.inl ⟨target, content, isSlot, rfl, filled, invoked⟩)
    | none =>
        cases custom : isCustomName name with
        | true =>
            rw [classify_of_unknown isSlot found custom] at done
            cases done
        | false =>
            rw [classify_of_none isSlot found custom] at done
            obtain ⟨inner, inside, packed⟩ := bind_eq_ok_iff.mp done
            exact .inr (.inr ⟨⟨isSlot, found, custom⟩, inner, inside, (Except.ok.inj packed).symm⟩)

theorem renderAll_cons_cases {node : Node} {rest rendered : List Node}
    (done : scope.renderAll (node :: rest) = .ok rendered) :
    ∃ first more, scope.render node = .ok first ∧ scope.renderAll rest = .ok more ∧
      rendered = first ++ more := by
  rw [renderAll] at done
  obtain ⟨first, here, later⟩ := bind_eq_ok_iff.mp done
  obtain ⟨more, others, packed⟩ := bind_eq_ok_iff.mp later
  exact ⟨first, more, here, others, (Except.ok.inj packed).symm⟩

/-- Strings are rendered as they are. -/
theorem renderAll_strings {nodes : List Node} (strings : ∀ node ∈ nodes, node.isString = true) :
    scope.renderAll nodes = .ok nodes := by
  induction nodes with
  | nil => rfl
  | cons node rest inductionHypothesis =>
      obtain ⟨here, later⟩ := List.forall_mem_cons.mp strings
      cases node with
      | element name attributes children => cases here
      | string kind text =>
          rw [renderAll, inductionHypothesis later]
          rfl

/-- Inline scripts are rendered as they are. -/
theorem render_script (names : ∀ {name : String} {target : Component},
      scope.table.get? name = some target → isCustomName name = true)
    {name : String} {attributes : Attributes} {children rendered : List Node}
    (inline : isInlineScriptTag name attributes = true)
    (textOnly : ScriptsHoldText [.element name attributes children])
    (done : scope.render (.element name attributes children) = .ok rendered) :
    rendered = [.element name attributes children] := by
  obtain rfl := name_of_isInlineScriptTag inline
  rcases render_cases done with ⟨isSlot, -⟩ | ⟨target, -, -, found, -, -⟩ | ⟨-, inner, inside, rfl⟩
  · exact absurd isSlot (by decide)
  · exact absurd (names found) (by decide)
  · rw [renderAll_strings textOnly.of_script] at inside
    rw [Except.ok.inj inside]

mutual

/-- A template's own scripts come out, in their order. -/
theorem render_shownScripts (names : ∀ {name : String} {target : Component},
      scope.table.get? name = some target → isCustomName name = true) :
    ∀ {node : Node} {rendered : List Node}, ScriptsHoldText [node] →
      scope.render node = .ok rendered →
      (shownScripts [node]).Sublist (inlineScripts rendered)
  | .string _ _, _, _, _ => List.nil_sublist _
  | .element name attributes children, rendered, textOnly, done => by
      rw [shownScripts_element]
      by_cases inline : isInlineScriptTag name attributes = true
      · rw [render_script names inline textOnly done, inlineScripts_singleton, Node.inlineScripts,
          if_pos inline, if_pos inline]
      · rw [if_neg inline]
        split
        case isTrue => exact List.nil_sublist _
        case isFalse apart =>
          simp only [Bool.or_eq_true, beq_iff_eq, not_or] at apart
          rcases render_cases done with
            ⟨isSlot, -⟩ | ⟨target, -, -, found, -, -⟩ | ⟨-, inner, inside, rfl⟩
          · exact absurd isSlot apart.2
          · exact absurd (names found) apart.1
          · rw [inlineScripts_singleton, Node.inlineScripts, if_neg inline]
            exact renderAll_shownScripts names textOnly.of_element inside

/-- The scripts of a template's nodes come out, in their order. -/
theorem renderAll_shownScripts (names : ∀ {name : String} {target : Component},
      scope.table.get? name = some target → isCustomName name = true) :
    ∀ {nodes rendered : List Node}, ScriptsHoldText nodes →
      scope.renderAll nodes = .ok rendered →
      (shownScripts nodes).Sublist (inlineScripts rendered)
  | [], _, _, _ => List.nil_sublist _
  | node :: rest, rendered, textOnly, done => by
      obtain ⟨first, more, here, later, rfl⟩ := renderAll_cons_cases done
      rw [shownScripts_cons, inlineScripts_append]
      exact (render_shownScripts names textOnly.of_cons.1 here).append
        (renderAll_shownScripts names textOnly.of_cons.2 later)

end

end Scope

/-! ### Where scripts come from -/

/-- Every inline script of the nodes is an allowed one. -/
def ScriptsAmong (allowed : Script → Prop) (nodes : List Node) : Prop :=
  ∀ script ∈ inlineScripts nodes, allowed script

namespace ScriptsAmong

variable {allowed : Script → Prop} {first second : List Node}

theorem append_iff : ScriptsAmong allowed (first ++ second) ↔
    ScriptsAmong allowed first ∧ ScriptsAmong allowed second := by
  rw [ScriptsAmong, inlineScripts_append, List.forall_mem_append]
  exact Iff.rfl

theorem cons_iff {node : Node} {rest : List Node} : ScriptsAmong allowed (node :: rest) ↔
    ScriptsAmong allowed [node] ∧ ScriptsAmong allowed rest :=
  @append_iff allowed [node] rest

/-- What is not an inline script holds those of its children. -/
theorem element_iff {name : String} {attributes : Attributes} {children : List Node}
    (other : ¬ isInlineScriptTag name attributes = true) :
    ScriptsAmong allowed [.element name attributes children] ↔ ScriptsAmong allowed children := by
  rw [ScriptsAmong, inlineScripts_singleton, Node.inlineScripts, if_neg other]
  exact Iff.rfl

theorem extend {content : SlotBinding} (contents : ∀ slot, ScriptsAmong allowed (content.get slot))
    {nodes : List Node} (added : ScriptsAmong allowed nodes) (name : String) :
    ∀ slot, ScriptsAmong allowed ((content.extend name nodes).get slot) := by
  intro slot
  rw [SlotBinding.get_extend]
  split
  case isTrue => exact append_iff.mpr ⟨contents slot, added⟩
  case isFalse => exact contents slot

end ScriptsAmong

namespace Scope

variable {scope : Scope} {allowed : Script → Prop} {usable : List String}

/-- No other than allowed scripts come from outside of the template: neither from its slots nor
from the fragments of usable names, whatever allowed scripts they are given. -/
structure Confined (allowed : Script → Prop) (usable : List String) (scope : Scope) : Prop where
  names : ∀ {name : String} {target : Component},
    scope.table.get? name = some target → isCustomName name = true
  binding : ∀ slot, ScriptsAmong allowed (scope.binding.get slot)
  invoke : ∀ {name : String} {target : Component} {content : SlotBinding} {nodes : List Node},
    name ∈ usable → scope.table.get? name = some target →
    (∀ slot, ScriptsAmong allowed (content.get slot)) →
    scope.invoke target content = .ok nodes → ScriptsAmong allowed nodes

mutual

/-- A node is rendered with allowed scripts only, if its own are. -/
theorem render_confined (confined : scope.Confined allowed usable) :
    ∀ {node : Node} {rendered : List Node}, ScriptsHoldText [node] →
      (∀ tag ∈ tagsOf node, tag ∈ usable) → ScriptsAmong allowed [node] →
      scope.render node = .ok rendered → ScriptsAmong allowed rendered
  | .string _ _, _, _, _, own, done => by
      obtain rfl := Except.ok.inj done
      exact own
  | .element name attributes children, rendered, textOnly, tags, own, done => by
      by_cases inline : isInlineScriptTag name attributes = true
      · rw [render_script confined.names inline textOnly done]
        exact own
      · have inside := (ScriptsAmong.element_iff inline).mp own
        rcases render_cases done with
          ⟨-, rfl⟩ | ⟨target, content, notSlot, found, filled, invoked⟩ | ⟨plain, inner, all, rfl⟩
        · exact confined.binding _
        · rw [tagsOf, if_neg notSlot, List.forall_mem_cons] at tags
          have contents := fill_confined confined textOnly.of_element tags.2 inside
            (fun slot script member => absurd member List.not_mem_nil) filled
          exact confined.invoke tags.1 found contents invoked
        · rw [tagsOf, if_neg plain.notSlot, List.forall_mem_cons] at tags
          exact (ScriptsAmong.element_iff inline).mpr
            (renderAll_confined confined textOnly.of_element tags.2 inside all)

/-- Nodes are rendered with allowed scripts only, if their own are. -/
theorem renderAll_confined (confined : scope.Confined allowed usable) :
    ∀ {nodes rendered : List Node}, ScriptsHoldText nodes →
      (∀ tag ∈ tagsOfAll nodes, tag ∈ usable) → ScriptsAmong allowed nodes →
      scope.renderAll nodes = .ok rendered → ScriptsAmong allowed rendered
  | [], _, _, _, own, done => by
      obtain rfl := Except.ok.inj done
      exact own
  | node :: rest, rendered, textOnly, tags, own, done => by
      obtain ⟨first, more, here, later, rfl⟩ := renderAll_cons_cases done
      rw [tagsOfAll, List.forall_mem_append] at tags
      have both := ScriptsAmong.cons_iff.mp own
      exact ScriptsAmong.append_iff.mpr
        ⟨render_confined confined textOnly.of_cons.1 tags.1 both.1 here,
          renderAll_confined confined textOnly.of_cons.2 tags.2 both.2 later⟩

/-- The children of a use add allowed scripts only to the content, if their own are. -/
theorem fill_confined (confined : scope.Confined allowed usable) :
    ∀ {nodes : List Node} {content filled : SlotBinding}, ScriptsHoldText nodes →
      (∀ tag ∈ tagsOfAll nodes, tag ∈ usable) → ScriptsAmong allowed nodes →
      (∀ slot, ScriptsAmong allowed (content.get slot)) →
      scope.fill content nodes = .ok filled → ∀ slot, ScriptsAmong allowed (filled.get slot)
  | [], _, _, _, _, _, contents, done => by
      obtain rfl := Except.ok.inj done
      exact contents
  | .string kind text :: rest, content, filled, textOnly, tags, own, contents, done => by
      rw [tagsOfAll, List.forall_mem_append] at tags
      have both := ScriptsAmong.cons_iff.mp own
      exact fill_confined confined textOnly.of_cons.2 tags.2 both.2
        (ScriptsAmong.extend contents both.1 defaultSlot) done
  | .element name attributes children :: rest, content, filled, textOnly, tags, own, contents,
      done => by
      rw [tagsOfAll, List.forall_mem_append] at tags
      have both := ScriptsAmong.cons_iff.mp own
      rw [fill] at done
      cases wrapper : wrapperSlot? name attributes with
      | some slot =>
          -- a wrapper is no script, and stands for its children
          obtain rfl := eq_template_of_wrapperSlot? wrapper
          rw [wrapper] at done
          obtain ⟨rendered, inside, onwards⟩ := bind_eq_ok_iff.mp done
          rw [tagsOf, if_neg (by decide), List.forall_mem_cons] at tags
          have own' := (ScriptsAmong.element_iff
            (by rw [isInlineScriptTag]; simp)).mp both.1
          have added := renderAll_confined confined textOnly.of_cons.1.of_element tags.1.2 own'
            inside
          exact fill_confined confined textOnly.of_cons.2 tags.2 both.2
            (ScriptsAmong.extend contents added slot) onwards
      | none =>
          rw [wrapper] at done
          obtain ⟨rendered, inside, onwards⟩ := bind_eq_ok_iff.mp done
          have added := render_confined confined textOnly.of_cons.1 tags.1 both.1 inside
          exact fill_confined confined textOnly.of_cons.2 tags.2 both.2
            (ScriptsAmong.extend contents added defaultSlot) onwards

end

end Scope

/-- Expanding a component gives allowed scripts only, if those of all templates that are reached
and of the content are.  The induction is on the depth that is left. -/
theorem expandWithin_confined {table : ComponentTable} (built : table.Built)
    {allowed : Script → Prop} (depth : Nat) :
    ∀ {stack : List Frame} {frame : Frame} {binding : SlotBinding} {nodes : List Node},
      ScriptsHoldText frame.component.template →
      (∀ met, ReflTransGen table.Uses frame.component met → ScriptsAmong allowed met.template) →
      (∀ slot, ScriptsAmong allowed (binding.get slot)) →
      expandWithin table depth stack frame binding = .ok nodes → ScriptsAmong allowed nodes := by
  induction depth with
  | zero =>
      intro stack frame binding nodes _ _ _ done
      cases done
  | succ depth inductionHypothesis =>
      intro stack frame binding nodes textOnly templates contents done
      rw [expandWithin_succ] at done
      split at done
      case isTrue => cases done
      case isFalse =>
        have confined : (frameScope table depth stack frame binding).Confined allowed
            frame.component.tags :=
          { names := built.isCustomName_of_get?
            binding := contents
            invoke := by
              intro name target content nodes' usable found given invoked
              have uses : table.Uses frame.component target := ⟨name, usable, found⟩
              have expanded : expandWithin table depth (stack ++ [frame]) ⟨target, true⟩ content =
                  .ok nodes' := invoked
              exact inductionHypothesis
                (built.scriptsHoldText (@ComponentTable.get?_mem table target name found))
                (fun met way => templates met (.head uses way)) given expanded }
        exact Scope.renderAll_confined confined textOnly (fun tag member => member)
          (templates _ .refl) done

/-- Compiling, rendering and bundling agree about scripts.  Wherever a fragment of a table is
expanded, the scripts that it brings along and that are not in a slot come out in their order, found
by their signatures.  And every script that comes out has the signature of one that was written in a
template which uses lead to, or of one in the content. -/
theorem expanded_scripts {table : ComponentTable} (built : table.Built) {component : Component}
    (entry : component ∈ table.entries) {binding : SlotBinding} {nodes : List Node}
    (expanded : expand table ⟨component, true⟩ binding = .ok nodes) :
    ((shownScripts component.template).map Bundling.Signature.ofScript).Sublist
        ((inlineScripts nodes).map Bundling.Signature.ofScript) ∧
      ∀ signature ∈ (inlineScripts nodes).map Bundling.Signature.ofScript,
        (∃ met, ReflTransGen table.Uses component met ∧
          signature ∈ (inlineScripts met.template).map Bundling.Signature.ofScript) ∨
        ∃ slot, signature ∈ (inlineScripts (binding.get slot)).map Bundling.Signature.ofScript := by
  have textOnly := built.scriptsHoldText entry
  constructor
  · rw [expand, expandWithin_succ] at expanded
    split at expanded
    case isTrue => cases expanded
    case isFalse =>
      exact (Scope.renderAll_shownScripts built.isCustomName_of_get? textOnly expanded).map _
  · intro signature member
    obtain ⟨script, found, rfl⟩ := List.mem_map.mp member
    have among : ScriptsAmong (fun script =>
        (∃ met, ReflTransGen table.Uses component met ∧
          Bundling.Signature.ofScript script ∈
            (inlineScripts met.template).map Bundling.Signature.ofScript) ∨
        ∃ slot, Bundling.Signature.ofScript script ∈
          (inlineScripts (binding.get slot)).map Bundling.Signature.ofScript) nodes :=
      expandWithin_confined built _ textOnly
        (fun met way _ written => .inl ⟨met, way, List.mem_map_of_mem written⟩)
        (fun slot _ given => .inr ⟨slot, List.mem_map_of_mem given⟩) expanded
    exact among script found

/-! ### A small table with scripts -/

/-- A note that brings a script along and shows what it is given. -/
def scriptedNote : Component where
  name := "x-note"
  path := Path.ofString "x-note.html"
  template :=
    [.element "script" [] [.string .script "note()"], .element "slot" [] []]
  source := "<script>note()</script><slot></slot>"

/-- A panel that has a script of its own, gives one to a note, and has one in a slot. -/
def scriptedPanel : Component where
  name := "x-panel"
  path := Path.ofString "x-panel.html"
  template :=
    [ .element "script" [("async", "")] [.string .script "panel()"],
      .element "x-note" [] [.element "script" [] [.string .script "given()"]],
      .element "slot" [] [.element "script" [] [.string .script "never()"]] ]
  source :=
    "<script async>panel()</script><x-note><script>given()</script></x-note>" ++
      "<slot><script>never()</script></slot>"

/-- The table of the two components. -/
def scriptedTable : ComponentTable where
  entries := [scriptedNote, scriptedPanel]
  distinct := by decide
  fragments := by decide

theorem scriptedTable_built : scriptedTable.Built := by
  refine ⟨[scriptedNote, scriptedPanel], ?_, rfl⟩
  intro component member
  refine ⟨component.name, component.path, component.source, ?_⟩
  rcases List.mem_cons.mp member with rfl | later
  · decide +kernel
  · obtain rfl := List.mem_singleton.mp later
    decide +kernel

/-- The panel's own script comes out before those of the note and of the content, and the one in
the slot does not come out. -/
theorem expanded_scripts_of_panel :
    scriptedTable.Built ∧ scriptedPanel ∈ scriptedTable.entries ∧
      ∃ nodes, expand scriptedTable ⟨scriptedPanel, true⟩
            [("", [.element "script" [] [.string .script "content()"]])] = .ok nodes ∧
        (inlineScripts nodes).map (·.code) = ["panel()", "note()", "given()", "content()"] ∧
        (shownScripts scriptedPanel.template).map (·.code) = ["panel()"] ∧
        ((shownScripts scriptedPanel.template).map Bundling.Signature.ofScript).Sublist
          ((inlineScripts nodes).map Bundling.Signature.ofScript) ∧
        ∃ met, ReflTransGen scriptedTable.Uses scriptedPanel met ∧
          Bundling.Signature.ofScript ⟨[], "note()"⟩ ∈
            (inlineScripts met.template).map Bundling.Signature.ofScript := by
  have entry : scriptedPanel ∈ scriptedTable.entries := by simp [scriptedTable]
  have expanded : expand scriptedTable ⟨scriptedPanel, true⟩
        [("", [.element "script" [] [.string .script "content()"]])] =
      .ok
        [ .element "script" [("async", "")] [.string .script "panel()"],
          .element "script" [] [.string .script "note()"],
          .element "script" [] [.string .script "given()"],
          .element "script" [] [.string .script "content()"] ] := by
    decide +kernel
  obtain ⟨shown, written⟩ := expanded_scripts scriptedTable_built entry expanded
  refine ⟨scriptedTable_built, entry, _, expanded, by decide +kernel, by decide +kernel, shown, ?_⟩
  rcases written (Bundling.Signature.ofScript ⟨[], "note()"⟩) (by decide +kernel) with
    reached | ⟨slot, given⟩
  · exact reached
  · -- the content holds another script only
    by_cases isDefault : slot = ""
    · subst isDefault
      exact absurd given (by decide +kernel)
    · rw [SlotBinding.get, lookup_cons_of_ne isDefault] at given
      exact absurd given List.not_mem_nil

end StaticSite
