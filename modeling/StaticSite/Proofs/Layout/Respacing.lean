/-
Module: StaticSite.Proofs.Layout.Respacing
Purpose: Beautifying a page respaces it.  The markup written is that of a tree with the same
  nodes, in which white space differs only in text that stands next to blocks.
Trusted boundary: none
Main exports:
  Retexted, Respaced, Respaced.settledRun, respaced_relaidAll, Respaced.mem_elementsNamed,
  Indent.MadeOf, beautify_eq_toHtml_of_respaced
-/
import StaticSite.Proofs.Layout.Relaid

namespace StaticSite

open Text Markup

/-! ### Respacing -/

/-- The second node is the first one, with white space edited if that is text. -/
inductive Retexted : (old new : Node) → Prop where
  | same (node : Node) : Retexted node node
  | text {kind : StringKind} {old new : String} (isText : kind.isText = true)
      (edited : Respelled old new) : Retexted (.string kind old) (.string kind new)

/-- The second list of siblings is the first one respaced.  Blank text comes and goes between
the siblings, text among them is edited, and the children of elements that are laid out are
respaced in turn; nothing else changes. -/
inductive Respaced : (before after : List Node) → Prop where
  | nil : Respaced [] []
  | cons {old new : Node} {before after : List Node} (edited : Retexted old new)
      (others : Respaced before after) : Respaced (old :: before) (new :: after)
  | inserted {text : String} {before after : List Node} (blank : isBlank text = true)
      (others : Respaced before after) : Respaced before (spacing text :: after)
  | dropped {node : Node} {before after : List Node} (blank : isBlankText node = true)
      (others : Respaced before after) : Respaced (node :: before) after
  | inside {name : String} {attributes : Attributes} {old new before after : List Node}
      (laidOut : isLaidOut name old = true) (children : Respaced old new)
      (others : Respaced before after) :
      Respaced (.element name attributes old :: before) (.element name attributes new :: after)

namespace Retexted

variable {old middle new : Node}

theorem trans (first : Retexted old middle) (second : Retexted middle new) : Retexted old new := by
  cases second with
  | same => exact first
  | text isText edited =>
      cases first with
      | same => exact .text isText edited
      | text _ earlier => exact .text isText (earlier.trans edited)

theorem isBlankText_eq (edited : Retexted old new) : isBlankText new = isBlankText old := by
  cases edited with
  | same => rfl
  | text _ edited => rw [isBlankText, isBlankText, edited.isBlank_eq]

theorem retext {edit : String → String} (edits : ∀ text, Respelled text (edit text))
    (node : Node) : Retexted node (retext edit node) := by
  cases node with
  | element name attributes children => exact .same _
  | string kind text =>
      rw [StaticSite.retext]
      split
      · exact .text ‹_› (edits text)
      · exact .same _

theorem collapsed (node : Node) : Retexted node (collapsed node) := by
  cases node with
  | element name attributes children => exact .same _
  | string kind text =>
      cases kind with
      | text => exact .text (by rfl) (.collapse (.same text))
      | _ => exact .same _

end Retexted

namespace Respaced

variable {before after rest : List Node} {node : Node}

theorem refl (nodes : List Node) : Respaced nodes nodes := by
  induction nodes with
  | nil => exact .nil
  | cons node rest inductionHypothesis => exact .cons (.same node) inductionHypothesis

theorem append {before' after' : List Node} (first : Respaced before after)
    (second : Respaced before' after') : Respaced (before ++ before') (after ++ after') := by
  induction first with
  | nil => exact second
  | cons edited _ inductionHypothesis => exact .cons edited inductionHypothesis
  | inserted blank _ inductionHypothesis => exact .inserted blank inductionHypothesis
  | dropped blank _ inductionHypothesis => exact .dropped blank inductionHypothesis
  | inside laidOut children _ _ inductionHypothesis =>
      exact .inside laidOut children inductionHypothesis

/-- The first of the respaced siblings may be edited once more, with others after it. -/
theorem edit_head {new : Node} {rest' : List Node} (respaced : Respaced before (node :: rest))
    (edited : Retexted node new)
    (onwards : ∀ {before}, Respaced before rest → Respaced before rest') :
    Respaced before (new :: rest') := by
  generalize whole : node :: rest = after at respaced
  induction respaced with
  | nil => exact absurd whole (List.cons_ne_nil node rest)
  | cons earlier others =>
      obtain ⟨rfl, rfl⟩ := List.cons_eq_cons.mp whole
      exact .cons (earlier.trans edited) (onwards others)
  | inserted blank others =>
      obtain ⟨rfl, rfl⟩ := List.cons_eq_cons.mp whole
      cases edited with
      | same => exact .inserted blank (onwards others)
      | text _ edited => exact .inserted (edited.isBlank_eq.trans blank) (onwards others)
  | dropped blank _ inductionHypothesis => exact .dropped blank (inductionHypothesis whole)
  | inside laidOut children others =>
      obtain ⟨rfl, rfl⟩ := List.cons_eq_cons.mp whole
      cases edited with
      | same => exact .inside laidOut children (onwards others)

/-- The first of the respaced siblings may be dropped if it is blank text. -/
theorem drop_head (respaced : Respaced before (node :: rest)) (blank : isBlankText node = true) :
    Respaced before rest := by
  generalize whole : node :: rest = after at respaced
  induction respaced with
  | nil => exact absurd whole (List.cons_ne_nil node rest)
  | cons earlier others =>
      obtain ⟨rfl, rfl⟩ := List.cons_eq_cons.mp whole
      exact .dropped (earlier.isBlankText_eq.symm.trans blank) others
  | inserted _ others =>
      obtain ⟨rfl, rfl⟩ := List.cons_eq_cons.mp whole
      exact others
  | dropped earlier _ inductionHypothesis => exact .dropped earlier (inductionHypothesis whole)
  | inside =>
      obtain ⟨rfl, rfl⟩ := List.cons_eq_cons.mp whole
      exact absurd blank Bool.false_ne_true

theorem map_collapsed (respaced : Respaced before after) :
    Respaced before (after.map collapsed) := by
  induction after generalizing before with
  | nil => exact respaced
  | cons node rest inductionHypothesis =>
      exact respaced.edit_head (.collapsed node) inductionHypothesis

theorem trimmedLeft (respaced : Respaced before after) : Respaced before (trimmedLeft after) := by
  induction after with
  | nil => exact respaced
  | cons node rest inductionHypothesis =>
      rw [StaticSite.trimmedLeft]
      split
      next blank => exact inductionHypothesis (respaced.drop_head blank)
      next => exact respaced.edit_head (.retext (fun text => .trimLeft (.same text)) node) id

theorem trimmedRight (respaced : Respaced before after) :
    Respaced before (trimmedRight after) := by
  induction after generalizing before with
  | nil => exact respaced
  | cons node rest inductionHypothesis =>
      rw [StaticSite.trimmedRight]
      cases kept : StaticSite.trimmedRight rest with
      | cons first others =>
          rw [kept] at inductionHypothesis
          exact respaced.edit_head (.same node) inductionHypothesis
      | nil =>
          rw [kept] at inductionHypothesis
          have edited : Respaced before [retext trimRight node] :=
            respaced.edit_head (.retext (fun text => .trimRight (.same text)) node)
              inductionHypothesis
          by_cases blank : isBlankText node = true
          · simp only [blank, if_true]
            exact inductionHypothesis (respaced.drop_head blank)
          · simp only [blank]
            exact edited

/-- A run as its line shows it is the run respaced. -/
theorem settledRun (run : List Node) : Respaced run (settledRun run) :=
  (refl run).map_collapsed.trimmedLeft.trimmedRight

end Respaced

/-! ### The tree that is written -/

section Laying

variable {unit : String} (blankUnit : isBlank unit = true)

include blankUnit

theorem respaced_relaidRun (depth : Nat) (run : List Node) :
    Respaced run (relaidRun unit depth run) := by
  have settled := Respaced.settledRun run
  rw [relaidRun]
  cases kept : settledRun run with
  | nil => rwa [kept] at settled
  | cons first others =>
      rw [kept] at settled
      apply Respaced.inserted (isBlank_margin blankUnit depth)
      have ended := settled.append (.inserted (by decide) .nil : Respaced [] [spacing "\n"])
      rwa [List.append_nil] at ended

/-- A document laid out anew is the document respaced. -/
theorem respaced_relaidAll (nodes : List Node) (depth : Nat) :
    Respaced nodes (relaidAll unit depth [] nodes) := by
  induction nodes using layoutInduction generalizing depth with
  | last run inline =>
      rw [relaidAll_run inline]
      exact respaced_relaidRun blankUnit depth run
  | doctype run text rest inline inRest =>
      rw [relaidAll_block inline (by rfl), relaid]
      apply (respaced_relaidRun blankUnit depth run).append
      apply Respaced.inserted (isBlank_margin blankUnit depth)
      exact .cons (.same _) (inRest depth)
  | element run name attributes children rest inline isBlock inChildren inRest =>
      rw [relaidAll_block inline isBlock, relaid]
      apply (respaced_relaidRun blankUnit depth run).append
      apply Respaced.inserted (isBlank_margin blankUnit depth)
      have ended : Respaced rest (spacing "\n" :: relaidAll unit depth [] rest) :=
        .inserted (by decide) (inRest depth)
      by_cases verbatim : isVerbatim name children = true
      · rw [if_pos verbatim]
        exact .cons (.same _) ended
      · rw [if_neg verbatim]
        have laidOut := isLaidOut_of_isBlock isBlock verbatim
        have closed := (inChildren (depth + 1)).append
          (.inserted (isBlank_margin blankUnit depth) .nil :
            Respaced [] [spacing (margin unit depth)])
        rw [List.append_nil] at closed
        exact .inside laidOut (.inserted (by decide) closed) ended

end Laying

/-! ### Elements that stay as they are -/

theorem Retexted.elementsNamed_eq {old new : Node} (edited : Retexted old new) (name : String) :
    elementsNamed name [new] = elementsNamed name [old] := by
  cases edited <;> rfl

/-- Respacing keeps every element that is not laid out, with all that is in it. -/
theorem Respaced.mem_elementsNamed {before after : List Node} (respaced : Respaced before after)
    {name : String} {element : Node} (member : element ∈ elementsNamed name before)
    (verbatim : isLaidOut name element.children = false) :
    element ∈ elementsNamed name after := by
  induction respaced with
  | nil => exact member
  | @cons old new before after edited _ inductionHypothesis =>
      rw [← List.singleton_append, elementsNamed_append] at member ⊢
      rw [edited.elementsNamed_eq]
      apply (List.mem_append.mp member).elim
      · exact List.mem_append_left _
      · exact fun further => List.mem_append_right _ (inductionHypothesis further)
  | inserted _ _ inductionHypothesis => exact inductionHypothesis member
  | @dropped node before after blank _ inductionHypothesis =>
      cases node with
      | string => exact inductionHypothesis member
      | element => exact absurd blank Bool.false_ne_true
  | @inside tag attributes old new before after laidOut _ _ inChildren inOthers =>
      rw [← List.singleton_append, elementsNamed_append] at member ⊢
      rcases List.mem_append.mp member with here | further
      · apply List.mem_append_left
        apply elementsNamed_children_subset
        apply inChildren
        rw [elementsNamed_element] at here
        split at here
        next sameName =>
          rcases List.mem_cons.mp here with rfl | deeper
          · rw [← sameName, Node.children, laidOut] at verbatim
            exact absurd verbatim.symm Bool.false_ne_true
          · exact deeper
        next => exact here
      · exact List.mem_append_right _ (inOthers further)

/-! ### Beautified pages -/

namespace Indent

/-- A level of indentation holds no other characters than these.  Spaces are always fine. -/
def MadeOf (allowed : Char → Bool) : Indent → Prop
  | .spaces _ => True
  | .literal text => ∀ c ∈ text.toList, allowed c = true

theorem MadeOf.unit {allowed : Char → Bool} {indent : Indent} (madeOf : indent.MadeOf allowed)
    (space : allowed ' ' = true) : ∀ c ∈ indent.unit.toList, allowed c = true := by
  cases indent with
  | literal text => exact madeOf
  | spaces count =>
      intro c member
      rw [Indent.unit, String.toList_ofList] at member
      rwa [List.eq_of_mem_replicate member]

end Indent

/-- A beautified page is the markup of the page's tree respaced, in which every element that is
not laid out is written as it is. -/
theorem beautify_eq_toHtml_of_respaced {document : List Node} {indent : Indent}
    (empty : VoidElementsEmpty document) (blankIndent : indent.MadeOf isSpace) :
    ∃ tree, Respaced document tree ∧ beautify document indent = toHtml tree ∧
      ∀ name, ∀ element ∈ elementsNamed name document,
        isLaidOut name element.children = false →
          element ∈ elementsNamed name tree ∧
            element.toHtml.toList <:+: (beautify document indent).toList := by
  have blankUnit : isBlank indent.unit = true := isBlank_iff.mpr (blankIndent.unit (by decide))
  have respaced := respaced_relaidAll blankUnit document 0
  have written := beautify_eq_toHtml_relaidAll blankUnit empty
  refine ⟨relaidAll indent.unit 0 [] document, respaced, written, ?_⟩
  intro name element member verbatim
  have kept := respaced.mem_elementsNamed member verbatim
  refine ⟨kept, ?_⟩
  rw [written]
  exact infix_toHtml_of_mem kept

/-- An article with white space in its text, in an inline element and in verse. -/
def sampleArticle : List Node :=
  [ .string .doctype "html",
    .element "article" []
      [ .string .text "\n  All  the\tbest,\n",
        .element "b" [] [.string .text " we "],
        .string .text "say. ",
        .element "pre" [("class", "verse")] [.string .text "  kept\n   as is"],
        .element "br" [] [],
        .string .comment " end " ] ]

/-- The article is indented with tabs, and its verse is the one it had. -/
theorem beautify_of_sample :
    VoidElementsEmpty sampleArticle ∧ (Indent.literal "\t").MadeOf isSpace ∧
      ∃ tree, Respaced sampleArticle tree ∧
        toHtml tree =
          "<!DOCTYPE html>\n<article>\n\tAll the best, <b> we </b>say.\n"
            ++ "\t<pre class=\"verse\">  kept\n   as is</pre>\n\t<br/><!-- end -->\n</article>\n" ∧
        .element "pre" [("class", "verse")] [.string .text "  kept\n   as is"] ∈
          elementsNamed "pre" tree := by
  have empty : VoidElementsEmpty sampleArticle := by decide
  have blankIndent : (Indent.literal "\t").MadeOf isSpace :=
    List.all_eq_true.mp (by decide : "\t".toList.all isSpace = true)
  obtain ⟨tree, respaced, written, verbatim⟩ := beautify_eq_toHtml_of_respaced empty blankIndent
  refine ⟨empty, blankIndent, tree, respaced, ?_, (verbatim "pre" _ (by decide) (by decide)).1⟩
  rw [← written]
  decide +kernel

end StaticSite
