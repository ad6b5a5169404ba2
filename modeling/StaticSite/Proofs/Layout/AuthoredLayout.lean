/-
Module: StaticSite.Proofs.Layout.AuthoredLayout
Purpose: Beautifying does not see how a page was laid out.  Trees that differ in the white space
  of laid out lists, between words and at the ends of runs, are written alike, and the tree that
  is written is one of them.
Trusted boundary: none
Main exports:
  RunEdit, SameRun, LayoutVariant, SameRun.trim_lineOf, LayoutVariant.childLines_eq,
  layoutVariant_relaidAll, beautify_of_variant
-/
import Mathlib.Logic.Relation
import StaticSite.Proofs.Layout.Respacing

namespace StaticSite

open Text Markup Relation

/-! ### Runs -/

/-- One edit of the authored layout of a run.  White space in plain text is replaced by other white
space; and at the ends of the run there is less of it, in the text that stands there or as text of
its own. -/
inductive RunEdit : List Node → List Node → Prop where
  | words {before after : List Node} {old new : String}
      (same : SameWords old.toList new.toList) :
      RunEdit (before ++ .string .text old :: after) (before ++ .string .text new :: after)
  | start {kind : StringKind} {space text : String} {after : List Node}
      (isText : kind.isText = true) (blank : isBlank space = true) :
      RunEdit (.string kind (space ++ text) :: after) (.string kind text :: after)
  | leading {node : Node} {after : List Node} (blank : isBlankText node = true) :
      RunEdit (node :: after) after
  | finish {kind : StringKind} {space text : String} {before : List Node}
      (isText : kind.isText = true) (blank : isBlank space = true) :
      RunEdit (before ++ [.string kind (text ++ space)]) (before ++ [.string kind text])
  | trailing {node : Node} {before : List Node} (blank : isBlankText node = true) :
      RunEdit (before ++ [node]) before

/-- The runs differ in their authored layout only: one comes out of the other by edits and by
edits taken back. -/
def SameRun (run run' : List Node) : Prop :=
  EqvGen RunEdit run run'

namespace RunEdit

variable {run run' : List Node}

/-- Edits leave nothing but inline nodes in a run. -/
theorem allInline_iff (edit : RunEdit run run') : AllInline run ↔ AllInline run' := by
  cases edit with
  | words => simp [AllInline, or_imp, forall_and, isInline]
  | start isText => simp [AllInline, isInline_of_isText isText]
  | leading blank => simp [AllInline, isInline_of_isBlankText blank]
  | finish isText => simp [AllInline, or_imp, forall_and, isInline_of_isText isText]
  | trailing blank => simp [AllInline, or_imp, forall_and, isInline_of_isBlankText blank]

/-- White space that text starts with does not count at the start of a line. -/
theorem dropWhile_inlinePiece {kind : StringKind} (isText : kind.isText = true)
    {space : String} (blank : isBlank space = true) (text : String) :
    (inlinePiece (.string kind (space ++ text))).toList.dropWhile isSpace =
      (inlinePiece (.string kind text)).toList.dropWhile isSpace := by
  have gone : (space ++ text).toList.dropWhile isSpace = text.toList.dropWhile isSpace := by
    rw [String.toList_append, List.dropWhile_append,
      List.dropWhile_eq_nil_iff.mpr (isBlank_iff.mp blank)]
    rfl
  rw [inlinePiece_text isText, inlinePiece_text isText, escapeChars_dropWhile,
    escapeChars_dropWhile]
  split
  · rw [collapseChars, dropWhile_collapseFrom, gone, ← dropWhile_collapseFrom false, collapseChars]
  · rw [gone]

/-- White space that text ends with does not count at the end of a line. -/
theorem trimEnd_inlinePiece {kind : StringKind} (isText : kind.isText = true)
    {space : String} (blank : isBlank space = true) (text : String) :
    trimEnd (inlinePiece (.string kind (text ++ space))).toList =
      trimEnd (inlinePiece (.string kind text)).toList := by
  have blankEnd := isBlank_iff.mp blank
  rw [inlinePiece_text isText, inlinePiece_text isText, escapeChars_trimEnd, escapeChars_trimEnd,
    String.toList_append]
  split
  · rw [trimEnd_collapseChars_append blankEnd]
  · rw [trimEnd_append, if_pos (trimEnd_eq_nil_iff.mpr blankEnd)]

/-- Blank text adds nothing but white space. -/
theorem isSpace_of_blank_piece {node : Node} (blank : isBlankText node = true) :
    ∀ c ∈ (inlinePiece node).toList, isSpace c = true := by
  have inline : isInline (collapsed node) = true := by
    rw [isInline_collapsed]
    exact isInline_of_isBlankText blank
  rw [inlinePiece_eq]
  apply (isBlankText_iff inline).mp
  rwa [(Retexted.collapsed node).isBlankText_eq]

/-- An edit does not change the line of the run. -/
theorem trim_lineOf (edit : RunEdit run run') : trim (lineOf run) = trim (lineOf run') := by
  have cons (node : Node) (rest : List Node) :
      (lineOf (node :: rest)).toList = (inlinePiece node).toList ++ (lineOf rest).toList := by
    rw [lineOf, List.map_cons, concat, String.toList_append]
    rfl
  have snoc (before : List Node) (node : Node) :
      (lineOf (before ++ [node])).toList = (lineOf before).toList ++ (inlinePiece node).toList := by
    rw [lineOf_append, String.toList_append, cons]
    simp [lineOf, concat]
  rw [trim, trim]
  apply congrArg String.ofList
  cases edit with
  | @words before after old new same =>
      have piece : inlinePiece (.string .text old) = inlinePiece (.string .text new) := by
        rw [inlinePiece_eq, inlinePiece_eq, collapsed, collapsed, collapse, collapse, collapseChars,
          collapseChars, same.collapseFrom_eq]
      rw [lineOf_append, lineOf_append, lineOf, lineOf, lineOf, List.map_cons, List.map_cons, piece]
  | start isText blank =>
      rw [cons, cons]
      exact trimChars_append_congr_left (dropWhile_inlinePiece isText blank _) _
  | leading blank =>
      rw [cons]
      exact trimChars_blank_append (isSpace_of_blank_piece blank) _
  | finish isText blank =>
      rw [snoc, snoc]
      exact trimChars_append_congr_right (trimEnd_inlinePiece isText blank _) _
  | trailing blank =>
      rw [snoc]
      exact trimChars_append_blank (isSpace_of_blank_piece blank) _

end RunEdit

namespace SameRun

variable {run run' : List Node}

theorem of_edit (edit : RunEdit run run') : SameRun run run' :=
  .rel run run' edit

theorem refl (run : List Node) : SameRun run run :=
  EqvGen.refl run

theorem symm (same : SameRun run run') : SameRun run' run :=
  EqvGen.symm run run' same

theorem trans {run'' : List Node} (first : SameRun run run') (second : SameRun run' run'') :
    SameRun run run'' :=
  EqvGen.trans run run' run'' first second

theorem allInline_iff (same : SameRun run run') : AllInline run ↔ AllInline run' := by
  induction same with
  | rel _ _ edit => exact edit.allInline_iff
  | refl => exact Iff.rfl
  | symm _ _ _ inductionHypothesis => exact inductionHypothesis.symm
  | trans _ _ _ _ _ first second => exact first.trans second

/-- Runs that differ in their layout make the same line. -/
theorem trim_lineOf (same : SameRun run run') : trim (lineOf run) = trim (lineOf run') := by
  induction same with
  | rel _ _ edit => exact edit.trim_lineOf
  | refl => rfl
  | symm _ _ _ inductionHypothesis => exact inductionHypothesis.symm
  | trans _ _ _ _ _ first second => exact first.trans second

/-! ### The run of a line -/

/-- Collapsing the plain text of a run is an edit of its layout.  `before` are the nodes that have
been collapsed. -/
theorem map_collapsed (before run : List Node) :
    SameRun (before ++ run) (before ++ run.map collapsed) := by
  induction run generalizing before with
  | nil => exact .refl _
  | cons node rest inductionHypothesis =>
      have here : SameRun (before ++ node :: rest) (before ++ collapsed node :: rest) := by
        cases node with
        | element => exact .refl _
        | string kind text =>
            cases kind with
            | text =>
                apply of_edit
                apply RunEdit.words
                rw [collapse, String.toList_ofList]
                exact sameWords_collapseChars text.toList
            | _ => exact .refl _
      apply here.trans
      have onwards := inductionHypothesis (before ++ [collapsed node])
      rwa [List.append_assoc, List.append_assoc] at onwards

theorem retext_trimLeft (node : Node) (after : List Node) :
    SameRun (node :: after) (retext trimLeft node :: after) := by
  cases node with
  | element => exact .refl _
  | string kind text =>
      rw [retext]
      split
      next isText =>
        have whole : String.ofList (text.toList.takeWhile isSpace) ++ trimLeft text = text := by
          rw [trimLeft, ← String.ofList_append, List.takeWhile_append_dropWhile,
            String.ofList_toList]
        have blank : isBlank (String.ofList (text.toList.takeWhile isSpace)) = true := by
          rw [isBlank_iff, String.toList_ofList]
          exact fun _ => List.mem_takeWhile_imp
        have edit : RunEdit _ (.string kind (trimLeft text) :: after) := .start isText blank
        rw [whole] at edit
        exact of_edit edit
      next => exact .refl _

theorem retext_trimRight (before : List Node) (node : Node) :
    SameRun (before ++ [node]) (before ++ [retext trimRight node]) := by
  cases node with
  | element => exact .refl _
  | string kind text =>
      rw [retext]
      split
      next isText =>
        have whole : trimRight text ++ String.ofList (text.toList.rtakeWhile isSpace) = text := by
          rw [trimRight, trimEnd_eq_rdropWhile, ← String.ofList_append,
            List.rdropWhile_append_rtakeWhile, String.ofList_toList]
        have blank : isBlank (String.ofList (text.toList.rtakeWhile isSpace)) = true := by
          rw [isBlank_iff, String.toList_ofList]
          exact fun _ => List.mem_rtakeWhile_imp
        have edit : RunEdit _ (before ++ [.string kind (trimRight text)]) := .finish isText blank
        rw [whole] at edit
        exact of_edit edit
      next => exact .refl _

theorem trimmedLeft (run : List Node) : SameRun run (trimmedLeft run) := by
  induction run with
  | nil => exact .refl []
  | cons node rest inductionHypothesis =>
      rw [StaticSite.trimmedLeft]
      split
      next blank => exact (of_edit (.leading blank)).trans inductionHypothesis
      next => exact retext_trimLeft node rest

/-- Trimming the end of a run is an edit of its layout.  `before` are the nodes that stay. -/
theorem trimmedRight (before run : List Node) :
    SameRun (before ++ run) (before ++ trimmedRight run) := by
  induction run generalizing before with
  | nil => exact .refl _
  | cons node rest inductionHypothesis =>
      have onwards := inductionHypothesis (before ++ [node])
      rw [List.append_assoc, List.append_assoc] at onwards
      rw [StaticSite.trimmedRight]
      cases kept : StaticSite.trimmedRight rest with
      | cons first others =>
          rw [kept] at onwards
          exact onwards
      | nil =>
          rw [kept] at onwards
          apply onwards.trans
          by_cases blank : isBlankText node = true
          · simp only [blank, if_true, List.append_nil]
            exact of_edit (.trailing blank)
          · simp only [blank]
            exact retext_trimRight before node

/-- A run as its line shows it differs from the run in its layout only. -/
theorem settledRun (run : List Node) : SameRun run (settledRun run) :=
  ((map_collapsed [] run).trans (trimmedLeft _)).trans (trimmedRight [] _)

theorem of_settledRun_eq (same : StaticSite.settledRun run = StaticSite.settledRun run') :
    SameRun run run' := by
  apply (settledRun run).trans
  rw [same]
  exact (settledRun run').symm

/-- Blank text at the ends of a run is a matter of layout. -/
theorem of_blank_front {front : List Node} (blank : ∀ node ∈ front, isBlankText node = true)
    (run : List Node) : SameRun (front ++ run) run := by
  induction front with
  | nil => exact .refl run
  | cons node others inductionHypothesis =>
      obtain ⟨here, there⟩ := List.forall_mem_cons.mp blank
      exact (of_edit (.leading here)).trans (inductionHypothesis there)

theorem of_blank_back {back : List Node} (blank : ∀ node ∈ back, isBlankText node = true)
    (run : List Node) : SameRun (run ++ back) run := by
  induction back generalizing run with
  | nil =>
      rw [List.append_nil]
      exact .refl run
  | cons node others inductionHypothesis =>
      obtain ⟨here, there⟩ := List.forall_mem_cons.mp blank
      have longer := inductionHypothesis there (run ++ [node])
      rw [List.append_assoc] at longer
      exact longer.trans (of_edit (.trailing here))

end SameRun

/-! ### Trees -/

/-- The second list of siblings is the first one under another layout.  Its runs differ in their
layout only, and so do those of the elements in it that are laid out, on every level. -/
inductive LayoutVariant : List Node → List Node → Prop where
  | last {run run' : List Node} (inline : AllInline run) (runs : SameRun run run') :
      LayoutVariant run run'
  | block {run run' : List Node} {node : Node} {rest rest' : List Node} (inline : AllInline run)
      (runs : SameRun run run') (isBlock : isInline node = false)
      (others : LayoutVariant rest rest') :
      LayoutVariant (run ++ node :: rest) (run' ++ node :: rest')
  | inside {run run' : List Node} {name : String} {attributes : Attributes}
      {children children' rest rest' : List Node} (inline : AllInline run)
      (runs : SameRun run run') (laidOut : isLaidOut name children = true)
      (below : LayoutVariant children children') (others : LayoutVariant rest rest') :
      LayoutVariant (run ++ .element name attributes children :: rest)
        (run' ++ .element name attributes children' :: rest')

namespace LayoutVariant

variable {nodes nodes' : List Node}

/-- Under another layout there are blocks if there were some. -/
theorem all_isInline_eq (variant : LayoutVariant nodes nodes') :
    nodes.all isInline = nodes'.all isInline := by
  cases variant with
  | last inline runs =>
      rw [List.all_eq_true.mpr inline, List.all_eq_true.mpr (runs.allInline_iff.mp inline)]
  | block _ _ isBlock => simp [isBlock]
  | inside _ _ laidOut => simp [isInline_of_isLaidOut laidOut]

/-- Lists under different layouts are written on the same lines. -/
theorem childLines_eq (variant : LayoutVariant nodes nodes') (unit : String) (depth : Nat) :
    childLines unit depth "" nodes = childLines unit depth "" nodes' := by
  induction variant generalizing depth with
  | last inline runs =>
      rw [childLines_run inline, childLines_run (runs.allInline_iff.mp inline), runLines, runLines,
        runs.trim_lineOf]
  | block inline runs isBlock _ inductionHypothesis =>
      rw [childLines_block inline isBlock, childLines_block (runs.allInline_iff.mp inline) isBlock,
        runLines, runLines, runs.trim_lineOf, inductionHypothesis]
  | @inside run run' name attributes children children' rest rest' inline runs laidOut below _
      inBelow inOthers =>
      have isBlock := isInline_of_isLaidOut laidOut attributes
      have opened : isVerbatim name children = false := by
        simpa using (Bool.and_eq_true_iff.mp laidOut).2
      have opened' : isVerbatim name children' = false := by
        rw [← opened, isVerbatim, isVerbatim, below.all_isInline_eq]
      have lines : blockLines unit depth (.element name attributes children) =
          blockLines unit depth (.element name attributes children') := by
        simp only [blockLines, opened, opened', inBelow, Bool.false_eq_true, if_false]
      rw [childLines_block inline (isBlock _),
        childLines_block (runs.allInline_iff.mp inline) (isBlock _), runLines, runLines,
        runs.trim_lineOf, lines, inOthers]

end LayoutVariant

/-! ### The tree that is written -/

theorem isBlankText_lineFeed : ∀ node ∈ [spacing "\n"], isBlankText node = true :=
  List.forall_mem_singleton.mpr rfl

section Laying

variable {unit : String} (blankUnit : isBlank unit = true)

include blankUnit

theorem isBlankText_margin (depth : Nat) :
    ∀ node ∈ [spacing (margin unit depth)], isBlankText node = true :=
  List.forall_mem_singleton.mpr (isBlank_margin blankUnit depth)

/-- A run on a line of its own, with more white space around it, is the run under another
layout. -/
theorem sameRun_relaidRun {front back : List Node}
    (blankFront : ∀ node ∈ front, isBlankText node = true)
    (blankBack : ∀ node ∈ back, isBlankText node = true) (depth : Nat) (run : List Node) :
    SameRun run (front ++ relaidRun unit depth run ++ back) := by
  have relaid : SameRun run (relaidRun unit depth run) := by
    apply (SameRun.settledRun run).trans
    rw [relaidRun]
    cases settledRun run with
    | nil => exact .refl []
    | cons first others =>
        apply (SameRun.of_blank_back isBlankText_lineFeed _).symm.trans
        exact (SameRun.of_blank_front (isBlankText_margin blankUnit depth) _).symm
  exact (relaid.trans (SameRun.of_blank_front blankFront _).symm).trans
    (SameRun.of_blank_back blankBack _).symm

/-- A document laid out anew is the document under another layout.  The white space around lists
of siblings is carried along, since what ends one of them begins the next. -/
theorem layoutVariant_relaidAll (nodes : List Node) {front back : List Node}
    (blankFront : ∀ node ∈ front, isBlankText node = true)
    (blankBack : ∀ node ∈ back, isBlankText node = true) (depth : Nat) :
    LayoutVariant nodes (front ++ relaidAll unit depth [] nodes ++ back) := by
  induction nodes using layoutInduction generalizing front back depth with
  | last run inline =>
      rw [relaidAll_run inline]
      exact .last inline (sameRun_relaidRun blankUnit blankFront blankBack depth run)
  | doctype run text rest inline inRest =>
      have before : SameRun run
          (front ++ relaidRun unit depth run ++ [spacing (margin unit depth)]) :=
        sameRun_relaidRun blankUnit blankFront (isBlankText_margin blankUnit depth) depth run
      have variant := LayoutVariant.block inline before
        (rfl : isInline (.string .doctype text) = false)
        (inRest (List.forall_mem_nil _) blankBack depth)
      rw [relaidAll_block inline (by rfl), relaid, lineEnd]
      simpa only [List.append_assoc, List.cons_append, List.nil_append] using variant
  | element run name attributes children rest inline isBlock inChildren inRest =>
      -- the margin of a block ends the run before it, and its line feed starts the run after it
      have before : SameRun run
          (front ++ relaidRun unit depth run ++ [spacing (margin unit depth)]) :=
        sameRun_relaidRun blankUnit blankFront (isBlankText_margin blankUnit depth) depth run
      have others := inRest isBlankText_lineFeed blankBack depth
      rw [relaidAll_block inline isBlock, relaid, lineEnd]
      by_cases verbatim : isVerbatim name children = true
      · have variant := LayoutVariant.block inline before isBlock others
        rw [if_pos verbatim]
        simpa only [List.append_assoc, List.cons_append, List.nil_append] using variant
      · have laidOut := isLaidOut_of_isBlock isBlock verbatim
        have below :=
          inChildren isBlankText_lineFeed (isBlankText_margin blankUnit depth) (depth + 1)
        have variant : LayoutVariant (run ++ .element name attributes children :: rest) _ :=
          .inside inline before laidOut below others
        rw [if_neg verbatim]
        simpa only [List.append_assoc, List.cons_append, List.nil_append] using variant

end Laying

/-! ### Beautified pages -/

/-- Beautifying does not see how a page was laid out, and a beautified page is the markup of the
page under another layout, so that beautifying that changes nothing. -/
theorem beautify_of_variant {document : List Node} {indent : Indent}
    (empty : VoidElementsEmpty document) (blankIndent : indent.MadeOf isSpace) :
    (∀ other, LayoutVariant document other → beautify other indent = beautify document indent) ∧
      ∃ tree, LayoutVariant document tree ∧ toHtml tree = beautify document indent ∧
        beautify tree indent = toHtml tree := by
  have blankUnit : isBlank indent.unit = true := isBlank_iff.mpr (blankIndent.unit (by decide))
  have unseen : ∀ other, LayoutVariant document other →
      beautify other indent = beautify document indent := by
    intro other variant
    rw [beautify, beautify, variant.childLines_eq]
  have relaid := layoutVariant_relaidAll blankUnit document (List.forall_mem_nil _)
    (List.forall_mem_nil _) 0
  rw [List.nil_append, List.append_nil] at relaid
  have written := beautify_eq_toHtml_relaidAll blankUnit empty
  exact ⟨unseen, relaidAll indent.unit 0 [] document, relaid, written.symm,
    (unseen _ relaid).trans written⟩

/-- The sample article with other white space in its sentence and around its blocks. -/
def reflowedArticle : List Node :=
  [ .string .text " ",
    .string .doctype "html",
    .string .text "\n",
    .element "article" []
      [ .string .text "All\tthe best, ",
        .element "b" [] [.string .text " we "],
        .string .text "say.",
        .string .text "\n",
        .element "pre" [("class", "verse")] [.string .text "  kept\n   as is"],
        .string .text "\n  ",
        .element "br" [] [],
        .string .comment " end ",
        .string .text "\n" ] ]

theorem layoutVariant_reflowedArticle : LayoutVariant sampleArticle reflowedArticle := by
  have sentence := SameRun.of_settledRun_eq (by decide +kernel :
    settledRun
      [ .string .text "\n  All  the\tbest,\n", .element "b" [] [.string .text " we "],
        .string .text "say. " ] =
    settledRun
      [ .string .text "All\tthe best, ", .element "b" [] [.string .text " we "],
        .string .text "say.", .string .text "\n" ])
  have ending := SameRun.of_settledRun_eq (by decide +kernel :
    settledRun [ .element "br" [] [], .string .comment " end " ] =
    settledRun
      [ .string .text "\n  ", .element "br" [] [], .string .comment " end ", .string .text "\n" ])
  have children := LayoutVariant.block (by decide) sentence
    (by decide : isInline
      (.element "pre" [("class", "verse")] [.string .text "  kept\n   as is"]) = false)
    (.last (by decide) ending)
  have article : LayoutVariant ([] ++ [.element "article" [] _])
      ([.string .text "\n"] ++ [.element "article" [] _]) :=
    .inside (by decide) (.of_settledRun_eq (by decide)) (by decide) children
      (.last (by decide) (.refl []))
  exact .block (by decide)
    (.of_settledRun_eq (by decide : settledRun [] = settledRun [.string .text " "]))
    (by decide) article

/-- The article and its reflowed copy are indented with tabs alike, and so is the result. -/
theorem beautify_of_reflowed_sample :
    VoidElementsEmpty sampleArticle ∧ (Indent.literal "\t").MadeOf isSpace ∧
      beautify reflowedArticle (.literal "\t") = beautify sampleArticle (.literal "\t") ∧
      ∃ tree, LayoutVariant sampleArticle tree ∧
        toHtml tree = beautify reflowedArticle (.literal "\t") ∧
        beautify tree (.literal "\t") = toHtml tree := by
  have empty : VoidElementsEmpty sampleArticle := by decide
  have blankIndent : (Indent.literal "\t").MadeOf isSpace :=
    List.all_eq_true.mp (by decide : "\t".toList.all isSpace = true)
  obtain ⟨unseen, tree, relaid, written, again⟩ := beautify_of_variant empty blankIndent
  have same := unseen reflowedArticle layoutVariant_reflowedArticle
  exact ⟨empty, blankIndent, same, tree, relaid, written.trans same.symm, again⟩

end StaticSite
