/-
Module: StaticSite.Proofs.Layout.VisibleText
Purpose: What beautifying a page does to the characters that HTML does not collapse.  None is
  added, and the ones lost are white space: that of plain text, which is collapsed, and that at
  the ends of a line.
Trusted boundary: none
Main exports:
  without, Remains, runs, alteredSpaces, LayoutIgnored.remains_relaidAll, beautify_remains,
  visible_text_kept_iff, no_break_space_lost
-/
import StaticSite.Proofs.Layout.Respacing

namespace StaticSite

open Text Markup

/-! ### What is seen of a text -/

/-- A text without its characters of one kind. -/
def without (unwanted : Char → Bool) (s : String) : String :=
  String.ofList (s.toList.filter fun c => !unwanted c)

theorem toList_without (unwanted : Char → Bool) (s : String) :
    (without unwanted s).toList = s.toList.filter fun c => !unwanted c :=
  String.toList_ofList

theorem without_append (unwanted : Char → Bool) (first second : String) :
    without unwanted (first ++ second) = without unwanted first ++ without unwanted second := by
  rw [← String.toList_inj, String.toList_append, toList_without, toList_without, toList_without,
    String.toList_append, List.filter_append]

theorem without_eq_empty {unwanted : Char → Bool} {s : String}
    (allUnwanted : ∀ c ∈ s.toList, unwanted c = true) : without unwanted s = "" := by
  have gone : (s.toList.filter fun c => !unwanted c) = [] := by
    rw [List.filter_eq_nil_iff]
    intro c member
    simp [allUnwanted c member]
  rw [without, gone, String.ofList_nil]

/-- Apart from ignored characters, the second text shows a part of the first one, and all of
it exactly if the condition holds. -/
structure Remains (ignored : Char → Bool) (before after : String) (kept : Prop) : Prop where
  sublist : (without ignored after).toList.Sublist (without ignored before).toList
  eq_iff : without ignored after = without ignored before ↔ kept

namespace Remains

variable {ignored : Char → Bool} {before after before' after' : String} {kept kept' : Prop}

theorem refl (ignored : Char → Bool) (s : String) : Remains ignored s s True :=
  ⟨List.Sublist.refl _, iff_of_true rfl trivial⟩

/-- Nothing is left of a text that is dropped, and nothing is missing if it was not seen. -/
theorem dropped (ignored : Char → Bool) (s : String) :
    Remains ignored s "" (∀ c ∈ s.toList, ignored c = true) := by
  constructor
  · exact List.nil_sublist _
  · rw [eq_comm, ← String.toList_inj, toList_without, toList_without, String.toList_empty,
      List.filter_nil, List.filter_eq_nil_iff]
    simp

/-- What is left of a text is all of it if no character is missing. -/
theorem eq_of_length_le (remains : Remains ignored before after kept)
    (long : (without ignored before).toList.length ≤ (without ignored after).toList.length) :
    without ignored after = without ignored before :=
  String.toList_inj.mp (remains.sublist.eq_of_length_le long)

theorem congr (remains : Remains ignored before after kept)
    (same : without ignored after' = without ignored after) (iff : kept' ↔ kept) :
    Remains ignored before after' kept' := by
  constructor
  · rw [same]
    exact remains.sublist
  · rw [same, iff]
    exact remains.eq_iff

theorem append (first : Remains ignored before after kept)
    (second : Remains ignored before' after' kept') :
    Remains ignored (before ++ before') (after ++ after') (kept ∧ kept') := by
  constructor
  · simp only [without_append, String.toList_append]
    exact first.sublist.append second.sublist
  · rw [without_append, without_append, ← first.eq_iff, ← second.eq_iff]
    constructor
    · intro same
      have lengths := congrArg (fun s => s.toList.length) same
      simp only [String.toList_append, List.length_append] at lengths
      have short := first.sublist.length_le
      have shortToo := second.sublist.length_le
      exact ⟨first.eq_of_length_le (by omega), second.eq_of_length_le (by omega)⟩
    · rintro ⟨same, sameToo⟩
      rw [same, sameToo]

theorem trans (first : Remains ignored before after kept)
    (second : Remains ignored after after' kept') :
    Remains ignored before after' (kept ∧ kept') := by
  constructor
  · exact second.sublist.trans first.sublist
  · rw [← first.eq_iff, ← second.eq_iff]
    constructor
    · intro same
      have all : without ignored after = without ignored before := by
        apply first.eq_of_length_le
        rw [← same]
        exact second.sublist.length_le
      exact ⟨all, same.trans all.symm⟩
    · rintro ⟨same, sameToo⟩
      exact sameToo.trans same

end Remains

/-! ### Lines -/

/-- The white space of a node that is plain text. -/
def plainSpaces : Node → List Char
  | .string .text text => text.toList.filter isSpace
  | _ => []

/-- The white space of a run that its line shows differently or not at all: that of plain text,
which is collapsed, and that at the ends of the line. -/
def alteredSpaces (run : List Node) : List Char :=
  run.flatMap plainSpaces ++ trimmedOff (lineOf run).toList

theorem isSpace_of_alteredSpaces {run : List Node} {c : Char} (altered : c ∈ alteredSpaces run) :
    isSpace c = true := by
  rcases List.mem_append.mp altered with inText | atEnd
  · obtain ⟨node, -, member⟩ := List.mem_flatMap.mp inText
    unfold plainSpaces at member
    split at member
    · exact (List.mem_filter.mp member).2
    · exact absurd member List.not_mem_nil
  · exact isSpace_of_trimmedOff atEnd

section Lines

variable {ignored : Char → Bool}

/-- Collapsed text loses its white space, apart from ignored characters. -/
theorem remains_collapse (space : ignored ' ' = true) (s : String) :
    Remains ignored s (collapse s) (∀ c ∈ s.toList.filter isSpace, ignored c = true) := by
  have seen : (without ignored (collapse s)).toList =
      (without ignored s).toList.filter fun c => !isSpace c := by
    rw [toList_without, toList_without, collapse, String.toList_ofList,
      filter_collapseChars (by rw [space]; rfl), List.filter_comm]
  constructor
  · rw [seen]
    exact List.filter_sublist
  · rw [← String.toList_inj, seen, List.filter_eq_self, toList_without]
    simp only [List.mem_filter, Bool.not_eq_true']
    constructor
    · rintro visible c ⟨member, isSpaceHere⟩
      by_contra notIgnored
      rw [visible c ⟨member, eq_false_of_ne_true notIgnored⟩] at isSpaceHere
      exact Bool.false_ne_true isSpaceHere
    · rintro spacesIgnored c ⟨member, notIgnored⟩
      apply eq_false_of_ne_true
      intro isSpaceHere
      rw [spacesIgnored c ⟨member, isSpaceHere⟩] at notIgnored
      exact Bool.false_ne_true notIgnored.symm

theorem remains_inlinePiece (space : ignored ' ' = true) (node : Node) :
    Remains ignored node.toHtml (inlinePiece node) (∀ c ∈ plainSpaces node, ignored c = true) := by
  have unchanged : Remains ignored node.toHtml node.toHtml
      (∀ c ∈ ([] : List Char), ignored c = true) :=
    (Remains.refl ignored _).congr rfl (by simp)
  cases node with
  | element => exact unchanged
  | string kind text =>
      cases kind with
      | text =>
          -- Escaping a text keeps its white space.
          have spaces : ∀ c, c ∈ (Node.string .text text).toHtml.toList.filter isSpace ↔
              c ∈ plainSpaces (.string .text text) := by
            intro c
            rw [toHtml_text (by rfl), plainSpaces, List.mem_filter, List.mem_filter]
            exact and_congr_left fun isSpaceHere => mem_escapeChars_of_space isSpaceHere
          apply (remains_collapse space (Node.string .text text).toHtml).congr rfl
          simp only [spaces]
      | _ => exact unchanged

theorem remains_lineOf (space : ignored ' ' = true) (run : List Node) :
    Remains ignored (toHtml run) (lineOf run)
      (∀ c ∈ run.flatMap plainSpaces, ignored c = true) := by
  induction run with
  | nil => exact (Remains.refl ignored "").congr rfl (by simp)
  | cons node rest inductionHypothesis =>
      rw [toHtml_cons]
      apply ((remains_inlinePiece space node).append inductionHypothesis).congr
      · rfl
      · rw [List.flatMap_cons, List.forall_mem_append]

theorem remains_trim (ignored : Char → Bool) (s : String) :
    Remains ignored s (trim s) (∀ c ∈ trimmedOff s.toList, ignored c = true) := by
  let first := String.ofList (s.toList.takeWhile isSpace)
  let last := String.ofList ((s.toList.dropWhile isSpace).rtakeWhile isSpace)
  have split : first ++ (trim s ++ last) = s := by
    rw [← String.toList_inj]
    simp only [first, last, trim, String.toList_append, String.toList_ofList,
      trimChars_decompose]
  have pieces := (Remains.dropped ignored first).append
    ((Remains.refl ignored (trim s)).append (Remains.dropped ignored last))
  rw [split, String.empty_append, String.append_empty] at pieces
  apply pieces.congr rfl
  simp only [trimmedOff, first, last, String.toList_ofList, List.forall_mem_append, true_and]

end Lines

/-! ### Documents -/

mutual

/-- The runs inside a block. -/
def runsIn : Node → List (List Node)
  | .string _ _ => []
  | .element name _ children => if isVerbatim name children then [] else runsAfter [] children

/-- The runs among siblings and inside them; `run` are the inline nodes right before them. -/
def runsAfter (run : List Node) : List Node → List (List Node)
  | [] => [run]
  | child :: rest =>
      if isInline child then
        runsAfter (run ++ [child]) rest
      else
        run :: (runsIn child ++ runsAfter [] rest)

end

/-- The runs of inline nodes between the blocks of a document, each of them written on a line. -/
def runs (document : List Node) : List (List Node) :=
  runsAfter [] document

section Runs

variable {run : List Node}

theorem runsAfter_append (inline : AllInline run) (before rest : List Node) :
    runsAfter before (run ++ rest) = runsAfter (before ++ run) rest := by
  induction run generalizing before with
  | nil => rw [List.nil_append, List.append_nil]
  | cons node others inductionHypothesis =>
      obtain ⟨here, there⟩ := List.forall_mem_cons.mp inline
      rw [List.cons_append, runsAfter, if_pos here, inductionHypothesis there, List.append_assoc,
        List.singleton_append]

theorem runs_run (inline : AllInline run) : runs run = [run] := by
  simpa [runs, runsAfter] using runsAfter_append inline [] []

theorem runs_block (inline : AllInline run) {block : Node} (isBlock : isInline block = false)
    (rest : List Node) : runs (run ++ block :: rest) = run :: (runsIn block ++ runs rest) := by
  rw [runs, runsAfter_append inline, List.nil_append, runsAfter, isBlock,
    if_neg Bool.false_ne_true, runs]

end Runs

/-- The white space that lays out a page is ignored, and what is ignored is white space. -/
structure LayoutIgnored (ignored : Char → Bool) (unit : String) : Prop where
  space : ignored ' ' = true
  lineFeed : ignored '\n' = true
  unit : ∀ c ∈ unit.toList, ignored c = true
  isSpace : ∀ c, ignored c = true → isSpace c = true

namespace LayoutIgnored

variable {ignored : Char → Bool} {unit : String} (layout : LayoutIgnored ignored unit)

include layout

theorem blankUnit : isBlank unit = true :=
  isBlank_iff.mpr fun c member => layout.isSpace c (layout.unit c member)

theorem without_margin (depth : Nat) : without ignored (margin unit depth) = "" :=
  without_eq_empty (forall_mem_margin layout.unit depth)

theorem toHtml_margin (depth : Nat) : (spacing (margin unit depth)).toHtml = margin unit depth :=
  toHtml_spacing (isBlank_margin layout.blankUnit depth)

theorem without_lineFeed : without ignored "\n" = "" := by
  apply without_eq_empty
  simpa using layout.lineFeed

/-- A run loses the white space that its line alters. -/
theorem remains_relaidRun (depth : Nat) {run : List Node} (inline : AllInline run) :
    Remains ignored (toHtml run) (toHtml (relaidRun unit depth run))
      (∀ c ∈ alteredSpaces run, ignored c = true) := by
  have line := (remains_lineOf layout.space run).trans (remains_trim ignored (lineOf run))
  apply line.congr
  · have written := toHtml_settledRun inline
    rw [relaidRun, ← written]
    cases settledRun run with
    | nil => rfl
    | cons first others =>
        simp only [toHtml_append, toHtml_cons, toHtml_nil, layout.toHtml_margin, toHtml_lineFeed,
          without_append, layout.without_margin, layout.without_lineFeed, String.empty_append,
          String.append_empty]
  · rw [alteredSpaces, List.forall_mem_append]

/-- A block loses the white space that is altered in its runs, if its children do. -/
theorem remains_relaid {depth : Nat} {name : String} {attributes : Attributes}
    {children : List Node}
    (inChildren : Remains ignored (toHtml children)
      (toHtml (relaidAll unit (depth + 1) [] children))
      (∀ run ∈ runs children, ∀ c ∈ alteredSpaces run, ignored c = true)) :
    Remains ignored (Node.toHtml (.element name attributes children))
      (relaid unit depth (.element name attributes children)).toHtml
      (∀ run ∈ runsIn (.element name attributes children), ∀ c ∈ alteredSpaces run,
        ignored c = true) := by
  rw [runsIn]
  by_cases verbatim : isVerbatim name children = true
  · rw [relaid, if_pos verbatim, if_pos verbatim]
    exact (Remains.refl ignored _).congr rfl (by simp)
  · rw [if_neg verbatim]
    have laidOut := eq_false_of_ne_true verbatim
    have tags := ((Remains.refl ignored (startTag name attributes)).append inChildren).append
      (Remains.refl ignored ("</" ++ name ++ ">"))
    rw [← toHtml_element (escaped_of_laidOut laidOut)
      (children_ne_nil_of_laidOut laidOut)] at tags
    apply tags.congr
    · rw [toHtml_relaid layout.blankUnit laidOut]
      simp only [without_append, layout.without_margin, layout.without_lineFeed,
        String.empty_append, String.append_empty]
    · rw [true_and, and_true, runs]

/-- A document laid out anew loses the white space that is altered in its runs. -/
theorem remains_relaidAll (nodes : List Node) (depth : Nat) :
    Remains ignored (toHtml nodes) (toHtml (relaidAll unit depth [] nodes))
      (∀ run ∈ runs nodes, ∀ c ∈ alteredSpaces run, ignored c = true) := by
  induction nodes using layoutInduction generalizing depth with
  | last run inline =>
      rw [relaidAll_run inline, runs_run inline]
      apply (layout.remains_relaidRun depth inline).congr rfl
      rw [List.forall_mem_singleton]
  | doctype run text rest inline inRest =>
      rw [relaidAll_block inline (by rfl), runs_block inline (by rfl), relaid, runsIn,
        toHtml_append, toHtml_cons]
      apply ((layout.remains_relaidRun depth inline).append
        ((Remains.refl ignored (Node.string .doctype text).toHtml).append (inRest depth))).congr
      · simp only [lineEnd, toHtml_append, toHtml_cons, toHtml_nil, without_append,
          layout.toHtml_margin, layout.without_margin, String.empty_append, String.append_empty]
      · rw [List.forall_mem_cons, List.nil_append, true_and]
  | element run name attributes children rest inline isBlock inChildren inRest =>
      rw [relaidAll_block inline isBlock, runs_block inline isBlock, toHtml_append, toHtml_cons]
      apply ((layout.remains_relaidRun depth inline).append
        ((layout.remains_relaid (inChildren (depth + 1))).append (inRest depth))).congr
      · simp only [lineEnd, toHtml_append, toHtml_cons, toHtml_nil, layout.toHtml_margin,
          toHtml_lineFeed, without_append, layout.without_margin, layout.without_lineFeed,
          String.empty_append, String.append_empty]
      · rw [List.forall_mem_cons, List.forall_mem_append]

end LayoutIgnored

/-! ### Beautified pages -/

theorem beautify_remains {document : List Node} {indent : Indent} {ignored : Char → Bool}
    (empty : VoidElementsEmpty document) (layout : LayoutIgnored ignored indent.unit) :
    Remains ignored (toHtml document) (beautify document indent)
      (∀ run ∈ runs document, ∀ c ∈ alteredSpaces run, ignored c = true) := by
  rw [beautify_eq_toHtml_relaidAll layout.blankUnit empty]
  exact layout.remains_relaidAll document 0

theorem layoutIgnored_of_indentChars {indent : Indent} {ignored : Char → Bool}
    (indented : indent.MadeOf isIndentChar) (space : ignored ' ' = true) (tab : ignored '\t' = true)
    (lineFeed : ignored '\n' = true) (spaces : ∀ c, ignored c = true → isSpace c = true) :
    LayoutIgnored ignored indent.unit := by
  refine ⟨space, lineFeed, ?_, spaces⟩
  intro c member
  have indentChar := indented.unit (by decide) c member
  rcases Bool.or_eq_true_iff.mp indentChar with isBlank | isTab
  · rwa [eq_of_beq isBlank]
  · rwa [eq_of_beq isTab]

theorem isSpace_of_isHtmlSpace (c : Char) (space : isHtmlSpace c = true) : isSpace c = true := by
  simp only [isHtmlSpace, Bool.or_eq_true, beq_iff_eq] at space
  rcases space with (((rfl | rfl) | rfl) | rfl) | rfl <;> decide

/-- Beautifying a page neither adds a visible character nor loses one that is no white space.
White space that HTML does not collapse is kept exactly if there is none in the plain text that
shares lines with blocks, and none at the ends of such lines. -/
theorem visible_text_kept_iff {document : List Node} {indent : Indent}
    (empty : VoidElementsEmpty document) (indented : indent.MadeOf isIndentChar) :
    without isSpace (beautify document indent) = without isSpace (toHtml document) ∧
      (without isHtmlSpace (beautify document indent)).toList.Sublist
        (without isHtmlSpace (toHtml document)).toList ∧
      (without isHtmlSpace (beautify document indent) = without isHtmlSpace (toHtml document) ↔
        ∀ run ∈ runs document, ∀ c ∈ alteredSpaces run, isHtmlSpace c = true) := by
  have allSpaces := beautify_remains empty (layoutIgnored_of_indentChars indented
    (by decide : isSpace ' ' = true) (by decide) (by decide) fun _ space => space)
  have htmlSpaces := beautify_remains empty (layoutIgnored_of_indentChars indented
    (by decide : isHtmlSpace ' ' = true) (by decide) (by decide) isSpace_of_isHtmlSpace)
  refine ⟨allSpaces.eq_iff.mpr ?_, htmlSpaces.sublist, htmlSpaces.eq_iff⟩
  exact fun run _ c altered => isSpace_of_alteredSpaces altered

/-- The article is indented, and all that is seen of it stays. -/
theorem visible_text_of_sample :
    VoidElementsEmpty sampleArticle ∧ (Indent.spaces 4).MadeOf isIndentChar ∧
      without isHtmlSpace (beautify sampleArticle (.spaces 4)) =
        without isHtmlSpace (toHtml sampleArticle) := by
  have empty : VoidElementsEmpty sampleArticle := by decide
  have indented : (Indent.spaces 4).MadeOf isIndentChar := trivial
  obtain ⟨-, -, kept⟩ := visible_text_kept_iff empty indented
  have collapsible : (runs sampleArticle).all (fun run => (alteredSpaces run).all isHtmlSpace) =
      true := by
    decide +kernel
  refine ⟨empty, indented, kept.mpr ?_⟩
  intro run member
  exact List.all_eq_true.mp (List.all_eq_true.mp collapsible run member)

/-- A name that must not be broken, in text before a paragraph. -/
def sampleName : List Node :=
  [ .element "div" []
      [.string .text "Mr\u00a0Fox", .element "p" [] [.string .text "and friends"]] ]

/-- The no-break space of the name is gone: a space is written that HTML collapses. -/
theorem no_break_space_lost :
    VoidElementsEmpty sampleName ∧ (Indent.spaces 2).MadeOf isIndentChar ∧
      without isHtmlSpace (toHtml sampleName) = "<div>Mr\u00a0Fox<p>andfriends</p></div>" ∧
      without isHtmlSpace (beautify sampleName (.spaces 2)) =
        "<div>MrFox<p>andfriends</p></div>" := by
  refine ⟨?_, trivial, ?_, ?_⟩ <;> decide +kernel

end StaticSite
