/-
Module: StaticSite.Proofs.Layout.Adjacency
Purpose: Where beautifying a page puts white space between characters that had none: where a
  script or a style sheet stands between them, which is written on a line of its own.
Trusted boundary: none
Main exports:
  NoLooseCode, SetApart, setApart_relaidAll, all_tied_iff, adjacency_kept_iff
-/
import StaticSite.Proofs.Layout.Respacing
import StaticSite.Proofs.Layout.Ties

namespace StaticSite

open Text Markup

/-! ### Scripts and style sheets on lines of their own -/

/-- No script and no style sheet among the glyphs is loose. -/
def NoLooseCode (glyphs : List Glyph) : Prop :=
  ∀ glyph ∈ glyphs, glyph.isLooseCode = false

/-- White space follows on every loose script and style sheet. -/
def SetApart : List Glyph → Prop
  | [] => True
  | glyph :: rest =>
      (glyph.isLooseCode = true → ∃ blank others, rest = blank :: others ∧ blank.isBlank = true) ∧
        SetApart rest

/-- Scripts and style sheets are blocks. -/
theorem escaped_of_inline {name : String} (inline : inlineElements.contains name = true) :
    holdsRawText name = false := by
  rw [← Bool.not_eq_true]
  intro raw
  rcases Bool.or_eq_true_iff.mp raw with isScript | isStyle
  · rw [eq_of_beq isScript] at inline
    exact absurd inline (by decide)
  · rw [eq_of_beq isStyle] at inline
    exact absurd inline (by decide)

namespace NoLooseCode

variable {glyphs : List Glyph}

theorem setApart (none : NoLooseCode glyphs) : SetApart glyphs := by
  induction glyphs with
  | nil => trivial
  | cons glyph rest inductionHypothesis =>
      obtain ⟨here, there⟩ := List.forall_mem_cons.mp none
      refine ⟨fun isCode => ?_, inductionHypothesis there⟩
      rw [here] at isCode
      exact absurd isCode Bool.false_ne_true

/-- White space does not matter. -/
theorem of_withoutBlanks (none : NoLooseCode (withoutBlanks glyphs)) : NoLooseCode glyphs := by
  intro glyph member
  by_cases blank : glyph.isBlank = true
  · cases glyph with
    | character => rfl
    | _ => exact absurd blank Bool.false_ne_true
  · exact none glyph (List.mem_filter.mpr ⟨member, by simp [blank]⟩)

theorem of_blank (blank : ∀ glyph ∈ glyphs, glyph.isBlank = true) : NoLooseCode glyphs := by
  apply of_withoutBlanks
  intro glyph member
  obtain ⟨inGlyphs, visible⟩ := List.mem_filter.mp member
  rw [blank glyph inGlyphs] at visible
  exact absurd visible Bool.false_ne_true

theorem string (loose : Bool) (kind : StringKind) (text : String) :
    NoLooseCode (nodeGlyphs loose (.string kind text)) := by
  rw [nodeGlyphs]
  split
  · intro glyph member
    obtain ⟨c, -, rfl⟩ := List.mem_map.mp member
    rfl
  · exact List.forall_mem_singleton.mpr rfl

theorem element (loose : Bool) {name : String} (escaped : holdsRawText name = false)
    {attributes : Attributes} {children : List Node}
    (inChildren : NoLooseCode (StaticSite.glyphs (loose && !keepsLines name) children)) :
    NoLooseCode (nodeGlyphs loose (.element name attributes children)) := by
  rw [nodeGlyphs_element loose escaped]
  refine List.forall_mem_cons.mpr ⟨rfl, List.forall_mem_append.mpr ⟨inChildren, ?_⟩⟩
  rw [closing]
  split
  · exact List.forall_mem_nil _
  · exact List.forall_mem_singleton.mpr rfl

/-- In what keeps its lines no code is loose. -/
theorem kept (nodes : List Node) : NoLooseCode (StaticSite.glyphs false nodes) := by
  induction nodes using childListInduction with
  | nodes nodes inChildren =>
      induction nodes with
      | nil => exact List.forall_mem_nil _
      | cons node rest inRest =>
          obtain ⟨here, there⟩ := List.forall_mem_cons.mp inChildren
          refine List.forall_mem_append.mpr ⟨?_, inRest there⟩
          cases node with
          | string kind text => exact string false kind text
          | element name attributes children =>
              by_cases raw : holdsRawText name = true
              · rw [nodeGlyphs_code false raw]
                exact List.forall_mem_singleton.mpr rfl
              · exact element false (eq_false_of_ne_true raw) here

theorem inline (loose : Bool) {node : Node} (inline : isInline node = true) :
    NoLooseCode (nodeGlyphs loose node) := by
  cases node with
  | string kind text => exact string loose kind text
  | element name attributes children =>
      have listed : inlineElements.contains name = true := inline
      apply element loose (escaped_of_inline listed)
      rw [keepsLines, listed, Bool.true_or, Bool.not_true, Bool.and_false]
      exact kept children

theorem run (loose : Bool) {run : List Node} (inline : AllInline run) :
    NoLooseCode (StaticSite.glyphs loose run) := by
  induction run with
  | nil => exact List.forall_mem_nil _
  | cons node rest inductionHypothesis =>
      obtain ⟨here, there⟩ := List.forall_mem_cons.mp inline
      exact List.forall_mem_append.mpr ⟨NoLooseCode.inline loose here, inductionHypothesis there⟩

end NoLooseCode

theorem SetApart.of_append {first second : List Glyph} (apart : SetApart (first ++ second)) :
    SetApart second := by
  induction first with
  | nil => exact apart
  | cons glyph rest inductionHypothesis => exact inductionHypothesis apart.2

theorem SetApart.append {first second : List Glyph} (apart : SetApart first)
    (apartToo : SetApart second) : SetApart (first ++ second) := by
  induction first with
  | nil => exact apartToo
  | cons glyph rest inductionHypothesis =>
      obtain ⟨here, there⟩ := apart
      refine ⟨fun isCode => ?_, inductionHypothesis there⟩
      obtain ⟨blank, others, rfl, isBlank⟩ := here isCode
      exact ⟨blank, others ++ second, rfl, isBlank⟩

section LaidOut

variable {unit : String} (blankUnit : isBlank unit = true)

include blankUnit

theorem setApart_relaidRun (depth : Nat) {run : List Node} (inline : AllInline run) :
    SetApart (glyphs true (relaidRun unit depth run)) := by
  have same := ties_relaidRun true blankUnit depth .nil run
  rw [List.append_nil, List.append_nil] at same
  apply NoLooseCode.setApart
  apply NoLooseCode.of_withoutBlanks
  rw [← map_fst_ties false, same, map_fst_ties]
  exact fun glyph member => NoLooseCode.run true inline glyph (List.mem_filter.mp member).1

/-- A script or a style sheet is followed by the line feed of its line. -/
theorem setApart_block {depth : Nat} {name : String} {attributes : Attributes}
    {children : List Node} (isBlock : isInline (.element name attributes children) = false)
    (inChildren : SetApart (glyphs true (relaidAll unit (depth + 1) [] children))) :
    SetApart (nodeGlyphs true (relaid unit depth (.element name attributes children)) ++
      nodeGlyphs true (spacing "\n")) := by
  have lineFeedBlank := isBlank_of_spacing true (by decide : isBlank "\n" = true)
  have marginBlank := isBlank_of_spacing true (isBlank_margin blankUnit depth)
  have lineFeed : SetApart (nodeGlyphs true (spacing "\n")) :=
    (NoLooseCode.of_blank lineFeedBlank).setApart
  rw [relaid]
  by_cases verbatim : isVerbatim name children = true
  · rw [if_pos verbatim]
    by_cases raw : holdsRawText name = true
    · rw [nodeGlyphs_code true raw]
      exact ⟨fun _ => ⟨.character '\n', [], rfl, rfl⟩, lineFeed⟩
    · apply SetApart.append _ lineFeed
      apply NoLooseCode.setApart
      apply NoLooseCode.element true (eq_false_of_ne_true raw)
      rcases Bool.or_eq_true_iff.mp verbatim with isPreserved | allInline
      · rw [keepsLines, isPreserved, Bool.or_true]
        exact .kept children
      · exact .run _ (List.all_eq_true.mp allInline)
  · have laidOut := eq_false_of_ne_true verbatim
    rw [if_neg verbatim, nodeGlyphs_filled true (escaped_of_laidOut laidOut)
      (List.append_ne_nil_of_left_ne_nil (List.cons_ne_nil _ _) _),
      not_keepsLines_of_laidOut isBlock laidOut, Bool.not_false, Bool.and_true]
    have margin : SetApart (nodeGlyphs true (spacing (margin unit depth))) :=
      (NoLooseCode.of_blank marginBlank).setApart
    have endTag : SetApart [.endTag name] :=
      NoLooseCode.setApart (List.forall_mem_singleton.mpr rfl)
    have inside := (lineFeed.append (inChildren.append margin)).append endTag
    apply SetApart.append _ lineFeed
    refine ⟨fun isCode => absurd isCode Bool.false_ne_true, ?_⟩
    simpa using inside

/-- In a page laid out anew white space follows on every loose script and style sheet. -/
theorem setApart_relaidAll (nodes : List Node) (depth : Nat) :
    SetApart (glyphs true (relaidAll unit depth [] nodes)) := by
  induction nodes using layoutInduction generalizing depth with
  | last run inline =>
      rw [relaidAll_run inline]
      exact setApart_relaidRun blankUnit depth inline
  | doctype run text rest inline inRest =>
      have margin := (NoLooseCode.of_blank
        (isBlank_of_spacing true (isBlank_margin blankUnit depth))).setApart
      have doctype := (NoLooseCode.string true .doctype text).setApart
      rw [relaidAll_block inline (by rfl), relaid, lineEnd]
      simpa using (setApart_relaidRun blankUnit depth inline).append
        (margin.append (doctype.append (inRest depth)))
  | element run name attributes children rest inline isBlock inChildren inRest =>
      have margin := (NoLooseCode.of_blank
        (isBlank_of_spacing true (isBlank_margin blankUnit depth))).setApart
      have block := setApart_block blankUnit isBlock (inChildren (depth + 1))
      rw [relaidAll_block inline isBlock, lineEnd]
      simpa using (setApart_relaidRun blankUnit depth inline).append
        (margin.append (block.append (inRest depth)))

end LaidOut

/-! ### Neighbours -/

section Neighbours

variable {a b : Glyph} {between : List Glyph}

/-- After white space something is not tied. -/
theorem exists_untied (visible : b.isBlank = false) (between : List Glyph) :
    ∃ pair ∈ ties false (between ++ [b]), pair.2 = false := by
  induction between with
  | nil =>
      refine ⟨(b, false), ?_, rfl⟩
      rw [List.nil_append, ties_visible visible, Bool.false_and]
      exact List.mem_cons_self
  | cons glyph rest inductionHypothesis =>
      rw [List.cons_append]
      by_cases blank : glyph.isBlank = true
      · rwa [ties_blank blank]
      · refine ⟨(glyph, false), ?_, rfl⟩
        rw [ties_visible (eq_false_of_ne_true blank), Bool.false_and]
        exact List.mem_cons_self

/-- Where no line is broken, all glyphs are tied exactly if there is no white space. -/
theorem all_tied_iff (visible : b.isBlank = false) (unbrokenLast : b.isBreak = false)
    (unbroken : ∀ glyph ∈ between, glyph.isBreak = false) :
    (∀ pair ∈ ties true (between ++ [b]), pair.2 = true) ↔
      ∀ glyph ∈ between, glyph.isBlank = false := by
  induction between with
  | nil =>
      rw [List.nil_append, ties_visible visible, unbrokenLast]
      simp [ties]
  | cons glyph rest inductionHypothesis =>
      obtain ⟨here, there⟩ := List.forall_mem_cons.mp unbroken
      rw [List.cons_append, List.forall_mem_cons]
      by_cases blank : glyph.isBlank = true
      · rw [ties_blank blank]
        obtain ⟨pair, member, apart⟩ := exists_untied visible rest
        constructor
        · intro tied
          rw [tied pair member] at apart
          exact absurd apart.symm Bool.false_ne_true
        · rintro ⟨notBlank, -⟩
          rw [blank] at notBlank
          exact absurd notBlank.symm Bool.false_ne_true
      · have shown := eq_false_of_ne_true blank
        rw [ties_visible shown, here, List.forall_mem_cons, Bool.not_false,
          inductionHypothesis there]
        simp [shown]

theorem withoutBlanks_eq_self (shown : ∀ glyph ∈ between, glyph.isBlank = false) :
    withoutBlanks between = between := by
  rw [withoutBlanks, List.filter_eq_self]
  intro glyph member
  rw [shown glyph member, Bool.not_false]

/-- Code that is set apart has white space after it before anything else is shown. -/
theorem SetApart.exists_blank {after : List Glyph} {code : Glyph}
    (apart : SetApart (between ++ b :: after)) (visible : b.isBlank = false)
    (member : code ∈ between) (isCode : code.isLooseCode = true) :
    ∃ glyph ∈ between, glyph.isBlank = true := by
  induction between with
  | nil => exact absurd member List.not_mem_nil
  | cons glyph rest inductionHypothesis =>
      obtain ⟨here, there⟩ := apart
      rcases List.mem_cons.mp member with rfl | further
      · obtain ⟨blank, others, next, isBlank⟩ := here isCode
        cases rest with
        | nil =>
            obtain ⟨rfl, -⟩ := List.cons_eq_cons.mp next
            rw [isBlank] at visible
            exact absurd visible.symm Bool.false_ne_true
        | cons first more =>
            obtain ⟨rfl, -⟩ := List.cons_eq_cons.mp next
            exact ⟨first, List.mem_cons_of_mem _ List.mem_cons_self, isBlank⟩
      · obtain ⟨blank, inRest, isBlank⟩ := inductionHypothesis there further
        exact ⟨blank, List.mem_cons_of_mem _ inRest, isBlank⟩

variable {page before after before' between' after' : List Glyph}

/-- Glyphs that are the same apart from white space are parted by the same two of them. -/
theorem exists_parts (alike : withoutBlanks page =
      withoutBlanks before ++ a :: (withoutBlanks between ++ b :: withoutBlanks after)) :
    ∃ before' between' after', page = before' ++ a :: (between' ++ b :: after') ∧
      withoutBlanks before' = withoutBlanks before ∧
      withoutBlanks between' = withoutBlanks between ∧
      withoutBlanks after' = withoutBlanks after := by
  -- White space before a glyph goes to the part that the glyph ends.
  have upTo : ∀ {glyph : Glyph} {glyphs first second : List Glyph},
      withoutBlanks glyphs = first ++ glyph :: second →
        ∃ first' second', glyphs = first' ++ glyph :: second' ∧ withoutBlanks first' = first ∧
          withoutBlanks second' = second := by
    intro glyph glyphs first second parted
    obtain ⟨start, others, rfl, sameStart, sameOthers⟩ := List.filter_eq_append_iff.mp parted
    obtain ⟨blanks, rest, rfl, blank, -, sameRest⟩ := List.filter_eq_cons_iff.mp sameOthers
    refine ⟨start ++ blanks, rest, (List.append_assoc ..).symm, ?_, sameRest⟩
    have dropped : withoutBlanks blanks = [] := List.filter_eq_nil_iff.mpr blank
    rw [withoutBlanks_append, dropped, List.append_nil]
    exact sameStart
  obtain ⟨before', others, rfl, sameBefore, onwards⟩ := upTo alike
  obtain ⟨between', after', rfl, sameBetween, sameAfter⟩ := upTo onwards
  exact ⟨before', between', after', rfl, sameBefore, sameBetween, sameAfter⟩

theorem length_ties (tied : Bool) (glyphs : List Glyph) :
    (ties tied glyphs).length = (withoutBlanks glyphs).length := by
  rw [← map_fst_ties tied, List.length_map]

/-- Ties between two glyphs are found at the same place in both lists. -/
theorem ties_between (shown : a.isBlank = false) (unbroken : a.isBreak = false)
    (sameTies : ties false (before ++ a :: (between ++ b :: after)) =
      ties false (before' ++ a :: (between' ++ b :: after')))
    (sameBefore : withoutBlanks before = withoutBlanks before')
    (sameBetween : withoutBlanks between = withoutBlanks between') :
    ties true (between ++ [b]) = ties true (between' ++ [b]) := by
  rw [ties_append, ties_append] at sameTies
  obtain ⟨-, afterBefore⟩ := List.append_inj sameTies (by
    rw [length_ties, length_ties, sameBefore])
  rw [ties_visible shown, ties_visible shown, unbroken, Bool.not_false,
    List.append_cons between, List.append_cons between', ties_append true (between ++ [b]),
    ties_append true (between' ++ [b])] at afterBefore
  obtain ⟨-, afterFirst⟩ := List.cons_eq_cons.mp afterBefore
  apply (List.append_inj afterFirst ?_).1
  rw [length_ties, length_ties, withoutBlanks_append, withoutBlanks_append, sameBetween]

/-- White space between two characters with nothing displayed between them: there is none, unless
there is loose code. -/
theorem shown_between_iff (apart : SetApart (before' ++ a :: (between' ++ b :: after')))
    (sameTies : ties false (before' ++ a :: (between' ++ b :: after')) =
      ties false (before ++ a :: (between ++ b :: after)))
    (sameBefore : withoutBlanks before' = withoutBlanks before)
    (kept : withoutBlanks between' = between) (silent : ∀ glyph ∈ between, glyph.isSilent = true)
    (shownFirst : a.isBlank = false) (shownLast : b.isBlank = false)
    (unbrokenFirst : a.isBreak = false) (unbrokenLast : b.isBreak = false) :
    (∀ glyph ∈ between', glyph.isBlank = false) ↔
      ∀ glyph ∈ between, glyph.isLooseCode = false := by
  constructor
  · intro shown code member
    by_contra isCode
    rw [← kept] at member
    obtain ⟨glyph, inBetween, blank⟩ := apart.of_append.2.exists_blank shownLast
      (List.mem_filter.mp member).1 (eq_true_of_ne_false isCode)
    rw [shown glyph inBetween] at blank
    exact Bool.false_ne_true blank
  · intro noCode
    have shownBetween : ∀ glyph ∈ between, glyph.isBlank = false :=
      fun glyph member => Glyph.not_isBlank_of_isSilent (silent glyph member)
    have unbroken : ∀ glyph ∈ between, glyph.isBreak = false := by
      intro glyph member
      rw [Glyph.isBreak_of_isSilent (silent glyph member), noCode glyph member]
    have unbrokenToo : ∀ glyph ∈ between', glyph.isBreak = false := by
      intro glyph member
      by_contra isBreak
      have shown := Glyph.not_isBlank_of_isBreak (eq_true_of_ne_false isBreak)
      have inBetween : glyph ∈ between :=
        kept ▸ List.mem_filter.mpr ⟨member, by rw [shown, Bool.not_false]⟩
      exact isBreak (unbroken glyph inBetween)
    rw [← all_tied_iff shownLast unbrokenLast unbrokenToo,
      ties_between shownFirst unbrokenFirst sameTies sameBefore
        (kept.trans (withoutBlanks_eq_self shownBetween).symm),
      all_tied_iff shownLast unbrokenLast unbroken]
    exact shownBetween

end Neighbours

/-! ### Beautified pages -/

/-- Characters of a page with no white space between them, and nothing that is displayed or breaks
a line, are found in the beautified page again.  There is no white space between them there either,
unless a script or a style sheet stands between them that is written on a line of its own. -/
theorem adjacency_kept_iff {document : List Node} {indent : Indent}
    (blankIndent : indent.MadeOf isSpace) :
    Reads (glyphs true document) (toHtml document) ∧
      ∃ page, Reads page (beautify document indent) ∧
        withoutBlanks page = withoutBlanks (glyphs true document) ∧
        (∀ other, Reads other (beautify document indent) →
          withoutBlanks other = withoutBlanks (glyphs true document) → other = page) ∧
        ∀ before a between b after,
          glyphs true document = before ++ .character a :: (between ++ .character b :: after) →
          isSpace a = false → isSpace b = false →
          (∀ glyph ∈ between, glyph.isSilent = true) →
            ∃ before' between' after',
              page = before' ++ .character a :: (between' ++ .character b :: after') ∧
              withoutBlanks before' = withoutBlanks before ∧
              withoutBlanks between' = between ∧
              withoutBlanks after' = withoutBlanks after ∧
              ((∀ glyph ∈ between', glyph.isBlank = false) ↔
                ∀ glyph ∈ between, glyph.isLooseCode = false) := by
  have blankUnit : isBlank indent.unit = true := isBlank_iff.mpr (blankIndent.unit (by decide))
  have alike := withoutBlanks_relaidAll blankUnit document 0
  have sameTies := ties_relaidAll blankUnit document 0 [] .nil
  have apart := setApart_relaidAll blankUnit document 0
  have reads := reads_beautify blankUnit document
  refine ⟨reads_toHtml document true, _, reads, alike, fun other readsToo alikeToo =>
    readsToo.eq_of_withoutBlanks reads (alikeToo.trans alike.symm), ?_⟩
  intro before a between b after parted visibleFirst visibleLast silent
  have shownFirst : (Glyph.character a).isBlank = false := visibleFirst
  have shownLast : (Glyph.character b).isBlank = false := visibleLast
  have partedAlike : withoutBlanks (glyphs true (relaidAll indent.unit 0 [] document)) =
      withoutBlanks before ++ .character a ::
        (withoutBlanks between ++ .character b :: withoutBlanks after) := by
    rw [alike, parted]
    simp [withoutBlanks, shownFirst, shownLast]
  obtain ⟨before', between', after', whole, sameBefore, sameBetween, sameAfter⟩ :=
    exists_parts partedAlike
  have kept : withoutBlanks between' = between :=
    sameBetween.trans (withoutBlanks_eq_self fun glyph member =>
      Glyph.not_isBlank_of_isSilent (silent glyph member))
  rw [whole] at apart
  rw [List.append_nil, List.append_nil, whole, parted] at sameTies
  exact ⟨before', between', after', whole, sameBefore, kept, sameAfter,
    shown_between_iff apart sameTies sameBefore kept silent shownFirst shownLast rfl rfl⟩

/-- A word in a block, with a comment in it and markup around its end. -/
def sampleWord : List Node :=
  [ .element "div" []
      [ .string .text "\n   half", .string .comment " no hyphen ",
        .element "b" [] [.string .text "way up"],
        .element "p" [] [.string .text "and on"] ] ]

/-- The word stays one word. -/
theorem adjacency_of_sample :
    (Indent.literal "\t").MadeOf isSpace ∧
      beautify sampleWord (.literal "\t") =
        "<div>\n\thalf<!-- no hyphen --><b>way up</b>\n\t<p>and on</p>\n</div>\n" ∧
      ∃ page before between after, Reads page (beautify sampleWord (.literal "\t")) ∧
        page = before ++ .character 'f' :: (between ++ .character 'w' :: after) ∧
        withoutBlanks before = .startTag "div" [] :: "hal".toList.map .character ∧
        withoutBlanks between = [.note .comment " no hyphen ", .startTag "b" []] ∧
        ∀ glyph ∈ between, glyph.isBlank = false := by
  have blankIndent : (Indent.literal "\t").MadeOf isSpace :=
    List.all_eq_true.mp (by decide : "\t".toList.all isSpace = true)
  obtain ⟨-, page, reads, -, -, neighbours⟩ := @adjacency_kept_iff sampleWord _ blankIndent
  obtain ⟨before, between, after, whole, sameBefore, sameBetween, -, apart⟩ :=
    neighbours
      (.startTag "div" [] :: "\n   hal".toList.map .character) 'f'
      [.note .comment " no hyphen ", .startTag "b" []] 'w'
      ("ay up".toList.map .character ++ .endTag "b" :: .startTag "p" [] ::
        ("and on".toList.map .character ++ [.endTag "p", .endTag "div"]))
      (by decide) (by decide) (by decide) (by decide)
  refine ⟨blankIndent, by decide +kernel, page, before, between, after, reads, whole, ?_,
    sameBetween, apart.mpr (by decide)⟩
  rw [sameBefore]
  decide

/-- A script between the parts of a word. -/
def sampleScripted : List Node :=
  [ .element "div" []
      [ .string .text "foo", .element "script" [] [.string .script "x()"],
        .string .text "bar" ] ]

/-- The parts of the word are shown apart, whichever way the beautified page is read. -/
theorem script_parts_word :
    glyphs true sampleScripted =
        [.startTag "div" [], .character 'f', .character 'o'] ++ .character 'o' ::
          ([.code true "script" [] [.string .script "x()"]] ++ .character 'b' ::
            [.character 'a', .character 'r', .endTag "div"]) ∧
      Glyph.isSilent (.code true "script" [] [.string .script "x()"]) = true ∧
      beautify sampleScripted (.spaces 2) =
        "<div>\n  foo\n  <script>x()</script>\n  bar\n</div>\n" ∧
      ∀ page, Reads page (beautify sampleScripted (.spaces 2)) →
        withoutBlanks page = withoutBlanks (glyphs true sampleScripted) →
          page =
            .startTag "div" [] :: "\n  fo".toList.map .character ++ .character 'o' ::
              ("\n  ".toList.map .character ++
                .code true "script" [] [.string .script "x()"] ::
                  "\n  ".toList.map .character ++ .character 'b' ::
                    ("ar\n".toList.map .character ++ [.endTag "div", .character '\n'])) := by
  refine ⟨by decide, rfl, by decide +kernel, ?_⟩
  intro page reads alike
  have readsToo := reads_beautify (by decide : isBlank (Indent.spaces 2).unit = true)
    sampleScripted
  rw [reads.eq_of_withoutBlanks readsToo (alike.trans (by decide +kernel))]
  decide +kernel

end StaticSite
