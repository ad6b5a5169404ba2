/-
Module: StaticSite.Proofs.Layout.Glyphs
Purpose: What a reader of markup meets from one end to the other: characters of text, tags, and
  what displays nothing.  Markup has one reading for what is in it apart from white space.
Trusted boundary: none
Main exports:
  Glyph, glyphs, Glyph.spellings, Reads, reads_toHtml, reads_beautify, Reads.eq_of_withoutBlanks
-/
import StaticSite.Proofs.Layout.Relaid

namespace StaticSite

open Text Markup

/-! ### Glyphs -/

/-- What markup is made of. -/
inductive Glyph where
  /-- A character of text. -/
  | character (c : Char)
  | startTag (name : String) (attributes : Attributes)
  | endTag (name : String)
  /-- A comment, a document type or the like. -/
  | note (kind : StringKind) (text : String)
  /-- A script or a style sheet.  A loose one stands neither in an inline element nor in one whose
  content is preserved. -/
  | code (loose : Bool) (name : String) (attributes : Attributes) (content : List Node)
deriving DecidableEq

/-- The glyph is white space between words. -/
def Glyph.isBlank : Glyph → Bool
  | .character c => isSpace c
  | _ => false

/-- Glyphs other than white space. -/
def withoutBlanks (glyphs : List Glyph) : List Glyph :=
  glyphs.filter fun glyph => !glyph.isBlank

/-- Elements of this name are written as they are, whatever is in them. -/
def keepsLines (name : String) : Bool :=
  inlineElements.contains name || preservedElements.contains name

/-- The end tag of an element.  An element that closes as soon as it is opened has none. -/
def closing (name : String) (children : List Node) : List Glyph :=
  if children = [] ∧ isVoidElement name = true then [] else [.endTag name]

mutual

/-- The glyphs of a node; `loose` tells that nothing around it keeps its lines. -/
def nodeGlyphs (loose : Bool) : Node → List Glyph
  | .string kind text =>
      if kind.isText then text.toList.map .character else [.note kind text]
  | .element name attributes children =>
      if holdsRawText name then
        [.code loose name attributes children]
      else
        .startTag name attributes ::
          (glyphs (loose && !keepsLines name) children ++ closing name children)

/-- The glyphs of nodes, one after the other. -/
def glyphs (loose : Bool) : List Node → List Glyph
  | [] => []
  | node :: rest => nodeGlyphs loose node ++ glyphs loose rest

end

section Pieces

variable (loose : Bool)

@[simp] theorem glyphs_nil : glyphs loose [] = [] :=
  rfl

@[simp] theorem glyphs_cons (node : Node) (rest : List Node) :
    glyphs loose (node :: rest) = nodeGlyphs loose node ++ glyphs loose rest :=
  rfl

@[simp] theorem glyphs_append (first second : List Node) :
    glyphs loose (first ++ second) = glyphs loose first ++ glyphs loose second := by
  induction first with
  | nil => rfl
  | cons node rest inductionHypothesis =>
      rw [List.cons_append, glyphs_cons, glyphs_cons, inductionHypothesis, List.append_assoc]

theorem nodeGlyphs_text {kind : StringKind} (isText : kind.isText = true) (text : String) :
    nodeGlyphs loose (.string kind text) = text.toList.map .character := by
  rw [nodeGlyphs, if_pos isText]

theorem nodeGlyphs_code {name : String} (raw : holdsRawText name = true) (attributes : Attributes)
    (children : List Node) :
    nodeGlyphs loose (.element name attributes children) =
      [.code loose name attributes children] := by
  rw [nodeGlyphs, if_pos raw]

theorem nodeGlyphs_element {name : String} (escaped : holdsRawText name = false)
    (attributes : Attributes) (children : List Node) :
    nodeGlyphs loose (.element name attributes children) =
      .startTag name attributes ::
        (glyphs (loose && !keepsLines name) children ++ closing name children) := by
  rw [nodeGlyphs, escaped, if_neg Bool.false_ne_true]

end Pieces

/-- The tags of an element with children stand around them. -/
theorem nodeGlyphs_filled (loose : Bool) {name : String} {children : List Node}
    (escaped : holdsRawText name = false) (filled : children ≠ []) (attributes : Attributes) :
    nodeGlyphs loose (.element name attributes children) =
      .startTag name attributes ::
        (glyphs (loose && !keepsLines name) children ++ [.endTag name]) := by
  rw [nodeGlyphs_element loose escaped, closing, if_neg fun both => filled both.1]

@[simp] theorem withoutBlanks_append (first second : List Glyph) :
    withoutBlanks (first ++ second) = withoutBlanks first ++ withoutBlanks second :=
  List.filter_append first second

/-! ### Reading markup -/

/-- The tag of an element that closes as soon as it is opened. -/
def emptyTag (name : String) (attributes : Attributes) : String :=
  "<" ++ name ++ writeAttributes name attributes ++ "/>"

/-- The ways in which a glyph is spelled.  Text is no note. -/
def Glyph.spellings : Glyph → List String
  | .character c => [String.ofList (escapeTextChar c)]
  | .startTag name attributes =>
      if isVoidElement name then [Markup.startTag name attributes, emptyTag name attributes]
      else [Markup.startTag name attributes]
  | .endTag name => ["</" ++ name ++ ">"]
  | .note kind text => if kind.isText then [] else [writeString false kind text]
  | .code _ name attributes content => [Node.toHtml (.element name attributes content)]

/-- The markup spells these glyphs. -/
inductive Reads : List Glyph → String → Prop where
  | nil : Reads [] ""
  | cons {glyph : Glyph} {spelling : String} {rest : List Glyph} {markup : String}
      (spelled : spelling ∈ glyph.spellings) (onwards : Reads rest markup) :
      Reads (glyph :: rest) (spelling ++ markup)

namespace Reads

theorem single {glyph : Glyph} {spelling : String} (spelled : spelling ∈ glyph.spellings) :
    Reads [glyph] spelling := by
  rw [← String.append_empty (s := spelling)]
  exact .cons spelled .nil

theorem append {first second : List Glyph} {markup more : String} (reads : Reads first markup)
    (further : Reads second more) : Reads (first ++ second) (markup ++ more) := by
  induction reads with
  | nil => rwa [String.empty_append]
  | cons spelled _ inductionHypothesis =>
      rw [String.append_assoc]
      exact .cons spelled inductionHypothesis

/-- Text is read character by character. -/
theorem text (cs : List Char) : Reads (cs.map .character) (String.ofList (escapeChars cs)) := by
  induction cs with
  | nil => exact .nil
  | cons c rest inductionHypothesis =>
      rw [escapeChars, List.flatMap_cons, String.ofList_append]
      exact .cons (List.mem_singleton_self _) inductionHypothesis

theorem startTag (name : String) (attributes : Attributes) :
    Reads [.startTag name attributes] (Markup.startTag name attributes) := by
  apply single
  rw [Glyph.spellings]
  split
  · exact List.mem_cons_self
  · exact List.mem_singleton_self _

theorem emptyTag {name : String} (isVoid : isVoidElement name = true) (attributes : Attributes) :
    Reads [.startTag name attributes] (StaticSite.emptyTag name attributes) := by
  apply single
  rw [Glyph.spellings, if_pos isVoid]
  exact List.mem_cons_of_mem _ (List.mem_singleton_self _)

theorem endTag (name : String) : Reads [.endTag name] ("</" ++ name ++ ">") :=
  single (List.mem_singleton_self _)

end Reads

theorem reads_string (loose : Bool) (kind : StringKind) (text : String) :
    Reads (nodeGlyphs loose (.string kind text)) (Node.string kind text).toHtml := by
  by_cases isText : kind.isText = true
  · rw [nodeGlyphs_text loose isText, ← String.ofList_toList (s := Node.toHtml _),
      toHtml_text isText]
    exact .text text.toList
  · rw [nodeGlyphs, if_neg isText]
    apply Reads.single
    rw [Glyph.spellings, if_neg isText]
    exact List.mem_singleton_self _

theorem reads_element (loose : Bool) {name : String} {attributes : Attributes}
    {children : List Node}
    (inChildren : ∀ loose, Reads (glyphs loose children) (toHtml children)) :
    Reads (nodeGlyphs loose (.element name attributes children))
      (Node.element name attributes children).toHtml := by
  by_cases raw : holdsRawText name = true
  · rw [nodeGlyphs_code loose raw]
    exact .single (List.mem_singleton_self _)
  · have escaped := eq_false_of_ne_true raw
    by_cases filled : children = []
    · subst filled
      rw [nodeGlyphs_element loose escaped, glyphs_nil, List.nil_append, closing, Node.toHtml,
        Node.write]
      by_cases isVoid : isVoidElement name = true
      · rw [if_pos isVoid, if_pos ⟨rfl, isVoid⟩]
        exact .emptyTag isVoid attributes
      · rw [if_neg isVoid, if_neg fun both => isVoid both.2]
        have tags := (Reads.startTag name attributes).append (.endTag name)
        simp only [Markup.startTag, String.append_assoc] at tags ⊢
        exact tags
    · rw [toHtml_element escaped filled, nodeGlyphs_filled loose escaped filled,
        ← List.singleton_append, String.append_assoc]
      exact (Reads.startTag name attributes).append ((inChildren _).append (.endTag name))

/-- Markup is read as the glyphs of the tree that it is the markup of. -/
theorem reads_toHtml (nodes : List Node) : ∀ loose, Reads (glyphs loose nodes) (toHtml nodes) := by
  induction nodes using childListInduction with
  | nodes nodes inChildren =>
      intro loose
      induction nodes with
      | nil => exact .nil
      | cons node rest inRest =>
          obtain ⟨here, there⟩ := List.forall_mem_cons.mp inChildren
          rw [glyphs_cons, toHtml_cons]
          refine Reads.append ?_ (inRest there)
          cases node with
          | string kind text => exact reads_string loose kind text
          | element name attributes children => exact reads_element loose here

/-! ### One reading for what is not white space -/

namespace Glyph

variable {glyph : Glyph} {spelling other : String}

/-- White space is spelled as it is. -/
theorem spelling_of_blank (blank : glyph.isBlank = true) (spelled : spelling ∈ glyph.spellings) :
    ∃ c, isSpace c = true ∧ glyph = .character c ∧ spelling.toList = [c] := by
  cases glyph with
  | character c =>
      rw [List.mem_singleton.mp spelled, String.toList_ofList]
      exact ⟨c, blank, rfl, escapeTextChar_of_space blank⟩
  | _ => exact absurd blank Bool.false_ne_true

theorem spelling_of_startTag {name : String} {attributes : Attributes}
    (spelled : spelling ∈ (Glyph.startTag name attributes).spellings) :
    spelling = Markup.startTag name attributes ∨ spelling = emptyTag name attributes := by
  rw [spellings] at spelled
  split at spelled
  · simpa using spelled
  · exact .inl (List.mem_singleton.mp spelled)

theorem spelling_of_note {kind : StringKind} {text : String}
    (spelled : spelling ∈ (Glyph.note kind text).spellings) :
    ¬ kind.isText = true ∧ spelling = writeString false kind text := by
  rw [spellings] at spelled
  split at spelled
  case isTrue => exact absurd spelled List.not_mem_nil
  case isFalse isNote => exact ⟨isNote, List.mem_singleton.mp spelled⟩

/-- What is not white space is not spelled with white space at its start. -/
theorem spelling_of_visible (visible : glyph.isBlank = false)
    (spelled : spelling ∈ glyph.spellings) :
    ∃ first rest, isSpace first = false ∧ spelling.toList = first :: rest := by
  have bracket : isSpace '<' = false := by decide
  cases glyph with
  | character c =>
      obtain ⟨first, rest, written, noSpace⟩ := escapeTextChar_of_visible visible
      rw [List.mem_singleton.mp spelled, String.toList_ofList, written]
      exact ⟨first, rest, noSpace first (written ▸ List.mem_cons_self), rfl⟩
  | startTag name attributes =>
      rcases spelling_of_startTag spelled with rfl | rfl
      · exact ⟨'<', _, bracket, by simp [Markup.startTag]; rfl⟩
      · exact ⟨'<', _, bracket, by simp [emptyTag]; rfl⟩
  | endTag name =>
      rw [List.mem_singleton.mp spelled]
      exact ⟨'<', _, bracket, by simp; rfl⟩
  | note kind text =>
      obtain ⟨isNote, rfl⟩ := spelling_of_note spelled
      cases kind with
      | comment | doctype | cdata | instruction | declaration =>
          exact ⟨'<', _, bracket, by simp [writeString]; rfl⟩
      | _ => exact absurd rfl isNote
  | code loose name attributes content =>
      obtain ⟨inside, written⟩ := enclosed_of_element name attributes content
      rw [List.mem_singleton.mp spelled, written]
      exact ⟨'<', _, bracket, rfl⟩

/-- Of the two spellings of a tag neither goes on as the other. -/
theorem spelling_unique (spelled : spelling ∈ glyph.spellings)
    (otherSpelled : other ∈ glyph.spellings) {markup more : List Char}
    (same : spelling.toList ++ markup = other.toList ++ more) : spelling = other := by
  cases glyph with
  | startTag name attributes =>
      rcases spelling_of_startTag spelled with rfl | rfl <;>
        rcases spelling_of_startTag otherSpelled with rfl | rfl
      · rfl
      · simp [Markup.startTag, emptyTag] at same
      · simp [Markup.startTag, emptyTag] at same
      · rfl
  | note kind text => rw [(spelling_of_note spelled).2, (spelling_of_note otherSpelled).2]
  | character | endTag | code =>
      rw [List.mem_singleton.mp spelled, List.mem_singleton.mp otherSpelled]

end Glyph

namespace Reads

variable {glyph : Glyph} {rest first second : List Glyph} {markup : String}

theorem eq_empty (reads : Reads [] markup) : markup = "" := by
  cases reads
  rfl

/-- The first glyph is spelled first. -/
theorem of_cons (reads : Reads (glyph :: rest) markup) :
    ∃ spelling ∈ glyph.spellings, ∃ more,
      markup.toList = spelling.toList ++ more.toList ∧ Reads rest more := by
  generalize whole : glyph :: rest = glyphs at reads
  cases reads with
  | nil => exact absurd whole (List.cons_ne_nil glyph rest)
  | @cons glyph spelling rest more spelled onwards =>
      obtain ⟨rfl, rfl⟩ := List.cons_eq_cons.mp whole
      exact ⟨spelling, spelled, more, String.toList_append .., onwards⟩

/-- Every glyph leaves a trace in the markup, and white space shows there as such. -/
theorem head_of_cons (reads : Reads (glyph :: rest) markup) :
    ∃ c more, markup.toList = c :: more ∧ isSpace c = glyph.isBlank := by
  obtain ⟨spelling, spelled, more, written, -⟩ := reads.of_cons
  by_cases blank : glyph.isBlank = true
  · obtain ⟨c, space, -, spells⟩ := Glyph.spelling_of_blank blank spelled
    exact ⟨c, more.toList, by rw [written, spells]; rfl, space.trans blank.symm⟩
  · have visible := eq_false_of_ne_true blank
    obtain ⟨c, others, noSpace, spells⟩ := Glyph.spelling_of_visible visible spelled
    exact ⟨c, others ++ more.toList, by rw [written, spells]; rfl, noSpace.trans visible.symm⟩

/-- Markup is read in one way only as these glyphs and white space between them. -/
theorem eq_of_withoutBlanks (reads : Reads first markup) (readsToo : Reads second markup)
    (alike : withoutBlanks first = withoutBlanks second) : first = second := by
  induction first generalizing second markup with
  | nil =>
      cases second with
      | nil => rfl
      | cons glyph rest =>
          obtain ⟨c, more, written, -⟩ := readsToo.head_of_cons
          rw [reads.eq_empty] at written
          cases written
  | cons glyph rest inductionHypothesis =>
      obtain ⟨c, others, written, shown⟩ := reads.head_of_cons
      cases second with
      | nil =>
          rw [readsToo.eq_empty] at written
          cases written
      | cons other more =>
          obtain ⟨d, others', writtenToo, shownToo⟩ := readsToo.head_of_cons
          rw [written] at writtenToo
          obtain ⟨rfl, -⟩ := List.cons_eq_cons.mp writtenToo
          obtain ⟨spelling, spelled, markupRest, spells, readsRest⟩ := reads.of_cons
          obtain ⟨spelling', spelled', markupRest', spells', readsRest'⟩ := readsToo.of_cons
          have blankTogether : glyph.isBlank = other.isBlank := shown.symm.trans shownToo
          -- White space is known by its character, other glyphs by their place among those.
          have sameGlyph : glyph = other ∧ withoutBlanks rest = withoutBlanks more := by
            by_cases blank : glyph.isBlank = true
            · obtain ⟨c, -, rfl, single⟩ := Glyph.spelling_of_blank blank spelled
              obtain ⟨d, -, rfl, single'⟩ :=
                Glyph.spelling_of_blank (blankTogether ▸ blank) spelled'
              rw [spells, single, single'] at spells'
              obtain ⟨rfl, -⟩ := List.cons_eq_cons.mp spells'
              refine ⟨rfl, ?_⟩
              simpa [withoutBlanks, blank] using alike
            · have visible := eq_false_of_ne_true blank
              rw [withoutBlanks, withoutBlanks, List.filter_cons_of_pos (by simp [visible]),
                List.filter_cons_of_pos (by simp [← blankTogether, visible])] at alike
              exact List.cons_eq_cons.mp alike
          obtain ⟨rfl, alikeRest⟩ := sameGlyph
          rw [spells] at spells'
          obtain rfl := Glyph.spelling_unique spelled spelled' spells'
          rw [List.append_cancel_left_eq, String.toList_inj] at spells'
          subst spells'
          rw [inductionHypothesis readsRest readsRest' alikeRest]

end Reads

/-! ### Reading a beautified page -/

/-- No name of a void element ends in a slash. -/
theorem exists_last_of_void {name : String} (isVoid : isVoidElement name = true) :
    ∃ last rest, name.toList.reverse = last :: rest ∧ last ≠ '/' := by
  have listed : voidElements.all
      (fun name => name.toList.reverse.head?.any fun last => last != '/') = true := by
    decide
  have ends := List.all_eq_true.mp listed name (List.contains_iff_mem.mp isVoid)
  cases reversed : name.toList.reverse with
  | nil => simp [reversed] at ends
  | cons last rest => exact ⟨last, rest, rfl, by simpa [reversed] using ends⟩

/-- The line of a void element is its tag, also if it goes on with children. -/
theorem openingTag_of_void {name : String} (isVoid : isVoidElement name = true)
    (attributes : Attributes) : openingTag name attributes = emptyTag name attributes := by
  have written : Node.toHtml (.element name attributes []) = emptyTag name attributes := by
    rw [Node.toHtml, Node.write, if_pos isVoid, emptyTag]
  obtain ⟨last, rest, reversed, notSlash⟩ := exists_last_of_void isVoid
  have noEndTag : dropStart? ("</" ++ name ++ ">").toList.reverse
      (emptyTag name attributes).toList.reverse = none := by
    simp [emptyTag, reversed, dropStart?, notSlash]
  rw [openingTag, written, removeEnd, noEndTag]

theorem reads_openingTag (name : String) (attributes : Attributes) :
    Reads [.startTag name attributes] (openingTag name attributes) := by
  by_cases isVoid : isVoidElement name = true
  · rw [openingTag_of_void isVoid]
    exact .emptyTag isVoid attributes
  · rw [openingTag_eq (eq_false_of_ne_true isVoid)]
    exact .startTag name attributes

theorem reads_spacing {text : String} (blank : isBlank text = true) (loose : Bool) :
    Reads (nodeGlyphs loose (spacing text)) text := by
  have reads := reads_string loose .text text
  have written : (Node.string .text text).toHtml = text := toHtml_spacing blank
  rwa [written] at reads

section LaidOut

variable {unit : String} (blankUnit : isBlank unit = true)

include blankUnit

theorem reads_relaidRun (loose : Bool) (depth : Nat) {run : List Node} (inline : AllInline run) :
    Reads (glyphs loose (relaidRun unit depth run))
      (writeLines (runLines unit depth (lineOf run))) := by
  rw [← toHtml_relaidRun blankUnit inline]
  exact reads_toHtml _ loose

/-- The lines of an element spell the glyphs of the element laid out anew, if those of its
children do.  An element with children is not void, unless it was built by hand. -/
theorem reads_blockLines (loose : Bool) (depth : Nat) {name : String} {attributes : Attributes}
    {children : List Node}
    (inChildren : ∀ loose, Reads (glyphs loose (relaidAll unit (depth + 1) [] children))
      (writeLines (childLines unit (depth + 1) "" children))) :
    Reads
      (glyphs loose
        (spacing (margin unit depth) :: relaid unit depth (.element name attributes children)
          :: [spacing "\n"]))
      (writeLines (blockLines unit depth (.element name attributes children))) := by
  have marginRead := reads_spacing (isBlank_margin blankUnit depth)
  have lineFeedRead := reads_spacing (by decide : isBlank "\n" = true)
  rw [blockLines, relaid]
  by_cases verbatim : isVerbatim name children = true
  · rw [if_pos verbatim, if_pos verbatim, writeLines_singleton, String.append_assoc]
    have itself := reads_toHtml [.element name attributes children] loose
    rw [toHtml_cons, toHtml_nil, String.append_empty] at itself
    simpa using (marginRead loose).append (itself.append (lineFeedRead loose))
  · have escaped := escaped_of_laidOut (eq_false_of_ne_true verbatim)
    rw [if_neg verbatim, if_neg verbatim]
    -- Line by line: the start tag, the children, the end tag.
    have opened := ((marginRead loose).append (reads_openingTag name attributes)).append
      (lineFeedRead (loose && !keepsLines name))
    have closed := ((marginRead (loose && !keepsLines name)).append (.endTag name)).append
      (lineFeedRead loose)
    have whole := opened.append ((inChildren (loose && !keepsLines name)).append closed)
    rw [glyphs_cons, glyphs_cons, nodeGlyphs_filled loose escaped
      (List.append_ne_nil_of_left_ne_nil (List.cons_ne_nil _ _) _)]
    simp only [glyphs_cons, glyphs_nil, glyphs_append, writeLines_cons, writeLines_append,
      writeLines_nil, List.append_assoc, List.cons_append, List.nil_append, List.append_nil,
      String.append_assoc, String.append_empty] at whole ⊢
    exact whole

/-- The lines of siblings spell the glyphs of the siblings laid out anew. -/
theorem reads_relaidAll (nodes : List Node) (loose : Bool) (depth : Nat) :
    Reads (glyphs loose (relaidAll unit depth [] nodes))
      (writeLines (childLines unit depth "" nodes)) := by
  induction nodes using layoutInduction generalizing loose depth with
  | last run inline =>
      rw [relaidAll_run inline, childLines_run inline]
      exact reads_relaidRun blankUnit loose depth inline
  | doctype run text rest inline inRest =>
      have marginRead := reads_spacing (isBlank_margin blankUnit depth) loose
      have block := marginRead.append (reads_string loose .doctype text)
      have whole := (reads_relaidRun blankUnit loose depth inline).append
        (block.append (inRest loose depth))
      rw [← trim_doctype] at whole
      rw [relaidAll_block inline (by rfl), childLines_block inline (by rfl), relaid, lineEnd,
        blockLines, List.singleton_append, writeLines_append, writeLines_cons]
      simpa [String.append_assoc] using whole
  | element run name attributes children rest inline isBlock inChildren inRest =>
      have block := @reads_blockLines unit blankUnit loose depth name attributes children
        fun loose => inChildren loose (depth + 1)
      have whole := (reads_relaidRun blankUnit loose depth inline).append
        (block.append (inRest loose depth))
      rw [relaidAll_block inline isBlock, childLines_block inline isBlock, lineEnd,
        writeLines_append, writeLines_append]
      simpa using whole

end LaidOut

/-- A beautified page is read as the glyphs of the page laid out anew. -/
theorem reads_beautify {indent : Indent} (blankUnit : isBlank indent.unit = true)
    (document : List Node) :
    Reads (glyphs true (relaidAll indent.unit 0 [] document)) (beautify document indent) :=
  reads_relaidAll blankUnit document true 0

end StaticSite
