/-
Module: StaticSite.Proofs.Layout.Ties
Purpose: Glyphs that stand side by side.  Laying a page out anew unties nothing but breaks: the
  tags of blocks, document types, and scripts and style sheets.
Trusted boundary: none
Main exports:
  Glyph.isBreak, Glyph.isSilent, Glyph.isLooseCode, ties, ties_append, Untied, Fenced,
  ties_relaidAll, withoutBlanks_relaidAll
-/
import StaticSite.Proofs.Layout.Glyphs

namespace StaticSite

open Text Markup

/-! ### Breaks -/

namespace Glyph

/-- The layout breaks lines before and after the glyph. -/
def isBreak : Glyph → Bool
  | .character _ => false
  | .startTag name _ | .endTag name => !inlineElements.contains name
  | .note kind _ => kind == .doctype
  | .code loose _ _ _ => loose

/-- Nothing is displayed for the glyph, and what stands before it and after it shares a line: it is
a tag of an inline element, a comment or the like, a script or a style sheet. -/
def isSilent : Glyph → Bool
  | .character _ => false
  | .startTag name _ | .endTag name => inlineElements.contains name
  | .note kind _ => kind != .doctype
  | .code _ _ _ _ => true

/-- A script or a style sheet that the layout writes on a line of its own. -/
def isLooseCode : Glyph → Bool
  | .code loose _ _ _ => loose
  | _ => false

variable {glyph : Glyph}

theorem not_isBlank_of_isBreak (isBreak : glyph.isBreak = true) : glyph.isBlank = false := by
  cases glyph with
  | character => exact absurd isBreak Bool.false_ne_true
  | _ => rfl

theorem not_isBlank_of_isSilent (silent : glyph.isSilent = true) : glyph.isBlank = false := by
  cases glyph with
  | character => exact absurd silent Bool.false_ne_true
  | _ => rfl

/-- What displays nothing breaks lines exactly if it is a loose script or style sheet. -/
theorem isBreak_of_isSilent (silent : glyph.isSilent = true) :
    glyph.isBreak = glyph.isLooseCode := by
  cases glyph with
  | character => rfl
  | startTag name | endTag name =>
      have inline : inlineElements.contains name = true := silent
      rw [isBreak, inline]
      rfl
  | note kind =>
      have noDoctype : (kind == .doctype) = false := by simpa [isSilent] using silent
      exact noDoctype
  | code => rfl

end Glyph

/-! ### Ties -/

/-- The glyphs other than white space, each with whether it is tied to the one before: neither
white space nor a break lies between them, and it is no break itself.  `tied` tells this of what
comes first. -/
def ties (tied : Bool) : List Glyph → List (Glyph × Bool)
  | [] => []
  | glyph :: rest =>
      if glyph.isBlank then ties false rest
      else (glyph, tied && !glyph.isBreak) :: ties (!glyph.isBreak) rest

/-- What comes after these glyphs may be tied to the last of them. -/
def tiedAfter (tied : Bool) : List Glyph → Bool
  | [] => tied
  | glyph :: rest => tiedAfter (!glyph.isBlank && !glyph.isBreak) rest

theorem ties_blank {glyph : Glyph} (blank : glyph.isBlank = true) (tied : Bool)
    (rest : List Glyph) : ties tied (glyph :: rest) = ties false rest := by
  rw [ties, if_pos blank]

theorem ties_visible {glyph : Glyph} (visible : glyph.isBlank = false) (tied : Bool)
    (rest : List Glyph) :
    ties tied (glyph :: rest) =
      (glyph, tied && !glyph.isBreak) :: ties (!glyph.isBreak) rest := by
  rw [ties, visible, if_neg Bool.false_ne_true]

/-- Nothing is tied to a break or by it. -/
theorem ties_break {glyph : Glyph} (isBreak : glyph.isBreak = true) (tied : Bool)
    (rest : List Glyph) : ties tied (glyph :: rest) = (glyph, false) :: ties false rest := by
  rw [ties_visible (Glyph.not_isBlank_of_isBreak isBreak), isBreak, Bool.not_true, Bool.and_false]

theorem map_fst_ties (tied : Bool) (glyphs : List Glyph) :
    (ties tied glyphs).map Prod.fst = withoutBlanks glyphs := by
  induction glyphs generalizing tied with
  | nil => rfl
  | cons glyph rest inductionHypothesis =>
      by_cases blank : glyph.isBlank = true
      · rw [ties_blank blank, inductionHypothesis, withoutBlanks, withoutBlanks,
          List.filter_cons_of_neg (by simp [blank])]
      · rw [ties_visible (eq_false_of_ne_true blank), List.map_cons, inductionHypothesis,
          withoutBlanks, withoutBlanks, List.filter_cons_of_pos (by simp [blank])]

theorem ties_append (tied : Bool) (first second : List Glyph) :
    ties tied (first ++ second) = ties tied first ++ ties (tiedAfter tied first) second := by
  induction first generalizing tied with
  | nil => rfl
  | cons glyph rest inductionHypothesis =>
      rw [List.cons_append, ties, ties, tiedAfter]
      by_cases blank : glyph.isBlank = true
      · rw [if_pos blank, if_pos blank, inductionHypothesis, blank, Bool.not_true, Bool.false_and]
      · rw [if_neg blank, if_neg blank, inductionHypothesis, eq_false_of_ne_true blank,
          Bool.not_false, Bool.true_and, List.cons_append]

/-- Lists that are tied alike, whatever comes first, are so after the same glyphs. -/
theorem ties_append_congr {second other : List Glyph}
    (alike : ∀ tied, ties tied second = ties tied other) (tied : Bool) (first : List Glyph) :
    ties tied (first ++ second) = ties tied (first ++ other) := by
  rw [ties_append, ties_append, alike]

/-- Nothing at the start of these glyphs can be tied to what comes before them. -/
def Untied (glyphs : List Glyph) : Prop :=
  ties true glyphs = ties false glyphs

namespace Untied

variable {rest : List Glyph}

theorem nil : Untied [] :=
  rfl

theorem of_break {glyph : Glyph} (isBreak : glyph.isBreak = true) (rest : List Glyph) :
    Untied (glyph :: rest) := by
  rw [Untied, ties_break isBreak, ties_break isBreak]

theorem ties_eq (untied : Untied rest) (tied : Bool) : ties tied rest = ties false rest := by
  cases tied with
  | true => exact untied
  | false => rfl

end Untied

/-! ### White space that ties nothing -/

theorem ties_of_blank {blanks : List Glyph} (blank : ∀ glyph ∈ blanks, glyph.isBlank = true)
    (rest : List Glyph) : ties false (blanks ++ rest) = ties false rest := by
  induction blanks with
  | nil => rfl
  | cons glyph others inductionHypothesis =>
      obtain ⟨here, there⟩ := List.forall_mem_cons.mp blank
      rw [List.cons_append, ties_blank here, inductionHypothesis there]

theorem ties_of_blank_of_untied {blanks rest : List Glyph}
    (blank : ∀ glyph ∈ blanks, glyph.isBlank = true) (untied : Untied rest) (tied : Bool) :
    ties tied (blanks ++ rest) = ties tied rest := by
  cases blanks with
  | nil => rfl
  | cons glyph others =>
      obtain ⟨here, there⟩ := List.forall_mem_cons.mp blank
      rw [List.cons_append, ties_blank here, ties_of_blank there, untied.ties_eq tied]

theorem isBlank_of_mem_characters {cs : List Char} (spaces : ∀ c ∈ cs, isSpace c = true) :
    ∀ glyph ∈ cs.map Glyph.character, glyph.isBlank = true := by
  intro glyph member
  obtain ⟨c, inText, rfl⟩ := List.mem_map.mp member
  exact spaces c inText

/-- Collapsed white space still is white space. -/
theorem ties_collapseFrom (cs : List Char) (rest : List Glyph) :
    ∀ inRun tied, (inRun = true → tied = false) →
      ties tied ((collapseFrom inRun cs).map .character ++ rest) =
        ties tied (cs.map .character ++ rest) := by
  induction cs with
  | nil => exact fun _ _ _ => rfl
  | cons c others inductionHypothesis =>
      intro inRun tied apart
      rw [collapseFrom]
      by_cases space : isSpace c = true
      · have blank : (Glyph.character c).isBlank = true := space
        rw [if_pos space, List.map_cons, List.cons_append, ties_blank blank]
        cases inRun with
        | true =>
            obtain rfl := apart rfl
            exact inductionHypothesis true false fun _ => rfl
        | false =>
            rw [if_neg Bool.false_ne_true, List.map_cons, List.cons_append, ties_blank (by rfl)]
            exact inductionHypothesis true false fun _ => rfl
      · have visible : (Glyph.character c).isBlank = false := eq_false_of_ne_true space
        rw [if_neg space, List.map_cons, List.map_cons, List.cons_append, List.cons_append,
          ties_visible visible, ties_visible visible,
          inductionHypothesis false _ fun impossible => absurd impossible Bool.false_ne_true]

theorem ties_dropWhile (cs : List Char) (rest : List Glyph) :
    ties false ((cs.dropWhile isSpace).map .character ++ rest) =
      ties false (cs.map .character ++ rest) := by
  have dropped : ∀ c ∈ cs.takeWhile isSpace, isSpace c = true :=
    fun _ member => List.mem_takeWhile_imp member
  calc ties false ((cs.dropWhile isSpace).map .character ++ rest)
      = ties false ((cs.takeWhile isSpace).map .character ++
          ((cs.dropWhile isSpace).map .character ++ rest)) :=
        (ties_of_blank (isBlank_of_mem_characters dropped) _).symm
    _ = ties false (cs.map .character ++ rest) := by
        rw [← List.append_assoc, ← List.map_append, List.takeWhile_append_dropWhile]

theorem ties_trimEnd (cs : List Char) {rest : List Glyph} (untied : Untied rest) (tied : Bool) :
    ties tied ((trimEnd cs).map .character ++ rest) = ties tied (cs.map .character ++ rest) := by
  have dropped : ∀ c ∈ cs.rtakeWhile isSpace, isSpace c = true :=
    fun _ member => List.mem_rtakeWhile_imp member
  calc ties tied ((trimEnd cs).map .character ++ rest)
      = ties tied ((trimEnd cs).map .character ++
          ((cs.rtakeWhile isSpace).map .character ++ rest)) :=
        ties_append_congr
          (fun tied =>
            (ties_of_blank_of_untied (isBlank_of_mem_characters dropped) untied tied).symm)
          tied _
    _ = ties tied (cs.map .character ++ rest) := by
        rw [← List.append_assoc, ← List.map_append, trimEnd_eq_rdropWhile,
          List.rdropWhile_append_rtakeWhile]

/-! ### Runs -/

section Runs

variable (loose : Bool) {rest : List Glyph}

theorem isBlank_of_blankText {node : Node} (blank : isBlankText node = true) :
    ∀ glyph ∈ nodeGlyphs loose node, glyph.isBlank = true := by
  cases node with
  | element => exact absurd blank Bool.false_ne_true
  | string kind text =>
      obtain ⟨isText, blankText⟩ := Bool.and_eq_true_iff.mp blank
      rw [nodeGlyphs_text loose isText]
      exact isBlank_of_mem_characters (isBlank_iff.mp blankText)

theorem ties_collapsed (node : Node) (tied : Bool) (rest : List Glyph) :
    ties tied (nodeGlyphs loose (collapsed node) ++ rest) =
      ties tied (nodeGlyphs loose node ++ rest) := by
  cases node with
  | element => rfl
  | string kind text =>
      cases kind with
      | text =>
          rw [collapsed, nodeGlyphs_text loose (by rfl), nodeGlyphs_text loose (by rfl), collapse,
            String.toList_ofList]
          exact ties_collapseFrom text.toList rest false tied fun impossible =>
            absurd impossible Bool.false_ne_true
      | _ => rfl

theorem ties_map_collapsed (run : List Node) (tied : Bool) (rest : List Glyph) :
    ties tied (glyphs loose (run.map collapsed) ++ rest) =
      ties tied (glyphs loose run ++ rest) := by
  induction run generalizing tied with
  | nil => rfl
  | cons node others inductionHypothesis =>
      rw [List.map_cons, glyphs_cons, glyphs_cons, List.append_assoc, List.append_assoc,
        ties_collapsed]
      exact ties_append_congr inductionHypothesis tied _

/-- An edit of text changes no ties if it changes none in the text it edits. -/
theorem ties_retext {edit : String → String} {tied : Bool} (node : Node)
    (inText : ∀ text : String, ties tied ((edit text).toList.map .character ++ rest) =
      ties tied (text.toList.map .character ++ rest)) :
    ties tied (nodeGlyphs loose (retext edit node) ++ rest) =
      ties tied (nodeGlyphs loose node ++ rest) := by
  cases node with
  | element => rfl
  | string kind text =>
      rw [retext]
      by_cases isText : kind.isText = true
      · rw [if_pos isText, nodeGlyphs_text loose isText, nodeGlyphs_text loose isText, inText]
      · rw [if_neg isText]

theorem ties_trimmedLeft (run : List Node) :
    ties false (glyphs loose (trimmedLeft run) ++ rest) =
      ties false (glyphs loose run ++ rest) := by
  induction run with
  | nil => rfl
  | cons node others inductionHypothesis =>
      rw [trimmedLeft, glyphs_cons, List.append_assoc]
      by_cases blank : isBlankText node = true
      · rw [if_pos blank, inductionHypothesis, ties_of_blank (isBlank_of_blankText loose blank)]
      · rw [if_neg blank, glyphs_cons, List.append_assoc]
        apply ties_retext
        intro text
        rw [trimLeft, String.toList_ofList, ties_dropWhile]

theorem ties_trimmedRight (untied : Untied rest) (run : List Node) (tied : Bool) :
    ties tied (glyphs loose (trimmedRight run) ++ rest) =
      ties tied (glyphs loose run ++ rest) := by
  induction run generalizing tied with
  | nil => rfl
  | cons node others inductionHypothesis =>
      rw [trimmedRight, glyphs_cons, List.append_assoc,
        ← ties_append_congr inductionHypothesis tied (nodeGlyphs loose node)]
      cases kept : trimmedRight others with
      | cons first more => rw [glyphs_cons, List.append_assoc]
      | nil =>
          rw [glyphs_nil, List.nil_append]
          by_cases blank : isBlankText node = true
          · simp only [blank, if_true]
            exact (ties_of_blank_of_untied (isBlank_of_blankText loose blank) untied tied).symm
          · simp only [blank, Bool.false_eq_true, if_false]
            rw [glyphs_cons, glyphs_nil, List.append_nil]
            apply ties_retext
            intro text
            rw [trimRight, String.toList_ofList, ties_trimEnd _ untied]

/-- A run as its line shows it is tied as the run is, where it follows and precedes a break. -/
theorem ties_settledRun (untied : Untied rest) (run : List Node) :
    ties false (glyphs loose (settledRun run) ++ rest) = ties false (glyphs loose run ++ rest) := by
  rw [settledRun, ties_trimmedRight loose untied, ties_trimmedLeft, ties_map_collapsed]

theorem isBlank_of_spacing {text : String} (blank : isBlank text = true) :
    ∀ glyph ∈ nodeGlyphs loose (spacing text), glyph.isBlank = true :=
  isBlank_of_blankText loose blank

theorem ties_relaidRun {unit : String} (blankUnit : isBlank unit = true) (depth : Nat)
    (untied : Untied rest) (run : List Node) :
    ties false (glyphs loose (relaidRun unit depth run) ++ rest) =
      ties false (glyphs loose run ++ rest) := by
  rw [← ties_settledRun loose untied run, relaidRun]
  cases settledRun run with
  | nil => rfl
  | cons first others =>
      have marginBlank := isBlank_of_spacing loose (isBlank_margin blankUnit depth)
      have endBlank := isBlank_of_spacing loose (by decide : isBlank "\n" = true)
      calc ties false (glyphs loose (spacing (margin unit depth) ::
              ((first :: others) ++ [spacing "\n"])) ++ rest)
          = ties false (glyphs loose (first :: others) ++
              (nodeGlyphs loose (spacing "\n") ++ rest)) := by
            rw [glyphs_cons, glyphs_append, List.append_assoc, ties_of_blank marginBlank,
              List.append_assoc]
            rfl
        _ = ties false (glyphs loose (first :: others) ++ rest) :=
            ties_append_congr (ties_of_blank_of_untied endBlank untied) false _

end Runs

/-! ### Blocks -/

/-- The glyphs start and end with breaks. -/
inductive Fenced : List Glyph → Prop where
  | single {fence : Glyph} (isBreak : fence.isBreak = true) : Fenced [fence]
  | around {first last : Glyph} (opens : first.isBreak = true) (closes : last.isBreak = true)
      (inside : List Glyph) : Fenced (first :: (inside ++ [last]))

namespace Fenced

variable {block rest other : List Glyph}

theorem untied (fenced : Fenced block) (rest : List Glyph) : Untied (block ++ rest) := by
  cases fenced with
  | single isBreak => exact .of_break isBreak _
  | around opens _ inside => exact .of_break opens _

/-- What comes after a block starts anew. -/
theorem ties_congr (fenced : Fenced block) (alike : ties false rest = ties false other) :
    ties false (block ++ rest) = ties false (block ++ other) := by
  cases fenced with
  | single isBreak =>
      rw [List.singleton_append, List.singleton_append, ties_break isBreak, ties_break isBreak,
        alike]
  | @around first last opens closes inside =>
      have afterwards : ∀ tied, ties tied ([last] ++ rest) = ties tied ([last] ++ other) := by
        intro tied
        rw [List.singleton_append, List.singleton_append, ties_break closes, ties_break closes,
          alike]
      rw [List.cons_append, List.cons_append, ties_break opens, ties_break opens,
        List.append_assoc, List.append_assoc, ties_append_congr afterwards]

end Fenced

theorem startTag_isBreak {name : String} {attributes : Attributes} {children : List Node}
    (isBlock : isInline (.element name attributes children) = false) :
    (Glyph.startTag name attributes).isBreak = true := by
  have notInline : inlineElements.contains name = false := isBlock
  rw [Glyph.isBreak, notInline, Bool.not_false]

theorem fenced_of_block {node : Node} (isBlock : isInline node = false) :
    Fenced (nodeGlyphs true node) := by
  cases node with
  | string kind text =>
      obtain rfl : kind = .doctype := by simpa [isInline] using isBlock
      exact .single (by rfl)
  | element name attributes children =>
      have opens := startTag_isBreak isBlock
      have closes : (Glyph.endTag name).isBreak = true := opens
      by_cases raw : holdsRawText name = true
      · rw [nodeGlyphs_code true raw]
        exact .single (by rfl)
      · have escaped := eq_false_of_ne_true raw
        by_cases filled : children = []
        · rw [nodeGlyphs_element true escaped, filled, glyphs_nil, List.nil_append, closing]
          split
          · exact .single opens
          · exact .around opens closes []
        · rw [nodeGlyphs_filled true escaped filled]
          exact .around opens closes _

theorem isInline_relaid (unit : String) (depth : Nat) (node : Node) :
    isInline (relaid unit depth node) = isInline node := by
  cases node with
  | string => rfl
  | element name attributes children =>
      rw [relaid]
      split <;> rfl

/-- What is in an element that is laid out is as loose as the element. -/
theorem not_keepsLines_of_laidOut {name : String} {attributes : Attributes} {children : List Node}
    (isBlock : isInline (.element name attributes children) = false)
    (laidOut : isVerbatim name children = false) : keepsLines name = false := by
  have notInline : inlineElements.contains name = false := isBlock
  rw [keepsLines, notInline, Bool.false_or]
  exact (Bool.or_eq_false_iff.mp laidOut).1

section LaidOut

variable {unit : String} (blankUnit : isBlank unit = true)

include blankUnit

/-- An element laid out anew is tied as the element is, if its children are. -/
theorem ties_relaid {depth : Nat} {name : String} {attributes : Attributes} {children : List Node}
    (isBlock : isInline (.element name attributes children) = false)
    (inChildren : ∀ rest, Untied rest →
      ties false (glyphs true (relaidAll unit (depth + 1) [] children) ++ rest) =
        ties false (glyphs true children ++ rest)) (rest : List Glyph) :
    ties false (nodeGlyphs true (relaid unit depth (.element name attributes children)) ++ rest) =
      ties false (nodeGlyphs true (.element name attributes children) ++ rest) := by
  rw [relaid]
  by_cases verbatim : isVerbatim name children = true
  · rw [if_pos verbatim]
  · have laidOut := eq_false_of_ne_true verbatim
    have escaped := escaped_of_laidOut laidOut
    have opens := startTag_isBreak isBlock
    have closes : (Glyph.endTag name).isBreak = true := opens
    have closed : Untied ([.endTag name] ++ rest) := .of_break closes rest
    have lineFeedBlank := isBlank_of_spacing true (by decide : isBlank "\n" = true)
    have marginBlank := isBlank_of_spacing true (isBlank_margin blankUnit depth)
    have inside : ties false (glyphs true (spacing "\n" ::
          relaidAll unit (depth + 1) [] children ++ [spacing (margin unit depth)]) ++
            ([.endTag name] ++ rest)) =
        ties false (glyphs true children ++ ([.endTag name] ++ rest)) := by
      rw [← inChildren _ closed, List.cons_append, glyphs_cons, glyphs_append, glyphs_cons,
        glyphs_nil, List.append_nil, List.append_assoc, ties_of_blank lineFeedBlank,
        List.append_assoc]
      exact ties_append_congr (ties_of_blank_of_untied marginBlank closed) false _
    rw [if_neg verbatim, nodeGlyphs_filled true escaped
        (List.append_ne_nil_of_left_ne_nil (List.cons_ne_nil _ _) _),
      nodeGlyphs_filled true escaped (children_ne_nil_of_laidOut laidOut),
      not_keepsLines_of_laidOut isBlock laidOut]
    simp only [List.cons_append, List.append_assoc, ties_break opens, Bool.not_false,
      Bool.and_true] at inside ⊢
    rw [inside]

/-- Siblings with a block among them are tied as before, if the block is and what follows is. -/
theorem ties_relaidAll_block {depth : Nat} {run rest : List Node} {block : Node}
    (inline : AllInline run) (isBlock : isInline block = false)
    (inBlock : ∀ tail, ties false (nodeGlyphs true (relaid unit depth block) ++ tail) =
      ties false (nodeGlyphs true block ++ tail)) {tail : List Glyph}
    (inRest : ties false (glyphs true (relaidAll unit depth [] rest) ++ tail) =
      ties false (glyphs true rest ++ tail)) :
    ties false (glyphs true (relaidAll unit depth [] (run ++ block :: rest)) ++ tail) =
      ties false (glyphs true (run ++ block :: rest) ++ tail) := by
  have fenced := fenced_of_block isBlock
  have fencedAnew : Fenced (nodeGlyphs true (relaid unit depth block)) :=
    fenced_of_block ((isInline_relaid unit depth block).trans isBlock)
  have marginBlank := isBlank_of_spacing true (isBlank_margin blankUnit depth)
  have endBlank : ∀ glyph ∈ glyphs true (lineEnd block), glyph.isBlank = true := by
    cases block with
    | string => exact fun _ impossible => absurd impossible List.not_mem_nil
    | element =>
        rw [lineEnd, glyphs_cons, glyphs_nil, List.append_nil]
        exact isBlank_of_spacing true (by decide)
  -- From the block on nothing is tied to what comes before.
  have onwards : ∀ tied,
      ties tied (nodeGlyphs true (spacing (margin unit depth)) ++
          (nodeGlyphs true (relaid unit depth block) ++ (glyphs true (lineEnd block) ++
            (glyphs true (relaidAll unit depth [] rest) ++ tail)))) =
        ties tied (nodeGlyphs true block ++ (glyphs true rest ++ tail)) := by
    intro tied
    have afterwards : ties false (glyphs true (lineEnd block) ++
        (glyphs true (relaidAll unit depth [] rest) ++ tail)) =
          ties false (glyphs true rest ++ tail) := by
      rw [ties_of_blank endBlank, inRest]
    rw [ties_of_blank_of_untied marginBlank (fencedAnew.untied _),
      (fencedAnew.untied _).ties_eq, inBlock, fenced.ties_congr afterwards,
      ← (fenced.untied _).ties_eq tied]
  have untied : Untied (nodeGlyphs true block ++ (glyphs true rest ++ tail)) := fenced.untied _
  calc ties false (glyphs true (relaidAll unit depth [] (run ++ block :: rest)) ++ tail)
      = ties false (glyphs true (relaidRun unit depth run) ++
          (nodeGlyphs true (spacing (margin unit depth)) ++
            (nodeGlyphs true (relaid unit depth block) ++ (glyphs true (lineEnd block) ++
              (glyphs true (relaidAll unit depth [] rest) ++ tail))))) := by
        rw [relaidAll_block inline isBlock]
        simp only [glyphs_append, glyphs_cons, List.cons_append, List.append_assoc]
    _ = ties false (glyphs true (relaidRun unit depth run) ++
          (nodeGlyphs true block ++ (glyphs true rest ++ tail))) :=
        ties_append_congr onwards false _
    _ = ties false (glyphs true run ++ (nodeGlyphs true block ++ (glyphs true rest ++ tail))) :=
        ties_relaidRun true blankUnit depth untied run
    _ = ties false (glyphs true (run ++ block :: rest) ++ tail) := by
        simp only [glyphs_append, glyphs_cons, List.append_assoc]

/-- Nodes laid out anew are tied as they were, where nothing after them can be tied to them. -/
theorem ties_relaidAll (nodes : List Node) (depth : Nat) :
    ∀ rest, Untied rest →
      ties false (glyphs true (relaidAll unit depth [] nodes) ++ rest) =
        ties false (glyphs true nodes ++ rest) := by
  induction nodes using layoutInduction generalizing depth with
  | last run inline =>
      intro rest untied
      rw [relaidAll_run inline, ties_relaidRun true blankUnit depth untied]
  | doctype run text following inline inRest =>
      intro rest untied
      exact ties_relaidAll_block blankUnit inline (by rfl) (fun _ => rfl) (inRest depth rest untied)
  | element run name attributes children following inline isBlock inChildren inRest =>
      intro rest untied
      exact ties_relaidAll_block blankUnit inline isBlock
        (ties_relaid blankUnit isBlock (inChildren (depth + 1))) (inRest depth rest untied)

/-- A page laid out anew has the glyphs of the page, apart from white space. -/
theorem withoutBlanks_relaidAll (nodes : List Node) (depth : Nat) :
    withoutBlanks (glyphs true (relaidAll unit depth [] nodes)) =
      withoutBlanks (glyphs true nodes) := by
  have same := ties_relaidAll blankUnit nodes depth [] .nil
  rw [List.append_nil, List.append_nil] at same
  rw [← map_fst_ties false, same, map_fst_ties]

end LaidOut

end StaticSite
