/-
Module: StaticSite.Proofs.Layout.Relaid
Purpose: A beautified page is the markup of a tree: the page's own tree with the white space
  of its block structure laid out anew.
Trusted boundary: none
Main exports:
  AllInline, settledRun, lineOf, relaid, relaidAll, layoutInduction, toHtml_settledRun,
  toHtml_relaidAll, beautify_eq_toHtml_relaidAll
-/
import StaticSite.Layout
import StaticSite.Proofs.Markup.Elements
import StaticSite.Proofs.Markup.Written
import StaticSite.Proofs.Text.Search

namespace StaticSite

open Text Markup

/-! ### Nodes of a run -/

/-- All nodes are laid out within a line. -/
def AllInline (nodes : List Node) : Prop :=
  ∀ node ∈ nodes, isInline node = true

instance (nodes : List Node) : Decidable (AllInline nodes) :=
  inferInstanceAs (Decidable (∀ node ∈ nodes, isInline node = true))

/-- The node is text that holds nothing but white space. -/
def isBlankText : Node → Bool
  | .string kind text => kind.isText && isBlank text
  | .element _ _ _ => false

/-- Edit a node that is text of any kind. -/
def retext (edit : String → String) : Node → Node
  | .string kind text => if kind.isText then .string kind (edit text) else .string kind text
  | .element name attributes children => .element name attributes children

/-- Collapse the white space of a node that is plain text. -/
def collapsed : Node → Node
  | .string .text text => .string .text (collapse text)
  | node => node

/-- An inline node is text, or it is markup in which no white space is edited. -/
theorem inline_cases {node : Node} (inline : isInline node = true) :
    (∃ kind text, kind.isText = true ∧ node = .string kind text) ∨
      Enclosed node.toHtml.toList ∧ (∀ edit, retext edit node = node) ∧
        collapsed node = node ∧ isBlankText node = false := by
  cases node with
  | element name attributes children =>
      exact .inr ⟨enclosed_of_element name attributes children, fun _ => rfl, rfl, rfl⟩
  | string kind text =>
      by_cases isText : kind.isText = true
      · exact .inl ⟨kind, text, isText, rfl⟩
      · have notDoctype : kind ≠ .doctype := by
          rintro rfl
          exact Bool.false_ne_true inline
        have markup := eq_false_of_ne_true isText
        refine .inr ⟨enclosed_of_markup markup notDoctype text, fun _ => if_neg isText, ?_, ?_⟩
        · cases kind <;> first | rfl | exact absurd rfl isText
        · rw [isBlankText, markup, Bool.false_and]

theorem isInline_of_isText {kind : StringKind} (isText : kind.isText = true) (text : String) :
    isInline (.string kind text) = true := by
  cases kind <;> first | rfl | exact absurd isText Bool.false_ne_true

theorem isInline_of_isBlankText {node : Node} (blank : isBlankText node = true) :
    isInline node = true := by
  cases node with
  | element => exact absurd blank Bool.false_ne_true
  | string kind text => exact isInline_of_isText (Bool.and_eq_true_iff.mp blank).1 text

theorem isBlank_iff {s : String} : isBlank s = true ↔ ∀ c ∈ s.toList, isSpace c = true := by
  rw [isBlank, List.all_eq_true]

theorem isBlankText_iff {node : Node} (inline : isInline node = true) :
    isBlankText node = true ↔ ∀ c ∈ node.toHtml.toList, isSpace c = true := by
  rcases inline_cases inline with ⟨kind, text, isText, rfl⟩ | ⟨enclosed, -, -, visible⟩
  · rw [isBlankText, isText, Bool.true_and, toHtml_text isText, escapeChars_blank_iff, isBlank_iff]
  · rw [visible]
    exact iff_of_false Bool.false_ne_true enclosed.not_blank

/-- Where a run starts with a node that is not blank, trimming it trims that node. -/
theorem dropWhile_toHtml {node : Node} (inline : isInline node = true)
    (visible : ¬ isBlankText node = true) (rest : List Char) :
    (node.toHtml.toList ++ rest).dropWhile isSpace =
      (retext trimLeft node).toHtml.toList ++ rest := by
  rw [isBlankText_iff inline] at visible
  rcases inline_cases inline with ⟨kind, text, isText, rfl⟩ | ⟨enclosed, unedited, -⟩
  · have left : (Node.string kind text).toHtml.toList.dropWhile isSpace ≠ [] := by
      rwa [ne_eq, List.dropWhile_eq_nil_iff]
    rw [List.dropWhile_append, if_neg (by rwa [List.isEmpty_iff]), toHtml_text isText, retext,
      if_pos isText, toHtml_text isText, trimLeft, String.toList_ofList, escapeChars_dropWhile]
  · rw [enclosed.dropWhile_append, unedited]

/-- Where a run ends with an inline node, trimming it trims that node. -/
theorem trimEnd_toHtml {node : Node} (inline : isInline node = true) :
    trimEnd node.toHtml.toList = (retext trimRight node).toHtml.toList := by
  rcases inline_cases inline with ⟨kind, text, isText, rfl⟩ | ⟨enclosed, unedited, -⟩
  · rw [toHtml_text isText, retext, if_pos isText, toHtml_text isText, trimRight,
      String.toList_ofList, escapeChars_trimEnd]
  · rw [enclosed.trimEnd_eq, unedited]

/-! ### Runs -/

/-- Drop the white space that a run starts with. -/
def trimmedLeft : List Node → List Node
  | [] => []
  | node :: rest => if isBlankText node then trimmedLeft rest else retext trimLeft node :: rest

/-- Drop the white space that a run ends with. -/
def trimmedRight : List Node → List Node
  | [] => []
  | node :: rest =>
      match trimmedRight rest with
      | [] => if isBlankText node then [] else [retext trimRight node]
      | first :: others => node :: first :: others

/-- A run as its line shows it: white space in plain text collapsed, none at the ends. -/
def settledRun (run : List Node) : List Node :=
  trimmedRight (trimmedLeft (run.map collapsed))

/-- What the nodes of a run add to its line. -/
def lineOf (run : List Node) : String :=
  concat (run.map inlinePiece)

theorem isInline_retext (edit : String → String) (node : Node) :
    isInline (retext edit node) = isInline node := by
  cases node with
  | string kind text => by_cases isText : kind.isText = true <;> simp [retext, isText, isInline]
  | element => rfl

theorem isInline_collapsed (node : Node) : isInline (collapsed node) = isInline node := by
  cases node with
  | string kind text => cases kind <;> rfl
  | element => rfl

namespace AllInline

variable {run : List Node}

theorem map_collapsed (inline : AllInline run) : AllInline (run.map collapsed) := by
  intro node member
  obtain ⟨old, oldMember, rfl⟩ := List.mem_map.mp member
  rw [isInline_collapsed]
  exact inline old oldMember

theorem trimmedLeft (inline : AllInline run) : AllInline (trimmedLeft run) := by
  induction run with
  | nil => exact inline
  | cons node rest inductionHypothesis =>
      obtain ⟨here, there⟩ := List.forall_mem_cons.mp inline
      rw [StaticSite.trimmedLeft]
      split
      · exact inductionHypothesis there
      · exact List.forall_mem_cons.mpr ⟨by rwa [isInline_retext], there⟩

end AllInline

theorem toHtml_blank_iff {run : List Node} (inline : AllInline run) :
    (∀ c ∈ (toHtml run).toList, isSpace c = true) ↔ ∀ node ∈ run, isBlankText node = true := by
  induction run with
  | nil => simp
  | cons node rest inductionHypothesis =>
      obtain ⟨here, there⟩ := List.forall_mem_cons.mp inline
      rw [toHtml_cons, String.toList_append, List.forall_mem_append, List.forall_mem_cons,
        inductionHypothesis there, isBlankText_iff here]

theorem toHtml_trimmedLeft {run : List Node} (inline : AllInline run) :
    (toHtml (trimmedLeft run)).toList = (toHtml run).toList.dropWhile isSpace := by
  induction run with
  | nil => rfl
  | cons node rest inductionHypothesis =>
      obtain ⟨here, there⟩ := List.forall_mem_cons.mp inline
      rw [trimmedLeft, toHtml_cons, String.toList_append]
      by_cases blank : isBlankText node = true
      · have gone := List.dropWhile_eq_nil_iff.mpr ((isBlankText_iff here).mp blank)
        rw [if_pos blank, List.dropWhile_append, gone, inductionHypothesis there]
        rfl
      · rw [if_neg blank, dropWhile_toHtml here blank, toHtml_cons, String.toList_append]

theorem trimmedRight_eq_nil_iff {run : List Node} :
    trimmedRight run = [] ↔ ∀ node ∈ run, isBlankText node = true := by
  induction run with
  | nil => simp [trimmedRight]
  | cons node rest inductionHypothesis =>
      rw [trimmedRight, List.forall_mem_cons, ← inductionHypothesis]
      cases trimmedRight rest <;> simp

/-- A run that is left with nothing is blank. -/
theorem trimEnd_toHtml_eq_nil_iff {run : List Node} (inline : AllInline run) :
    trimEnd (toHtml run).toList = [] ↔ trimmedRight run = [] := by
  rw [trimEnd_eq_nil_iff, toHtml_blank_iff inline, trimmedRight_eq_nil_iff]

theorem toHtml_trimmedRight {run : List Node} (inline : AllInline run) :
    (toHtml (trimmedRight run)).toList = trimEnd (toHtml run).toList := by
  induction run with
  | nil => rfl
  | cons node rest inductionHypothesis =>
      obtain ⟨here, there⟩ := List.forall_mem_cons.mp inline
      have onwards := inductionHypothesis there
      have blankTogether := trimEnd_toHtml_eq_nil_iff there
      rw [toHtml_cons, String.toList_append, trimEnd_append, trimmedRight]
      cases kept : trimmedRight rest with
      | cons first others =>
          have filled : ¬ trimEnd (toHtml rest).toList = [] := by
            rw [blankTogether, kept]
            exact List.cons_ne_nil first others
          rw [if_neg filled, ← onwards, kept, ← String.toList_append]
          rfl
      | nil =>
          rw [if_pos (blankTogether.mpr kept)]
          by_cases blank : isBlankText node = true
          · simp only [blank, if_true]
            exact (trimEnd_eq_nil_iff.mpr ((isBlankText_iff here).mp blank)).symm
          · simp only [blank, Bool.false_eq_true, if_false]
            rw [trimEnd_toHtml here, toHtml_cons, toHtml_nil, String.append_empty]

theorem inlinePiece_eq (node : Node) : inlinePiece node = (collapsed node).toHtml := by
  cases node with
  | element => rfl
  | string kind text =>
      cases kind with
      | text =>
          have plain := @toHtml_text .text (by rfl)
          rw [inlinePiece, collapse, collapsed, ← String.toList_inj,
            plain (collapse text), collapse, String.toList_ofList,
            String.toList_ofList, ← escapeChars_collapse]
          exact congrArg collapseChars (plain text)
      | _ => rfl

/-- What text adds to its line, as characters: it is escaped, and collapsed if it is plain. -/
theorem inlinePiece_text {kind : StringKind} (isText : kind.isText = true) (text : String) :
    (inlinePiece (.string kind text)).toList =
      escapeChars (if kind = .text then collapseChars text.toList else text.toList) := by
  rw [inlinePiece_eq]
  by_cases plain : kind = .text
  · subst plain
    rw [if_pos rfl, collapsed, toHtml_text isText, collapse, String.toList_ofList]
  · have unedited : collapsed (.string kind text) = .string kind text := by
      cases kind <;> first | exact absurd rfl plain | rfl
    rw [if_neg plain, unedited, toHtml_text isText]

theorem lineOf_eq (run : List Node) : lineOf run = toHtml (run.map collapsed) := by
  induction run with
  | nil => rfl
  | cons node rest inductionHypothesis =>
      rw [lineOf, List.map_cons, concat, inlinePiece_eq, List.map_cons, toHtml_cons,
        ← inductionHypothesis]
      rfl

theorem lineOf_append (first second : List Node) :
    lineOf (first ++ second) = lineOf first ++ lineOf second := by
  rw [lineOf_eq, lineOf_eq, lineOf_eq, List.map_append, toHtml_append]

/-- The markup of a settled run is the run's line without white space at its ends. -/
theorem toHtml_settledRun {run : List Node} (inline : AllInline run) :
    toHtml (settledRun run) = trim (lineOf run) := by
  rw [settledRun, trim, trimChars, lineOf_eq, ← String.toList_inj, String.toList_ofList,
    toHtml_trimmedRight inline.map_collapsed.trimmedLeft, toHtml_trimmedLeft inline.map_collapsed]

theorem settledRun_eq_nil_iff {run : List Node} (inline : AllInline run) :
    settledRun run = [] ↔ trim (lineOf run) = "" := by
  rw [settledRun, ← trimEnd_toHtml_eq_nil_iff inline.map_collapsed.trimmedLeft,
    toHtml_trimmedLeft inline.map_collapsed, ← lineOf_eq, trim, trimChars,
    ← String.toList_inj, String.toList_ofList]
  rfl

/-! ### Trees -/

/-- The element is written over several lines: it is neither inline nor preserved, and there is
a block in it. -/
def isLaidOut (name : String) (children : List Node) : Bool :=
  !inlineElements.contains name && !isVerbatim name children

/-- A block that is not written verbatim is laid out. -/
theorem isLaidOut_of_isBlock {name : String} {attributes : Attributes} {children : List Node}
    (isBlock : isInline (.element name attributes children) = false)
    (notVerbatim : ¬ isVerbatim name children = true) : isLaidOut name children = true := by
  have notInline : inlineElements.contains name = false := isBlock
  rw [isLaidOut, notInline, eq_false_of_ne_true notVerbatim]
  rfl

theorem isInline_of_isLaidOut {name : String} {children : List Node}
    (laidOut : isLaidOut name children = true) (attributes : Attributes) (nodes : List Node) :
    isInline (.element name attributes nodes) = false := by
  simp_all [isLaidOut, isInline]

/-- White space between nodes. -/
def spacing (text : String) : Node :=
  .string .text text

/-- A run on a line of its own, unless it is blank. -/
def relaidRun (unit : String) (depth : Nat) (run : List Node) : List Node :=
  match settledRun run with
  | [] => []
  | first :: others => spacing (margin unit depth) :: first :: others ++ [spacing "\n"]

/-- The line feed after a block node.  A document type has one of its own. -/
def lineEnd : Node → List Node
  | .string _ _ => []
  | .element _ _ _ => [spacing "\n"]

mutual

/-- A block node with its content laid out anew. -/
def relaid (unit : String) (depth : Nat) : Node → Node
  | .string kind text => .string kind text
  | .element name attributes children =>
      if isVerbatim name children then
        .element name attributes children
      else
        .element name attributes
          (spacing "\n" :: relaidAll unit (depth + 1) [] children
            ++ [spacing (margin unit depth)])

/-- Sibling nodes laid out anew; `run` are the inline nodes right before them. -/
def relaidAll (unit : String) (depth : Nat) (run : List Node) : List Node → List Node
  | [] => relaidRun unit depth run
  | child :: rest =>
      if isInline child then
        relaidAll unit depth (run ++ [child]) rest
      else
        relaidRun unit depth run
          ++ (spacing (margin unit depth) :: relaid unit depth child :: lineEnd child
            ++ relaidAll unit depth [] rest)

end

section Runs

variable {unit : String} {depth : Nat} {run : List Node}

theorem relaidAll_append (inline : AllInline run) (before rest : List Node) :
    relaidAll unit depth before (run ++ rest) = relaidAll unit depth (before ++ run) rest := by
  induction run generalizing before with
  | nil => rw [List.nil_append, List.append_nil]
  | cons node others inductionHypothesis =>
      obtain ⟨here, there⟩ := List.forall_mem_cons.mp inline
      rw [List.cons_append, relaidAll, if_pos here, inductionHypothesis there,
        List.append_assoc, List.singleton_append]

theorem relaidAll_run (inline : AllInline run) :
    relaidAll unit depth [] run = relaidRun unit depth run := by
  simpa [relaidAll] using @relaidAll_append unit depth run inline [] []

theorem relaidAll_block (inline : AllInline run) {block : Node} (isBlock : isInline block = false)
    (rest : List Node) :
    relaidAll unit depth [] (run ++ block :: rest) =
      relaidRun unit depth run
        ++ (spacing (margin unit depth) :: relaid unit depth block :: lineEnd block
          ++ relaidAll unit depth [] rest) := by
  rw [relaidAll_append inline, List.nil_append, relaidAll, isBlock, if_neg Bool.false_ne_true]

theorem childLines_append (inline : AllInline run) (before : String) (rest : List Node) :
    childLines unit depth before (run ++ rest) =
      childLines unit depth (before ++ lineOf run) rest := by
  induction run generalizing before with
  | nil => rw [List.nil_append, lineOf, List.map_nil, concat, String.append_empty]
  | cons node others inductionHypothesis =>
      obtain ⟨here, there⟩ := List.forall_mem_cons.mp inline
      rw [List.cons_append, childLines, if_pos here, inductionHypothesis there, String.append_assoc]
      rfl

theorem childLines_run (inline : AllInline run) :
    childLines unit depth "" run = runLines unit depth (lineOf run) := by
  simpa [childLines] using @childLines_append unit depth run inline "" []

theorem childLines_block (inline : AllInline run) {block : Node}
    (isBlock : isInline block = false) (rest : List Node) :
    childLines unit depth "" (run ++ block :: rest) =
      runLines unit depth (lineOf run)
        ++ (blockLines unit depth block ++ childLines unit depth "" rest) := by
  rw [childLines_append inline, String.empty_append, childLines, isBlock,
    if_neg Bool.false_ne_true]

end Runs

/-- A list of siblings is a run, or a run with a block and more siblings after it. -/
theorem runInduction {motive : List Node → Prop}
    (last : ∀ run, AllInline run → motive run)
    (block : ∀ run node rest, AllInline run → isInline node = false → motive rest →
      motive (run ++ node :: rest)) :
    ∀ nodes, motive nodes := by
  suffices after : ∀ nodes run, AllInline run → motive (run ++ nodes) from
    fun nodes => after nodes [] (List.forall_mem_nil _)
  intro nodes
  induction nodes with
  | nil =>
      intro run inline
      rw [List.append_nil]
      exact last run inline
  | cons node rest inductionHypothesis =>
      intro run inline
      by_cases here : isInline node = true
      · have longer : AllInline (run ++ [node]) :=
          List.forall_mem_append.mpr ⟨inline, List.forall_mem_singleton.mpr here⟩
        have whole := inductionHypothesis (run ++ [node]) longer
        rwa [List.append_assoc, List.singleton_append] at whole
      · apply block run node rest inline (eq_false_of_ne_true here)
        exact inductionHypothesis [] (List.forall_mem_nil _)

/-- Induction over a document along its block structure: runs of inline nodes end a list or
stand before a block, and blocks that are elements have lists of children. -/
theorem layoutInduction {motive : List Node → Prop}
    (last : ∀ run, AllInline run → motive run)
    (doctype : ∀ run text rest, AllInline run → motive rest →
      motive (run ++ .string .doctype text :: rest))
    (element : ∀ run name attributes children rest, AllInline run →
      isInline (.element name attributes children) = false → motive children → motive rest →
      motive (run ++ .element name attributes children :: rest)) :
    ∀ document, motive document := by
  refine childListInduction fun nodes => ?_
  induction nodes using runInduction with
  | last run inline => exact fun _ => last run inline
  | block run node rest inline isBlock inductionHypothesis =>
      intro below
      obtain ⟨-, inside⟩ := List.forall_mem_append.mp below
      obtain ⟨here, there⟩ := List.forall_mem_cons.mp inside
      cases node with
      | element name attributes children =>
          exact element run name attributes children rest inline isBlock here
            (inductionHypothesis there)
      | string kind text =>
          cases kind with
          | doctype => exact doctype run text rest inline (inductionHypothesis there)
          | _ => exact absurd isBlock (by simp [isInline])

/-! ### Lines -/

/-- Lines written one below the other. -/
def writeLines (lines : List String) : String :=
  concat (lines.map (· ++ "\n"))

theorem writeLines_nil : writeLines [] = "" :=
  rfl

theorem writeLines_cons (line : String) (rest : List String) :
    writeLines (line :: rest) = line ++ "\n" ++ writeLines rest :=
  rfl

theorem writeLines_append (first second : List String) :
    writeLines (first ++ second) = writeLines first ++ writeLines second := by
  induction first with
  | nil => exact String.empty_append.symm
  | cons line rest inductionHypothesis =>
      rw [List.cons_append, writeLines_cons, writeLines_cons, inductionHypothesis]
      exact String.append_assoc.symm

theorem writeLines_singleton (line : String) : writeLines [line] = line ++ "\n" := by
  rw [writeLines_cons, writeLines_nil, String.append_empty]

/-- The line an element starts with is its start tag. -/
theorem openingTag_eq {name : String} (hasEndTag : isVoidElement name = false)
    (attributes : Attributes) : openingTag name attributes = startTag name attributes := by
  have written : Node.toHtml (.element name attributes []) =
      startTag name attributes ++ ("</" ++ name ++ ">") := by
    rw [Node.toHtml, Node.write, hasEndTag, if_neg Bool.false_ne_true, startTag]
    simp only [String.append_assoc]
    rfl
  rw [openingTag, written, removeEnd_append]

/-- Lines are indented with the characters of the unit. -/
theorem forall_mem_margin {unit : String} {allowed : Char → Prop}
    (unitAllowed : ∀ c ∈ unit.toList, allowed c) (depth : Nat) :
    ∀ c ∈ (margin unit depth).toList, allowed c := by
  induction depth with
  | zero => simp [margin]
  | succ depth inductionHypothesis =>
      rw [margin, String.toList_append, List.forall_mem_append]
      exact ⟨unitAllowed, inductionHypothesis⟩

theorem isBlank_margin {unit : String} (blankUnit : isBlank unit = true) (depth : Nat) :
    isBlank (margin unit depth) = true :=
  isBlank_iff.mpr (forall_mem_margin (isBlank_iff.mp blankUnit) depth)

/-- White space between nodes is written as it is. -/
theorem toHtml_spacing {text : String} (blank : isBlank text = true) :
    (spacing text).toHtml = text := by
  have unescaped : ∀ cs : List Char, (∀ c ∈ cs, isSpace c = true) → escapeChars cs = cs := by
    intro cs spaces
    induction cs with
    | nil => rfl
    | cons c rest inductionHypothesis =>
        obtain ⟨here, there⟩ := List.forall_mem_cons.mp spaces
        rw [escapeChars, List.flatMap_cons, escapeTextChar_of_space here, ← escapeChars,
          inductionHypothesis there, List.singleton_append]
  rw [← String.toList_inj, spacing, toHtml_text (by rfl), unescaped _ (isBlank_iff.mp blank)]

theorem toHtml_lineFeed : (spacing "\n").toHtml = "\n" :=
  toHtml_spacing (by decide)

theorem toHtml_relaidRun {unit : String} (blankUnit : isBlank unit = true) {depth : Nat}
    {run : List Node} (inline : AllInline run) :
    toHtml (relaidRun unit depth run) = writeLines (runLines unit depth (lineOf run)) := by
  have blankTogether := settledRun_eq_nil_iff inline
  have written := toHtml_settledRun inline
  rw [relaidRun, runLines]
  cases settled : settledRun run with
  | nil => rw [if_pos (blankTogether.mp settled)]; rfl
  | cons first others =>
      have filled : ¬ trim (lineOf run) = "" := by
        rw [← blankTogether, settled]
        exact List.cons_ne_nil first others
      rw [if_neg filled, ← written, settled, writeLines_singleton]
      simp only [toHtml_append, toHtml_cons, toHtml_nil, toHtml_lineFeed, String.append_empty,
        toHtml_spacing (isBlank_margin blankUnit depth), String.append_assoc]

/-- A document type is written without the line feed it has, and with the one of its line. -/
theorem trim_doctype (text : String) :
    trim (writeString false .doctype text) ++ "\n" = (Node.string .doctype text).toHtml := by
  have enclosed : Enclosed ("<!DOCTYPE " ++ text ++ ">").toList :=
    ⟨"!DOCTYPE ".toList ++ text.toList, by simp⟩
  have written : (writeString false .doctype text).toList =
      ("<!DOCTYPE " ++ text ++ ">").toList ++ ['\n'] := by
    simp [writeString]
  have trimmed : trim (writeString false .doctype text) = "<!DOCTYPE " ++ text ++ ">" := by
    rw [trim, trimChars, written, enclosed.dropWhile_append, trimEnd_append, if_pos (by decide),
      enclosed.trimEnd_eq, String.ofList_toList]
  rw [trimmed, ← String.toList_inj, Node.toHtml, Node.write, written, String.toList_append]
  rfl

section LaidOut

variable {name : String} {children : List Node}

/-- An element that is not written verbatim has children, and text in it is escaped. -/
theorem children_ne_nil_of_laidOut (laidOut : isVerbatim name children = false) :
    children ≠ [] := by
  rintro rfl
  simp [isVerbatim] at laidOut

theorem escaped_of_laidOut (laidOut : isVerbatim name children = false) :
    holdsRawText name = false := by
  rw [← Bool.not_eq_true] at laidOut ⊢
  intro raw
  refine laidOut ?_
  rcases Bool.or_eq_true_iff.mp raw with isScript | isStyle
  · rw [eq_of_beq isScript]
    rfl
  · rw [eq_of_beq isStyle]
    rfl

theorem toHtml_relaid {unit : String} (blankUnit : isBlank unit = true) {depth : Nat}
    (laidOut : isVerbatim name children = false) (attributes : Attributes) :
    (relaid unit depth (.element name attributes children)).toHtml =
      startTag name attributes
        ++ ("\n" ++ toHtml (relaidAll unit (depth + 1) [] children) ++ margin unit depth)
        ++ ("</" ++ name ++ ">") := by
  rw [relaid, laidOut, if_neg Bool.false_ne_true, toHtml_element (escaped_of_laidOut laidOut)
    (List.append_ne_nil_of_left_ne_nil (List.cons_ne_nil _ _) _)]
  simp only [toHtml_append, toHtml_cons, toHtml_nil, toHtml_lineFeed, String.append_empty,
    toHtml_spacing (isBlank_margin blankUnit depth)]

/-- The lines of an element are the markup of the element laid out anew, if those of its
children are. -/
theorem writeLines_blockLines {unit : String} (blankUnit : isBlank unit = true) {depth : Nat}
    {attributes : Attributes} (empty : VoidElementsEmpty [.element name attributes children])
    (inChildren : toHtml (relaidAll unit (depth + 1) [] children) =
      writeLines (childLines unit (depth + 1) "" children)) :
    writeLines (blockLines unit depth (.element name attributes children)) =
      margin unit depth ++ (relaid unit depth (.element name attributes children)).toHtml
        ++ "\n" := by
  rw [blockLines]
  by_cases verbatim : isVerbatim name children = true
  · rw [relaid, if_pos verbatim, if_pos verbatim, writeLines_singleton]
  · have laidOut := eq_false_of_ne_true verbatim
    have hasEndTag := empty.not_void (children_ne_nil_of_laidOut laidOut)
    rw [if_neg verbatim, openingTag_eq hasEndTag, toHtml_relaid blankUnit laidOut, inChildren]
    simp only [writeLines_nil, writeLines_cons, writeLines_append, List.cons_append,
      String.append_empty, String.append_assoc]

end LaidOut

/-- The lines of siblings are the markup of the siblings laid out anew. -/
theorem toHtml_relaidAll {unit : String} (blankUnit : isBlank unit = true) (nodes : List Node)
    (empty : VoidElementsEmpty nodes) (depth : Nat) :
    toHtml (relaidAll unit depth [] nodes) = writeLines (childLines unit depth "" nodes) := by
  induction nodes using layoutInduction generalizing depth with
  | last run inline =>
      rw [relaidAll_run inline, childLines_run inline, toHtml_relaidRun blankUnit inline]
  | doctype run text rest inline inductionHypothesis =>
      have onwards := inductionHypothesis empty.of_append.2.of_cons.2 depth
      rw [relaidAll_block inline (by rfl), childLines_block inline (by rfl), relaid, lineEnd,
        blockLines, List.singleton_append]
      simp only [toHtml_append, toHtml_cons, toHtml_nil, writeLines_append, writeLines_cons,
        toHtml_relaidRun blankUnit inline, onwards, String.append_empty,
        toHtml_spacing (isBlank_margin blankUnit depth), ← trim_doctype, String.append_assoc]
  | element run name attributes children rest inline isBlock inChildren inRest =>
      obtain ⟨here, there⟩ := empty.of_append.2.of_cons
      have own := writeLines_blockLines blankUnit here (inChildren here.of_element (depth + 1))
      rw [relaidAll_block inline isBlock, childLines_block inline isBlock, lineEnd]
      simp only [toHtml_append, toHtml_cons, toHtml_nil, writeLines_append, own, inRest there depth,
        toHtml_relaidRun blankUnit inline, String.empty_append, List.cons_append,
        toHtml_spacing (isBlank_margin blankUnit depth), toHtml_lineFeed, String.append_assoc]

/-- A beautified document is the markup of the document laid out anew. -/
theorem beautify_eq_toHtml_relaidAll {document : List Node} {indent : Indent}
    (blankUnit : isBlank indent.unit = true) (empty : VoidElementsEmpty document) :
    beautify document indent = toHtml (relaidAll indent.unit 0 [] document) :=
  (toHtml_relaidAll blankUnit document empty 0).symm

end StaticSite
