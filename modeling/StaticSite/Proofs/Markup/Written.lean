/-
Module: StaticSite.Proofs.Markup.Written
Purpose: The markup of trees, piece by piece: nodes one after the other, elements with
  children, and where white space can stand in it.
Trusted boundary: none
Main exports:
  toHtml_append, toHtml_element, infix_toHtml_of_mem, StringKind.isText, toHtml_text, Enclosed,
  enclosed_of_element, escapeChars_dropWhile, escapeChars_trimEnd, escapeChars_collapse
-/
import StaticSite.Markup.Serialize
import StaticSite.Proofs.Markup.Elements
import StaticSite.Proofs.Text.Whitespace

namespace StaticSite.Markup

open Text

/-! ### Nodes one after the other -/

@[simp] theorem toHtml_nil : toHtml [] = "" :=
  rfl

@[simp] theorem toHtml_cons (node : Node) (rest : List Node) :
    toHtml (node :: rest) = node.toHtml ++ toHtml rest :=
  rfl

@[simp] theorem toHtml_append (first second : List Node) :
    toHtml (first ++ second) = toHtml first ++ toHtml second := by
  induction first with
  | nil => rw [List.nil_append, toHtml_nil, String.empty_append]
  | cons node rest inductionHypothesis =>
      rw [List.cons_append, toHtml_cons, toHtml_cons, inductionHypothesis, String.append_assoc]

/-- The start tag of an element that is written with an end tag. -/
def startTag (name : String) (attributes : Attributes) : String :=
  "<" ++ name ++ writeAttributes name attributes ++ ">"

/-- An element with children is written around them. -/
theorem write_element {name : String} {children : List Node} (filled : children ≠ []) (raw : Bool)
    (attributes : Attributes) :
    Node.write raw (.element name attributes children) =
      startTag name attributes ++ Node.writeAll (holdsRawText name) children
        ++ ("</" ++ name ++ ">") := by
  cases children with
  | nil => exact absurd rfl filled
  | cons child rest =>
      rw [Node.write, Node.writeAll, startTag]
      simp only [String.append_assoc]

theorem toHtml_element {name : String} {children : List Node} (escaped : holdsRawText name = false)
    (filled : children ≠ []) (attributes : Attributes) :
    (Node.element name attributes children).toHtml =
      startTag name attributes ++ toHtml children ++ ("</" ++ name ++ ">") := by
  rw [Node.toHtml, write_element filled, escaped, toHtml]

section Parts

variable {name : String} {element : Node}

/-- The markup of an element is part of what is written for the element around it. -/
theorem infix_write_of_mem {tag : String} {attributes : Attributes} {children : List Node}
    (member : element ∈ elementsNamed name [.element tag attributes children]) (raw : Bool)
    (inChildren : element ∈ elementsNamed name children →
      element.toHtml.toList <:+: (Node.writeAll (holdsRawText tag) children).toList) :
    element.toHtml.toList <:+: (Node.write raw (.element tag attributes children)).toList := by
  have below (deeper : element ∈ elementsNamed name children) :
      element.toHtml.toList <:+: (Node.write raw (.element tag attributes children)).toList := by
    have filled : children ≠ [] := by
      rintro rfl
      exact List.not_mem_nil deeper
    apply (inChildren deeper).trans
    rw [write_element filled, String.toList_append, String.toList_append]
    exact List.infix_append _ _ _
  rw [elementsNamed_element] at member
  split at member
  · rcases List.mem_cons.mp member with rfl | deeper
    · -- An element is written in the same way wherever it stands.
      have itself : Node.toHtml (.element tag attributes children) =
          Node.write raw (.element tag attributes children) := by
        cases children <;> rfl
      exact itself ▸ List.infix_rfl
    · exact below deeper
  · exact below member

/-- The markup of every element of a tree is part of what is written for the tree. -/
theorem infix_writeAll_of_mem (nodes : List Node) :
    element ∈ elementsNamed name nodes → ∀ raw,
      element.toHtml.toList <:+: (Node.writeAll raw nodes).toList := by
  induction nodes using childListInduction with
  | nodes nodes inChildren =>
      intro member raw
      induction nodes with
      | nil => exact absurd member List.not_mem_nil
      | cons node rest inRest =>
          obtain ⟨inside, further⟩ := List.forall_mem_cons.mp inChildren
          rw [← List.singleton_append, elementsNamed_append] at member
          rw [Node.writeAll, String.toList_append]
          rcases List.mem_append.mp member with here | there
          · apply List.infix_append_of_infix_left
            cases node with
            | string => exact absurd here List.not_mem_nil
            | element tag attributes children =>
                exact infix_write_of_mem here raw fun deeper => inside deeper (holdsRawText tag)
          · apply List.infix_append_of_infix_right
            exact inRest further there

theorem infix_toHtml_of_mem {nodes : List Node} (member : element ∈ elementsNamed name nodes) :
    element.toHtml.toList <:+: (toHtml nodes).toList :=
  infix_writeAll_of_mem nodes member false

end Parts

/-! ### Text and other markup -/

/-- Strings of this kind are written as text. -/
def StringKind.isText : StringKind → Bool
  | .text | .script | .style | .template | .rubyText | .rubyParenthesis => true
  | .comment | .doctype | .cdata | .instruction | .declaration => false

/-- Text with the characters escaped that could be taken for markup. -/
def escapeChars (cs : List Char) : List Char :=
  cs.flatMap escapeTextChar

theorem toHtml_text {kind : StringKind} (isText : kind.isText = true) (text : String) :
    (Node.string kind text).toHtml.toList = escapeChars text.toList := by
  have written : (Node.string kind text).toHtml = escapeText text := by
    cases kind with
    | comment | doctype | cdata | instruction | declaration => exact absurd isText (by decide)
    | _ => rfl
  rw [written, escapeText, String.toList_ofList, escapeChars]

/-- Markup that starts and ends with the brackets of a tag. -/
def Enclosed (cs : List Char) : Prop :=
  ∃ inside, cs = '<' :: (inside ++ ['>'])

theorem enclosed_of_element (name : String) (attributes : Attributes) (children : List Node) :
    Enclosed (Node.element name attributes children).toHtml.toList := by
  rw [Node.toHtml]
  cases children with
  | nil =>
      rw [Node.write]
      split
      · exact ⟨name.toList ++ (writeAttributes name attributes).toList ++ ['/'], by simp⟩
      · exact ⟨name.toList ++ (writeAttributes name attributes).toList ++
          '>' :: '<' :: '/' :: name.toList, by simp⟩
  | cons child rest =>
      exact ⟨name.toList ++ (writeAttributes name attributes).toList ++
        '>' :: ((Node.write (holdsRawText name) child).toList ++
          ((Node.writeAll (holdsRawText name) rest).toList ++ '<' :: '/' :: name.toList)),
        by simp [Node.write]⟩

/-- Comments and the like are enclosed; a document type has a line feed after it. -/
theorem enclosed_of_markup {kind : StringKind} (markup : kind.isText = false)
    (other : kind ≠ .doctype) (text : String) :
    Enclosed (Node.string kind text).toHtml.toList := by
  rw [Node.toHtml, Node.write]
  cases kind with
  | comment => exact ⟨'!' :: '-' :: '-' :: (text.toList ++ ['-', '-']), by simp [writeString]⟩
  | cdata => exact ⟨"![CDATA[".toList ++ text.toList ++ "]]".toList, by simp [writeString]⟩
  | instruction => exact ⟨'?' :: text.toList, by simp [writeString]⟩
  | declaration => exact ⟨'?' :: (text.toList ++ ['?']), by simp [writeString]⟩
  | doctype => exact absurd rfl other
  | _ => exact absurd markup (by decide)

namespace Enclosed

variable {cs : List Char}

/-- There is no white space to trim at the start. -/
theorem dropWhile_append (enclosed : Enclosed cs) (rest : List Char) :
    (cs ++ rest).dropWhile isSpace = cs ++ rest := by
  obtain ⟨inside, rfl⟩ := enclosed
  rfl

/-- There is no white space to trim at the end. -/
theorem trimEnd_eq (enclosed : Enclosed cs) : trimEnd cs = cs := by
  obtain ⟨inside, rfl⟩ := enclosed
  rw [← List.cons_append, trimEnd_append]
  rfl

theorem not_blank (enclosed : Enclosed cs) : ¬ ∀ c ∈ cs, isSpace c = true := by
  obtain ⟨inside, rfl⟩ := enclosed
  intro blank
  exact absurd (blank '<' List.mem_cons_self) (by decide)

end Enclosed

/-! ### White space in escaped text -/

theorem escapeTextChar_of_space {c : Char} (space : isSpace c = true) :
    escapeTextChar c = [c] := by
  have notMarkup : c ≠ '&' ∧ c ≠ '<' ∧ c ≠ '>' := by
    refine ⟨?_, ?_, ?_⟩ <;> rintro rfl <;> revert space <;> decide
  simp [escapeTextChar, notMarkup]

/-- What a visible character is written as starts visibly and holds no white space. -/
theorem escapeTextChar_of_visible {c : Char} (visible : isSpace c = false) :
    ∃ first rest, escapeTextChar c = first :: rest ∧
      ∀ d ∈ escapeTextChar c, isSpace d = false := by
  have entity : ∀ cs : List Char, cs.all (fun d => !isSpace d) = true →
      ∀ d ∈ cs, isSpace d = false := by
    intro cs visibleToo d member
    simpa using List.all_eq_true.mp visibleToo d member
  unfold escapeTextChar
  split
  · exact ⟨_, _, rfl, entity _ (by decide)⟩
  split
  · exact ⟨_, _, rfl, entity _ (by decide)⟩
  split
  · exact ⟨_, _, rfl, entity _ (by decide)⟩
  · exact ⟨_, _, rfl, by simpa using visible⟩

/-- Escaping neither adds nor removes white space. -/
theorem mem_escapeChars_of_space {c : Char} (space : isSpace c = true) {cs : List Char} :
    c ∈ escapeChars cs ↔ c ∈ cs := by
  rw [escapeChars, List.mem_flatMap]
  constructor
  · rintro ⟨d, member, written⟩
    by_cases isSpaceToo : isSpace d = true
    · rw [escapeTextChar_of_space isSpaceToo, List.mem_singleton] at written
      rwa [written]
    · obtain ⟨-, -, -, visible⟩ := escapeTextChar_of_visible (eq_false_of_ne_true isSpaceToo)
      rw [visible c written] at space
      exact absurd space Bool.false_ne_true
  · intro member
    exact ⟨c, member, by rw [escapeTextChar_of_space space]; exact List.mem_singleton_self c⟩

theorem escapeChars_blank_iff {cs : List Char} :
    (∀ c ∈ escapeChars cs, isSpace c = true) ↔ ∀ c ∈ cs, isSpace c = true := by
  constructor
  · intro blank c member
    by_contra notSpace
    obtain ⟨first, rest, written, visible⟩ :=
      escapeTextChar_of_visible (eq_false_of_ne_true notSpace)
    have head : first ∈ escapeTextChar c := by rw [written]; exact List.mem_cons_self
    have space := blank first (List.mem_flatMap.mpr ⟨c, member, head⟩)
    rw [visible first head] at space
    exact Bool.false_ne_true space
  · intro blank c member
    obtain ⟨d, inText, written⟩ := List.mem_flatMap.mp member
    rw [escapeTextChar_of_space (blank d inText), List.mem_singleton] at written
    rw [written]
    exact blank d inText

theorem escapeChars_dropWhile (cs : List Char) :
    (escapeChars cs).dropWhile isSpace = escapeChars (cs.dropWhile isSpace) := by
  induction cs with
  | nil => rfl
  | cons c rest inductionHypothesis =>
      simp only [escapeChars, List.flatMap_cons] at inductionHypothesis ⊢
      by_cases space : isSpace c = true
      · rw [escapeTextChar_of_space space, List.singleton_append,
          List.dropWhile_cons_of_pos space, List.dropWhile_cons_of_pos space,
          inductionHypothesis]
      · obtain ⟨first, tail, written, visible⟩ :=
          escapeTextChar_of_visible (eq_false_of_ne_true space)
        have notSpace : ¬ isSpace first = true := by
          rw [visible first (by rw [written]; exact List.mem_cons_self)]
          exact Bool.false_ne_true
        rw [List.dropWhile_cons_of_neg space, List.flatMap_cons, written, List.cons_append,
          List.dropWhile_cons_of_neg notSpace]

theorem escapeChars_trimEnd (cs : List Char) :
    trimEnd (escapeChars cs) = escapeChars (trimEnd cs) := by
  induction cs with
  | nil => rfl
  | cons c rest inductionHypothesis =>
      have split : escapeChars (c :: rest) = escapeTextChar c ++ escapeChars rest := rfl
      have atEnd : trimEnd (escapeTextChar c) = if isSpace c then [] else escapeTextChar c := by
        by_cases space : isSpace c = true
        · rw [if_pos space, trimEnd_eq_nil_iff, escapeTextChar_of_space space]
          simpa using space
        · obtain ⟨first, tail, written, visible⟩ :=
            escapeTextChar_of_visible (eq_false_of_ne_true space)
          rw [if_neg space, trimEnd_eq_rdropWhile, List.rdropWhile_eq_self_iff]
          intro filled
          rw [visible _ (List.getLast_mem filled)]
          exact Bool.false_ne_true
      have blankTogether : trimEnd (escapeChars rest) = [] ↔ trimEnd rest = [] := by
        rw [trimEnd_eq_nil_iff, trimEnd_eq_nil_iff, escapeChars_blank_iff]
      rw [split, trimEnd_append, trimEnd, atEnd]
      cases last : trimEnd rest with
      | nil =>
          rw [if_pos (blankTogether.mpr last)]
          split <;> simp [escapeChars]
      | cons d others =>
          rw [if_neg (by rw [blankTogether, last]; exact List.cons_ne_nil d others),
            inductionHypothesis, last]
          rfl

theorem collapseFrom_visible {cs : List Char} (visible : ∀ c ∈ cs, isSpace c = false)
    (filled : cs ≠ []) (inRun : Bool) (rest : List Char) :
    collapseFrom inRun (cs ++ rest) = cs ++ collapseFrom false rest := by
  induction cs generalizing inRun with
  | nil => exact absurd rfl filled
  | cons c others inductionHypothesis =>
      obtain ⟨here, there⟩ := List.forall_mem_cons.mp visible
      rw [List.cons_append, collapseFrom, here, if_neg Bool.false_ne_true, List.cons_append]
      cases others with
      | nil => rfl
      | cons d more => rw [inductionHypothesis there (List.cons_ne_nil d more)]

theorem escapeChars_collapseFrom (inRun : Bool) (cs : List Char) :
    collapseFrom inRun (escapeChars cs) = escapeChars (collapseFrom inRun cs) := by
  induction cs generalizing inRun with
  | nil => rfl
  | cons c rest inductionHypothesis =>
      have split : escapeChars (c :: rest) = escapeTextChar c ++ escapeChars rest := rfl
      rw [split, collapseFrom]
      by_cases space : isSpace c = true
      · rw [escapeTextChar_of_space space, List.singleton_append, collapseFrom, if_pos space,
          if_pos space]
        cases inRun with
        | true => exact inductionHypothesis true
        | false =>
            rw [if_neg Bool.false_ne_true, if_neg Bool.false_ne_true, inductionHypothesis]
            rfl
      · obtain ⟨first, tail, written, visible⟩ :=
          escapeTextChar_of_visible (eq_false_of_ne_true space)
        rw [collapseFrom_visible visible (by rw [written]; exact List.cons_ne_nil first tail),
          if_neg space, inductionHypothesis]
        rfl

theorem escapeChars_collapse (cs : List Char) :
    collapseChars (escapeChars cs) = escapeChars (collapseChars cs) :=
  escapeChars_collapseFrom false cs

end StaticSite.Markup
