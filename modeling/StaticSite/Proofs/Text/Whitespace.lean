/-
Module: StaticSite.Proofs.Text.Whitespace
Purpose: What trimming and collapsing keep of a text and what they drop, also when the text
  is trimmed in pieces, and which texts are collapsed alike.
Trusted boundary: none
Main exports:
  trimLeft, trimRight, trimmedOff, trimEnd_append, trimChars_decompose, filter_collapseChars,
  SameWords, Respelled
-/
import Mathlib.Data.List.DropRight
import StaticSite.Text.Whitespace

namespace StaticSite.Text

/-! ### Trimming -/

theorem trimEnd_eq_rdropWhile (cs : List Char) : trimEnd cs = cs.rdropWhile isSpace := by
  induction cs with
  | nil => rfl
  | cons c rest inductionHypothesis =>
      rw [trimEnd, inductionHypothesis, List.rdropWhile, List.rdropWhile, List.reverse_cons,
        List.dropWhile_append]
      cases rest.reverse.dropWhile isSpace with
      | nil => by_cases space : isSpace c = true <;> simp [List.dropWhile, space]
      | cons last others => cases eq : (last :: others).reverse <;> simp_all

theorem trimEnd_eq_nil_iff {cs : List Char} : trimEnd cs = [] ↔ ∀ c ∈ cs, isSpace c = true := by
  rw [trimEnd_eq_rdropWhile, List.rdropWhile_eq_nil_iff]

/-- The end of a text in two pieces is in the second one, unless that is blank. -/
theorem trimEnd_append (first second : List Char) :
    trimEnd (first ++ second) =
      if trimEnd second = [] then trimEnd first else first ++ trimEnd second := by
  simp only [trimEnd_eq_rdropWhile, List.rdropWhile, List.reverse_append, List.dropWhile_append,
    List.reverse_eq_nil_iff, List.isEmpty_iff]
  split
  · rfl
  · rw [List.reverse_append, List.reverse_reverse]

/-- The white space that trimming drops from a text. -/
def trimmedOff (cs : List Char) : List Char :=
  cs.takeWhile isSpace ++ (cs.dropWhile isSpace).rtakeWhile isSpace

theorem isSpace_of_trimmedOff {cs : List Char} {c : Char} (dropped : c ∈ trimmedOff cs) :
    isSpace c = true := by
  rcases List.mem_append.mp dropped with first | last
  · exact List.mem_takeWhile_imp first
  · exact List.mem_rtakeWhile_imp last

/-- A text is what trimming leaves of it, between the white space at its ends. -/
theorem trimChars_decompose (cs : List Char) :
    cs.takeWhile isSpace ++ (trimChars cs ++ (cs.dropWhile isSpace).rtakeWhile isSpace) = cs := by
  rw [trimChars, trimEnd_eq_rdropWhile, List.rdropWhile_append_rtakeWhile,
    List.takeWhile_append_dropWhile]

theorem trimChars_blank_append {blankStart : List Char}
    (blank : ∀ c ∈ blankStart, isSpace c = true) (rest : List Char) :
    trimChars (blankStart ++ rest) = trimChars rest := by
  rw [trimChars, List.dropWhile_append, List.dropWhile_eq_nil_iff.mpr blank]
  rfl

theorem trimChars_append_blank {blankEnd : List Char} (blank : ∀ c ∈ blankEnd, isSpace c = true)
    (rest : List Char) : trimChars (rest ++ blankEnd) = trimChars rest := by
  have gone := List.dropWhile_eq_nil_iff.mpr blank
  rw [trimChars, trimChars, List.dropWhile_append, gone]
  split
  case isTrue nothing =>
    rw [List.isEmpty_iff.mp nothing]
  case isFalse => rw [trimEnd_append, if_pos (trimEnd_eq_nil_iff.mpr blank)]

/-- Trimming a text sees how it starts only up to white space. -/
theorem trimChars_append_congr_left {first second : List Char}
    (same : first.dropWhile isSpace = second.dropWhile isSpace) (rest : List Char) :
    trimChars (first ++ rest) = trimChars (second ++ rest) := by
  rw [trimChars, trimChars, List.dropWhile_append, List.dropWhile_append, same]

/-- Trimming a text sees how it ends only up to white space. -/
theorem trimChars_append_congr_right {first second : List Char}
    (same : trimEnd first = trimEnd second) (start : List Char) :
    trimChars (start ++ first) = trimChars (start ++ second) := by
  have kept : ∀ cs : List Char, trimChars (start ++ cs) = trimChars (start ++ trimEnd cs) := by
    intro cs
    have whole : trimEnd cs ++ cs.rtakeWhile isSpace = cs := by
      rw [trimEnd_eq_rdropWhile, List.rdropWhile_append_rtakeWhile]
    calc trimChars (start ++ cs)
        = trimChars (start ++ trimEnd cs ++ cs.rtakeWhile isSpace) := by
          rw [List.append_assoc, whole]
      _ = trimChars (start ++ trimEnd cs) :=
          trimChars_append_blank (fun _ member => List.mem_rtakeWhile_imp member) _
  rw [kept first, kept second, same]

/-- A text without the white space it starts with. -/
def trimLeft (s : String) : String :=
  String.ofList (s.toList.dropWhile isSpace)

/-- A text without the white space it ends with. -/
def trimRight (s : String) : String :=
  String.ofList (trimEnd s.toList)

/-! ### Collapsing -/

/-- If spaces do not count, collapsing a text is as good as dropping its white space. -/
theorem filter_collapseFrom {counts : Char → Bool} (noSpace : counts ' ' = false) (inRun : Bool)
    (cs : List Char) :
    (collapseFrom inRun cs).filter counts = (cs.filter fun c => !isSpace c).filter counts := by
  induction cs generalizing inRun with
  | nil => rfl
  | cons c rest inductionHypothesis =>
      rw [collapseFrom]
      by_cases space : isSpace c = true
      · cases inRun <;> simp [space, noSpace, inductionHypothesis]
      · simp [space, List.filter_cons, inductionHypothesis]

theorem filter_collapseChars {counts : Char → Bool} (noSpace : counts ' ' = false)
    (cs : List Char) :
    (collapseChars cs).filter counts = (cs.filter fun c => !isSpace c).filter counts :=
  filter_collapseFrom noSpace false cs

/-- After white space more of it makes no difference. -/
theorem collapseFrom_blank {gap : List Char} (blank : ∀ c ∈ gap, isSpace c = true)
    (rest : List Char) : collapseFrom true (gap ++ rest) = collapseFrom true rest := by
  induction gap with
  | nil => rfl
  | cons c others inductionHypothesis =>
      obtain ⟨here, there⟩ := List.forall_mem_cons.mp blank
      rw [List.cons_append, collapseFrom, if_pos here, if_pos rfl, inductionHypothesis there]

/-- White space becomes one space, unless there was some before. -/
theorem collapseFrom_gap {gap : List Char} (filled : gap ≠ [])
    (blank : ∀ c ∈ gap, isSpace c = true) (inRun : Bool) (rest : List Char) :
    collapseFrom inRun (gap ++ rest) =
      if inRun then collapseFrom true rest else ' ' :: collapseFrom true rest := by
  cases gap with
  | nil => exact absurd rfl filled
  | cons c others =>
      obtain ⟨here, there⟩ := List.forall_mem_cons.mp blank
      rw [List.cons_append, collapseFrom, if_pos here, collapseFrom_blank there]

/-- White space that a text starts with is also what it starts with once it is collapsed. -/
theorem dropWhile_collapseFrom (inRun : Bool) (cs : List Char) :
    (collapseFrom inRun cs).dropWhile isSpace = collapseChars (cs.dropWhile isSpace) := by
  induction cs generalizing inRun with
  | nil => rfl
  | cons c rest inductionHypothesis =>
      by_cases space : isSpace c = true
      · rw [List.dropWhile_cons_of_pos space, collapseFrom, if_pos space]
        cases inRun with
        | true => exact inductionHypothesis true
        | false =>
            rw [if_neg Bool.false_ne_true, List.dropWhile_cons_of_pos (by decide)]
            exact inductionHypothesis true
      · rw [List.dropWhile_cons_of_neg space, collapseFrom, if_neg space,
          List.dropWhile_cons_of_neg space, collapseChars, collapseFrom, if_neg space]

/-- White space that is put at the end is at the end of the collapsed text too. -/
theorem collapseFrom_append_blank {blankEnd : List Char}
    (blank : ∀ c ∈ blankEnd, isSpace c = true) (inRun : Bool) (cs : List Char) :
    ∃ left, (∀ c ∈ left, isSpace c = true) ∧
      collapseFrom inRun (cs ++ blankEnd) = collapseFrom inRun cs ++ left := by
  induction cs generalizing inRun with
  | nil =>
      refine ⟨collapseFrom inRun blankEnd, ?_, rfl⟩
      cases blankEnd with
      | nil => exact List.forall_mem_nil _
      | cons c others =>
          have gap := collapseFrom_gap (List.cons_ne_nil c others) blank inRun []
          rw [List.append_nil] at gap
          rw [gap]
          cases inRun with
          | true => exact List.forall_mem_nil _
          | false => exact List.forall_mem_singleton.mpr rfl
  | cons c rest inductionHypothesis =>
      rw [List.cons_append, collapseFrom, collapseFrom]
      by_cases space : isSpace c = true
      · obtain ⟨left, blankLeft, same⟩ := inductionHypothesis true
        exact ⟨left, blankLeft, by cases inRun <;> simp [space, same]⟩
      · obtain ⟨left, blankLeft, same⟩ := inductionHypothesis false
        exact ⟨left, blankLeft, by simp [space, same]⟩

/-- White space that a text ends with is not seen once it is collapsed and trimmed. -/
theorem trimEnd_collapseChars_append {blankEnd : List Char}
    (blank : ∀ c ∈ blankEnd, isSpace c = true) (cs : List Char) :
    trimEnd (collapseChars (cs ++ blankEnd)) = trimEnd (collapseChars cs) := by
  obtain ⟨left, blankLeft, same⟩ := collapseFrom_append_blank blank false cs
  rw [collapseChars, same, trimEnd_append, if_pos (trimEnd_eq_nil_iff.mpr blankLeft)]
  rfl

/-! ### Words -/

/-- The second text is the first one with white space in place of white space: it comes at the same
places, and there is some wherever there was some. -/
inductive SameWords : List Char → List Char → Prop where
  | nil : SameWords [] []
  | visible {c : Char} {rest rest' : List Char} (notSpace : isSpace c = false)
      (others : SameWords rest rest') : SameWords (c :: rest) (c :: rest')
  | gap {gap gap' rest rest' : List Char} (filled : gap ≠ []) (filled' : gap' ≠ [])
      (blank : ∀ c ∈ gap, isSpace c = true) (blank' : ∀ c ∈ gap', isSpace c = true)
      (others : SameWords rest rest') : SameWords (gap ++ rest) (gap' ++ rest')

theorem SameWords.collapseFrom_eq {first second : List Char} (same : SameWords first second)
    (inRun : Bool) : collapseFrom inRun first = collapseFrom inRun second := by
  induction same generalizing inRun with
  | nil => rfl
  | visible notSpace _ inductionHypothesis =>
      simp only [collapseFrom, notSpace, Bool.false_eq_true, if_false, inductionHypothesis]
  | gap filled filled' blank blank' _ inductionHypothesis =>
      rw [collapseFrom_gap filled blank, collapseFrom_gap filled' blank', inductionHypothesis]

/-- Collapsing puts white space in place of white space.  The induction carries along what has
been read of a gap. -/
theorem sameWords_collapseChars (cs : List Char) : SameWords cs (collapseChars cs) := by
  suffices both : SameWords cs (collapseFrom false cs) ∧
      ∀ gap ≠ [], (∀ c ∈ gap, isSpace c = true) →
        SameWords (gap ++ cs) (' ' :: collapseFrom true cs) from both.1
  have space : ∀ c ∈ [' '], isSpace c = true := List.forall_mem_singleton.mpr rfl
  induction cs with
  | nil =>
      exact ⟨.nil, fun gap filled blank =>
        .gap filled (List.cons_ne_nil ' ' []) blank space .nil⟩
  | cons c rest inductionHypothesis =>
      obtain ⟨outside, inGap⟩ := inductionHypothesis
      by_cases isGap : isSpace c = true
      · simp only [collapseFrom, isGap, if_true, Bool.false_eq_true, if_false]
        refine ⟨inGap [c] (List.cons_ne_nil c []) (by simpa using isGap), ?_⟩
        intro gap filled blank
        have longer := inGap (gap ++ [c]) (List.append_ne_nil_of_left_ne_nil filled [c])
          (List.forall_mem_append.mpr ⟨blank, by simpa using isGap⟩)
        rwa [List.append_assoc, List.singleton_append] at longer
      · simp only [collapseFrom, isGap, Bool.false_eq_true, if_false]
        have visible : SameWords (c :: rest) (c :: collapseFrom false rest) :=
          .visible (eq_false_of_ne_true isGap) outside
        exact ⟨visible, fun gap filled blank =>
          .gap filled (List.cons_ne_nil ' ' []) blank space visible⟩

/-! ### Edits of white space -/

/-- The second text is the first one with white space collapsed or dropped at its ends. -/
inductive Respelled : (before after : String) → Prop where
  | same (text : String) : Respelled text text
  | collapse {before after : String} (earlier : Respelled before after) :
      Respelled before (collapse after)
  | trimLeft {before after : String} (earlier : Respelled before after) :
      Respelled before (trimLeft after)
  | trimRight {before after : String} (earlier : Respelled before after) :
      Respelled before (trimRight after)

theorem Respelled.trans {first second third : String} (earlier : Respelled first second)
    (later : Respelled second third) : Respelled first third := by
  induction later with
  | same => exact earlier
  | collapse _ inductionHypothesis => exact .collapse inductionHypothesis
  | trimLeft _ inductionHypothesis => exact .trimLeft inductionHypothesis
  | trimRight _ inductionHypothesis => exact .trimRight inductionHypothesis

theorem filter_dropWhile_isSpace (cs : List Char) :
    (cs.dropWhile isSpace).filter (fun c => !isSpace c) = cs.filter fun c => !isSpace c := by
  have first : (cs.takeWhile isSpace).filter (fun c => !isSpace c) = [] := by
    rw [List.filter_eq_nil_iff]
    intro c member
    simp [List.mem_takeWhile_imp member]
  calc (cs.dropWhile isSpace).filter (fun c => !isSpace c)
      = (cs.takeWhile isSpace ++ cs.dropWhile isSpace).filter fun c => !isSpace c := by
        rw [List.filter_append, first, List.nil_append]
    _ = cs.filter fun c => !isSpace c := by rw [List.takeWhile_append_dropWhile]

theorem filter_trimEnd_isSpace (cs : List Char) :
    (trimEnd cs).filter (fun c => !isSpace c) = cs.filter fun c => !isSpace c := by
  rw [trimEnd_eq_rdropWhile, List.rdropWhile, List.filter_reverse, filter_dropWhile_isSpace,
    List.filter_reverse, List.reverse_reverse]

/-- Edits of white space keep all other characters. -/
theorem Respelled.filter_eq {before after : String} (edited : Respelled before after) :
    after.toList.filter (fun c => !isSpace c) = before.toList.filter fun c => !isSpace c := by
  induction edited with
  | same => rfl
  | collapse _ inductionHypothesis =>
      rw [Text.collapse, String.toList_ofList, filter_collapseChars (by decide),
        inductionHypothesis, List.filter_filter]
      simp
  | trimLeft _ inductionHypothesis =>
      rw [Text.trimLeft, String.toList_ofList, filter_dropWhile_isSpace, inductionHypothesis]
  | trimRight _ inductionHypothesis =>
      rw [Text.trimRight, String.toList_ofList, filter_trimEnd_isSpace, inductionHypothesis]

theorem isBlank_iff_filter {s : String} :
    isBlank s = true ↔ s.toList.filter (fun c => !isSpace c) = [] := by
  simp [isBlank]

/-- A text that is blank after edits of white space has been blank before. -/
theorem Respelled.isBlank_eq {before after : String} (edited : Respelled before after) :
    isBlank after = isBlank before := by
  rw [Bool.eq_iff_iff, isBlank_iff_filter, isBlank_iff_filter, edited.filter_eq]

end StaticSite.Text
