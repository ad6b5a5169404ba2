/-
Module: StaticSite.Proofs.Layout.AuthoredIndent
Purpose: The indentation that an author uses: what a search through the whole text finds first is
  what the first indented line says when the text is read line by line.
Trusted boundary: none
Main exports:
  IndentedBy, IndentedBy.iff_takeWhile, Indent.ofRun, lineIndent?_eq_some_iff,
  firstIndent?_of_leftmost, firstIndent?_eq_none_iff, authoredRun?, indentByLines,
  detectIndent_eq_indentByLines
-/
import Mathlib.Data.List.TakeWhile
import StaticSite.Layout

namespace StaticSite

open Text

/-! ### Indented text -/

/-- A text begins with `run`, which is made of spaces and tabs and is not empty, and what stands
right behind it is visible. -/
structure IndentedBy (run text : List Char) : Prop where
  filled : run ≠ []
  blanks : ∀ c ∈ run, isIndentChar c = true
  visible : ∃ next rest, text = run ++ next :: rest ∧ isSpace next = false

/-- The indentation that a run of spaces and tabs stands for: a tab if it begins with one, and its
length otherwise. -/
def Indent.ofRun (run : List Char) : Indent :=
  if run.head? = some '\t' then .literal "\t" else .spaces run.length

variable {run text before after : List Char} {indent : Indent}

theorem isSpace_of_isIndentChar {c : Char} (blank : isIndentChar c = true) : isSpace c = true := by
  rw [isIndentChar, Bool.or_eq_true, beq_iff_eq, beq_iff_eq] at blank
  rcases blank with rfl | rfl <;> rfl

namespace IndentedBy

/-- The run is as long as it can be, since what is visible is neither a space nor a tab. -/
theorem iff_takeWhile :
    IndentedBy run text ↔ text.takeWhile isIndentChar = run ∧ run ≠ [] ∧
      ∃ next rest, text.dropWhile isIndentChar = next :: rest ∧ isSpace next = false := by
  constructor
  · rintro ⟨filled, blanks, next, rest, rfl, shown⟩
    have stops : ¬ isIndentChar next = true := by
      intro blank
      rw [isSpace_of_isIndentChar blank] at shown
      cases shown
    rw [List.takeWhile_append_of_pos blanks, List.dropWhile_append_of_pos blanks,
      List.takeWhile_cons_of_neg stops, List.dropWhile_cons_of_neg stops, List.append_nil]
    exact ⟨rfl, filled, next, rest, rfl, shown⟩
  · rintro ⟨rfl, filled, next, rest, stops, shown⟩
    refine ⟨filled, fun c member => List.mem_takeWhile_imp member, next, rest, ?_, shown⟩
    rw [← stops, List.takeWhile_append_dropWhile]

/-- Only what stands before the first line feed matters. -/
theorem firstLine_iff :
    IndentedBy run (text.takeWhile (· != '\n')) ↔ IndentedBy run text := by
  constructor
  · rintro ⟨filled, blanks, next, rest, shape, shown⟩
    refine ⟨filled, blanks, next, rest ++ text.dropWhile (· != '\n'), ?_, shown⟩
    calc text = text.takeWhile (· != '\n') ++ text.dropWhile (· != '\n') :=
          List.takeWhile_append_dropWhile.symm
      _ = run ++ next :: (rest ++ text.dropWhile (· != '\n')) := by rw [shape]; simp
  · rintro ⟨filled, blanks, next, rest, rfl, shown⟩
    have inLine : ∀ c ∈ run ++ [next], (c != '\n') = true := by
      intro c member
      rw [bne_iff_ne]
      rintro rfl
      rcases List.mem_append.mp member with inRun | last
      · exact absurd (blanks _ inRun) (by decide)
      · rw [← List.mem_singleton.mp last] at shown
        exact absurd shown (by decide)
    refine ⟨filled, blanks, next, rest.takeWhile (· != '\n'), ?_, shown⟩
    rw [List.append_cons, List.takeWhile_append_of_pos inLine, ← List.append_cons]

end IndentedBy

/-- A line has the indentation of the run that it is indented by. -/
theorem lineIndent?_eq_some_iff :
    lineIndent? text = some indent ↔ ∃ run, IndentedBy run text ∧ Indent.ofRun run = indent := by
  simp only [IndentedBy.iff_takeWhile, and_assoc, exists_eq_left']
  rw [lineIndent?]
  cases text.takeWhile isIndentChar with
  | nil => simp
  | cons first more =>
      cases text.dropWhile isIndentChar with
      | nil => simp
      | cons next rest =>
          by_cases space : isSpace next = true
          · simp [space]
          · by_cases tab : first = '\t' <;> simp [space, tab, Indent.ofRun]

theorem lineIndent?_eq_none_iff : lineIndent? text = none ↔ ∀ run, ¬ IndentedBy run text := by
  simp [Option.eq_none_iff_forall_ne_some, lineIndent?_eq_some_iff]

/-! ### Searching a text -/

theorem firstIndent?_cons (c : Char) (rest : List Char) :
    firstIndent? (c :: rest) =
      (if c = '\n' then lineIndent? rest else none).or (firstIndent? rest) := by
  rw [firstIndent?]
  split
  case isTrue => cases lineIndent? rest <;> rfl
  case isFalse => rfl

/-- The search fails if no line feed is followed by an indented text. -/
theorem firstIndent?_eq_none_iff :
    firstIndent? text = none ↔
      ∀ before after run, text = before ++ '\n' :: after → ¬ IndentedBy run after := by
  induction text with
  | nil => simp [firstIndent?]
  | cons c rest inductionHypothesis =>
      rw [firstIndent?_cons, Option.or_eq_none_iff, inductionHypothesis]
      constructor
      · rintro ⟨here, onwards⟩ (_ | ⟨first, before⟩) after run shape
        · obtain ⟨rfl, rfl⟩ := List.cons.inj shape
          exact lineIndent?_eq_none_iff.mp here run
        · exact onwards before after run (List.cons.inj shape).2
      · intro unmatched
        refine ⟨?_, fun before after run shape =>
          unmatched (c :: before) after run (congrArg (c :: ·) shape)⟩
        rw [ite_eq_right_iff, lineIndent?_eq_none_iff]
        exact fun lineFeed run => unmatched [] rest run (by rw [lineFeed]; rfl)

/-- The search stops at the leftmost line feed that an indented text follows.  It takes the
indentation of that text, which is indented by one run only. -/
theorem firstIndent?_of_leftmost (stands : text = before ++ '\n' :: after)
    (indented : IndentedBy run after)
    (leftmost : ∀ earlier later other, text = earlier ++ '\n' :: later → IndentedBy other later →
      before.length ≤ earlier.length) :
    firstIndent? text = some (.ofRun run) := by
  have found : lineIndent? after = some (.ofRun run) :=
    lineIndent?_eq_some_iff.mpr ⟨run, indented, rfl⟩
  induction before generalizing text with
  | nil => rw [stands, List.nil_append, firstIndent?_cons, if_pos rfl, found, Option.some_or]
  | cons c before inductionHypothesis =>
      have nothing : (if c = '\n' then lineIndent? (before ++ '\n' :: after) else none) = none := by
        -- An indented text right here would be further to the left.
        rw [ite_eq_right_iff, lineIndent?_eq_none_iff]
        intro lineFeed other here
        have first := leftmost [] _ other (by rw [stands, lineFeed]; rfl) here
        exact Nat.not_succ_le_zero _ first
      rw [stands, List.cons_append, firstIndent?_cons, nothing, Option.none_or]
      apply inductionHypothesis rfl
      intro earlier later other shape here
      apply Nat.le_of_succ_le_succ
      exact leftmost (c :: earlier) later other (stands.trans (congrArg (c :: ·) shape)) here

/-! ### Reading line by line -/

/-- The spaces and tabs that a line begins with, if there are any and a character that is not white
space follows them directly. -/
def authoredRun? (text : List Char) : Option (List Char) :=
  let run := text.takeWhile isIndentChar
  match text[run.length]? with
  | some next => if run = [] ∨ isSpace next then none else some run
  | none => none

/-- The indentation of the first line after the first line feed that has one, or `default`. -/
def indentByLines (source : String) (default : Indent) : Indent :=
  (((source.toList.splitOn '\n').tail.findSome? authoredRun?).map Indent.ofRun).getD default

/-- It is the run that the line is indented by. -/
theorem authoredRun?_eq_some_iff : authoredRun? text = some run ↔ IndentedBy run text := by
  have next : text[(text.takeWhile isIndentChar).length]? =
      (text.dropWhile isIndentChar).head? := by
    calc text[(text.takeWhile isIndentChar).length]?
        = (text.takeWhile isIndentChar ++ text.dropWhile isIndentChar)[
            (text.takeWhile isIndentChar).length]? := by rw [List.takeWhile_append_dropWhile]
      _ = (text.dropWhile isIndentChar)[0]? := by
          rw [List.getElem?_append_right (Nat.le_refl _), Nat.sub_self]
      _ = (text.dropWhile isIndentChar).head? := List.head?_eq_getElem?.symm
  rw [IndentedBy.iff_takeWhile, authoredRun?, next]
  cases text.dropWhile isIndentChar with
  | nil => simp
  | cons next rest =>
      by_cases space : isSpace next = true
      · simp [space]
      · simp only [List.head?_cons, space, Bool.false_eq_true, or_false,
          Option.ite_none_left_eq_some, Option.some_inj]
        constructor
        · rintro ⟨filled, rfl⟩
          exact ⟨rfl, filled, next, rest, rfl, by simpa using space⟩
        · rintro ⟨rfl, filled, -⟩
          exact ⟨filled, rfl⟩

/-- Of a text, a line is what stands before the line feed. -/
theorem lineIndent?_eq_map (text : List Char) :
    lineIndent? text = (authoredRun? (text.takeWhile (· != '\n'))).map Indent.ofRun := by
  apply Option.ext
  intro indent
  rw [lineIndent?_eq_some_iff, Option.map_eq_some_iff]
  simp only [authoredRun?_eq_some_iff, IndentedBy.firstLine_iff]

theorem splitOn_lineFeed (text : List Char) :
    text.splitOn '\n' = text.takeWhile (· != '\n') :: (text.splitOn '\n').tail := by
  induction text with
  | nil => rfl
  | cons c rest inductionHypothesis =>
      rw [List.splitOn_cons_eq_if_modifyHead]
      split
      case isTrue lineFeed => simp [beq_iff_eq.mp lineFeed]
      case isFalse other =>
        rw [inductionHypothesis, List.takeWhile_cons_of_pos (by simpa using other)]
        rfl

/-- Searching the text finds what reading its lines one after the other finds. -/
theorem firstIndent?_eq_findSome? (text : List Char) :
    firstIndent? text =
      ((text.splitOn '\n').tail.findSome? authoredRun?).map Indent.ofRun := by
  induction text with
  | nil => rfl
  | cons c rest inductionHypothesis =>
      rw [firstIndent?_cons, List.splitOn_cons_eq_if_modifyHead, inductionHypothesis]
      by_cases lineFeed : c = '\n'
      · rw [if_pos lineFeed, if_pos (beq_iff_eq.mpr lineFeed), List.tail_cons,
          splitOn_lineFeed rest, List.findSome?_cons, lineIndent?_eq_map, List.tail_cons]
        cases authoredRun? (rest.takeWhile (· != '\n')) <;> rfl
      · rw [if_neg lineFeed, if_neg (by simpa using lineFeed), List.tail_modifyHead,
          Option.none_or]

/-- The authored indentation of a source is that of its first indented line, not counting what
stands before the first line feed. -/
theorem detectIndent_eq_indentByLines (source : String) (default : Indent) :
    detectIndent source default = indentByLines source default := by
  rw [detectIndent, indentByLines, firstIndent?_eq_findSome?]

-- Blanks with a line end, a vertical tab or a no-break space behind them indent nothing.
example : detectIndent "  <ul>\n   \r\n \x0b<li>\n  \u00a0a\n \tb</ul>" .standard = .spaces 2 := by
  decide +kernel

end StaticSite
