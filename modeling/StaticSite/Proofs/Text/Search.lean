/-
Module: StaticSite.Proofs.Text.Search
Purpose: How strings begin and end, what splitting at a character gives, and what a joined string
  holds.
Trusted boundary: none
Main exports:
  dropStart?_eq_some_iff, endsWith_iff, removeEnd_append, splitOnChar_of_not_mem,
  separator_not_mem_piece, splitOnChar_append, not_mem_joinWith
-/
import Mathlib.Data.String.Basic
import StaticSite.Text.Search

namespace StaticSite.Text

/-! ### Beginnings and endings -/

theorem dropStart?_eq_some_iff {start cs rest : List Char} :
    dropStart? start cs = some rest ↔ cs = start ++ rest := by
  induction start generalizing cs with
  | nil => simp [dropStart?]
  | cons p start inductionHypothesis =>
      cases cs with
      | nil => simp [dropStart?]
      | cons c cs =>
          rw [dropStart?, List.cons_append, List.cons.injEq]
          split
          case isTrue same => rw [inductionHypothesis, and_iff_right same.symm]
          case isFalse other => exact iff_of_false (by simp) fun same => other same.1.symm

theorem endsWith_iff {s last : String} : endsWith s last = true ↔ ∃ start, s = start ++ last := by
  rw [endsWith, Option.isSome_iff_exists]
  simp only [dropStart?_eq_some_iff]
  constructor
  · rintro ⟨rest, shape⟩
    refine ⟨String.ofList rest.reverse, String.toList_injective ?_⟩
    rw [String.toList_append, String.toList_ofList]
    simpa using congrArg List.reverse shape
  · rintro ⟨start, rfl⟩
    exact ⟨start.toList.reverse, by rw [String.toList_append, List.reverse_append]⟩

theorem removeEnd_append (s last : String) : removeEnd (s ++ last) last = s := by
  rw [removeEnd, String.toList_append, List.reverse_append, dropStart?_eq_some_iff.mpr rfl]
  exact (congrArg String.ofList (List.reverse_reverse s.toList)).trans String.ofList_toList

/-! ### Splitting -/

theorem splitOnChar_of_not_mem {separator : Char} {cs : List Char} (free : separator ∉ cs) :
    splitOnChar separator cs = [cs] := by
  induction cs with
  | nil => rfl
  | cons c cs inductionHypothesis =>
      rw [List.mem_cons, not_or] at free
      rw [splitOnChar, if_neg (Ne.symm free.1), inductionHypothesis free.2]

theorem separator_not_mem_piece {separator : Char} {cs piece : List Char}
    (split : piece ∈ splitOnChar separator cs) : separator ∉ piece := by
  induction cs generalizing piece with
  | nil => simp [List.mem_singleton.mp split]
  | cons c cs inductionHypothesis =>
      rw [splitOnChar] at split
      split at split
      case isTrue =>
        rcases List.mem_cons.mp split with rfl | later
        · simp
        · exact inductionHypothesis later
      case isFalse apart =>
        cases pieces : splitOnChar separator cs with
        | nil =>
            rw [pieces] at split
            simp [List.mem_singleton.mp split, Ne.symm apart]
        | cons first rest =>
            rw [pieces] at split inductionHypothesis
            rcases List.mem_cons.mp split with rfl | later
            · rw [List.mem_cons, not_or]
              exact ⟨Ne.symm apart, inductionHypothesis List.mem_cons_self⟩
            · exact inductionHypothesis (List.mem_cons_of_mem _ later)

/-- What is put at the end without a separator goes to the last piece. -/
theorem splitOnChar_append (separator : Char) (head : List Char) :
    ∃ pieces last, splitOnChar separator head = pieces ++ [last] ∧
      ∀ tail, separator ∉ tail →
        splitOnChar separator (head ++ tail) = pieces ++ [last ++ tail] := by
  induction head with
  | nil => exact ⟨[], [], rfl, fun tail free => splitOnChar_of_not_mem free⟩
  | cons c head inductionHypothesis =>
      obtain ⟨pieces, last, split, extended⟩ := inductionHypothesis
      by_cases here : c = separator
      · refine ⟨[] :: pieces, last, ?_, fun tail free => ?_⟩
        · rw [splitOnChar, if_pos here, split, List.cons_append]
        · rw [List.cons_append, splitOnChar, if_pos here, extended tail free, List.cons_append]
      · cases pieces with
        | nil =>
            refine ⟨[], c :: last, ?_, fun tail free => ?_⟩
            · simp [splitOnChar, here, split]
            · simp [splitOnChar, here, extended tail free]
        | cons piece pieces =>
            refine ⟨(c :: piece) :: pieces, last, ?_, fun tail free => ?_⟩
            · simp [splitOnChar, here, split]
            · simp [splitOnChar, here, extended tail free]

/-- What is in no piece and not between the pieces is not in the joined string. -/
theorem not_mem_joinWith {separator : String} {c : Char} {pieces : List String}
    (between : c ∉ separator.toList) (free : ∀ piece ∈ pieces, c ∉ piece.toList) :
    c ∉ (joinWith separator pieces).toList := by
  induction pieces with
  | nil => exact List.not_mem_nil
  | cons first rest inductionHypothesis =>
      have later := inductionHypothesis fun piece member =>
        free piece (List.mem_cons_of_mem _ member)
      have here := free first List.mem_cons_self
      cases rest with
      | nil => exact here
      | cons second rest =>
          rw [joinWith]
          · simp only [String.toList_append, List.mem_append, not_or]
            exact ⟨⟨here, between⟩, later⟩
          · exact List.cons_ne_nil _ _

end StaticSite.Text
