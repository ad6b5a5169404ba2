/-
Module: StaticSite.Proofs.Text.LowerCase
Purpose: Lower-casing is done once: a string in lower case stays as it is, and no sign of ASCII
  and no white space comes up in it.
Trusted boundary: none
Main exports:
  CaseRun.target, CaseRun.apart, caseRuns_checked, lowerChar_of_mem, mem_lowerFrom,
  toLower_ne_empty, toLower_toLower
-/
import StaticSite.Text.Case
import StaticSite.Text.Whitespace

namespace StaticSite.Text

variable {c d : Char} {cs before : List Char} {run other : CaseRun} {n : Nat}

/-! ### Letters of ASCII -/

/-- What holds of the characters of ASCII can be checked one by one. -/
theorem forall_ascii (holds : Char → Prop) (all : ∀ n < 128, holds (Char.ofNat n))
    (small : c.toNat < 128) : holds c := by
  have here := all c.toNat small
  rwa [Char.ofNat_toNat] at here

theorem toLower_ascii (small : c.toNat < 128) : c.toLower.toNat < 128 ∧
    c.toLower.toLower = c.toLower ∧
      (c.toLower = c ∨ 64 ≤ c.toLower.toNat ∧ isSpace c.toLower = false) :=
  forall_ascii (fun c => c.toLower.toNat < 128 ∧ c.toLower.toLower = c.toLower ∧
    (c.toLower = c ∨ 64 ≤ c.toLower.toNat ∧ isSpace c.toLower = false)) (by decide) small

/-! ### Letters that are mapped by runs -/

/-- The code point of the lower-case letter. -/
def CaseRun.target (run : CaseRun) (n : Nat) : Nat :=
  ((n : Int) + run.shift).toNat

/-- The run maps no letter to one that the other run maps. -/
def CaseRun.apart (run other : CaseRun) : Bool :=
  Nat.blt (run.target run.last) other.first || Nat.blt other.last (run.target run.first) ||
    ((run.step % other.step == 0 || run.first == run.last) &&
      (run.target run.first - other.first) % other.step != 0)

/-- The letter that becomes two characters, as a run. -/
def dottedRun : CaseRun :=
  ⟨0x130, 0x130, 1, 0⟩

/-- The white space beyond ASCII. -/
def spacesBeyond : List Nat :=
  [ 0x85, 0xA0, 0x1680, 0x2000, 0x2001, 0x2002, 0x2003, 0x2004, 0x2005, 0x2006, 0x2007, 0x2008,
    0x2009, 0x200A, 0x2028, 0x2029, 0x202F, 0x205F, 0x3000 ]

theorem code_of_isSpace (space : isSpace c = true) : c.toNat ≤ 32 ∨ c.toNat ∈ spacesBeyond := by
  simp only [isSpace, Bool.or_eq_true, Bool.and_eq_true, decide_eq_true_eq, beq_iff_eq] at space
  simp only [spacesBeyond, List.mem_cons, List.not_mem_nil, or_false]
  omega

/-- The characters that take the place of a letter outside of the runs. -/
def standIns : List Nat :=
  [0x307, 0x3C2, 0x3C3]

/-- The table is checked as a whole: no letter is mapped to one that is mapped again, letters are
mapped to characters behind the capital letters of ASCII, those that a run maps to reach over no
white space, and no run maps what else can take the place of a letter. -/
theorem caseRuns_checked : ∀ run ∈ caseRuns,
    (dottedRun :: caseRuns).all run.apart = true ∧
      91 ≤ (run.first : Int) + run.shift ∧
      ((run.last : Int) + run.shift < 0xD800 ∨
        0xDFFF < (run.first : Int) + run.shift ∧ (run.last : Int) + run.shift < 0x110000) ∧
      (∀ space ∈ spacesBeyond,
        run.target run.last < space ∨ space < run.target run.first) ∧
      ∀ n ∈ standIns, run.covers n = false := by
  decide +kernel

theorem CaseRun.covers_iff : run.covers n = true ↔
    run.first ≤ n ∧ n ≤ run.last ∧ run.step ∣ n - run.first := by
  simp [covers, Nat.dvd_iff_mod_eq_zero, and_assoc]

/-- The letters from the first one to the last one of a run keep their distances. -/
theorem CaseRun.target_eq (listed : run ∈ caseRuns) (covers : run.covers n = true) :
    run.target n = run.target run.first + (n - run.first) ∧
      run.target n + (run.last - n) = run.target run.last := by
  obtain ⟨-, behind, -⟩ := caseRuns_checked run listed
  obtain ⟨low, high, -⟩ := covers_iff.mp covers
  unfold target
  omega

theorem CaseRun.target_valid (listed : run ∈ caseRuns) (covers : run.covers n = true) :
    91 ≤ run.target n ∧ (run.target n).isValidChar := by
  obtain ⟨-, behind, valid, -⟩ := caseRuns_checked run listed
  obtain ⟨low, high, -⟩ := covers_iff.mp covers
  unfold target Nat.isValidChar
  omega

theorem CaseRun.not_isSpace_target (listed : run ∈ caseRuns) (covers : run.covers n = true)
    (code : d.toNat = run.target n) : isSpace d = false := by
  rw [← Bool.not_eq_true]
  intro space
  obtain ⟨fromFirst, toLast⟩ := target_eq listed covers
  have beyond := (target_valid listed covers).1
  rcases code_of_isSpace space with ascii | isBeyond
  · omega
  · obtain ⟨-, -, -, visible, -⟩ := caseRuns_checked run listed
    have apart := visible d.toNat isBeyond
    omega

theorem CaseRun.not_covers_target (listed : run ∈ caseRuns)
    (otherListed : other ∈ dottedRun :: caseRuns) (covers : run.covers n = true) :
    other.covers (run.target n) = false := by
  have apart : run.apart other = true :=
    List.all_eq_true.mp (caseRuns_checked run listed).1 other otherListed
  obtain ⟨fromFirst, toLast⟩ := target_eq listed covers
  obtain ⟨low, high, whole⟩ := covers_iff.mp covers
  rw [← Bool.not_eq_true, covers_iff]
  rintro ⟨otherLow, otherHigh, otherWhole⟩
  simp only [CaseRun.apart, Bool.or_eq_true, Bool.and_eq_true, Nat.blt_eq, beq_iff_eq,
    bne_iff_ne] at apart
  rcases apart with (before | behind) | ⟨steps, between⟩
  · omega
  · omega
  · -- both letters are whole steps of the other run away from its first one, unless the run is
    -- of one letter
    have further : other.step ∣ n - run.first := by
      rcases steps with multiple | single
      · exact Nat.dvd_trans (Nat.dvd_of_mod_eq_zero multiple) whole
      · have same : n - run.first = 0 := by omega
        exact same ▸ Nat.dvd_zero _
    have positive : run.target run.first - other.first ≠ 0 := by
      intro none
      rw [none, Nat.zero_mod] at between
      exact between rfl
    have sum : run.target n - other.first =
        (run.target run.first - other.first) + (n - run.first) := by omega
    rw [sum] at otherWhole
    exact between (Nat.mod_eq_zero_of_dvd ((Nat.dvd_add_iff_left further).mpr otherWhole))

/-! ### Characters -/

theorem toNat_ofNat (valid : n.isValidChar) : (Char.ofNat n).toNat = n := by
  rw [Char.ofNat, dif_pos valid]
  rfl

theorem toLower_of_beyond (beyond : 91 ≤ c.toNat) : c.toLower = c := by
  delta Char.toLower
  exact dif_neg fun upper => absurd (show c.toNat ≤ 90 from upper.2) (by omega)

/-- A character that no run maps stays as it is, behind the capital letters of ASCII. -/
theorem lowerChar_of_not_covers (beyond : 91 ≤ c.toNat)
    (free : ∀ run ∈ dottedRun :: caseRuns, run.covers c.toNat = false) : lowerChar c = [c] := by
  obtain ⟨notDotted, others⟩ := List.forall_mem_cons.mp free
  have none : caseRuns.find? (fun run => run.covers c.toNat) = none := by simpa using others
  rw [lowerChar, toLower_of_beyond beyond, none]
  split
  · rfl
  · refine if_neg fun dotted => ?_
    rw [dotted] at notDotted
    cases notDotted

theorem lowerChar_standIn (listed : n ∈ standIns) : lowerChar (Char.ofNat n) = [Char.ofNat n] := by
  have beyond : 91 ≤ (Char.ofNat n).toNat ∧ (Char.ofNat n).toNat = n ∧
      dottedRun.covers n = false := by
    simp only [standIns, List.mem_cons, List.not_mem_nil, or_false] at listed
    rcases listed with rfl | rfl | rfl <;> decide
  refine lowerChar_of_not_covers beyond.1 ?_
  rw [beyond.2.1]
  refine List.forall_mem_cons.mpr ⟨beyond.2.2, fun run member => ?_⟩
  exact (caseRuns_checked run member).2.2.2.2 n listed

/-- A letter of a run is not its own lower case. -/
theorem lowerChar_ne_of_covers (listed : run ∈ caseRuns) (covers : run.covers c.toNat = true)
    (large : 128 ≤ c.toNat) (other : c.toNat ≠ 0x130) : lowerChar c ≠ [c] := by
  intro still
  cases found : caseRuns.find? (fun run => run.covers c.toNat) with
  | none => exact absurd covers (List.find?_eq_none.mp found run listed)
  | some first =>
      have firstListed := List.mem_of_find?_eq_some found
      have firstCovers : first.covers c.toNat = true := by simpa using List.find?_some found
      rw [lowerChar, if_neg (by omega), if_neg other, found] at still
      have code : c.toNat = first.target c.toNat := by
        have valid := (CaseRun.target_valid firstListed firstCovers).2
        rw [← toNat_ofNat valid]
        exact congrArg Char.toNat (List.singleton_inj.mp still).symm
      have notAgain := CaseRun.not_covers_target firstListed
        (List.mem_cons_of_mem dottedRun firstListed) firstCovers
      rw [← code, firstCovers] at notAgain
      cases notAgain

/-- What a character becomes is in lower case, and no sign of ASCII and no white space unless it
was there before. -/
theorem lowerChar_of_mem (member : d ∈ lowerChar c) :
    lowerChar d = [d] ∧ (d = c ∨ 64 ≤ d.toNat ∧ isSpace d = false) := by
  by_cases small : c.toNat < 128
  case pos =>
    rw [lowerChar, if_pos small, List.mem_singleton] at member
    obtain ⟨still, lower, origin⟩ := toLower_ascii small
    rw [← member] at still lower origin
    exact ⟨by rw [lowerChar, if_pos still, lower], origin⟩
  case neg =>
    by_cases dotted : c.toNat = 0x130
    case pos =>
      rw [lowerChar, if_neg small, if_pos dotted, List.mem_cons, List.mem_singleton] at member
      rcases member with rfl | rfl
      · exact ⟨by decide, .inr (by decide)⟩
      · exact ⟨lowerChar_standIn (by decide), .inr (by decide)⟩
    case neg =>
      cases found : caseRuns.find? (fun run => run.covers c.toNat) with
      | none =>
          have unchanged : lowerChar c = [c] := by
            rw [lowerChar, if_neg small, if_neg dotted, found]
          obtain rfl : d = c := by simpa [unchanged] using member
          exact ⟨unchanged, .inl rfl⟩
      | some run =>
          rw [lowerChar, if_neg small, if_neg dotted, found, List.mem_singleton] at member
          have listed := List.mem_of_find?_eq_some found
          have covers : run.covers c.toNat = true := by simpa using List.find?_some found
          obtain ⟨beyond, valid⟩ := CaseRun.target_valid listed covers
          have code : d.toNat = run.target c.toNat := member ▸ toNat_ofNat valid
          rw [← code] at beyond
          refine ⟨lowerChar_of_not_covers beyond fun other otherListed => ?_,
            .inr ⟨by omega, CaseRun.not_isSpace_target listed covers code⟩⟩
          rw [code]
          exact CaseRun.not_covers_target listed otherListed covers

theorem lowerChar_ne_nil (c : Char) : lowerChar c ≠ [] := by
  rw [lowerChar]
  split
  · simp
  · split
    · simp
    · split <;> simp

/-! ### Strings -/

theorem lowerFrom_ne_nil : lowerFrom before (c :: cs) ≠ [] := by
  rw [lowerFrom]
  intro empty
  have here := (List.append_eq_nil_iff.mp empty).1
  split at here
  · split at here <;> cases here
  · exact lowerChar_ne_nil c here

theorem mem_lowerFrom (member : d ∈ lowerFrom before cs) :
    lowerChar d = [d] ∧ (d ∈ cs ∨ 64 ≤ d.toNat ∧ isSpace d = false) := by
  induction cs generalizing before with
  | nil => cases member
  | cons c cs inductionHypothesis =>
      rw [lowerFrom, List.mem_append] at member
      rcases member with here | later
      · split at here
        case isTrue =>
          have sigma : d = Char.ofNat 0x3C2 ∨ d = Char.ofNat 0x3C3 := by
            split at here
            · exact .inl (List.mem_singleton.mp here)
            · exact .inr (List.mem_singleton.mp here)
          rcases sigma with rfl | rfl
          · exact ⟨lowerChar_standIn (by decide), .inr (by decide)⟩
          · exact ⟨lowerChar_standIn (by decide), .inr (by decide)⟩
        case isFalse =>
          obtain ⟨lower, origin⟩ := lowerChar_of_mem here
          rcases origin with rfl | beyond
          · exact ⟨lower, .inl List.mem_cons_self⟩
          · exact ⟨lower, .inr beyond⟩
      · obtain ⟨lower, origin⟩ := inductionHypothesis later
        exact ⟨lower, origin.imp_left (List.mem_cons_of_mem c)⟩

theorem lowerFrom_of_lower (lower : ∀ c ∈ cs, lowerChar c = [c]) : lowerFrom before cs = cs := by
  induction cs generalizing before with
  | nil => rfl
  | cons c cs inductionHypothesis =>
      obtain ⟨here, later⟩ := List.forall_mem_cons.mp lower
      have noSigma : c.toNat ≠ 0x3A3 := by
        intro sigma
        obtain rfl : c = Char.ofNat 0x3A3 := by rw [← sigma, Char.ofNat_toNat]
        obtain ⟨run, listed, covers⟩ :
            ∃ run ∈ caseRuns, run.covers (Char.ofNat 0x3A3).toNat = true :=
          List.any_eq_true.mp (by decide)
        exact lowerChar_ne_of_covers listed covers (by decide) (by decide) here
      rw [lowerFrom, if_neg noSigma, here, inductionHypothesis later]
      rfl

theorem toLower_ne_empty {s : String} (nonempty : s ≠ "") : toLower s ≠ "" := by
  obtain ⟨c, cs, characters⟩ : ∃ c cs, s.toList = c :: cs :=
    List.exists_cons_of_ne_nil (by simpa using nonempty)
  rw [toLower, characters]
  intro empty
  have none := congrArg String.toList empty
  rw [String.toList_ofList] at none
  exact lowerFrom_ne_nil none

/-- Lower-casing a second time changes nothing. -/
theorem toLower_toLower (s : String) : toLower (toLower s) = toLower s := by
  have lower : ∀ c ∈ lowerFrom [] s.toList, lowerChar c = [c] :=
    fun c member => (mem_lowerFrom member).1
  rw [toLower, toLower, String.toList_ofList, lowerFrom_of_lower lower]

end StaticSite.Text
