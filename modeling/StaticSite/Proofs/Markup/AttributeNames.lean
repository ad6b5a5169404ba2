/-
Module: StaticSite.Proofs.Markup.AttributeNames
Purpose: Which names the attributes of a start tag can have, and that an element has each of them
  once.
Trusted boundary: none
Main exports:
  isAttributeName, isAttributeName_toLower, attributesFrom_named, Attributes.WellNamed,
  Attributes.wellNamed_ofPairs
-/
import Mathlib.Data.List.Nodup
import Mathlib.Data.List.TakeWhile
import StaticSite.Markup.Token
import StaticSite.Proofs.Text.LowerCase

namespace StaticSite.Markup

open Text

/-- The name is not empty, no white space, slash or `>` is in it, and an equals sign can only be
its first character. -/
def isAttributeName (name : String) : Bool :=
  match name.toList with
  | [] => false
  | first :: rest =>
      !isSpace first && first != '/' && first != '>' && rest.all isAttributeNameChar

variable {c first before : Char} {cs rest : List Char} {fuel : Nat}

/-! ### Characters of names -/

theorem isAttributeName_ofList : isAttributeName (String.ofList (first :: rest)) = true ↔
    (isSpace first = false ∧ first ≠ '/' ∧ first ≠ '>') ∧
      ∀ c ∈ rest, isAttributeNameChar c = true := by
  simp [isAttributeName, and_assoc]

theorem exists_of_isAttributeName {name : String} (named : isAttributeName name = true) :
    ∃ first rest, name.toList = first :: rest ∧ ∀ c ∈ rest, isAttributeNameChar c = true := by
  cases characters : name.toList with
  | nil =>
      rw [isAttributeName, characters] at named
      cases named
  | cons first rest =>
      rw [← String.ofList_toList (s := name), characters, isAttributeName_ofList] at named
      exact ⟨first, rest, rfl, named.2⟩

theorem isAttributeNameChar_iff : isAttributeNameChar c = true ↔
    (isSpace c = false ∧ c ≠ '/' ∧ c ≠ '>') ∧ c ≠ '=' := by
  simp only [isAttributeNameChar, Bool.and_eq_true, Bool.not_eq_true', bne_iff_ne]
  constructor
  · rintro ⟨⟨⟨visible, noSlash⟩, noSign⟩, noEnd⟩
    exact ⟨⟨visible, noSlash, noEnd⟩, noSign⟩
  · rintro ⟨⟨visible, noSlash, noEnd⟩, noSign⟩
    exact ⟨⟨⟨visible, noSlash⟩, noSign⟩, noEnd⟩

theorem isAttributeNameChar_of_beyond (beyond : 64 ≤ c.toNat) (visible : isSpace c = false) :
    isAttributeNameChar c = true := by
  have sign : c ≠ '/' ∧ c ≠ '>' ∧ c ≠ '=' := by
    refine ⟨?_, ?_, ?_⟩ <;> rintro rfl <;> exact absurd beyond (by decide)
  exact isAttributeNameChar_iff.mpr ⟨⟨visible, sign.1, sign.2.1⟩, sign.2.2⟩

theorem isAttributeNameChar_of_mem_lowerFrom {past : List Char}
    (named : ∀ c ∈ cs, isAttributeNameChar c = true) (member : c ∈ lowerFrom past cs) :
    isAttributeNameChar c = true := by
  rcases (mem_lowerFrom member).2 with old | ⟨beyond, visible⟩
  · exact named c old
  · exact isAttributeNameChar_of_beyond beyond visible

/-- The name of an attribute is one in lower case, too. -/
theorem isAttributeName_toLower (named : isAttributeName (String.ofList (first :: rest)) = true) :
    isAttributeName (toLower (String.ofList (first :: rest))) = true := by
  obtain ⟨starts, others⟩ := isAttributeName_ofList.mp named
  rw [toLower, String.toList_ofList]
  by_cases sign : first = '='
  case pos =>
    -- a sign at the start is its own lower case
    subst sign
    have lower : lowerFrom [] ('=' :: rest) = '=' :: lowerFrom ['='] rest := rfl
    rw [lower, isAttributeName_ofList]
    exact ⟨starts, fun c member => isAttributeNameChar_of_mem_lowerFrom others member⟩
  case neg =>
    have all : ∀ c ∈ first :: rest, isAttributeNameChar c = true :=
      List.forall_mem_cons.mpr ⟨isAttributeNameChar_iff.mpr ⟨starts, sign⟩, others⟩
    obtain ⟨small, more, lower⟩ := List.exists_cons_of_ne_nil (@lowerFrom_ne_nil first rest [])
    have allLower : ∀ c ∈ small :: more, isAttributeNameChar c = true := fun c member =>
      isAttributeNameChar_of_mem_lowerFrom all (lower ▸ member)
    obtain ⟨here, later⟩ := List.forall_mem_cons.mp allLower
    rw [lower, isAttributeName_ofList]
    exact ⟨(isAttributeNameChar_iff.mp here).1, later⟩

/-! ### The attributes of a start tag -/

theorem attribute?_named {pair : String × String}
    (read : attribute? before cs = some (pair, rest)) : isAttributeName pair.1 = true := by
  unfold attribute? at read
  split at read
  case h_1 => cases read
  case h_2 c more =>
    split at read
    case isFalse => cases read
    case isTrue starts =>
      simp only [Bool.and_eq_true, Bool.not_eq_true', bne_iff_ne] at starts
      obtain ⟨⟨⟨-, visible⟩, noSlash⟩, noEnd⟩ := starts
      cases read
      exact isAttributeName_toLower (isAttributeName_ofList.mpr
        ⟨⟨visible, noSlash, noEnd⟩, fun c member => List.mem_takeWhile_imp member⟩)

/-- All attributes of a start tag are named.  The induction is on their number. -/
theorem attributesFrom_named :
    ∀ pair ∈ (attributesFrom fuel before cs).1, isAttributeName pair.1 = true := by
  induction fuel generalizing before cs with
  | zero => exact List.forall_mem_nil _
  | succ fuel inductionHypothesis =>
      rw [attributesFrom]
      split
      case h_1 => exact List.forall_mem_nil _
      case h_2 read => exact List.forall_mem_cons.mpr ⟨attribute?_named read, inductionHypothesis⟩

/-! ### The attributes of an element -/

namespace Attributes

variable {attributes : Attributes} {name value : String}

/-- Each name stands there once and is the name of an attribute. -/
structure WellNamed (attributes : Attributes) : Prop where
  distinct : (attributes.map Prod.fst).Nodup
  named : ∀ pair ∈ attributes, isAttributeName pair.1 = true

/-- Only a name that was not there is added to the names. -/
theorem names_insert_cases (attributes : Attributes) (name value : String) :
    (attributes.insert name value).map Prod.fst = attributes.map Prod.fst ∨
      name ∉ attributes.map Prod.fst ∧
        (attributes.insert name value).map Prod.fst = attributes.map Prod.fst ++ [name] := by
  induction attributes with
  | nil => exact .inr ⟨List.not_mem_nil, rfl⟩
  | cons pair rest inductionHypothesis =>
      rw [insert]
      split
      case isTrue => exact .inl rfl
      case isFalse different =>
        rcases inductionHypothesis with same | ⟨absent, added⟩
        · exact .inl (congrArg (pair.1 :: ·) same)
        · refine .inr ⟨?_, congrArg (pair.1 :: ·) added⟩
          exact List.not_mem_cons_of_ne_of_not_mem (Ne.symm different) absent

theorem wellNamed_iff : WellNamed attributes ↔ (attributes.map Prod.fst).Nodup ∧
    ∀ name ∈ attributes.map Prod.fst, isAttributeName name = true := by
  rw [List.forall_mem_map]
  exact ⟨fun ⟨distinct, named⟩ => ⟨distinct, named⟩, fun ⟨distinct, named⟩ => ⟨distinct, named⟩⟩

theorem WellNamed.insert (wellNamed : WellNamed attributes)
    (named : isAttributeName name = true) : WellNamed (attributes.insert name value) := by
  rw [wellNamed_iff] at wellNamed ⊢
  obtain ⟨distinct, namedAll⟩ := wellNamed
  rcases names_insert_cases attributes name value with same | ⟨absent, added⟩
  · rw [same]
    exact ⟨distinct, namedAll⟩
  · rw [added]
    have apart : ∀ known ∈ attributes.map Prod.fst, ∀ new ∈ [name], known ≠ new := by
      rintro known member new single rfl
      exact absent (List.mem_singleton.mp single ▸ member)
    exact ⟨List.nodup_append.mpr ⟨distinct, List.nodup_singleton name, apart⟩,
      List.forall_mem_append.mpr ⟨namedAll, List.forall_mem_singleton.mpr named⟩⟩

/-- An element has the attributes that its start tag names, each of them once. -/
theorem wellNamed_ofPairs {pairs : List (String × String)}
    (named : ∀ pair ∈ pairs, isAttributeName pair.1 = true) : WellNamed (ofPairs pairs) := by
  have onwards : ∀ known, WellNamed known →
      WellNamed (pairs.foldl (fun known pair => known.insert pair.1 pair.2) known) := by
    induction pairs with
    | nil => exact fun known wellNamed => wellNamed
    | cons pair rest inductionHypothesis =>
        obtain ⟨here, later⟩ := List.forall_mem_cons.mp named
        exact fun known wellNamed => inductionHypothesis later _ (wellNamed.insert here)
  exact onwards [] ⟨List.nodup_nil, List.forall_mem_nil _⟩

end Attributes

end StaticSite.Markup
