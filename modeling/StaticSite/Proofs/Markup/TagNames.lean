/-
Module: StaticSite.Proofs.Markup.TagNames
Purpose: Which names a start tag can have, and how an empty element of such a name is read.
Trusted boundary: none
Main exports:
  isTagName, isTagName_toLower, emptyElement, Step.ofStartTag_name, Step.ofEndTag_name,
  parse_emptyElement
-/
import StaticSite.Markup.Parse
import StaticSite.Proofs.Text.LowerCase

namespace StaticSite.Markup

open Text

/-- The name begins with a letter of ASCII, and no character in it ends the name of a tag. -/
def isTagName (name : String) : Bool :=
  match name.toList with
  | [] => false
  | first :: rest => first.isAlpha && rest.all isTagNameChar

/-- The markup of an empty element. -/
def emptyElement (name : String) : String :=
  "<" ++ name ++ "></" ++ name ++ ">"

variable {c first : Char} {cs rest after : List Char} {name : String}

/-! ### Characters of names -/

theorem isTagName_ofList : isTagName (String.ofList (first :: rest)) = true ↔
    first.isAlpha = true ∧ ∀ c ∈ rest, isTagNameChar c = true := by
  simp [isTagName]

theorem toNat_lt_of_isAlpha (letter : c.isAlpha = true) : c.toNat < 128 := by
  delta Char.isAlpha Char.isUpper Char.isLower at letter
  simp only [Bool.or_eq_true, Bool.and_eq_true, decide_eq_true_eq, ge_iff_le,
    UInt32.le_iff_toNat_le] at letter
  have code : c.toNat = c.val.toNat := rfl
  have lastCapital : 'Z'.val.toNat = 90 := rfl
  have lastSmall : 'z'.val.toNat = 122 := rfl
  omega

theorem lower_letter (letter : c.isAlpha = true) :
    c.toLower.isAlpha = true ∧ isTagNameChar c = true :=
  forall_ascii (fun c => c.isAlpha = true → c.toLower.isAlpha = true ∧ isTagNameChar c = true)
    (by decide) (toNat_lt_of_isAlpha letter) letter

theorem isTagNameChar_of_beyond (beyond : 64 ≤ c.toNat) : isTagNameChar c = true := by
  simp only [isTagNameChar, Bool.and_eq_true, bne_iff_ne]
  refine ⟨⟨⟨⟨⟨⟨⟨?_, ?_⟩, ?_⟩, ?_⟩, ?_⟩, ?_⟩, ?_⟩, ?_⟩ <;> rintro rfl <;>
    exact absurd beyond (by decide)

/-- The name of a start tag is one in lower case, too. -/
theorem isTagName_toLower (letter : first.isAlpha = true)
    (others : ∀ c ∈ rest, isTagNameChar c = true) :
    isTagName (toLower (String.ofList (first :: rest))) = true := by
  have small := toNat_lt_of_isAlpha letter
  have lower : lowerFrom [] (first :: rest) = first.toLower :: lowerFrom [first] rest := by
    rw [lowerFrom, if_neg (by omega), lowerChar, if_pos small]
    rfl
  rw [toLower, String.toList_ofList, lower, isTagName_ofList]
  refine ⟨(lower_letter letter).1, fun c member => ?_⟩
  rcases (mem_lowerFrom member).2 with old | beyond
  · exact others c old
  · exact isTagNameChar_of_beyond beyond.1

/-! ### Reading the tags of an empty element -/

theorem takeWhile_name (named : ∀ c ∈ cs, isTagNameChar c = true) :
    (cs ++ '>' :: after).takeWhile isTagNameChar = cs ∧
      (cs ++ '>' :: after).dropWhile isTagNameChar = '>' :: after := by
  have ends : isTagNameChar '>' = false := by decide
  rw [List.takeWhile_append_of_pos named, List.dropWhile_append_of_pos named]
  simp [ends]

theorem attributesFrom_end (fuel : Nat) (before : Char) :
    attributesFrom fuel before ('>' :: after) = ([], '>' :: after) := by
  cases fuel <;> simp [attributesFrom, attribute?]

theorem Step.ofStartTag_name (named : ∀ c ∈ cs, isTagNameChar c = true) :
    Step.ofStartTag (cs ++ '>' :: after) =
      .read [.startTag (toLower (String.ofList cs)) [] false]
        (rawAfter (toLower (String.ofList cs))) after := by
  have gap : skipGap ('>' :: after) = '>' :: after := rfl
  obtain ⟨isName, follows⟩ := @takeWhile_name cs after named
  unfold Step.ofStartTag
  simp only [isName, follows, gap, attributesFrom_end]

theorem Step.ofMarkup_of_letter (letter : first.isAlpha = true) :
    Step.ofMarkup (first :: rest) = Step.ofStartTag (first :: rest) := by
  unfold Step.ofMarkup
  split
  case h_5 same =>
    cases same
    exact if_pos letter
  all_goals simp_all

theorem splitAtFirst?_name (named : ∀ c ∈ cs, isTagNameChar c = true) :
    splitAtFirst? (· == '>') (cs ++ ['>']) = some (cs, []) := by
  induction cs with
  | nil => rfl
  | cons c cs inductionHypothesis =>
      obtain ⟨here, later⟩ := List.forall_mem_cons.mp named
      have inside : (c == '>') = false := by
        rw [beq_eq_false_iff_ne]
        rintro rfl
        cases here
      rw [List.cons_append, splitAtFirst?, inside, inductionHypothesis later]
      rfl

/-- What follows the end of an end tag is what follows the markup. -/
theorem eq_nil_of_suffix (named : ∀ c ∈ cs, isTagNameChar c = true)
    (suffix : '>' :: after <:+ cs ++ ['>']) : after = [] := by
  obtain ⟨front, same⟩ := suffix
  rcases List.eq_nil_or_concat after with none | ⟨inner, last, rfl⟩
  · exact none
  · rw [List.concat_eq_append, ← List.cons_append, ← List.append_assoc] at same
    have parts := (List.append_inj' same rfl).1
    have impossible := named '>' (parts ▸ List.mem_append_right front List.mem_cons_self)
    cases impossible

theorem endTag?_suffix {characters : List Char}
    (found : endTag? cs = some (characters, after)) : '>' :: after <:+ cs := by
  unfold endTag? at found
  simp only at found
  split at found
  case h_2 => cases found
  case h_1 =>
    split at found
    case isFalse => cases found
    case isTrue =>
      split at found
      case h_2 => cases found
      case h_1 left closes =>
        cases found
        rw [← closes]
        exact (List.dropWhile_suffix _).trans
          ((List.dropWhile_suffix _).trans (List.dropWhile_suffix _))

/-- The end of an end tag is the end of the markup, whatever is taken for its name. -/
theorem Step.ofEndTag_name (letter : first.isAlpha = true)
    (others : ∀ c ∈ rest, isTagNameChar c = true) :
    ∃ closing, Step.ofEndTag (first :: rest ++ ['>']) = .read [.endTag closing] none [] := by
  have named : ∀ c ∈ first :: rest, isTagNameChar c = true :=
    List.forall_mem_cons.mpr ⟨(lower_letter letter).2, others⟩
  unfold Step.ofEndTag
  rw [splitAtFirst?_name named]
  split
  case h_1 impossible => cases impossible
  case h_2 inside left split =>
    cases split
    split
    case h_1 characters after found =>
      obtain rfl := eq_nil_of_suffix named (endTag?_suffix found)
      exact ⟨_, rfl⟩
    case h_2 => exact ⟨_, if_pos letter⟩

/-! ### Reading an empty element -/

theorem tokensFrom_read {fuel : Nat} {pass : Pass} {raw : Option String}
    {read others : List Token} (step : Step.next pass (c :: cs) = .read read raw after)
    (onwards : tokensFrom fuel pass raw after = .ok others) :
    tokensFrom (fuel + 1) pass none (c :: cs) = .ok (read ++ others) := by
  unfold tokensFrom
  simp only [step, onwards]
  rfl

theorem tokens_emptyElement (named : isTagName name = true) (lower : toLower name = name)
    (notRaw : rawElements.contains name = false) :
    ∃ closing, tokens (emptyElement name) = .ok [.startTag name [] false, .endTag closing] := by
  obtain ⟨first, rest, characters⟩ : ∃ first rest, name.toList = first :: rest := by
    cases known : name.toList with
    | nil => simp [isTagName, known] at named
    | cons first rest => exact ⟨first, rest, rfl⟩
  have name_eq : String.ofList (first :: rest) = name := by rw [← characters, String.ofList_toList]
  obtain ⟨letter, others⟩ := isTagName_ofList.mp (name_eq ▸ named)
  have source : (emptyElement name).toList =
      '<' :: (first :: rest ++ '>' :: '<' :: '/' :: (first :: rest ++ ['>'])) := by
    simp [emptyElement, characters]
  have named : ∀ c ∈ first :: rest, isTagNameChar c = true :=
    List.forall_mem_cons.mpr ⟨(lower_letter letter).2, others⟩
  obtain ⟨closing, ends⟩ := Step.ofEndTag_name letter others
  refine ⟨closing, ?_⟩
  have second : Step.next .first ('<' :: '/' :: (first :: rest ++ ['>'])) =
      .read [.endTag closing] none [] := ends
  have initial : Step.next .first ('<' :: (first :: rest ++ '>' :: '<' :: '/' ::
      (first :: rest ++ ['>']))) =
        .read [.startTag name [] false] none ('<' :: '/' :: (first :: rest ++ ['>'])) := by
    refine (Step.ofMarkup_of_letter letter).trans ((Step.ofStartTag_name named).trans ?_)
    rw [name_eq, lower, rawAfter, notRaw]
    rfl
  rw [tokens, source]
  exact tokensFrom_read initial (tokensFrom_read second rfl)

theorem build_emptyElement (notVoid : isVoidElement name = false) (closing : String) :
    build [.startTag name [] false, .endTag closing] = [.element name [] []] := by
  have started : Builder.read {} (.startTag name [] false) = { opened := [⟨name, [], []⟩] } := by
    simp [Builder.read, Builder.readStartTag, Builder.flush, notVoid, Attributes.ofPairs]
  rw [build, List.foldl_cons, List.foldl_cons, List.foldl_nil, started]
  by_cases same : name = closing
  case pos =>
    -- the end tag closes the element
    have ended : Builder.read { opened := [⟨name, [], []⟩] } (.endTag closing) =
        { nodes := [.element name [] []] } := by
      simp [Builder.read, Builder.readEndTag, Builder.close, Builder.flush, Builder.closeThrough,
        Builder.add, same]
    rw [ended]
    rfl
  case neg =>
    -- the end of the markup closes the element
    have ignored : Builder.read { opened := [⟨name, [], []⟩] } (.endTag closing) =
        { opened := [⟨name, [], []⟩] } := by
      simp [Builder.read, Builder.readEndTag, Builder.close, Builder.flush, same]
    rw [ignored]
    rfl

/-- An empty element of a lower-case tag name is read as such. -/
theorem parse_emptyElement (named : isTagName name = true) (lower : toLower name = name)
    (notRaw : rawElements.contains name = false) (notVoid : isVoidElement name = false) :
    parse (emptyElement name) = .ok [.element name [] []] := by
  obtain ⟨closing, read⟩ := tokens_emptyElement named lower notRaw
  rw [parse, read, ← build_emptyElement notVoid closing]
  rfl

end StaticSite.Markup
