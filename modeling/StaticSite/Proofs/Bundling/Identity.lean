/-
Module: StaticSite.Proofs.Bundling.Identity
Purpose: When two scripts have one signature: the order of attributes is forgotten and nothing
  else, and the canonical form can be read back.
Trusted boundary: none
Main exports:
  sortBy_pairLe_eq_iff, Signature.WellNamed, Signature.canonical_injective, same_script_tfae
-/
import Mathlib.Data.Prod.Lex
import Mathlib.Tactic.TFAE
import StaticSite.Bundling.Signature
import StaticSite.Proofs.Files.Comparison
import StaticSite.Proofs.Markup.ElementNames

namespace StaticSite.Bundling

open Text Markup

/-! ### Sorted attributes -/

theorem pairLe_iff {one other : String × String} :
    pairLe one other = true ↔ toLex one ≤ toLex other := by
  rw [pairLe, Prod.Lex.toLex_le_toLex]
  split
  case isTrue same => simp [stringLe, same]
  case isFalse apart => simp [stringLe, apart, le_iff_lt_or_eq]

theorem pairwise_sortBy_pairLe (attributes : Attributes) :
    (sortBy pairLe attributes).Pairwise fun one other => pairLe one other = true := by
  have total : Std.Total fun one other : String × String => pairLe one other = true :=
    ⟨fun one other => by simpa only [pairLe_iff] using le_total (toLex one) (toLex other)⟩
  have transitive : IsTrans (String × String) fun one other => pairLe one other = true :=
    ⟨fun one other third => by simpa only [pairLe_iff] using le_trans⟩
  rw [sortBy_eq_insertionSort]
  exact List.pairwise_insertionSort _ _

/-- Sorted attributes are those of a set.  Names that stand there once make the pairs distinct. -/
theorem sortBy_pairLe_eq_iff {attributes others : Attributes}
    (distinct : (attributes.map Prod.fst).Nodup) (othersDistinct : (others.map Prod.fst).Nodup) :
    sortBy pairLe attributes = sortBy pairLe others ↔
      ∀ pair, pair ∈ attributes ↔ pair ∈ others := by
  constructor
  · intro same pair
    rw [← (sortBy_perm pairLe attributes).mem_iff, same, (sortBy_perm pairLe others).mem_iff]
  · intro alike
    have antisymmetric : Std.Antisymm fun one other : String × String =>
        pairLe one other = true := by
      refine ⟨fun one other before after => ?_⟩
      rw [pairLe_iff] at before after
      exact toLex.injective (le_antisymm before after)
    have members : attributes.Perm others :=
      (List.perm_ext_iff_of_nodup distinct.of_map othersDistinct.of_map).mpr alike
    have sorted : (sortBy pairLe attributes).Perm (sortBy pairLe others) :=
      ((sortBy_perm pairLe attributes).trans members).trans (sortBy_perm pairLe others).symm
    exact sorted.eq_of_pairwise' (pairwise_sortBy_pairLe attributes)
      (pairwise_sortBy_pairLe others)

/-! ### Reading up to a mark -/

variable {cs cs' rest rest' : List Char}

/-- What stands before the first character of a kind is determined, and so is what follows. -/
theorem eq_of_append_cons_eq {inside : Char → Bool} {mark mark' : Char}
    (within : ∀ c ∈ cs, inside c = true) (within' : ∀ c ∈ cs', inside c = true)
    (ends : inside mark = false) (ends' : inside mark' = false)
    (same : cs ++ mark :: rest = cs' ++ mark' :: rest') :
    cs = cs' ∧ mark = mark' ∧ rest = rest' := by
  induction cs generalizing cs' with
  | nil =>
      cases cs' with
      | nil => exact ⟨rfl, List.cons.inj same⟩
      | cons first more =>
          have atMark := within' first List.mem_cons_self
          rw [← (List.cons.inj same).1, ends] at atMark
          cases atMark
  | cons c cs inductionHypothesis =>
      obtain ⟨here, later⟩ := List.forall_mem_cons.mp within
      cases cs' with
      | nil =>
          rw [(List.cons.inj same).1, ends'] at here
          cases here
      | cons first more =>
          obtain ⟨rfl, onwards⟩ := List.cons.inj same
          obtain ⟨rfl, followed⟩ :=
            inductionHypothesis later (List.forall_mem_cons.mp within').2 onwards
          exact ⟨rfl, followed⟩

/-! ### Escaped values -/

namespace Signature

/-- The characters that are escaped in a canonical form, each with what is written for it. -/
def escapes : List (Char × List Char) :=
  [ ('&', "&amp;".toList), ('<', "&lt;".toList), ('>', "&gt;".toList), ('"', "&quot;".toList),
    ('\'', "&#x27;".toList) ]

/-- No escape is the start of another one. -/
theorem escapes_prefixFree : ∀ one ∈ escapes, ∀ other ∈ escapes,
    one.2 <+: other.2 → one.1 = other.1 := by
  decide

theorem escapes_marked : ∀ one ∈ escapes, one.2.head? = some '&' ∧ '"' ∉ one.2 := by
  decide

/-- A character is escaped, or it is no mark and stands for itself. -/
theorem escapeValueChar_cases (c : Char) :
    (c, escapeValueChar c) ∈ escapes ∨ escapeValueChar c = [c] ∧ c ≠ '&' ∧ c ≠ '"' := by
  unfold escapeValueChar
  split
  case isTrue isEscaped => exact .inl (by simp [isEscaped, escapes])
  case isFalse noAmpersand =>
    split
    case isTrue isEscaped => exact .inl (by simp [isEscaped, escapes])
    case isFalse =>
      split
      case isTrue isEscaped => exact .inl (by simp [isEscaped, escapes])
      case isFalse =>
        split
        case isTrue isEscaped => exact .inl (by simp [isEscaped, escapes])
        case isFalse noQuote =>
          split
          case isTrue isEscaped => exact .inl (by simp [isEscaped, escapes])
          case isFalse => exact .inr ⟨rfl, noAmpersand, noQuote⟩

theorem quote_not_mem_escapeValueChar (c : Char) : '"' ∉ escapeValueChar c := by
  rcases escapeValueChar_cases c with escaped | ⟨itself, -, noQuote⟩
  · exact (escapes_marked _ escaped).2
  · rw [itself, List.mem_singleton]
    exact Ne.symm noQuote

theorem head?_eq_of_start {start whole : List Char} {c : Char} (before : start <+: whole)
    (starts : start.head? = some c) : whole.head? = some c := by
  obtain ⟨more, rfl⟩ := before
  rw [List.head?_append, starts, Option.some_or]

/-- What is written for a character is not the start of what is written for another one. -/
theorem eq_of_escapeValueChar_start {c d : Char}
    (before : escapeValueChar c <+: escapeValueChar d) : c = d := by
  rcases escapeValueChar_cases c with escaped | ⟨itself, noMark, -⟩ <;>
    rcases escapeValueChar_cases d with otherEscaped | ⟨otherItself, otherNoMark, -⟩
  · exact escapes_prefixFree _ escaped _ otherEscaped before
  · have marked := head?_eq_of_start before (escapes_marked _ escaped).1
    rw [otherItself] at marked
    exact absurd (Option.some.inj marked) otherNoMark
  · have same := head?_eq_of_start before (congrArg List.head? itself)
    rw [(escapes_marked _ otherEscaped).1] at same
    exact absurd (Option.some.inj same).symm noMark
  · have same := head?_eq_of_start before (congrArg List.head? itself)
    rw [otherItself] at same
    exact (Option.some.inj same).symm

/-- The first character of a value can be told from its escaped text, whatever follows. -/
theorem escapeValueChar_append_inj {c d : Char}
    (same : escapeValueChar c ++ rest = escapeValueChar d ++ rest') : c = d ∧ rest = rest' := by
  have alike : c = d := by
    have otherStarts : escapeValueChar d <+: escapeValueChar c ++ rest :=
      same ▸ List.prefix_append _ _
    rcases List.prefix_or_prefix_of_prefix (List.prefix_append _ rest) otherStarts with
      before | after
    · exact eq_of_escapeValueChar_start before
    · exact (eq_of_escapeValueChar_start after).symm
  subst alike
  exact ⟨rfl, List.append_cancel_left same⟩

theorem escapeValueChar_ne_nil (c : Char) : escapeValueChar c ≠ [] := by
  rcases escapeValueChar_cases c with escaped | ⟨itself, -, -⟩
  · intro none
    have marked := (escapes_marked _ escaped).1
    rw [none] at marked
    cases marked
  · rw [itself]
    exact List.cons_ne_nil c []

/-- A value can be told from its escaped text. -/
theorem flatMap_escapeValueChar_inj
    (same : cs.flatMap escapeValueChar = cs'.flatMap escapeValueChar) : cs = cs' := by
  induction cs generalizing cs' with
  | nil =>
      cases cs' with
      | nil => rfl
      | cons d more =>
          rw [List.flatMap_cons, List.flatMap_nil, eq_comm, List.append_eq_nil_iff] at same
          exact absurd same.1 (escapeValueChar_ne_nil d)
  | cons c cs inductionHypothesis =>
      cases cs' with
      | nil =>
          rw [List.flatMap_cons, List.flatMap_nil, List.append_eq_nil_iff] at same
          exact absurd same.1 (escapeValueChar_ne_nil c)
      | cons d more =>
          obtain ⟨rfl, onwards⟩ := escapeValueChar_append_inj same
          rw [inductionHypothesis onwards]

/-! ### Reading a canonical form back -/

variable {attributes others : List (String × String)}

theorem toList_concat (parts : List String) :
    (concat parts).toList = parts.flatMap String.toList := by
  induction parts with
  | nil => rfl
  | cons part rest inductionHypothesis =>
      rw [concat, String.toList_append, inductionHypothesis, List.flatMap_cons]

/-- One attribute in a canonical form, as characters. -/
def attributeChars (pair : String × String) : List Char :=
  ' ' :: (pair.1.toList ++ '=' :: '"' :: (pair.2.toList.flatMap escapeValueChar ++ ['"']))

theorem toList_canonicalAttribute (pair : String × String) :
    (canonicalAttribute pair).toList = attributeChars pair := by
  simp [canonicalAttribute, attributeChars]

/-- The name of an attribute ends at the first equals sign behind its first character. -/
theorem attributeName_append_inj {name other : String} (named : isAttributeName name = true)
    (otherNamed : isAttributeName other = true)
    (same : name.toList ++ '=' :: rest = other.toList ++ '=' :: rest') :
    name = other ∧ rest = rest' := by
  obtain ⟨first, more, characters, inside⟩ := exists_of_isAttributeName named
  obtain ⟨first', more', characters', inside'⟩ := exists_of_isAttributeName otherNamed
  rw [characters, characters'] at same
  obtain ⟨rfl, onwards⟩ := List.cons.inj same
  obtain ⟨rfl, -, followed⟩ := eq_of_append_cons_eq inside inside' rfl rfl onwards
  exact ⟨String.toList_injective (characters.trans characters'.symm), followed⟩

/-- An attribute ends with the first quote behind the one that opens its value. -/
theorem attributeChars_append_inj {pair other : String × String}
    (named : isAttributeName pair.1 = true) (otherNamed : isAttributeName other.1 = true)
    (same : attributeChars pair ++ rest = attributeChars other ++ rest') :
    pair = other ∧ rest = rest' := by
  simp only [attributeChars, List.cons_append, List.append_assoc, List.nil_append] at same
  obtain ⟨sameName, values⟩ := attributeName_append_inj named otherNamed (List.cons.inj same).2
  have unquoted : ∀ value : List Char, ∀ c ∈ value.flatMap escapeValueChar, (c != '"') = true := by
    intro value c member
    obtain ⟨character, -, written⟩ := List.mem_flatMap.mp member
    rw [bne_iff_ne]
    rintro rfl
    exact quote_not_mem_escapeValueChar character written
  obtain ⟨sameValue, -, onwards⟩ := eq_of_append_cons_eq (unquoted pair.2.toList)
    (unquoted other.2.toList) rfl rfl (List.cons.inj values).2
  have sameText := String.toList_injective (flatMap_escapeValueChar_inj sameValue)
  exact ⟨Prod.ext sameName sameText, onwards⟩

/-- The attributes end where no space stands. -/
theorem attributes_append_inj (named : ∀ pair ∈ attributes, isAttributeName pair.1 = true)
    (othersNamed : ∀ pair ∈ others, isAttributeName pair.1 = true)
    (same : attributes.flatMap attributeChars ++ '>' :: rest =
      others.flatMap attributeChars ++ '>' :: rest') :
    attributes = others ∧ rest = rest' := by
  induction attributes generalizing others with
  | nil =>
      cases others with
      | nil => exact ⟨rfl, (List.cons.inj same).2⟩
      | cons other more => exact absurd (List.cons.inj same).1 (by decide)
  | cons pair attributes inductionHypothesis =>
      cases others with
      | nil => exact absurd (List.cons.inj same).1 (by decide)
      | cons other more =>
          obtain ⟨here, later⟩ := List.forall_mem_cons.mp named
          obtain ⟨otherHere, otherLater⟩ := List.forall_mem_cons.mp othersNamed
          simp only [List.flatMap_cons, List.append_assoc] at same
          obtain ⟨rfl, onwards⟩ := attributeChars_append_inj here otherHere same
          obtain ⟨rfl, followed⟩ := inductionHypothesis later otherLater onwards
          exact ⟨rfl, followed⟩

/-- The tag and its attributes have names that can be read in a start tag. -/
structure WellNamed (signature : Signature) : Prop where
  tag : isTagName signature.tag = true
  attributes : ∀ pair ∈ signature.attributes, isAttributeName pair.1 = true

variable {signature signature' : Signature}

theorem toList_canonical : signature.canonical.toList =
    '<' :: (signature.tag.toList ++ (signature.attributes.flatMap attributeChars ++
      '>' :: (signature.code.toList ++ '<' :: '/' :: (signature.tag.toList ++ ['>'])))) := by
  simp [canonical, toList_concat, List.flatMap_map, toList_canonicalAttribute]

theorem isTagNameChar_of_mem {name : String} (named : isTagName name = true) :
    ∀ c ∈ name.toList, isTagNameChar c = true := by
  cases characters : name.toList with
  | nil => exact List.forall_mem_nil _
  | cons first more =>
      rw [← String.ofList_toList (s := name), characters, isTagName_ofList] at named
      exact List.forall_mem_cons.mpr ⟨(lower_letter named.1).2, named.2⟩

/-- Behind the name of the tag there is the space before an attribute or the end of the tag. -/
theorem exists_attributes_append (attributes : List (String × String)) (rest : List Char) :
    ∃ mark more, attributes.flatMap attributeChars ++ '>' :: rest = mark :: more ∧
      isTagNameChar mark = false := by
  cases attributes with
  | nil => exact ⟨'>', rest, rfl, rfl⟩
  | cons pair attributes => exact ⟨' ', _, rfl, rfl⟩

/-- A signature can be read back from its canonical form, whatever the code is. -/
theorem canonical_injective (wellNamed : signature.WellNamed) (wellNamed' : signature'.WellNamed)
    (same : signature.canonical = signature'.canonical) : signature = signature' := by
  have characters := congrArg String.toList same
  rw [toList_canonical, toList_canonical] at characters
  obtain ⟨-, inside⟩ := List.cons.inj characters
  have tags : signature.tag = signature'.tag := by
    obtain ⟨mark, more, starts, ends⟩ := exists_attributes_append signature.attributes
      (signature.code.toList ++ '<' :: '/' :: (signature.tag.toList ++ ['>']))
    obtain ⟨mark', more', starts', ends'⟩ := exists_attributes_append signature'.attributes
      (signature'.code.toList ++ '<' :: '/' :: (signature'.tag.toList ++ ['>']))
    rw [starts, starts'] at inside
    exact String.toList_injective (eq_of_append_cons_eq (isTagNameChar_of_mem wellNamed.tag)
      (isTagNameChar_of_mem wellNamed'.tag) ends ends' inside).1
  rw [tags] at inside
  obtain ⟨attributes, content⟩ := attributes_append_inj wellNamed.attributes
    wellNamed'.attributes (List.append_cancel_left inside)
  have code := String.toList_injective (List.append_cancel_right content)
  cases signature
  cases signature'
  exact congr (congr (congrArg Signature.mk tags) attributes) code

theorem wellNamed_ofScript {script : Script} (wellNamed : script.attributes.WellNamed) :
    (ofScript script).WellNamed :=
  ⟨(by decide : isTagName "script" = true),
    fun pair member => wellNamed.named pair ((sortBy_perm _ _).mem_iff.mp member)⟩

theorem ofScript_eq_iff {script other : Script} (wellNamed : script.attributes.WellNamed)
    (otherWellNamed : other.attributes.WellNamed) : ofScript script = ofScript other ↔
      (∀ pair, pair ∈ script.attributes ↔ pair ∈ other.attributes) ∧ script.code = other.code := by
  rw [← sortBy_pairLe_eq_iff wellNamed.distinct otherWellNamed.distinct, ofScript, ofScript,
    Signature.mk.injEq, and_iff_right rfl]

end Signature

/-! ### Scripts of parsed sources -/

/-- Two `script` elements of parsed sources have one signature if and only if they have the same
tag, attributes and text, and if and only if they have one canonical form, which the digest is
made of.  In both of them names are not empty and stand there once, without white space, slash and
`>`, and with an equals sign at most at their start. -/
theorem same_script_tfae {source source' : String} {nodes nodes' : List Node} {tag tag' : String}
    {attributes attributes' : Attributes} {children children' : List Node}
    (parsed : parse source = .ok nodes) (parsed' : parse source' = .ok nodes')
    (member : .element tag attributes children ∈ elementsNamed "script" nodes)
    (member' : .element tag' attributes' children' ∈ elementsNamed "script" nodes') :
    attributes.WellNamed ∧ attributes'.WellNamed ∧
      [ Signature.ofScript ⟨attributes, scriptText children⟩ =
          Signature.ofScript ⟨attributes', scriptText children'⟩,
        tag = tag' ∧ (∀ pair, pair ∈ attributes ↔ pair ∈ attributes') ∧
          scriptText children = scriptText children',
        (Signature.ofScript ⟨attributes, scriptText children⟩).canonical =
          (Signature.ofScript ⟨attributes', scriptText children'⟩).canonical ].TFAE := by
  obtain ⟨_, _, isScript⟩ := exists_element_of_mem member
  obtain ⟨_, _, isScript'⟩ := exists_element_of_mem member'
  obtain ⟨rfl, -, -⟩ := Node.element.inj isScript
  obtain ⟨rfl, -, -⟩ := Node.element.inj isScript'
  have wellNamed := wellNamed_of_parse parsed member
  have wellNamed' := wellNamed_of_parse parsed' member'
  refine ⟨wellNamed, wellNamed', ?_⟩
  tfae_have 1 ↔ 2 := by
    rw [Signature.ofScript_eq_iff wellNamed wellNamed', and_iff_right rfl]
  tfae_have 1 → 3 := congrArg Signature.canonical
  tfae_have 3 → 1 := Signature.canonical_injective (Signature.wellNamed_ofScript wellNamed)
    (Signature.wellNamed_ofScript wellNamed')
  tfae_finish

/-- The order of attributes makes no other script, even where a name begins with an equals sign and
holds a quote. -/
theorem same_script_of_reordered :
    let attributes : Attributes := [("defer", ""), ("=\"q", "1")]
    let reordered : Attributes := [("=\"q", "1"), ("defer", "")]
    let code := [.string .script "run()"]
    parse "<script defer =\"q='1'>run()</script>" = .ok [.element "script" attributes code] ∧
      parse "<script =\"q='1' defer>run()</script>" = .ok [.element "script" reordered code] ∧
      (Signature.ofScript ⟨attributes, scriptText code⟩).canonical =
        (Signature.ofScript ⟨reordered, scriptText code⟩).canonical := by
  intro attributes reordered code
  have parsed : parse "<script defer =\"q='1'>run()</script>" =
      .ok [.element "script" attributes code] := by
    decide +kernel
  have parsed' : parse "<script =\"q='1' defer>run()</script>" =
      .ok [.element "script" reordered code] := by
    decide +kernel
  obtain ⟨-, -, alike⟩ := same_script_tfae parsed parsed' List.mem_cons_self List.mem_cons_self
  have sameAttributes : ∀ pair, pair ∈ attributes ↔ pair ∈ reordered := by
    intro pair
    simp [attributes, reordered, or_comm]
  refine ⟨parsed, parsed', (alike.out 1 2).mp ?_⟩
  exact ⟨rfl, sameAttributes, rfl⟩

end StaticSite.Bundling
