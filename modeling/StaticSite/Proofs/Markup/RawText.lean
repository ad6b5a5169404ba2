/-
Module: StaticSite.Proofs.Markup.RawText
Purpose: Scripts of a parsed source hold nothing but text: between their tags the source is read
  as raw text, and no other tag closes them.  Start tags have the names of tags, and their
  attributes those of attributes.
Trusted boundary: none
Main exports:
  Token.Leads, LeadsAll, tokens_lead, Builder.Sound, Builder.Sound.read, scriptsHoldText_of_parse
-/
import Mathlib.Data.List.TakeWhile
import StaticSite.Proofs.Markup.AttributeNames
import StaticSite.Proofs.Markup.Replace
import StaticSite.Proofs.Markup.TagNames

namespace StaticSite.Markup

open Text

/-! ### The order of tokens -/

/-- The names that stand in a start tag: its own and those of its attributes. -/
structure Token.Named (name : String) (attributes : List (String × String)) : Prop where
  tag : isTagName name = true
  attributes : ∀ pair ∈ attributes, isAttributeName pair.1 = true

/-- A token can stand where the raw text of the element `before` is read, or of none, and after
it that of the element `after` is. -/
inductive Token.Leads : (before : Option String) → Token → (after : Option String) → Prop where
  | startTag {name : String} {attributes : List (String × String)}
      (named : Named name attributes) :
      Leads none (.startTag name attributes false) (rawAfter name)
  | closedTag {name : String} {attributes : List (String × String)}
      (named : Named name attributes) : Leads none (.startTag name attributes true) none
  | endTag (name : String) : Leads none (.endTag name) none
  | special (kind : StringKind) (chars : List Char) : Leads none (.special kind chars) none
  | text (raw : Option String) (chars : List Char) : Leads raw (.text chars) raw
  | rawEnd (name : String) : Leads (some name) (.endTag name) none

/-- Tokens can stand one after the other. -/
inductive LeadsAll : (before : Option String) → List Token → (after : Option String) → Prop where
  | nil (raw : Option String) : LeadsAll raw [] raw
  | cons {before middle after : Option String} {token : Token} {rest : List Token}
      (first : token.Leads before middle) (onwards : LeadsAll middle rest after) :
      LeadsAll before (token :: rest) after

variable {before middle after raw : Option String} {token : Token}

theorem LeadsAll.single (leads : token.Leads before after) : LeadsAll before [token] after :=
  .cons leads (.nil after)

theorem LeadsAll.append {first second : List Token} (one : LeadsAll before first middle)
    (other : LeadsAll middle second after) : LeadsAll before (first ++ second) after := by
  induction one with
  | nil => exact other
  | cons leads _ inductionHypothesis => exact .cons leads (inductionHypothesis other)

/-- Start tags and their attributes are named. -/
theorem LeadsAll.named_of_mem {tokens : List Token} (lead : LeadsAll before tokens after)
    {name : String} {attributes : List (String × String)} {closed : Bool}
    (member : .startTag name attributes closed ∈ tokens) : Token.Named name attributes := by
  induction lead with
  | nil => cases member
  | cons leads _ inductionHypothesis =>
      rcases List.mem_cons.mp member with rfl | later
      · cases leads with
        | startTag named => exact named
        | closedTag named => exact named
      · exact inductionHypothesis later

/-! ### Steps of reading -/

/-- What a step has read can stand there, and raw text goes on where the step says so. -/
def Step.Orderly (raw : Option String) : Step → Prop
  | .read tokens following _ => LeadsAll raw tokens following
  | .halt tokens _ => LeadsAll raw tokens raw
  | .unfinished => True
  | .reject => True

theorem Step.orderly_startTag {first : Char} (letter : first.isAlpha = true) (cs : List Char) :
    (Step.ofStartTag (first :: cs)).Orderly none := by
  have isTag : isTagName (toLower (String.ofList ((first :: cs).takeWhile isTagNameChar))) =
      true := by
    rw [List.takeWhile_cons_of_pos (lower_letter letter).2]
    exact isTagName_toLower letter fun c member => List.mem_takeWhile_imp member
  unfold Step.ofStartTag
  simp only
  split
  case h_1 => trivial
  case h_2 => exact .single (.startTag ⟨isTag, attributesFrom_named⟩)
  case h_3 => exact .single (.closedTag ⟨isTag, attributesFrom_named⟩)
  case h_4 =>
    split
    case isTrue => trivial
    case isFalse => exact .single (.text _ _)

theorem Step.orderly_endTag (cs : List Char) : (Step.ofEndTag cs).Orderly none := by
  unfold Step.ofEndTag
  split
  case h_1 => trivial
  case h_2 =>
    split
    case h_1 => exact .single (.endTag _)
    case h_2 =>
      split
      case h_1 => exact .nil _
      case h_2 =>
        split
        case isTrue => exact .single (.endTag _)
        case isFalse => exact .single (.special _ _)

theorem sectionToken_leads (inside : List Char) : (sectionToken inside).Leads none none := by
  rw [sectionToken]
  split
  case h_1 => exact .special _ _
  case h_2 => exact .special _ _

theorem Step.orderly_section (cs : List Char) : (Step.ofSection cs).Orderly none := by
  unfold Step.ofSection
  split
  case h_1 => trivial
  case h_2 =>
    split
    case isFalse => trivial
    case isTrue =>
      simp only
      split
      case h_1 => trivial
      case h_2 => trivial
      case h_3 =>
        split
        case h_1 => exact .single (sectionToken_leads _)
        case h_2 => trivial

theorem Step.orderly_upToEnd (kind : StringKind) (cs : List Char) :
    (Step.upToEnd kind cs).Orderly none := by
  unfold Step.upToEnd
  split
  case h_1 => exact .single (.special _ _)
  case h_2 => trivial

theorem Step.orderly_declaration (cs : List Char) : (Step.ofDeclaration cs).Orderly none := by
  unfold Step.ofDeclaration
  split
  case h_1 =>
    split
    case h_1 => exact .single (.special _ _)
    case h_2 => trivial
  case h_2 => exact orderly_section _
  case h_3 =>
    split
    case h_1 =>
      split
      case h_1 => exact .single (.special _ _)
      case h_2 => trivial
    case h_2 => exact orderly_upToEnd _ _

theorem Step.orderly_markup (cs : List Char) : (Step.ofMarkup cs).Orderly none := by
  unfold Step.ofMarkup
  split
  case h_1 => exact .nil _
  case h_2 => exact orderly_endTag _
  case h_3 => exact orderly_declaration _
  case h_4 => exact orderly_upToEnd _ _
  case h_5 =>
    split
    case isTrue letter => exact orderly_startTag letter _
    case isFalse => exact .single (.text _ _)

theorem Step.orderly_reference (pass : Pass) (cs : List Char) :
    (Step.ofReference pass cs).Orderly none := by
  unfold Step.ofReference
  split
  case h_1 => exact .nil _
  case h_2 =>
    split
    case h_1 => exact .single (.text _ _)
    case h_2 =>
      split
      case isTrue => exact .single (.text _ _)
      case isFalse => exact .nil _
  case h_3 =>
    split
    case h_1 => exact .single (.text _ _)
    case h_2 =>
      split
      case isTrue => split <;> exact .nil _
      case isFalse => exact .single (.text _ _)

/-- Outside of raw text everything can stand. -/
theorem Step.orderly_next (pass : Pass) (cs : List Char) : (Step.next pass cs).Orderly none := by
  unfold Step.next
  split
  case h_1 => exact .nil _
  case h_2 => exact orderly_markup _
  case h_3 => exact orderly_reference _ _
  case h_4 => exact .single (.text _ _)

/-- Raw text is text up to the end tag of its element. -/
theorem Step.orderly_rawText (name : String) (cs : List Char) :
    (Step.ofRawText name cs).Orderly (some name) := by
  unfold Step.ofRawText
  split
  case h_1 => exact .nil _
  case h_2 =>
    simp only
    split
    case h_1 => exact .cons (.text _ _) (.single (.rawEnd name))
    case h_2 => exact .single (.text _ _)

/-- Whatever is read next, outside of raw text or in it, is in order. -/
theorem Step.orderly_of_eq {pass : Pass} {cs : List Char} {step : Step}
    (taken : (match raw with
      | some name => Step.ofRawText name cs
      | none => Step.next pass cs) = step) : step.Orderly raw := by
  rw [← taken]
  cases raw with
  | none => exact orderly_next pass cs
  | some name => exact orderly_rawText name cs

/-! ### All tokens of a source -/

/-- What is read first is put before what is read after it. -/
theorem leadsAll_of_bind {first : List Token} {rest : Except RejectedMarkup (List Token)}
    {read : List Token} (one : LeadsAll before first middle)
    (others : ∀ {more : List Token}, rest = .ok more → ∃ last, LeadsAll middle more last)
    (done : (rest >>= fun more => pure (first ++ more)) = .ok read) :
    ∃ last, LeadsAll before read last := by
  cases known : rest with
  | error cause =>
      rw [known] at done
      cases done
  | ok more =>
      rw [known] at done
      obtain rfl := Except.ok.inj done
      obtain ⟨last, onwards⟩ := others known
      exact ⟨last, one.append onwards⟩

/-- Reading goes on with the raw text that the last step has announced.  The induction is on the
number of steps. -/
theorem tokensFrom_lead {fuel : Nat} {pass : Pass} {cs : List Char} {read : List Token}
    (done : tokensFrom fuel pass raw cs = .ok read) : ∃ last, LeadsAll raw read last := by
  induction fuel generalizing pass raw cs read with
  | zero =>
      obtain rfl := Except.ok.inj done
      exact ⟨raw, .nil raw⟩
  | succ fuel inductionHypothesis =>
      cases cs with
      | nil =>
          obtain rfl := Except.ok.inj done
          exact ⟨raw, .nil raw⟩
      | cons c rest =>
          unfold tokensFrom at done
          simp only at done
          split at done
          case h_1 => cases done
          case h_2 taken =>
            exact leadsAll_of_bind (Step.orderly_of_eq taken) inductionHypothesis done
          case h_3 taken =>
            exact leadsAll_of_bind (Step.orderly_of_eq taken) inductionHypothesis done
          case h_4 left taken =>
            obtain rfl := Except.ok.inj done
            have orderly := Step.orderly_of_eq taken
            cases raw with
            | none => exact ⟨none, LeadsAll.append orderly (.single (.text none left))⟩
            | some name => exact ⟨some name, orderly⟩
          case h_5 => exact inductionHypothesis done
          case h_6 => exact leadsAll_of_bind (.single (.text raw _)) inductionHypothesis done

/-- All tokens of a source can stand one after the other. -/
theorem tokens_lead {source : String} {read : List Token} (done : tokens source = .ok read) :
    ∃ last, LeadsAll none read last :=
  tokensFrom_lead done

/-! ### What a builder holds -/

/-- Where raw text is read, its element is the innermost open one and holds strings.  No other open
element is a script. -/
def OpenRaw (raw : Option String) (opened : List OpenElement) : Prop :=
  match raw with
  | none => ∀ element ∈ opened, element.name ≠ "script"
  | some name => rawElements.contains name = true ∧ ∃ element outer,
      opened = element :: outer ∧ element.name = name ∧
        (∀ child ∈ element.children, child.isString = true) ∧
        ∀ other ∈ outer, other.name ≠ "script"

theorem not_void_of_raw {name : String} (isRaw : rawElements.contains name = true) :
    isVoidElement name = false := by
  have listed : name ∈ ["script", "style"] := List.contains_iff_mem.mp isRaw
  simp only [List.mem_cons, List.not_mem_nil, or_false] at listed
  rcases listed with rfl | rfl <;> decide

namespace Builder

variable {builder : Builder} {last : OpenElement → Bool} {inner : List Node}

/-- What the builder holds when the raw text of an element is to follow, or none: all scripts it
has put together hold strings, and raw text is read where it should be. -/
structure Sound (raw : Option String) (builder : Builder) : Prop where
  nodes : ScriptsHoldText builder.nodes
  opened : ∀ element ∈ builder.opened, ScriptsHoldText element.children
  place : OpenRaw raw builder.opened
  voids : ∀ name ∈ builder.closedVoids, isVoidElement name = true

/-- Nodes can be added to the innermost element, but only strings to one with raw text. -/
theorem Sound.add (sound : builder.Sound raw) {node : Node} (textOnly : ScriptsHoldText [node])
    (fits : raw.isSome → node.isString = true) : (builder.add node).Sound raw := by
  have opened := sound.opened
  have place := sound.place
  unfold Builder.add
  split
  case h_1 outermost =>
    exact ⟨textOnly.append sound.nodes, by simp [outermost], place, sound.voids⟩
  case h_2 top outer innermost =>
    rw [innermost] at opened place
    obtain ⟨topHolds, outerHold⟩ := List.forall_mem_cons.mp opened
    refine ⟨sound.nodes, List.forall_mem_cons.mpr ⟨textOnly.append topHolds, outerHold⟩, ?_,
      sound.voids⟩
    cases raw with
    | none => exact List.forall_mem_cons.mpr (List.forall_mem_cons.mp place)
    | some name =>
        obtain ⟨isRaw, element, rest, same, named, strings, others⟩ := place
        obtain ⟨rfl, rfl⟩ := List.cons.inj same
        exact ⟨isRaw, _, _, rfl, named, List.forall_mem_cons.mpr ⟨fits rfl, strings⟩, others⟩

theorem Sound.flush (sound : builder.Sound raw) : builder.flush.Sound raw := by
  rw [Builder.flush]
  split
  case h_1 => exact sound
  case h_2 =>
    have added := sound.add (.string builder.textKind (builder.normalize builder.pending))
      fun _ => rfl
    exact ⟨added.nodes, added.opened, added.place, added.voids⟩

/-- Closing through an element either ends with it or goes on outside of it. -/
theorem sound_closeThrough_cons {element : OpenElement} {outer : List OpenElement}
    (kept : ({ builder with opened := outer }.add
      (.element element.name element.attributes (inner ++ element.children).reverse)).Sound none)
    (onwards : (builder.closeThrough last
      [.element element.name element.attributes (inner ++ element.children).reverse] outer).Sound
        none) :
    (builder.closeThrough last inner (element :: outer)).Sound none := by
  rw [closeThrough]
  split
  case isTrue => exact kept
  case isFalse => exact onwards

/-- Elements that are no scripts can be closed whatever they hold.  The induction is on the open
elements. -/
theorem sound_closeThrough (nodes : ScriptsHoldText builder.nodes)
    (voids : ∀ name ∈ builder.closedVoids, isVoidElement name = true)
    {elements : List OpenElement} (innerHolds : ScriptsHoldText inner)
    (hold : ∀ element ∈ elements, ScriptsHoldText element.children)
    (others : ∀ element ∈ elements, element.name ≠ "script") :
    (builder.closeThrough last inner elements).Sound none := by
  induction elements generalizing inner with
  | nil =>
      exact ⟨innerHolds.append nodes, List.forall_mem_nil _, List.forall_mem_nil _, voids⟩
  | cons element outer inductionHypothesis =>
      obtain ⟨elementHolds, outerHold⟩ := List.forall_mem_cons.mp hold
      obtain ⟨noScript, outerOthers⟩ := List.forall_mem_cons.mp others
      have closed : ScriptsHoldText [.element element.name element.attributes
          (inner ++ element.children).reverse] :=
        .element (innerHolds.append elementHolds).reverse fun isScript => absurd isScript noScript
      have outside : ({ builder with opened := outer } : Builder).Sound none :=
        ⟨nodes, outerHold, outerOthers, voids⟩
      exact sound_closeThrough_cons (outside.add closed fun impossible => by cases impossible)
        (inductionHypothesis closed outerHold outerOthers)

/-- Closing open elements from the innermost one ends raw text.  If it is a script, it holds
strings. -/
theorem Sound.closeThrough (sound : builder.Sound raw) :
    (builder.closeThrough last [] builder.opened).Sound none := by
  cases raw with
  | none =>
      exact sound_closeThrough sound.nodes sound.voids .nil sound.opened sound.place
  | some name =>
      obtain ⟨isRaw, top, outer, innermost, named, strings, others⟩ := sound.place
      have opened := sound.opened
      rw [innermost] at opened ⊢
      obtain ⟨topHolds, outerHold⟩ := List.forall_mem_cons.mp opened
      have closed : ScriptsHoldText
          [.element top.name top.attributes ([] ++ top.children).reverse] :=
        .element topHolds.reverse fun _ child member => strings child (List.mem_reverse.mp member)
      have outside : ({ builder with opened := outer } : Builder).Sound none :=
        ⟨sound.nodes, outerHold, others, sound.voids⟩
      exact sound_closeThrough_cons (outside.add closed fun impossible => by cases impossible)
        (sound_closeThrough sound.nodes sound.voids closed outerHold others)

/-- An end tag can stand outside of raw text, and ends that of its own element. -/
theorem Sound.close (sound : builder.Sound raw) {name : String}
    (ends : raw = none ∨ raw = some name) : (builder.close name).Sound none := by
  have flushed := sound.flush
  rw [Builder.close]
  split
  case isTrue => exact flushed.closeThrough
  case isFalse absent =>
    rcases ends with rfl | rfl
    · exact flushed
    · obtain ⟨-, top, outer, innermost, named, -, -⟩ := flushed.place
      simp [innermost, named] at absent

theorem Sound.readEndTag (sound : builder.Sound raw) {name : String}
    (ends : raw = none ∨ raw = some name) : (builder.readEndTag name).Sound none := by
  rw [Builder.readEndTag]
  split
  case isFalse => exact sound.close ends
  case isTrue closedItself =>
    rcases ends with rfl | rfl
    · exact ⟨sound.nodes, sound.opened, sound.place,
        fun other member => sound.voids other (List.mem_of_mem_erase member)⟩
    · -- no element with raw text is void
      have void := sound.voids name (List.contains_iff_mem.mp closedItself)
      rw [not_void_of_raw sound.place.1] at void
      cases void

/-- An element that has just been opened is empty. -/
theorem Sound.openElement (sound : builder.Sound none) (name : String) (attributes : Attributes) :
    ({ builder with opened := ⟨name, attributes, []⟩ :: builder.opened } : Builder).Sound
      (rawAfter name) := by
  have hold : ∀ element ∈ (⟨name, attributes, []⟩ : OpenElement) :: builder.opened,
      ScriptsHoldText element.children :=
    List.forall_mem_cons.mpr ⟨.nil, sound.opened⟩
  refine ⟨sound.nodes, hold, ?_, sound.voids⟩
  rw [rawAfter]
  split
  case isTrue isRaw =>
    exact ⟨isRaw, _, _, rfl, rfl, List.forall_mem_nil _, sound.place⟩
  case isFalse notRaw =>
    refine List.forall_mem_cons.mpr ⟨?_, sound.place⟩
    rintro rfl
    exact notRaw (by decide)

theorem Sound.readStartTag (sound : builder.Sound none) (name : String)
    (attributes : List (String × String)) (closed : Bool) :
    (builder.readStartTag name attributes closed).Sound
      (if closed then none else rawAfter name) := by
  have pushed := sound.flush.openElement name (Attributes.ofPairs attributes)
  have ends : rawAfter name = none ∨ rawAfter name = some name := by
    rw [rawAfter]
    split
    case isTrue => exact .inr rfl
    case isFalse => exact .inl rfl
  rw [Builder.readStartTag]
  cases closed with
  | true => exact pushed.close ends
  | false =>
      simp only [Bool.false_eq_true, if_false]
      split
      case isTrue void =>
        have notRaw : rawAfter name = none := by
          refine if_neg fun isRaw => ?_
          rw [not_void_of_raw isRaw] at void
          cases void
        have result := pushed.close ends
        rw [notRaw]
        exact ⟨result.nodes, result.opened, result.place,
          List.forall_mem_cons.mpr ⟨void, sound.flush.voids⟩⟩
      case isFalse => exact pushed

/-- Every token that can stand there keeps what the builder holds. -/
theorem Sound.read (sound : builder.Sound before) (leads : token.Leads before after) :
    (builder.read token).Sound after := by
  cases leads with
  | startTag => exact sound.readStartTag _ _ false
  | closedTag => exact sound.readStartTag _ _ true
  | endTag name => exact sound.readEndTag (.inl rfl)
  | rawEnd name => exact sound.readEndTag (.inr rfl)
  | text raw chars => exact ⟨sound.nodes, sound.opened, sound.place, sound.voids⟩
  | special kind chars =>
      exact sound.flush.add (.string kind _) fun impossible => by cases impossible

theorem Sound.readAll (sound : builder.Sound before) {tokens : List Token}
    (lead : LeadsAll before tokens after) : (tokens.foldl Builder.read builder).Sound after := by
  induction lead generalizing builder with
  | nil => exact sound
  | cons leads _ inductionHypothesis => exact inductionHypothesis (sound.read leads)

theorem sound_empty : ({} : Builder).Sound none where
  nodes := .nil
  opened := List.forall_mem_nil _
  place := List.forall_mem_nil _
  voids := List.forall_mem_nil _

end Builder

/-- In the tree of any source the children of every script are strings. -/
theorem scriptsHoldText_of_parse {source : String} {nodes : List Node}
    (parsed : parse source = .ok nodes) : ScriptsHoldText nodes := by
  cases done : tokens source with
  | error cause =>
      rw [parse, done] at parsed
      cases parsed
  | ok read =>
      rw [parse, done] at parsed
      obtain rfl := Except.ok.inj parsed
      obtain ⟨last, lead⟩ := tokens_lead done
      exact (Builder.sound_empty.readAll lead).flush.closeThrough.nodes.reverse

end StaticSite.Markup
