/-
Module: StaticSite.Proofs.Markup.ElementNames
Purpose: The elements of a parsed source have the names and the attributes of its start tags, and
  so the names of tags, and attributes that are named and stand there once.
Trusted boundary: none
Main exports:
  AllElements, Builder.Holds, Builder.Holds.read, allElements_of_parse, isTagName_of_parse,
  wellNamed_of_parse
-/
import StaticSite.Proofs.Markup.RawText

namespace StaticSite.Markup

variable {holds : String → Attributes → Prop} {tag name : String} {nodes inner : List Node}
  {attributes : Attributes} {builder : Builder} {last : OpenElement → Bool}
  {elements : List OpenElement}

/-! ### What holds of all elements of a tree -/

/-- It holds of the name and the attributes of every element, wherever it stands. -/
def AllElements (holds : String → Attributes → Prop) (nodes : List Node) : Prop :=
  ∀ name attributes children,
    .element name attributes children ∈ elementsNamed name nodes → holds name attributes

namespace AllElements

theorem nil : AllElements holds [] :=
  fun _ _ _ member => absurd member List.not_mem_nil

theorem append {first second : List Node} (one : AllElements holds first)
    (other : AllElements holds second) : AllElements holds (first ++ second) := by
  intro name attributes children member
  rw [elementsNamed_append, List.mem_append] at member
  rcases member with inFirst | inSecond
  · exact one name attributes children inFirst
  · exact other name attributes children inSecond

/-- The nodes can be looked at one by one. -/
theorem iff_forall : AllElements holds nodes ↔ ∀ node ∈ nodes, AllElements holds [node] := by
  induction nodes with
  | nil => exact iff_of_true nil (List.forall_mem_nil _)
  | cons node rest inductionHypothesis =>
      rw [List.forall_mem_cons, ← inductionHypothesis, ← List.singleton_append]
      constructor
      · exact fun all => ⟨
          fun name attributes children member => all name attributes children
            (elementsNamed_subset_append_left name [node] rest member),
          fun name attributes children member => all name attributes children
            (elementsNamed_subset_append_right name [node] rest member)⟩
      · rintro ⟨one, other⟩
        exact one.append other

theorem reverse (all : AllElements holds nodes) : AllElements holds nodes.reverse :=
  iff_forall.mpr fun node member => iff_forall.mp all node (List.mem_reverse.mp member)

theorem string (kind : StringKind) (text : String) : AllElements holds [.string kind text] :=
  fun _ _ _ member => absurd member List.not_mem_nil

theorem element {children : List Node} (here : holds name attributes)
    (inside : AllElements holds children) :
    AllElements holds [.element name attributes children] := by
  intro other otherAttributes grandchildren member
  rw [elementsNamed_element] at member
  split at member
  case isFalse => exact inside other otherAttributes grandchildren member
  case isTrue =>
    rcases List.mem_cons.mp member with same | below
    · cases same
      exact here
    · exact inside other otherAttributes grandchildren below

end AllElements

/-- Every element that is found has the name that is looked for. -/
theorem exists_element_of_mem {node : Node} (member : node ∈ elementsNamed tag nodes) :
    ∃ attributes children, node = .element tag attributes children := by
  induction nodes using childListInduction with
  | nodes nodes inductionHypothesis =>
      induction nodes with
      | nil => exact absurd member List.not_mem_nil
      | cons first rest restHypothesis =>
          obtain ⟨below, others⟩ := List.forall_mem_cons.mp inductionHypothesis
          rw [← List.singleton_append, elementsNamed_append, List.mem_append] at member
          rcases member with here | later
          · cases first with
            | string kind text => exact absurd here List.not_mem_nil
            | element name attributes children =>
                rw [elementsNamed_element] at here
                split at here
                case isFalse => exact below here
                case isTrue same =>
                  rcases List.mem_cons.mp here with found | inside
                  · exact ⟨attributes, children, same ▸ found⟩
                  · exact below inside
          · exact restHypothesis others later

/-! ### Builders all of whose elements have a property -/

namespace Builder

/-- It holds of the open elements and of all that stand in the nodes and in them. -/
structure Holds (holds : String → Attributes → Prop) (builder : Builder) : Prop where
  nodes : AllElements holds builder.nodes
  opened : ∀ element ∈ builder.opened,
    holds element.name element.attributes ∧ AllElements holds element.children

theorem Holds.add (known : builder.Holds holds) {node : Node} (all : AllElements holds [node]) :
    (builder.add node).Holds holds := by
  have opened := known.opened
  unfold Builder.add
  split
  case h_1 => exact ⟨all.append known.nodes, opened⟩
  case h_2 top outer innermost =>
    rw [innermost] at opened
    obtain ⟨⟨here, inside⟩, others⟩ := List.forall_mem_cons.mp opened
    exact ⟨known.nodes, List.forall_mem_cons.mpr ⟨⟨here, all.append inside⟩, others⟩⟩

theorem Holds.flush (known : builder.Holds holds) : builder.flush.Holds holds := by
  rw [Builder.flush]
  split
  case h_1 => exact known
  case h_2 =>
    have added := known.add (.string builder.textKind (builder.normalize builder.pending))
    exact ⟨added.nodes, added.opened⟩

/-- Closing open elements brings no other element.  The induction is on the open elements. -/
theorem holds_closeThrough (nodes : AllElements holds builder.nodes)
    (innerHolds : AllElements holds inner)
    (opened : ∀ element ∈ elements,
      holds element.name element.attributes ∧ AllElements holds element.children) :
    (builder.closeThrough last inner elements).Holds holds := by
  induction elements generalizing inner with
  | nil => exact ⟨innerHolds.append nodes, List.forall_mem_nil _⟩
  | cons element outer inductionHypothesis =>
      obtain ⟨⟨here, inside⟩, others⟩ := List.forall_mem_cons.mp opened
      have closed : AllElements holds [.element element.name element.attributes
          (inner ++ element.children).reverse] :=
        .element here (innerHolds.append inside).reverse
      rw [closeThrough]
      split
      case isTrue =>
        have outside : ({ builder with opened := outer } : Builder).Holds holds := ⟨nodes, others⟩
        exact outside.add closed
      case isFalse => exact inductionHypothesis closed others

theorem Holds.close (known : builder.Holds holds) (name : String) :
    (builder.close name).Holds holds := by
  have flushed := known.flush
  rw [Builder.close]
  split
  case isTrue => exact holds_closeThrough flushed.nodes .nil flushed.opened
  case isFalse => exact flushed

theorem Holds.readStartTag (known : builder.Holds holds) {pairs : List (String × String)}
    (here : holds name (Attributes.ofPairs pairs)) (closed : Bool) :
    (builder.readStartTag name pairs closed).Holds holds := by
  have flushed := known.flush
  have pushed : ({ builder.flush with opened :=
      ⟨name, Attributes.ofPairs pairs, []⟩ :: builder.flush.opened } : Builder).Holds holds :=
    ⟨flushed.nodes, List.forall_mem_cons.mpr ⟨⟨here, .nil⟩, flushed.opened⟩⟩
  rw [Builder.readStartTag]
  split
  case isTrue => exact pushed.close name
  case isFalse =>
    split
    case isTrue =>
      have shut := pushed.close name
      exact ⟨shut.nodes, shut.opened⟩
    case isFalse => exact pushed

/-- Only a start tag brings an element. -/
theorem Holds.read (known : builder.Holds holds) {token : Token}
    (starts : ∀ name pairs closed, token = .startTag name pairs closed →
      holds name (Attributes.ofPairs pairs)) : (builder.read token).Holds holds := by
  cases token with
  | startTag name pairs closed => exact known.readStartTag (starts name pairs closed rfl) closed
  | endTag name =>
      rw [Builder.read, Builder.readEndTag]
      split
      case isTrue => exact ⟨known.nodes, known.opened⟩
      case isFalse => exact known.close name
  | text chars => exact ⟨known.nodes, known.opened⟩
  | special kind chars => exact known.flush.add (.string kind _)

theorem Holds.readAll {tokens : List Token} (known : builder.Holds holds)
    (starts : ∀ name pairs closed, .startTag name pairs closed ∈ tokens →
      holds name (Attributes.ofPairs pairs)) :
    (tokens.foldl Builder.read builder).Holds holds := by
  induction tokens generalizing builder with
  | nil => exact known
  | cons token rest inductionHypothesis =>
      refine inductionHypothesis (known.read ?_) ?_
      · rintro name pairs closed rfl
        exact starts name pairs closed List.mem_cons_self
      · intro name pairs closed member
        exact starts name pairs closed (List.mem_cons_of_mem token member)

end Builder

/-! ### Parsed sources -/

/-- What holds of every start tag holds of all elements. -/
theorem allElements_build {tokens : List Token}
    (starts : ∀ name pairs closed, .startTag name pairs closed ∈ tokens →
      holds name (Attributes.ofPairs pairs)) : AllElements holds (build tokens) := by
  have empty : ({} : Builder).Holds holds := ⟨.nil, List.forall_mem_nil _⟩
  have flushed := (empty.readAll starts).flush
  exact (Builder.holds_closeThrough flushed.nodes .nil flushed.opened).nodes.reverse

/-- Every element of a parsed source has the name of a tag, and attributes that are named and
stand there once. -/
theorem allElements_of_parse {source : String} (parsed : parse source = .ok nodes) :
    AllElements (fun name attributes => isTagName name = true ∧ attributes.WellNamed) nodes := by
  cases done : tokens source with
  | error cause =>
      rw [parse, done] at parsed
      cases parsed
  | ok read =>
      rw [parse, done] at parsed
      obtain rfl := Except.ok.inj parsed
      obtain ⟨_, lead⟩ := tokens_lead done
      refine allElements_build fun name pairs closed member => ?_
      have named := lead.named_of_mem member
      exact ⟨named.tag, Attributes.wellNamed_ofPairs named.attributes⟩

theorem isTagName_of_parse {source : String} (parsed : parse source = .ok nodes)
    (present : elementsNamed tag nodes ≠ []) : isTagName tag = true := by
  obtain ⟨node, member⟩ := List.exists_mem_of_ne_nil _ present
  obtain ⟨attributes, children, rfl⟩ := exists_element_of_mem member
  exact (allElements_of_parse parsed tag attributes children member).1

theorem wellNamed_of_parse {source : String} (parsed : parse source = .ok nodes)
    {children : List Node} (member : .element tag attributes children ∈ elementsNamed tag nodes) :
    attributes.WellNamed :=
  (allElements_of_parse parsed tag attributes children member).2

end StaticSite.Markup
