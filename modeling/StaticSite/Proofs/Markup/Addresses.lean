/-
Module: StaticSite.Proofs.Markup.Addresses
Purpose: Addresses of nodes in a document.  What a walk finds that does not look into some nodes is
  read off the list of all addresses in document order, and so are the inline scripts.
Trusted boundary: none
Main exports:
  nodeAt?, Node.ScriptAt, nodesAbove, addresses, pairwise_addresses, reached, scriptsReached,
  scriptsReached_cons, Node.scriptsReached_element, scriptAddresses, map_scriptAddresses
-/
import Mathlib.Data.List.Infix
import StaticSite.Markup.Script

namespace StaticSite.Markup

/-! ### Addresses in a tree -/

/-- The node that an address leads to: from a node to the child at the first place, and so
on. -/
def Node.below? (node : Node) : List Nat → Option Node
  | [] => some node
  | place :: rest => node.children[place]?.bind fun child => child.below? rest

/-- The node of a document at an address, the first place of which is that of a root. -/
def nodeAt? (nodes : List Node) : List Nat → Option Node
  | [] => none
  | place :: rest => nodes[place]?.bind fun node => node.below? rest

/-- An inline script stands at an address below a node, and not inside of another one. -/
inductive Node.ScriptAt : Node → List Nat → Script → Prop where
  | here {node : Node} {script : Script} (found : node.script? = some script) :
      ScriptAt node [] script
  | inside {node child : Node} {place : Nat} {rest : List Nat} {script : Script}
      (other : node.script? = none) (stored : node.children[place]? = some child)
      (found : ScriptAt child rest script) : ScriptAt node (place :: rest) script

mutual

/-- Every inline script that is found in a node has an address. -/
theorem exists_scriptAt {script : Script} :
    ∀ {node : Node}, script ∈ node.inlineScripts → ∃ address, node.ScriptAt address script
  | .string _ _, member => absurd member List.not_mem_nil
  | .element name attributes children, member => by
      rw [Node.inlineScripts] at member
      split at member
      case isTrue inline =>
        rw [List.mem_singleton.mp member]
        exact ⟨[], .here (if_pos inline)⟩
      case isFalse other =>
        obtain ⟨place, child, address, stored, found⟩ := exists_scriptAt_of_all member
        exact ⟨place :: address, .inside (if_neg other) stored found⟩

/-- Every inline script that is found in some nodes has an address below one of them. -/
theorem exists_scriptAt_of_all {script : Script} :
    ∀ {nodes : List Node}, script ∈ Node.inlineScriptsOfAll nodes →
      ∃ (place : Nat) (node : Node) (address : List Nat),
        nodes[place]? = some node ∧ node.ScriptAt address script
  | [], member => absurd member List.not_mem_nil
  | node :: rest, member => by
      rcases List.mem_append.mp member with here | later
      · obtain ⟨address, found⟩ := exists_scriptAt here
        exact ⟨0, node, address, rfl, found⟩
      · obtain ⟨place, other, address, stored, found⟩ := exists_scriptAt_of_all later
        exact ⟨place + 1, other, address, stored, found⟩

end

/-- The inline script at an address of a document. -/
def scriptAt? (nodes : List Node) (address : List Nat) : Option Script :=
  (nodeAt? nodes address).bind Node.script?

/-! ### What stands above an address -/

/-- The nodes above an address, from a node on down. -/
def Node.above (node : Node) (address : List Nat) : List Node :=
  address.inits.dropLast.filterMap node.below?

/-- The nodes of a document that the node at an address stands in, the outermost one first. -/
def nodesAbove (nodes : List Node) (address : List Nat) : List Node :=
  address.inits.dropLast.filterMap (nodeAt? nodes)

variable {node : Node} {nodes : List Node} {place : Nat}

theorem dropLast_inits_cons (place : Nat) (rest : List Nat) :
    (place :: rest).inits.dropLast = [] :: rest.inits.dropLast.map (place :: ·) := by
  rw [List.inits_cons, List.map_dropLast]
  apply List.dropLast_cons_of_ne_nil
  cases rest <;> simp

theorem Node.above_cons (node : Node) (place : Nat) (rest : List Nat) :
    node.above (place :: rest) = node :: nodesAbove node.children (place :: rest) := by
  rw [above, nodesAbove, dropLast_inits_cons, List.filterMap_cons_some (f := node.below?) rfl,
    List.filterMap_cons_none rfl, List.filterMap_map, List.filterMap_map]
  rfl

theorem nodesAbove_cons (stored : nodes[place]? = some node) (rest : List Nat) :
    nodesAbove nodes (place :: rest) = node.above rest := by
  have onwards (path : List Nat) : nodeAt? nodes (place :: path) = node.below? path := by
    rw [nodeAt?, stored, Option.bind_some]
  rw [Node.above, nodesAbove, dropLast_inits_cons, List.filterMap_cons_none rfl,
    List.filterMap_map]
  exact List.filterMap_congr fun path _ => onwards path

/-! ### All addresses in document order -/

mutual

/-- The addresses below a node, its own first. -/
def Node.addresses : Node → List (List Nat)
  | .string _ _ => [[]]
  | .element _ _ children => [] :: Node.addressesFrom 0 children

/-- The addresses of some siblings and of all nodes below them.  The first of them stands at
`place`. -/
def Node.addressesFrom (place : Nat) : List Node → List (List Nat)
  | [] => []
  | node :: rest => node.addresses.map (place :: ·) ++ Node.addressesFrom (place + 1) rest

end

/-- The addresses of all nodes of a document, in the order in which the nodes begin. -/
def addresses (nodes : List Node) : List (List Nat) :=
  Node.addressesFrom 0 nodes

theorem cons_of_mem_addressesFrom {address : List Nat}
    (member : address ∈ Node.addressesFrom place nodes) :
    ∃ next rest, address = next :: rest ∧ place ≤ next := by
  induction nodes generalizing place with
  | nil => cases member
  | cons node nodes inductionHypothesis =>
      rw [Node.addressesFrom] at member
      rcases List.mem_append.mp member with here | later
      · obtain ⟨rest, -, rfl⟩ := List.mem_map.mp here
        exact ⟨place, rest, rfl, Nat.le_refl place⟩
      · obtain ⟨next, rest, shape, after⟩ := inductionHypothesis later
        exact ⟨next, rest, shape, Nat.le_of_succ_le after⟩

mutual

theorem Node.pairwise_addresses : ∀ node : Node, node.addresses.Pairwise (· < ·)
  | .string _ _ => List.pairwise_singleton _ _
  | .element _ _ children => by
      apply List.Pairwise.cons _ (Node.pairwise_addressesFrom 0 children)
      intro address member
      obtain ⟨next, rest, rfl, -⟩ := cons_of_mem_addressesFrom member
      exact List.nil_lt_cons next rest

theorem Node.pairwise_addressesFrom (place : Nat) :
    ∀ nodes : List Node, (Node.addressesFrom place nodes).Pairwise (· < ·)
  | [] => List.Pairwise.nil
  | node :: nodes => by
      apply List.pairwise_append.mpr
      refine ⟨?_, Node.pairwise_addressesFrom (place + 1) nodes, ?_⟩
      · apply (Node.pairwise_addresses node).map
        intro first second before
        exact List.cons_lt_cons_iff.mpr (.inr ⟨rfl, before⟩)
      · intro first here second later
        obtain ⟨path, -, rfl⟩ := List.mem_map.mp here
        obtain ⟨next, rest, rfl, after⟩ := cons_of_mem_addressesFrom later
        exact List.cons_lt_cons_iff.mpr (.inl after)

end

/-- Addresses come in lexicographic order, and each of them once. -/
theorem pairwise_addresses (nodes : List Node) : (addresses nodes).Pairwise (· < ·) :=
  Node.pairwise_addressesFrom 0 nodes

/-! ### Walks that do not look into some nodes -/

/-- A walk that does not look into closed nodes comes to the address. -/
def reached (closed : Node → Bool) (nodes : List Node) (address : List Nat) : Bool :=
  (nodesAbove nodes address).all fun node => !closed node

/-- The inline scripts of a document that are not below a closed node, in document order. -/
def scriptsReached (closed : Node → Bool) (nodes : List Node) : List Script :=
  ((addresses nodes).filter (reached closed nodes)).filterMap (scriptAt? nodes)

/-- The inline scripts at or below a node, but not those below a closed node. -/
def Node.scriptsReached (closed : Node → Bool) (node : Node) : List Script :=
  (node.addresses.filter fun address => (node.above address).all fun node => !closed node).filterMap
    fun address => (node.below? address).bind Node.script?

variable {closed : Node → Bool}

/-- What a walk finds at and below a node does not depend on the nodes around it. -/
theorem scriptsReached_at (stored : nodes[place]? = some node) :
    ((node.addresses.map (place :: ·)).filter (reached closed nodes)).filterMap (scriptAt? nodes) =
      node.scriptsReached closed := by
  have sameNodes : reached closed nodes ∘ (place :: ·) =
      fun address => (node.above address).all fun node => !closed node := by
    funext address
    rw [Function.comp_apply, reached, nodesAbove_cons stored]
  have sameScripts : scriptAt? nodes ∘ (place :: ·) =
      fun address => (node.below? address).bind Node.script? := by
    funext address
    rw [Function.comp_apply, scriptAt?, nodeAt?, stored, Option.bind_some]
  rw [List.filter_map, List.filterMap_map, sameNodes, sameScripts]
  rfl

theorem scriptsReached_from (before rest : List Node) :
    ((Node.addressesFrom before.length rest).filter (reached closed (before ++ rest))).filterMap
        (scriptAt? (before ++ rest)) =
      rest.flatMap (Node.scriptsReached closed) := by
  induction rest generalizing before with
  | nil => rfl
  | cons node rest inductionHypothesis =>
      have stored : (before ++ node :: rest)[before.length]? = some node := by simp
      have later := inductionHypothesis (before ++ [node])
      rw [List.append_assoc, List.singleton_append, List.length_append, List.length_singleton]
        at later
      rw [Node.addressesFrom, List.filter_append, List.filterMap_append, scriptsReached_at stored,
        later, List.flatMap_cons]

/-- A walk through a document is one walk through each of its nodes. -/
theorem scriptsReached_eq_flatMap (closed : Node → Bool) (nodes : List Node) :
    scriptsReached closed nodes = nodes.flatMap (Node.scriptsReached closed) :=
  scriptsReached_from [] nodes

/-- A walk finds an element that is an inline script, and looks into it unless it is closed. -/
theorem Node.scriptsReached_element (closed : Node → Bool) (name : String)
    (attributes : Attributes) (children : List Node) :
    (Node.element name attributes children).scriptsReached closed =
      (Node.element name attributes children).script?.toList ++
        if closed (.element name attributes children) then []
        else Markup.scriptsReached closed children := by
  have inside : ∀ address ∈ addressesFrom 0 children,
      ((Node.element name attributes children).above address).all (fun node => !closed node) =
        (!closed (.element name attributes children) && reached closed children address) := by
    intro address member
    obtain ⟨next, rest, rfl, -⟩ := cons_of_mem_addressesFrom member
    rw [above_cons]
    rfl
  have further :
      ((addressesFrom 0 children).filter fun address =>
        ((Node.element name attributes children).above address).all
          fun node => !closed node).filterMap
        (fun address =>
          ((Node.element name attributes children).below? address).bind Node.script?) =
      if closed (.element name attributes children) then []
      else Markup.scriptsReached closed children := by
    rw [List.filter_congr inside]
    cases closed (.element name attributes children) with
    | true => simp
    | false =>
        apply List.filterMap_congr
        intro address member
        obtain ⟨next, rest, rfl, -⟩ := cons_of_mem_addressesFrom (List.mem_filter.mp member).1
        rfl
  rw [Node.scriptsReached, addresses, List.filter_cons_of_pos rfl, ← further]
  simp only [List.filterMap_cons, below?, Option.bind_some]
  cases (Node.element name attributes children).script? <;> rfl

theorem scriptsReached_cons (closed : Node → Bool) (node : Node) (rest : List Node) :
    scriptsReached closed (node :: rest) =
      node.scriptsReached closed ++ scriptsReached closed rest := by
  rw [scriptsReached_eq_flatMap, List.flatMap_cons, ← scriptsReached_eq_flatMap]

/-! ### The inline scripts of a document -/

mutual

theorem Node.scriptsReached_isInlineScript :
    ∀ node : Node, node.scriptsReached Node.isInlineScript = node.inlineScripts
  | .string _ _ => rfl
  | .element name attributes children => by
      rw [Node.scriptsReached_element, Node.inlineScripts, Node.isInlineScript, Node.script?]
      split
      case isTrue => rfl
      case isFalse => exact scriptsReached_isInlineScript children

/-- The inline scripts of a document are found by the walk that does not look into them. -/
theorem scriptsReached_isInlineScript :
    ∀ nodes, scriptsReached Node.isInlineScript nodes = Node.inlineScriptsOfAll nodes
  | [] => rfl
  | node :: rest => by
      rw [scriptsReached_cons, Node.inlineScriptsOfAll, Node.scriptsReached_isInlineScript node,
        scriptsReached_isInlineScript rest]

end

/-- The addresses of the inline scripts of a document that do not stand in another one. -/
def scriptAddresses (nodes : List Node) : List (List Nat) :=
  (addresses nodes).filter fun address =>
    (scriptAt? nodes address).isSome && reached Node.isInlineScript nodes address

theorem map_scriptsReached (closed : Node → Bool) (nodes : List Node) :
    (scriptsReached closed nodes).map some =
      ((addresses nodes).filter fun address =>
        (scriptAt? nodes address).isSome && reached closed nodes address).map
          (scriptAt? nodes) := by
  rw [scriptsReached, List.map_filterMap_some_eq_filter_map_isSome, List.filter_map,
    List.filter_filter]
  rfl

/-- At these addresses are the inline scripts of the document, one after the other. -/
theorem map_scriptAddresses (nodes : List Node) :
    (scriptAddresses nodes).map (scriptAt? nodes) = (inlineScripts nodes).map some := by
  rw [inlineScripts, ← scriptsReached_isInlineScript, map_scriptsReached]
  rfl

end StaticSite.Markup
