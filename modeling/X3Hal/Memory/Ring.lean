import Mathlib.Data.List.Chain
import Mathlib.Data.List.Nodup
import Mathlib.Logic.Function.Basic
import Mathlib.Tactic.Common

/-!
# Rings of doubly linked nodes

Nodes carry their own links, and a list of nodes is a ring through a head that is not an
element.  An insertion before a node of a ring and a removal change the list that the ring
is, and leave every node outside of it alone.
-/

namespace X3Hal.Memory

universe u

/-- The links of all nodes; `none` is the null pointer. -/
structure Links (P : Type u) where
  next : P → Option P
  prev : P → Option P

namespace Links

section Rings

variable {P : Type u}

/-- Two nodes are linked to each other. -/
def Linked (links : Links P) (before after : P) : Prop :=
  links.next before = some after ∧ links.prev after = some before

/-- The links of the nodes outside a list are the same. -/
def SameOutside (nodes : List P) (links other : Links P) : Prop :=
  ∀ node ∉ nodes, other.next node = links.next node ∧ other.prev node = links.prev node

/-- The links lead from the head through the nodes and back to the head. -/
def Ring (links : Links P) (head : P) (nodes : List P) : Prop :=
  (head :: nodes).Nodup ∧ (head :: (nodes ++ [head])).IsChain links.Linked

variable {links : Links P}

/-- A chain depends on the forward links of all its nodes but the last, and on the
backward links of all but the first. -/
theorem chain_congr {other : Links P} {path : List P} (chain : path.IsChain links.Linked)
    (sameNext : ∀ node ∈ path.dropLast, other.next node = links.next node)
    (samePrev : ∀ node ∈ path.tail, other.prev node = links.prev node) :
    path.IsChain other.Linked := by
  induction chain with
  | nil => exact .nil
  | singleton node => exact .singleton node
  | @cons_cons first second rest linked _ ih =>
      refine .cons_cons ⟨?_, ?_⟩ (ih ?_ ?_)
      · rw [sameNext first (by simp), linked.1]
      · rw [samePrev second (by simp), linked.2]
      · intro node isMem
        exact sameNext node (by rw [List.dropLast_cons_cons]; exact List.mem_cons_of_mem _ isMem)
      · intro node isMem
        exact samePrev node (List.mem_cons_of_mem _ isMem)

/-- A head that is linked to itself is an empty ring. -/
theorem ring_nil {head : P} (next : links.next head = some head)
    (prev : links.prev head = some head) : links.Ring head [] :=
  ⟨List.nodup_singleton head, .cons_cons ⟨next, prev⟩ (.singleton head)⟩

variable {head : P} {nodes more : List P}

/-- A ring at a place: the node before, the node after, and the chains up to them. -/
theorem Ring.neighbours (ring : links.Ring head (nodes ++ more)) {pos : P} {rest : List P}
    (place : more ++ [head] = pos :: rest) :
    ∃ init before, head :: nodes = init ++ [before] ∧
      (init ++ [before]).IsChain links.Linked ∧ links.Linked before pos ∧
      (pos :: rest).IsChain links.Linked := by
  obtain ⟨init, before, last⟩ : ∃ init before, head :: nodes = init ++ [before] :=
    ⟨_, _, (List.dropLast_append_getLast (List.cons_ne_nil head nodes)).symm⟩
  have path : head :: (nodes ++ more ++ [head]) = init ++ before :: pos :: rest := by
    rw [List.append_assoc, ← List.cons_append, last, place, List.append_assoc,
      List.singleton_append]
  have chain := ring.2
  rw [path, List.isChain_append_cons_cons] at chain
  exact ⟨init, before, last, chain⟩

/-- Changes to a node outside the ring and to the links between the neighbours at a place
keep the chains up to the neighbours. -/
theorem sides_congr {other : Links P} {init rest : List P} {before node pos : P}
    (last : head :: nodes = init ++ [before]) (place : more ++ [head] = pos :: rest)
    (nodup : ((head :: nodes) ++ more).Nodup) (outside : node ∉ head :: (nodes ++ more))
    (sameNext : ∀ p, p ≠ node → p ≠ before → other.next p = links.next p)
    (samePrev : ∀ p, p ≠ node → p ≠ pos → other.prev p = links.prev p)
    (left : (init ++ [before]).IsChain links.Linked) (right : (pos :: rest).IsChain links.Linked) :
    (init ++ [before]).IsChain other.Linked ∧ (pos :: rest).IsChain other.Linked := by
  have placeNodup : (pos :: rest).Nodup := by
    rw [← place]
    grind
  have isBefore : before ∈ head :: nodes := by simp [last]
  have isPos : pos ∈ more ++ [head] := by simp [place]
  refine ⟨chain_congr left ?_ ?_, chain_congr right ?_ ?_⟩
  · intro p isMem
    rw [List.dropLast_concat] at isMem
    exact sameNext p (by grind) (by grind)
  · intro p isMem
    rw [← last, List.tail_cons] at isMem
    exact samePrev p (by grind) (by grind)
  · intro p isMem
    rw [← place, List.dropLast_concat] at isMem
    exact sameNext p (by grind) (by grind)
  · intro p isMem
    rw [List.tail_cons] at isMem
    exact samePrev p (by grind) (by grind)

/-- The first node of a ring, or its head. -/
theorem Ring.next_head (ring : links.Ring head nodes) :
    links.next head = (nodes ++ [head]).head? := by
  have chain := ring.2
  cases nodes with
  | nil => exact (List.isChain_cons_cons.mp chain).1.1
  | cons first rest => exact (List.isChain_cons_cons.mp chain).1.1

/-- The node behind a node of a ring, or its head. -/
theorem Ring.next_node {node : P} (ring : links.Ring head (nodes ++ node :: more)) :
    links.next node = (more ++ [head]).head? := by
  obtain ⟨after, rest, place⟩ : ∃ after rest, more ++ [head] = after :: rest :=
    List.exists_cons_of_ne_nil (by simp)
  obtain ⟨_, _, _, _, _, right⟩ :=
    @Ring.neighbours _ links head nodes (node :: more) ring node (after :: rest) (by simp [place])
  rw [place]
  exact (List.isChain_cons_cons.mp right).1.1

theorem Ring.next_ne_none (ring : links.Ring head nodes) {node : P}
    (isMem : node ∈ head :: nodes) :
    links.next node ≠ none := by
  rw [List.mem_cons] at isMem
  rcases isMem with rfl | inNodes
  · rw [ring.next_head]
    simp
  · obtain ⟨before, after, rfl⟩ := List.append_of_mem inNodes
    rw [ring.next_node]
    simp

/-- A ring depends only on the links of its nodes and its head. -/
theorem Ring.congr {other : Links P} (ring : links.Ring head nodes)
    (same : ∀ node ∈ head :: nodes, other.next node = links.next node ∧
      other.prev node = links.prev node) : other.Ring head nodes := by
  refine ⟨ring.1, chain_congr ring.2 ?_ ?_⟩
  · intro node isMem
    rw [← List.cons_append, List.dropLast_concat] at isMem
    exact (same node isMem).1
  · intro node isMem
    rw [List.tail_cons, List.mem_append, List.mem_singleton] at isMem
    refine (same node ?_).2
    rw [List.mem_cons]
    tauto

end Rings

/-! ## Operations -/

section Operations

variable {P : Type u} [DecidableEq P]

def setNext (node : P) (target : Option P) (links : Links P) : Links P :=
  { links with next := Function.update links.next node target }

def setPrev (node : P) (target : Option P) (links : Links P) : Links P :=
  { links with prev := Function.update links.prev node target }

/-- Put a node before another; `none` when a null pointer is followed. -/
def insertBefore (node pos : P) (links : Links P) : Option (Links P) :=
  let links := links.setNext node (some pos)
  let links := links.setPrev node (links.prev pos)
  match links.prev node with
  | none => none
  | some before => some ((links.setNext before (some node)).setPrev pos (some node))

/-- Take a node out and clear its links; `none` when a null pointer is followed. -/
def remove (node : P) (links : Links P) : Option (Links P) := do
  let after ← links.next node
  let links := links.setPrev after (links.prev node)
  let before ← links.prev node
  let links := links.setNext before (links.next node)
  some ((links.setNext node none).setPrev node none)

variable {links : Links P}

/-- An insertion between two neighbours. -/
theorem insertBefore_of_linked {before node pos : P} (gap : links.Linked before pos)
    (notBefore : node ≠ before) (notAfter : node ≠ pos) :
    ∃ inserted, links.insertBefore node pos = some inserted ∧
      (inserted.Linked before node ∧ inserted.Linked node pos) ∧
      (∀ other, other ≠ node → other ≠ before → inserted.next other = links.next other) ∧
      ∀ other, other ≠ node → other ≠ pos → inserted.prev other = links.prev other := by
  refine ⟨((links.setNext node (some pos)).setPrev node (some before)).setNext before (some node)
    |>.setPrev pos (some node), ?_, ⟨⟨?_, ?_⟩, ?_, ?_⟩, ?_, ?_⟩
  · simp [insertBefore, setNext, setPrev, gap.2]
  · simp [setNext, setPrev]
  · simp [setNext, setPrev, notAfter]
  · simp [setNext, setPrev, notBefore]
  · simp [setNext, setPrev]
  · intro other notNode otherBefore
    simp [setNext, setPrev, notNode, otherBefore]
  · intro other notNode otherPos
    simp [setNext, setPrev, notNode, otherPos]

/-- A removal from between two neighbours. -/
theorem remove_of_linked {before node after : P} (left : links.Linked before node)
    (right : links.Linked node after) (notBefore : node ≠ before) (notAfter : node ≠ after) :
    ∃ removed, links.remove node = some removed ∧ removed.Linked before after ∧
      (removed.next node = none ∧ removed.prev node = none) ∧
      (∀ other, other ≠ node → other ≠ before → removed.next other = links.next other) ∧
      ∀ other, other ≠ node → other ≠ after → removed.prev other = links.prev other := by
  refine ⟨((links.setPrev after (some before)).setNext before (some after)).setNext node none
    |>.setPrev node none, ?_, ⟨?_, ?_⟩, ⟨?_, ?_⟩, ?_, ?_⟩
  · simp [remove, setNext, setPrev, left.2, right.1, notAfter]
  · simp [setNext, setPrev, notBefore.symm]
  · simp [setNext, setPrev, notAfter.symm]
  · simp [setNext, setPrev]
  · simp [setNext, setPrev]
  · intro other notNode otherBefore
    simp [setNext, setPrev, notNode, otherBefore]
  · intro other notNode otherAfter
    simp [setNext, setPrev, notNode, otherAfter]

variable {head : P} {nodes more : List P}

/-- An insertion before the node at a place. -/
theorem Ring.insertBefore (ring : links.Ring head (nodes ++ more)) {pos : P} {rest : List P}
    (place : more ++ [head] = pos :: rest) {node : P} (fresh : node ∉ head :: (nodes ++ more)) :
    ∃ inserted, links.insertBefore node pos = some inserted ∧
      inserted.Ring head (nodes ++ node :: more) ∧
      SameOutside (node :: head :: (nodes ++ more)) links inserted := by
  obtain ⟨init, before, last, left, gap, right⟩ := ring.neighbours place
  have nodup : ((head :: nodes) ++ more).Nodup := ring.1
  have isBefore : before ∈ head :: nodes := by simp [last]
  have isPos : pos ∈ more ++ [head] := by simp [place]
  obtain ⟨inserted, is, ⟨toNode, fromNode⟩, sameNext, samePrev⟩ :=
    insertBefore_of_linked gap (by grind : node ≠ before) (by grind : node ≠ pos)
  obtain ⟨left, right⟩ := sides_congr last place nodup fresh sameNext samePrev left right
  refine ⟨inserted, is, ⟨?_, ?_⟩, ?_⟩
  · rw [← List.cons_append, List.nodup_middle, List.nodup_cons]
    exact ⟨fresh, nodup⟩
  · have path : head :: (nodes ++ node :: more ++ [head]) =
        init ++ before :: node :: pos :: rest := by
      rw [List.append_assoc, List.cons_append, place, ← List.cons_append, last,
        List.append_assoc, List.singleton_append]
    rw [path, List.isChain_append_cons_cons, List.isChain_cons_cons]
    exact ⟨left, toNode, fromNode, right⟩
  · intro p outside
    exact ⟨sameNext p (by grind) (by grind), samePrev p (by grind) (by grind)⟩

/-- A removal of the node at a place. -/
theorem Ring.remove {node : P} (ring : links.Ring head (nodes ++ node :: more)) :
    ∃ removed, links.remove node = some removed ∧ removed.Ring head (nodes ++ more) ∧
      (removed.next node = none ∧ removed.prev node = none) ∧
      SameOutside (head :: (nodes ++ node :: more)) links removed := by
  obtain ⟨after, rest, place⟩ : ∃ after rest, more ++ [head] = after :: rest :=
    List.exists_cons_of_ne_nil (by simp)
  obtain ⟨init, before, last, left, toNode, right⟩ :=
    @Ring.neighbours _ links head nodes (node :: more) ring node (after :: rest) (by simp [place])
  obtain ⟨fromNode, right⟩ := List.isChain_cons_cons.mp right
  have nodup := ring.1
  rw [← List.cons_append, List.nodup_middle, List.nodup_cons] at nodup
  obtain ⟨outside, nodup⟩ := nodup
  have isBefore : before ∈ head :: nodes := by simp [last]
  have isAfter : after ∈ more ++ [head] := by simp [place]
  obtain ⟨removed, is, joined, cleared, sameNext, samePrev⟩ :=
    remove_of_linked toNode fromNode (by grind : node ≠ before) (by grind : node ≠ after)
  obtain ⟨left, right⟩ := sides_congr last place nodup outside sameNext samePrev left right
  refine ⟨removed, is, ⟨nodup, ?_⟩, cleared, ?_⟩
  · have path : head :: (nodes ++ more ++ [head]) = init ++ before :: after :: rest := by
      rw [List.append_assoc, ← List.cons_append, last, place, List.append_assoc,
        List.singleton_append]
    rw [path, List.isChain_append_cons_cons]
    exact ⟨left, joined, right⟩
  · intro p notMem
    exact ⟨sameNext p (by grind) (by grind), samePrev p (by grind) (by grind)⟩

end Operations

end Links

end X3Hal.Memory
