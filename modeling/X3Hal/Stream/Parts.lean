import Mathlib.Data.List.Basic

/-!
# Groups sent in numbered parts

A group of items is sent in parts that carry their number and the number of parts.
A receiver puts the items of the parts in hand together, and takes them over when the
last part arrives.  The first part of a group throws away what is in hand, so a group
whose last part is missing leaves nothing behind.
-/

namespace X3Hal.Stream

universe u

/-- A part of a group, with the number of items the whole group announces. -/
structure Part (α : Type u) where
  seq : Nat
  num : Nat
  count : Nat
  items : List α

/-- The items of the groups taken over, and those of the group in hand. -/
structure Assembly (α : Type u) where
  done : List α
  hand : Option (List α)

variable {α : Type u}

namespace Assembly

/-- The items in hand with those of a part. -/
def handWith (assembly : Assembly α) (part : Part α) : List α :=
  (if part.seq = 1 then [] else assembly.hand.getD []) ++ part.items

/-- Receive a part. -/
def add (assembly : Assembly α) (part : Part α) : Assembly α :=
  if part.seq = part.num then ⟨assembly.done ++ assembly.handWith part, none⟩
  else ⟨assembly.done, some (assembly.handWith part)⟩

/-- A part begins a group or continues the one in hand, and a group that it completes
has no more items than announced and fits the capacity. -/
structure Accepts (capacity : Nat) (assembly : Assembly α) (part : Part α) : Prop where
  inOrder : part.seq = 1 ∨ assembly.hand.isSome
  announced : part.seq = part.num → (assembly.handWith part).length ≤ part.count
  room : (assembly.add part).done.length ≤ capacity

/-- Every one of the parts is acceptable when it arrives. -/
def AcceptsAll (capacity : Nat) : Assembly α → List (Part α) → Prop
  | _, [] => True
  | assembly, part :: parts =>
      assembly.Accepts capacity part ∧ AcceptsAll capacity (assembly.add part) parts

theorem acceptsAll_append {capacity : Nat} {assembly : Assembly α} {parts more : List (Part α)} :
    assembly.AcceptsAll capacity (parts ++ more) ↔
      assembly.AcceptsAll capacity parts ∧
        (parts.foldl add assembly).AcceptsAll capacity more := by
  induction parts generalizing assembly with
  | nil => simp [AcceptsAll]
  | cons part parts ih => simp [AcceptsAll, ih, and_assoc]

theorem add_last (assembly : Assembly α) {part : Part α} (last : part.seq = part.num) :
    assembly.add part = ⟨assembly.done ++ assembly.handWith part, none⟩ :=
  if_pos last

theorem add_earlier (assembly : Assembly α) {part : Part α} (earlier : part.seq ≠ part.num) :
    assembly.add part = ⟨assembly.done, some (assembly.handWith part)⟩ :=
  if_neg earlier

end Assembly

/-! ## Groups -/

/-- Consecutive parts of a group of `num` parts, from a given number. -/
def Numbered (num : Nat) : Nat → List (Part α) → Prop
  | _, [] => True
  | seq, part :: parts => part.seq = seq ∧ part.num = num ∧ Numbered num (seq + 1) parts

/-- The items of the parts. -/
def partItems (parts : List (Part α)) : List α :=
  parts.flatMap Part.items

@[simp]
theorem partItems_nil : partItems ([] : List (Part α)) = [] :=
  rfl

@[simp]
theorem partItems_cons (part : Part α) (parts : List (Part α)) :
    partItems (part :: parts) = part.items ++ partItems parts :=
  rfl

namespace Assembly

/-- The items that the next parts of a group are put behind: none before the first. -/
def Behind (assembly : Assembly α) (seq : Nat) (held : List α) : Prop :=
  if seq = 1 then held = [] else assembly.hand = some held

theorem handWith_of_behind {assembly : Assembly α} {part : Part α} {held : List α}
    (behind : assembly.Behind part.seq held) : assembly.handWith part = held ++ part.items := by
  unfold Behind at behind
  unfold handWith
  split at behind
  · rename_i first
    rw [if_pos first, behind]
  · rename_i later
    rw [if_neg later, behind]
    rfl

theorem inOrder_of_behind {assembly : Assembly α} {seq : Nat} {held : List α}
    (behind : assembly.Behind seq held) : seq = 1 ∨ assembly.hand.isSome := by
  unfold Behind at behind
  split at behind
  · exact .inl ‹_›
  · exact .inr (by rw [behind]; rfl)

/-- The rest of a group is received: it is taken over when it ends with the last part. -/
theorem receive_rest {capacity num : Nat} {parts : List (Part α)} {seq : Nat} {held : List α}
    {assembly : Assembly α} (positive : 0 < seq) (behind : assembly.Behind seq held)
    (numbered : Numbered num seq parts) (within : seq + parts.length ≤ num + 1)
    (announced : ∀ part ∈ parts, (held ++ partItems parts).length ≤ part.count)
    (fits : assembly.done.length ≤ capacity)
    (room : seq + parts.length = num + 1 →
      (assembly.done ++ held ++ partItems parts).length ≤ capacity) :
    assembly.AcceptsAll capacity parts ∧
      (parts ≠ [] → (parts.foldl add assembly).done =
        if seq + parts.length = num + 1 then assembly.done ++ held ++ partItems parts
        else assembly.done) := by
  induction parts generalizing seq held assembly with
  | nil => exact ⟨trivial, fun notNil => absurd rfl notNil⟩
  | cons part parts ih =>
      obtain ⟨seqEq, numEq, numberedRest⟩ := numbered
      have hand : assembly.handWith part = held ++ part.items :=
        handWith_of_behind (by rw [seqEq]; exact behind)
      rw [List.length_cons] at within room
      have inOrder : part.seq = 1 ∨ assembly.hand.isSome := by
        rw [seqEq]
        exact inOrder_of_behind behind
      cases parts with
      | nil =>
          by_cases last : seq = num
          · have closes : part.seq = part.num := by rw [seqEq, numEq, last]
            have whole := room (by rw [last]; rfl)
            simp only [partItems_cons, partItems_nil, List.append_nil, List.append_assoc] at whole
            refine ⟨⟨⟨inOrder, fun _ => ?_, ?_⟩, trivial⟩, fun _ => ?_⟩
            · rw [hand]
              simpa using announced part List.mem_cons_self
            · rw [add_last assembly closes, hand]
              exact whole
            · rw [List.foldl_cons, List.foldl_nil, add_last assembly closes, hand,
                if_pos (by rw [last]; rfl)]
              simp
          · have continues : part.seq ≠ part.num := by rw [seqEq, numEq]; exact last
            refine ⟨⟨⟨inOrder, fun closes => absurd closes continues, ?_⟩, trivial⟩, fun _ => ?_⟩
            · rw [add_earlier assembly continues]
              exact fits
            · rw [List.foldl_cons, List.foldl_nil, add_earlier assembly continues, if_neg]
              simp only [List.length_cons, List.length_nil]
              omega
      | cons next rest =>
          rw [List.length_cons] at within room
          have continues : part.seq ≠ part.num := by rw [seqEq, numEq]; omega
          have added := add_earlier assembly continues
          rw [hand] at added
          have behindNext : (assembly.add part).Behind (seq + 1) (held ++ part.items) := by
            rw [Behind, if_neg (by omega), added]
          have receivedNext := ih (Nat.succ_pos seq) behindNext numberedRest
            (by rw [List.length_cons]; omega)
            (fun other member => by
              have bound := announced other (List.mem_cons_of_mem part member)
              rwa [partItems_cons, ← List.append_assoc] at bound)
            (by rw [added]; exact fits)
            (fun whole => by
              have bound := room (by rw [List.length_cons] at whole; omega)
              rw [added]
              rwa [partItems_cons, ← List.append_assoc, List.append_assoc assembly.done] at bound)
          refine ⟨⟨⟨inOrder, fun closes => absurd closes continues, ?_⟩, receivedNext.1⟩,
            fun _ => ?_⟩
          · rw [added]
            exact fits
          · rw [List.foldl_cons, receivedNext.2 (List.cons_ne_nil _ _), added]
            simp only [List.length_cons, partItems_cons, List.append_assoc]
            have same : seq + 1 + (rest.length + 1) = num + 1 ↔
                seq + (rest.length + 1 + 1) = num + 1 := by omega
            simp only [same]

/-- A group received from its first part is taken over when no part is missing, and
leaves nothing behind when its last parts are. -/
theorem receive_group {capacity num : Nat} {parts : List (Part α)} {assembly : Assembly α}
    (positive : 0 < num) (numbered : Numbered num 1 parts) (within : parts.length ≤ num)
    (announced : ∀ part ∈ parts, (partItems parts).length ≤ part.count)
    (fits : assembly.done.length ≤ capacity)
    (room : parts.length = num → (assembly.done ++ partItems parts).length ≤ capacity) :
    assembly.AcceptsAll capacity parts ∧
      (parts.foldl add assembly).done =
        if parts.length = num then assembly.done ++ partItems parts else assembly.done := by
  have whole : 1 + parts.length = num + 1 ↔ parts.length = num := by omega
  have behind : assembly.Behind 1 [] := by rw [Behind, if_pos rfl]
  have received := receive_rest Nat.one_pos behind numbered (by omega) announced fits
    (fun last => by simpa using room (whole.mp last))
  refine ⟨received.1, ?_⟩
  cases parts with
  | nil =>
      rw [List.length_nil, if_neg (Nat.ne_of_lt positive)]
      rfl
  | cons part parts =>
      rw [received.2 (List.cons_ne_nil _ _)]
      simp only [whole, List.append_nil]

end Assembly

end X3Hal.Stream
