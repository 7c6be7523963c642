import X3Hal.Ril.QueuedBuffer

/-!
# Direct and queued requests

The flat copy of a buffer is as good as the buffer exactly when whatever its pointers reach is
on the heap and is released by the switch of `clearPendingBuffer`.
-/

namespace X3Hal.Ril

open X3Hal.Memory

/-! ## What a switch of `clearPendingBuffer` frees -/

theorem fieldPointer_append {cells : List Cell} {i : Nat} {target : Option Pointer}
    (points : fieldPointer cells i = some target) (beyond : List Cell) :
    fieldPointer (cells ++ beyond) i = some target := by
  unfold fieldPointer at points ⊢
  by_cases below : i < cells.length
  · rw [List.getElem?_append_left below]
    exact points
  · rw [List.getElem?_eq_none (Nat.le_of_not_lt below)] at points
    cases points

theorem mem_of_fieldPointer {cells : List Cell} {i : Nat} {target : Option Pointer}
    (points : fieldPointer cells i = some target) : .pointer target ∈ cells := by
  unfold fieldPointer at points
  split at points
  case h_1 found =>
    cases points
    exact List.mem_of_getElem? found
  case h_2 => cases points

section Picked

variable {cells : List Cell} {picks : List Nat} {targets : List (Option Pointer)}

theorem picked_append (picked : picks.mapM (fieldPointer cells) = some targets)
    (beyond : List Cell) : picks.mapM (fieldPointer (cells ++ beyond)) = some targets := by
  induction picks generalizing targets with
  | nil => exact picked
  | cons pick rest ih =>
      rw [List.mapM_cons] at picked ⊢
      simp only [Option.bind_eq_bind, Option.bind_eq_some_iff] at picked ⊢
      obtain ⟨target, first, later, others, same⟩ := picked
      cases same
      exact ⟨target, fieldPointer_append first beyond, later, ih others, rfl⟩

theorem mem_of_picked (picked : picks.mapM (fieldPointer cells) = some targets)
    {target : Option Pointer} (occurs : target ∈ targets) : .pointer target ∈ cells := by
  induction picks generalizing targets with
  | nil =>
      cases picked
      cases occurs
  | cons pick rest ih =>
      rw [List.mapM_cons] at picked
      simp only [Option.bind_eq_bind, Option.bind_eq_some_iff] at picked
      obtain ⟨first, found, later, others, same⟩ := picked
      cases same
      rcases List.mem_cons.mp occurs with rfl | among
      · exact mem_of_fieldPointer found
      · exact ih others among

end Picked

/-- `freeFields` of a structure that can be read. -/
theorem freeFields_eq {store : Store} {struct : Pointer} {cells : List Cell}
    {picks : List Nat} {targets : List (Option Pointer)}
    (loaded : store.load struct = some cells)
    (picked : picks.mapM (fieldPointer cells) = some targets) :
    freeFields store (some struct) picks = store.freeAll targets := by
  simp only [freeFields, Option.bind_some, loaded, picked]

/-- No cell of the store points to a block. -/
def Unreferenced (store : Store) (block : Nat) : Prop :=
  ∀ segment ∈ store.segments, ∀ cells ∈ segment.elements, ∀ cell ∈ cells, ∀ next,
    cell.target = some next → next.block ≠ block

section Kept

variable {store after : Store} {block : Nat}

theorem Unreferenced.of_load (unreferenced : Unreferenced store block) {pointer : Pointer}
    {cells : List Cell} (loaded : store.load pointer = some cells) {next : Pointer}
    (occurs : .pointer (some next) ∈ cells) : next.block ≠ block := by
  rw [Store.load] at loaded
  split at loaded
  case isTrue =>
    rw [Option.bind_eq_some_iff] at loaded
    obtain ⟨segment, found, element⟩ := loaded
    exact unreferenced segment (List.mem_of_getElem? found) cells (List.mem_of_getElem? element)
      _ occurs next rfl
  case isFalse => cases loaded

theorem freeFields_keeps (unreferenced : Unreferenced store block) {struct : Option Pointer}
    {picks : List Nat} (frees : freeFields store struct picks = some after) :
    after.segments = store.segments ∧ after.state block = store.state block := by
  simp only [freeFields, Option.bind_eq_some_iff] at frees
  obtain ⟨cells, ⟨pointer, -, loaded⟩, targets, picked, freed⟩ := frees
  apply Store.state_of_freeAll freed
  intro among
  obtain ⟨pointer, occurs, same⟩ := List.mem_map.mp among
  obtain ⟨target, inTargets, rfl⟩ := List.mem_filterMap.mp occurs
  exact unreferenced.of_load loaded (mem_of_picked picked inTargets) same

/-- The structure behind a pointer cell is freed after its strings. -/
theorem freeStruct_keeps (unreferenced : Unreferenced store block) {buf : Option Pointer}
    {cells : List Cell} (loaded : buf.bind store.load = some cells) {i : Nat}
    {struct : Option Pointer} (points : fieldPointer cells i = some struct) {picks : List Nat}
    {middle : Store} (fields : freeFields store struct picks = some middle)
    (frees : middle.free struct = some after) :
    after.segments = store.segments ∧ after.state block = store.state block := by
  rcases freeFields_keeps unreferenced fields with ⟨segments, state⟩
  obtain ⟨pointer, -, found⟩ := Option.bind_eq_some_iff.mp loaded
  have single : middle.freeAll [struct] = some after := by
    rw [Store.freeAll, frees]
    rfl
  have outside : block ∉ Store.freed [struct] := by
    cases struct with
    | none => simp
    | some next =>
        rw [Store.freed_some, Store.freed_nil, List.mem_singleton]
        intro same
        exact unreferenced.of_load found (mem_of_fieldPointer points) same.symm
  rcases Store.state_of_freeAll single outside with ⟨later, kept⟩
  exact ⟨later.trans segments, kept.trans state⟩

theorem freeProfile_keeps (unreferenced : Unreferenced store block) {buf : Option Pointer}
    {i : Nat} (frees : freeProfile buf store i = some after) :
    after.segments = store.segments ∧ after.state block = store.state block := by
  simp only [freeProfile, Option.bind_eq_some_iff] at frees
  obtain ⟨cells, loaded, profile, points, middle, fields, last⟩ := frees
  exact freeStruct_keeps unreferenced (Option.bind_eq_some_iff.mpr loaded) points fields last

theorem freeProfiles_keeps (unreferenced : Unreferenced store block) {buf : Option Pointer}
    {rounds : List Nat} (frees : rounds.foldlM (freeProfile buf) store = some after) :
    after.segments = store.segments ∧ after.state block = store.state block := by
  induction rounds generalizing store with
  | nil =>
      cases frees
      exact ⟨rfl, rfl⟩
  | cons i rest ih =>
      rw [List.foldlM_cons] at frees
      obtain ⟨middle, first, later⟩ := Option.bind_eq_some_iff.mp frees
      rcases freeProfile_keeps unreferenced first with ⟨segments, state⟩
      have stays : Unreferenced middle block := by
        rw [Unreferenced, segments]
        exact unreferenced
      rcases ih stays later with ⟨segmentsLater, stateLater⟩
      exact ⟨segmentsLater.trans segments, stateLater.trans state⟩

/-- But for a single string, the switch frees what some cell points to, never the buffer. -/
theorem clearPendingBuffer_keeps (unreferenced : Unreferenced store block) {bf : BufFormat}
    (notString : bf ≠ .str) {buf : Option Pointer} {buflen : Nat}
    (clears : clearPendingBuffer bf buf buflen store = some after) :
    after.segments = store.segments ∧ after.state block = store.state block := by
  cases bf with
  | str => exact absurd rfl notString
  | imsSms =>
      simp only [clearPendingBuffer, Option.bind_eq_some_iff] at clears
      obtain ⟨cells, loaded, struct, points, middle, fields, last⟩ := clears
      exact freeStruct_keeps unreferenced (Option.bind_eq_some_iff.mpr loaded) points fields last
  | dataProf => exact freeProfiles_keeps unreferenced clears
  | ints | ignore | void | raw =>
      cases clears
      exact ⟨rfl, rfl⟩
  | strs | callFwSt | iccApdu | simIo | wrSmsSim | attchApn | simAuth =>
      exact freeFields_keeps unreferenced clears

end Kept

/-! ## The two paths of a buffer -/

theorem vendorView_of_ne {bf : BufFormat} (notString : bf ≠ .str) (buf : Option Pointer)
    {buflen : Nat} (size : buflen ≠ 0) (store : Store) :
    vendorView bf buf buflen store =
      ((buf.bind store.load).bind (takeBytes buflen)).map fun cells =>
        cells.flatMap (store.tokens 3) := by
  cases bf with
  | str => exact absurd rfl notString
  | _ => simp only [vendorView, if_neg size]

section Block

variable {cells taken : List Cell} {place : Place} {buflen : Nat} {bf : BufFormat}
  {store : Store}

/-- The store at the call. -/
def called (place : Place) (cells : List Cell) (store : Store) : Store :=
  store.push ⟨place, [cells]⟩

/-- The store when `my_dequeue` runs, with the entry and the copy of the buffer. -/
def dequeued (place : Place) (cells taken : List Cell) (store : Store) : Store :=
  (((called place cells store).push ⟨.heap, []⟩).push ⟨.heap, [taken]⟩).leaveFrame

/-- The entry of the queue. -/
def entryPointer (store : Store) : Pointer :=
  ⟨store.segments.length + 1, 0⟩

/-- The copy of the buffer. -/
def copyPointer (store : Store) : Pointer :=
  ⟨store.segments.length + 2, 0⟩

theorem segments_dequeued (place : Place) (cells taken : List Cell) (store : Store) :
    (dequeued place cells taken store).segments =
      store.segments ++ [⟨place, [cells]⟩, ⟨.heap, []⟩, ⟨.heap, [taken]⟩] := by
  simp [dequeued, called, Store.push, Store.leaveFrame]

theorem load_dequeued_copy (place : Place) (cells taken : List Cell) (store : Store) :
    (dequeued place cells taken store).load (copyPointer store) = some taken := by
  have top : copyPointer store = ((called place cells store).push ⟨.heap, []⟩).top := by
    simp [copyPointer, called, Store.push, Store.top]
  rw [dequeued, Store.load_leaveFrame_of_heap, top]
  · exact Store.load_push_top ..
  · simp [copyPointer, called, Store.push]

/-- What a request's buffer points to on the heap is there when it is dequeued. -/
theorem load_dequeued_of_lt {pointer : Pointer} (below : pointer.block < store.segments.length)
    (heap : (store.segments[pointer.block]?).map Segment.place = some .heap) :
    (dequeued place cells taken store).load pointer = store.load pointer := by
  rw [dequeued, Store.load_leaveFrame_of_heap]
  · rw [Store.load_push_of_lt, Store.load_push_of_lt, called, Store.load_push_of_lt _ below]
    · simp only [called, Store.push, List.length_append, List.length_singleton]
      omega
    · simp only [called, Store.push, List.length_append, List.length_singleton]
      omega
  · simp only [called, Store.push, List.append_assoc]
    rw [List.getElem?_append_left below]
    exact heap

theorem direct_enqueueBlock (notString : bf ≠ .str) (size : buflen ≠ 0) :
    (enqueueBlock place cells buflen bf store).direct =
      (takeBytes buflen cells).bind fun taken =>
        (clearPendingBuffer bf (some store.top) buflen (called place cells store)).map
          fun after => (taken.flatMap ((called place cells store).tokens 3), after) := by
  have loaded : (called place cells store).load store.top = some cells :=
    Store.load_push_top ..
  show (vendorView bf (some store.top) buflen (called place cells store)).bind _ = _
  rw [vendorView_of_ne notString _ size, Option.bind_some, loaded, Option.bind_some,
    Option.bind_map]
  rfl

/-- The queued path reads the copy, frees what it points to, the copy and the entry. -/
theorem queued_enqueueBlock (notString : bf ≠ .str) (notVoid : bf ≠ .void)
    (size : buflen ≠ 0) :
    (enqueueBlock place cells buflen bf store).queued =
      (takeBytes buflen cells).bind fun taken =>
        ((clearPendingBuffer bf (some (copyPointer store)) buflen
          (dequeued place cells taken store)).bind fun after =>
            after.freeAll [some (copyPointer store), some (entryPointer store)]).map
          fun after => (taken.flatMap ((dequeued place cells taken store).tokens 3), after) := by
  have loaded : (called place cells store).load store.top = some cells :=
    Store.load_push_top ..
  have copied : (enqueueBlock place cells buflen bf store).queue =
      (takeBytes buflen cells).map fun copy => (some (copyPointer store),
        ((called place cells store).push ⟨.heap, []⟩).push ⟨.heap, [copy]⟩) := by
    have top : copyPointer store = ((called place cells store).push ⟨.heap, []⟩).top := by
      simp [copyPointer, called, Store.push, Store.top]
    rw [top, EnqueueCall.queue]
    rw [if_pos ⟨notVoid, size⟩]
    show (((some store.top).bind (called place cells store).load).bind _).map _ = _
    rw [Option.bind_some, loaded, Option.bind_some]
    rfl
  rw [EnqueueCall.queued, copied, Option.bind_map]
  cases took : takeBytes buflen cells with
  | none => rfl
  | some taken =>
      have entry : (enqueueBlock place cells buflen bf store).store.top = entryPointer store := by
        simp [enqueueBlock, entryPointer, Store.push, Store.top]
      show (vendorView bf (some (copyPointer store)) buflen
        (dequeued place cells taken store)).bind _ = _
      rw [vendorView_of_ne notString _ size, Option.bind_some, load_dequeued_copy,
        Option.bind_some, takeBytes_idem took, Option.map_some, Option.bind_some, entry]
      have filled : (enqueueBlock place cells buflen bf store).format ≠ .void ∧
          (enqueueBlock place cells buflen bf store).buflen ≠ 0 := ⟨notVoid, size⟩
      rw [if_pos filled]
      show Option.map _ (((clearPendingBuffer bf (some (copyPointer store)) buflen
        (dequeued place cells taken store)).bind _).bind _) = _
      rw [Option.bind_assoc]
      congr 2
      funext after
      simp only [Store.freeAll]
      congr 1
      funext later
      cases later.free (some (entryPointer store)) <;> rfl

/-- What a pointer of an owned store reaches is owned. -/
theorem OwnedStore.closed_load (owned : OwnedStore store) {pointer : Pointer}
    {loaded : List Cell} (found : store.load pointer = some loaded) :
    ∀ cell ∈ loaded, ∀ next, cell.target = some next → next.block < store.segments.length := by
  rw [Store.load] at found
  split at found
  case isTrue =>
    rw [Option.bind_eq_some_iff] at found
    obtain ⟨segment, atBlock, atElement⟩ := found
    exact owned.closed segment (List.mem_of_getElem? atBlock) loaded
      (List.mem_of_getElem? atElement)
  case isFalse => cases found

section Freed

variable {targets : List (Option Pointer)} (owned : OwnedStore store)
  (distinct : (Store.freed targets).Nodup)
  (freedIff : ∀ block, block ∈ Store.freed targets ↔ block < store.segments.length)
  (starts : ∀ pointer, some pointer ∈ targets → pointer.element = 0)

include owned distinct freedIff starts

/-- The direct path frees what the structure in the frame points to. -/
theorem freeAll_called (cells : List Cell) : ∃ after,
    (called .frame cells store).freeAll targets = some after ∧ after.Released := by
  have live : ∀ block < store.segments.length, ((called .frame cells store).segments[block]?).map
      Segment.place = some .heap ∧ (called .frame cells store).state block = .live := by
    intro block below
    constructor
    · simp only [called, Store.push]
      rw [List.getElem?_append_left below, List.getElem?_eq_getElem below, Option.map_some,
        owned.heap _ (List.getElem_mem below)]
    · rw [called, Store.state_push, if_neg (Nat.ne_of_lt below)]
      exact owned.live block below
  rcases Store.freeAll_eq distinct starts fun block occurs =>
    live block ((freedIff block).mp occurs) with ⟨after, frees, segments, gone, -⟩
  refine ⟨after, frees, ?_⟩
  intro block heap
  rw [segments] at heap
  apply gone
  rw [freedIff]
  by_contra beyond
  simp only [called, Store.push] at heap
  rw [List.getElem?_append_right (Nat.le_of_not_lt beyond)] at heap
  rcases Nat.eq_zero_or_pos (block - store.segments.length) with first | further
  · rw [first] at heap
    cases heap
  · rw [List.getElem?_eq_none (by simp only [List.length_singleton]; omega)] at heap
    cases heap

/-- The queued path frees the same blocks, the copy and the entry. -/
theorem freeAll_dequeued (cells taken : List Cell) : ∃ after,
    (dequeued .frame cells taken store).freeAll
      (targets ++ [some (copyPointer store), some (entryPointer store)]) = some after ∧
      after.Released := by
  have blocks : Store.freed (targets ++ [some (copyPointer store), some (entryPointer store)]) =
      Store.freed targets ++ [store.segments.length + 2, store.segments.length + 1] :=
    Store.freed_append ..
  have apart : (Store.freed (targets ++
      [some (copyPointer store), some (entryPointer store)])).Nodup := by
    rw [blocks, List.nodup_append]
    refine ⟨distinct, by simp, ?_⟩
    intro block occurs other among same
    have := (freedIff block).mp occurs
    simp only [List.mem_cons, List.not_mem_nil, or_false] at among
    omega
  have startsAll : ∀ pointer, some pointer ∈ targets ++
      [some (copyPointer store), some (entryPointer store)] → pointer.element = 0 := by
    intro pointer occurs
    rcases List.mem_append.mp occurs with old | new
    · exact starts pointer old
    · rcases List.mem_pair.mp new with same | same <;> cases same <;> rfl
  have places := segments_dequeued .frame cells taken store
  have heapIff : ∀ block,
      ((dequeued .frame cells taken store).segments[block]?).map Segment.place = some .heap ↔
        block < store.segments.length ∨ block = store.segments.length + 2 ∨
          block = store.segments.length + 1 := by
    intro block
    rw [places]
    rcases Nat.lt_or_ge block store.segments.length with below | beyond
    · rw [List.getElem?_append_left below, List.getElem?_eq_getElem below, Option.map_some,
        owned.heap _ (List.getElem_mem below)]
      simp [below]
    · obtain ⟨offset, rfl⟩ := Nat.exists_eq_add_of_le beyond
      rw [List.getElem?_append_right beyond, Nat.add_sub_cancel_left]
      match offset with
      | 0 | 1 | 2 => simp
      | further + 3 => simp
  have live : ∀ block, ((dequeued .frame cells taken store).segments[block]?).map
      Segment.place = some .heap → (dequeued .frame cells taken store).state block = .live := by
    intro block heap
    have kept : (dequeued .frame cells taken store).state block =
        (((called .frame cells store).push ⟨.heap, []⟩).push ⟨.heap, [taken]⟩).state block :=
      Store.state_leaveFrame_of_heap heap
    rw [kept, Store.state_push, Store.state_push, called, Store.state_push]
    simp only [Store.push, List.length_append, List.length_singleton]
    rcases (heapIff block).mp heap with below | rfl | rfl
    · rw [if_neg (by omega), if_neg (by omega), if_neg (by omega)]
      exact owned.live block below
    · rw [if_pos rfl]
    · rw [if_neg (by omega), if_pos rfl]
  have blockIff : ∀ block, block ∈ Store.freed (targets ++
      [some (copyPointer store), some (entryPointer store)]) ↔
        ((dequeued .frame cells taken store).segments[block]?).map Segment.place =
          some .heap := by
    intro block
    rw [blocks, heapIff, List.mem_append, freedIff, List.mem_pair]
  rcases Store.freeAll_eq apart startsAll fun block occurs =>
    have heap := (blockIff block).mp occurs
    ⟨heap, live block heap⟩ with ⟨after, frees, segments, gone, -⟩
  refine ⟨after, frees, ?_⟩
  intro block heap
  rw [segments] at heap
  exact gone block ((blockIff block).mpr heap)

end Freed

/-- A copy is as good as the buffer when its pointers reach owned blocks of the heap, and the
switch frees each of these once. -/
theorem queuedAsDirect_enqueueBlock (owned : OwnedStore store) (notString : bf ≠ .str)
    (notVoid : bf ≠ .void) (size : buflen ≠ 0) (took : takeBytes buflen cells = some taken)
    (inside : ∀ cell ∈ taken, ∀ next, cell.target = some next →
      next.block < store.segments.length)
    {targets : List (Option Pointer)}
    (clears : ∀ buf other loaded, other.load buf = some loaded → loaded = cells ∨ loaded = taken →
      (∀ pointer : Pointer, pointer.block < store.segments.length →
        other.load pointer = store.load pointer) →
      clearPendingBuffer bf (some buf) buflen other = other.freeAll targets)
    (once : (Store.freed targets).Perm (List.range store.segments.length))
    (starts : ∀ pointer, some pointer ∈ targets → pointer.element = 0) :
    (enqueueBlock .frame cells buflen bf store).QueuedAsDirect := by
  have onHeap : ∀ block < store.segments.length,
      (store.segments[block]?).map Segment.place = some .heap := by
    intro block below
    rw [List.getElem?_eq_getElem below, Option.map_some, owned.heap _ (List.getElem_mem below)]
  have freedIff : ∀ block, block ∈ Store.freed targets ↔ block < store.segments.length := by
    intro block
    rw [once.mem_iff, List.mem_range]
  have distinct : (Store.freed targets).Nodup := once.nodup_iff.mpr List.nodup_range
  have alikeCalled : ∀ pointer : Pointer, pointer.block < store.segments.length →
      (called .frame cells store).load pointer = store.load pointer :=
    fun pointer below => Store.load_push_of_lt _ below
  have alikeDequeued : ∀ pointer : Pointer, pointer.block < store.segments.length →
      (dequeued .frame cells taken store).load pointer = store.load pointer :=
    fun pointer below => load_dequeued_of_lt below (onHeap pointer.block below)
  have clearsDirect := clears store.top (called .frame cells store) cells
    (Store.load_push_top ..) (.inl rfl) alikeCalled
  have clearsQueued := clears (copyPointer store) (dequeued .frame cells taken store) taken
    (load_dequeued_copy ..) (.inr rfl) alikeDequeued
  have sameView : taken.flatMap ((dequeued .frame cells taken store).tokens 3) =
      taken.flatMap ((called .frame cells store).tokens 3) := by
    apply List.flatMap_congr
    intro cell occurs
    apply Store.tokens_congr fun block => block < store.segments.length
    · intro pointer below
      rw [alikeDequeued pointer below, alikeCalled pointer below]
    · intro pointer loaded below found inner among next target
      rw [alikeDequeued pointer below] at found
      exact owned.closed_load found inner among next target
    · exact inside cell occurs
  rcases freeAll_called owned distinct freedIff starts cells with
    ⟨atOnce, freesDirect, releasedDirect⟩
  rcases freeAll_dequeued owned distinct freedIff starts cells taken with
    ⟨later, freesQueued, releasedQueued⟩
  refine ⟨taken.flatMap ((called .frame cells store).tokens 3), atOnce, later, ?_, ?_,
    releasedDirect, releasedQueued⟩
  · rw [direct_enqueueBlock notString size, took, Option.bind_some, clearsDirect, freesDirect]
    rfl
  · rw [queued_enqueueBlock notString notVoid size, took, Option.bind_some, clearsQueued,
      ← Store.freeAll_append, freesQueued, sameView]
    rfl

end Block

/-! ## The structures -/

theorem Field.put_size {field : Field} (positive : field ≠ .pad 0) (store : Store) :
    0 < (field.put store).1.size := by
  cases field with
  | pad size =>
      apply Nat.pos_of_ne_zero
      rintro rfl
      exact positive rfl
  | _ => simp [put, Cell.size]

theorem putAll_size {fields : List Field} (positive : ∀ field ∈ fields, field ≠ .pad 0)
    (store : Store) : ∀ cell ∈ (putAll fields store).1, 0 < cell.size := by
  induction fields generalizing store with
  | nil => simp [putAll]
  | cons field rest ih =>
      intro cell occurs
      rcases List.mem_cons.mp occurs with rfl | later
      · exact Field.put_size (positive field List.mem_cons_self) store
      · exact ih
          (fun other among => positive other (List.mem_cons_of_mem field among)) _ cell later

/-- The blocks that a structure's fields allocate are in the store after it. -/
theorem putAll_below (fields : List Field) {store : Store} (owned : OwnedStore store) :
    ∀ cell ∈ (putAll fields store).1, ∀ next, cell.target = some next →
      next.block < (putAll fields store).2.segments.length := by
  intro cell occurs next target
  rcases putAll_spec fields owned with ⟨-, longer, blocks, -⟩
  have among : some next ∈ cellTargets (putAll fields store).1 := by
    rw [← target]
    exact List.mem_map_of_mem occurs
  have freed := Store.mem_freed_of_mem among
  rw [blocks, List.mem_range'_1] at freed
  omega

/-- A structure whose strings the switch picks: what `left` cuts off holds none of them. -/
theorem queuedAsDirect_enqueueStruct {fields : List Field} {left : Nat} {bf : BufFormat}
    {picks : List Nat} (taken beyond : List Cell) {targets : List (Option Pointer)}
    (switch : ∀ buf buflen store, clearPendingBuffer bf buf buflen store =
      freeFields store buf picks)
    (notString : bf ≠ .str) (notVoid : bf ≠ .void)
    (positive : ∀ field ∈ fields, field ≠ .pad 0)
    (parts : (putAll fields .empty).1 = taken ++ beyond) (cut : byteSize beyond = left)
    (notEmpty : taken ≠ [])
    (picked : picks.mapM (fieldPointer taken) = some targets)
    (all : (Store.freed targets).Perm (Store.freed (cellTargets (putAll fields .empty).1))) :
    (enqueueStruct fields left bf).QueuedAsDirect := by
  rcases putAll_spec fields ownedStore_empty with ⟨owned, -, blocks, starts⟩
  have sizes := putAll_size positive .empty
  rw [parts] at sizes
  have length : byteSize (putAll fields .empty).1 - left = byteSize taken := by
    rw [parts, byteSize_append, cut, Nat.add_sub_cancel]
  have some_bytes : byteSize taken ≠ 0 := by
    cases taken with
    | nil => exact absurd rfl notEmpty
    | cons first rest =>
        have := sizes first (by simp)
        simp only [byteSize, List.map_cons, List.sum_cons]
        omega
  have cellsPicked := picked_append picked beyond
  rw [← parts] at cellsPicked
  have once : (Store.freed targets).Perm
      (List.range (putAll fields .empty).2.segments.length) := by
    rw [blocks] at all
    rw [List.range_eq_range']
    exact all
  have inside : ∀ cell ∈ taken, ∀ next, cell.target = some next →
      next.block < (putAll fields .empty).2.segments.length := by
    intro cell occurs
    apply putAll_below fields ownedStore_empty
    rw [parts]
    exact List.mem_append_left beyond occurs
  have took : takeBytes (byteSize taken) (putAll fields .empty).1 = some taken := by
    rw [parts]
    exact takeBytes_byteSize taken beyond fun cell occurs =>
      sizes cell (List.mem_append_left beyond occurs)
  show (enqueueBlock .frame (putAll fields .empty).1 (byteSize (putAll fields .empty).1 - left) bf
    (putAll fields .empty).2).QueuedAsDirect
  rw [length]
  apply queuedAsDirect_enqueueBlock owned notString notVoid some_bytes took inside _ once
  · intro pointer occurs
    apply starts
    exact List.mem_map_of_mem (mem_of_picked cellsPicked occurs)
  · intro buf other loaded found which _
    rw [switch]
    apply freeFields_eq found
    rcases which with rfl | rfl
    · exact cellsPicked
    · exact picked

/-- The same for a structure that is copied as a whole. -/
theorem queuedAsDirect_wholeStruct {fields : List Field} {bf : BufFormat} {picks : List Nat}
    {targets : List (Option Pointer)}
    (switch : ∀ buf buflen store, clearPendingBuffer bf buf buflen store =
      freeFields store buf picks)
    (notString : bf ≠ .str) (notVoid : bf ≠ .void)
    (positive : ∀ field ∈ fields, field ≠ .pad 0) (notEmpty : (putAll fields .empty).1 ≠ [])
    (picked : picks.mapM (fieldPointer (putAll fields .empty).1) = some targets)
    (all : (Store.freed targets).Perm (Store.freed (cellTargets (putAll fields .empty).1))) :
    (enqueueStruct fields 0 bf).QueuedAsDirect :=
  queuedAsDirect_enqueueStruct _ [] switch notString notVoid positive (List.append_nil _).symm rfl
    notEmpty picked all

theorem queuedAsDirect_dispatchCallForwardStatus (status reason serviceClass toa : Int)
    (number : List UInt8) (timeSeconds : Int) :
    (dispatchCallForwardStatus status reason serviceClass toa number
      timeSeconds).QueuedAsDirect := by
  apply queuedAsDirect_wholeStruct (fun _ _ _ => rfl) (by decide) (by decide) (by simp)
    (by simp [putAll]) rfl
  exact .refl _

theorem queuedAsDirect_dispatchIccApdu (sessionid cla instruction p1 p2 p3 : Int)
    (data : List UInt8) :
    (dispatchIccApdu sessionid cla instruction p1 p2 p3 data).QueuedAsDirect := by
  apply queuedAsDirect_wholeStruct (fun _ _ _ => rfl) (by decide) (by decide) (by simp)
    (by simp [putAll]) rfl
  exact .refl _

theorem queuedAsDirect_iccIOForApp (command fileid : Int) (path : List UInt8) (p1 p2 p3 : Int)
    (data pin2 aid : List UInt8) :
    (iccIOForApp command fileid path p1 p2 p3 data pin2 aid).QueuedAsDirect := by
  apply queuedAsDirect_wholeStruct (fun _ _ _ => rfl) (by decide) (by decide) (by simp)
    (by simp [putAll]) rfl
  exact .refl _

/-- The switch frees the two strings in the other order. -/
theorem queuedAsDirect_writeSmsToSim (status : Int) (pdu smsc : List UInt8) :
    (writeSmsToSim status pdu smsc).QueuedAsDirect := by
  apply queuedAsDirect_wholeStruct (fun _ _ _ => rfl) (by decide) (by decide) (by simp)
    (by simp [putAll]) rfl
  exact ((List.Perm.swap _ _ _).filterMap id).map Pointer.block

theorem queuedAsDirect_requestIccSimAuthentication (authContext : Int)
    (authData aid : List UInt8) :
    (requestIccSimAuthentication authContext authData aid).QueuedAsDirect := by
  apply queuedAsDirect_wholeStruct (fun _ _ _ => rfl) (by decide) (by decide) (by simp)
    (by simp [putAll]) rfl
  exact .refl _

/-- The pointer that the shorter structure lacks is NULL. -/
theorem queuedAsDirect_setInitialAttachApn (apn protocol : List UInt8) (authtype : Int)
    (username password operatorNumeric : List UInt8) :
    (setInitialAttachApn apn protocol authtype username password
      operatorNumeric).QueuedAsDirect := by
  let shorter : List Field := [.text apn, .text protocol, .int authtype, .pad 4, .text username,
    .text password, .fixed 8 operatorNumeric, .int 0, .pad 4]
  apply queuedAsDirect_enqueueStruct (putAll shorter .empty).1 [.pointer none]
    (fun _ _ _ => rfl) (by decide) (by decide) (by simp) rfl rfl (by simp [shorter, putAll]) rfl
  exact .refl _

/-- The strings of a GSM message are one block deeper, and that block is freed after them. -/
theorem queuedAsDirect_dispatchImsGsmSms (retry : UInt8) (messageRef : Int)
    (smscPdu pdu : List UInt8) (beyond : UInt8) :
    (dispatchImsGsmSms retry messageRef smscPdu pdu beyond).QueuedAsDirect := by
  let filled := putAll [.string smscPdu, .string pdu] .empty
  let cells : List Cell := [.int 1, .byte retry, .pad 3, .int messageRef, .pad 4,
    .pointer (some filled.2.top), .byte beyond]
  rcases putAll_spec [.string smscPdu, .string pdu] ownedStore_empty with
    ⟨owned, -, blocks, starts⟩
  have below := putAll_below [.string smscPdu, .string pdu] ownedStore_empty
  have ownedArray : OwnedStore (filled.2.push ⟨.heap, [filled.1]⟩) := by
    apply owned.push
    intro elements element
    rw [List.mem_singleton.mp element]
    exact below
  have length : (filled.2.push ⟨.heap, [filled.1]⟩).segments.length =
      filled.2.segments.length + 1 := by
    simp [Store.push]
  have took : takeBytes 25 cells = some cells := rfl
  have inside : ∀ cell ∈ cells, ∀ next, cell.target = some next →
      next.block < (filled.2.push ⟨.heap, [filled.1]⟩).segments.length := by
    intro cell occurs next target
    rw [length]
    simp only [cells, List.mem_cons, List.not_mem_nil, or_false] at occurs
    rcases occurs with rfl | rfl | rfl | rfl | rfl | rfl | rfl <;> cases target
    exact Nat.lt_succ_self _
  have clears : ∀ buf other loaded, other.load buf = some loaded →
      loaded = cells ∨ loaded = cells →
      (∀ pointer : Pointer,
        pointer.block < (filled.2.push ⟨.heap, [filled.1]⟩).segments.length →
          other.load pointer = (filled.2.push ⟨.heap, [filled.1]⟩).load pointer) →
      clearPendingBuffer .imsSms (some buf) 25 other =
        other.freeAll (cellTargets filled.1 ++ [some filled.2.top]) := by
    intro buf other loaded found which alike
    have same : loaded = cells := which.elim id id
    have strings : other.load filled.2.top = some filled.1 := by
      rw [alike filled.2.top (by rw [length]; exact Nat.lt_succ_self _)]
      exact Store.load_push_top ..
    have picked : [0, 1].mapM (fieldPointer filled.1) = some (cellTargets filled.1) := rfl
    have array : fieldPointer cells 5 = some (some filled.2.top) := rfl
    simp only [clearPendingBuffer, Option.bind_some, found, same, array]
    rw [freeFields_eq strings picked, Store.freeAll_append]
    congr 1
    funext after
    simp only [Store.freeAll, Option.bind_fun_some]
  have once : (Store.freed (cellTargets filled.1 ++ [some filled.2.top])).Perm
      (List.range (filled.2.push ⟨.heap, [filled.1]⟩).segments.length) := by
    rw [Store.freed_append, blocks, length, List.range_succ, List.range_eq_range']
    exact .refl _
  show (enqueueBlock .frame cells 25 .imsSms (filled.2.push ⟨.heap, [filled.1]⟩)).QueuedAsDirect
  apply queuedAsDirect_enqueueBlock ownedArray (by decide) (by decide) (by decide) took inside
    clears once
  intro pointer occurs
  rcases List.mem_append.mp occurs with string | array
  · exact starts pointer string
  · cases List.mem_singleton.mp array
    rfl

/-! ## Requests without a buffer, and flat ones -/

/-- Nothing is copied and nothing is freed but the entry. -/
theorem queuedAsDirect_of_buflen_zero {call : EnqueueCall}
    (format : call.format = .void ∨ call.format = .raw) (size : call.buflen = 0)
    (frames : ∀ segment ∈ call.store.segments, segment.place = .frame) :
    call.QueuedAsDirect := by
  obtain ⟨store, buf, buflen, bf⟩ := call
  simp only at format size frames
  subst size
  have onFrame : ∀ block : Nat, (store.segments[block]?).map Segment.place ≠ some .heap := by
    intro block heap
    obtain ⟨segment, found, place⟩ := Option.map_eq_some_iff.mp heap
    rw [frames segment (List.mem_of_getElem? found)] at place
    cases place
  have view : ∀ buf other, vendorView bf buf 0 other = some [] := by
    intro buf other
    rcases format with rfl | rfl <;> rfl
  have clears : clearPendingBuffer bf buf 0 store = some store := by
    rcases format with rfl | rfl <;> rfl
  have place : ((store.push ⟨.heap, []⟩).segments[store.segments.length]?).map
      Segment.place = some .heap := by
    simp [Store.push]
  have live : (store.push ⟨.heap, []⟩).leaveFrame.state store.segments.length = .live := by
    rw [Store.state_leaveFrame_of_heap place, Store.state_push, if_pos rfl]
  have entry : ∃ after, (store.push ⟨.heap, []⟩).leaveFrame.free (some store.top) = some after ∧
      after.segments = store.segments ++ [⟨.heap, []⟩] ∧
      after.state store.segments.length = .freed := by
    rw [Store.free, if_pos ⟨rfl, place⟩]
    show ∃ after, ((store.push ⟨.heap, []⟩).leaveFrame.state.release
      store.segments.length).map _ = some after ∧ _
    rw [Heap.release_of_live live]
    exact ⟨_, rfl, rfl, Function.update_self ..⟩
  rcases entry with ⟨after, frees, segments, gone⟩
  refine ⟨[], store, after, ?_, ?_, ?_, ?_⟩
  · show (vendorView bf buf 0 store).bind _ = _
    rw [view, Option.bind_some, clears]
    rfl
  · simp only [EnqueueCall.queued, EnqueueCall.queue, ne_eq, not_true_eq_false, and_false,
      if_false, Option.bind_some, view]
    rw [frees]
    rfl
  · intro block heap
    exact absurd heap (onFrame block)
  · intro block heap
    rw [segments] at heap
    rcases Nat.lt_trichotomy block store.segments.length with below | rfl | beyond
    · rw [List.getElem?_append_left below] at heap
      exact absurd heap (onFrame block)
    · exact gone
    · rw [List.getElem?_eq_none] at heap
      · cases heap
      · simp only [List.length_append, List.length_singleton]
        omega

theorem queuedAsDirect_dispatchVoid : dispatchVoid.QueuedAsDirect := by
  apply queuedAsDirect_of_buflen_zero (.inl rfl) rfl
  simp [dispatchVoid, Store.empty]

theorem queuedAsDirect_broadcastConfig_nil : (broadcastConfig []).QueuedAsDirect := by
  apply queuedAsDirect_of_buflen_zero (.inr rfl) rfl
  simp [broadcastConfig, enqueueBlock, putRecords, Store.push, Store.empty]

theorem byteSize_bytes (bytes : List UInt8) : byteSize (bytes.map Cell.byte) = bytes.length := by
  induction bytes with
  | nil => rfl
  | cons byte rest ih =>
      rw [List.map_cons, byteSize, List.map_cons, List.sum_cons, ← byteSize, ih, List.length_cons]
      exact Nat.add_comm ..

theorem queuedAsDirect_enqueueRaw (bytes : List UInt8) : (enqueueRaw bytes).QueuedAsDirect := by
  by_cases empty : bytes = []
  · apply queuedAsDirect_of_buflen_zero (.inr rfl)
    · simp [enqueueRaw, enqueueBlock, empty]
    · simp [enqueueRaw, enqueueBlock, Store.push, Store.empty]
  · have took : takeBytes bytes.length (bytes.map Cell.byte) = some (bytes.map Cell.byte) := by
      have whole := takeBytes_byteSize (bytes.map Cell.byte) [] (by simp [Cell.size])
      rw [List.append_nil, byteSize_bytes] at whole
      exact whole
    have clears : ∀ buf other loaded, other.load buf = some loaded →
        loaded = bytes.map Cell.byte ∨ loaded = bytes.map Cell.byte →
        (∀ pointer : Pointer, pointer.block < Store.empty.segments.length →
          other.load pointer = Store.empty.load pointer) →
        clearPendingBuffer .raw (some buf) bytes.length other = other.freeAll [] :=
      fun _ _ _ _ _ _ => rfl
    apply queuedAsDirect_enqueueBlock ownedStore_empty (by decide) (by decide) _ took _ clears
      (.refl _)
    · intro pointer occurs
      cases occurs
    · exact fun zero => empty (List.eq_nil_of_length_eq_zero zero)
    · intro cell occurs next target
      obtain ⟨byte, -, rfl⟩ := List.mem_map.mp occurs
      cases target

end X3Hal.Ril
