import X3Hal.Registry.Recency
import Mathlib.Data.List.Induction

/-!
# The channels of the threads

`addThreadPid` keeps which channel a thread used last in the array `threadPid`, with the last
added thread in front.  One loop finds the place from which the entries are moved down: that of
the thread, the first free one, or the last one of the array.  A free entry is one of the
thread 0.
-/

namespace X3Hal.Ril

open X3Hal.Registry

/-! ## The array -/

structure ThreadProxyId where
  cid : Int
  pthread : Int
  deriving DecidableEq, Repr

/-- An entry as `memset` leaves it -/
def ThreadProxyId.free : ThreadProxyId := ⟨0, 0⟩

variable {last : Nat}

/-- The array `threadPid`; `MAX_RIL_CHANNELS` is one more than its last index. -/
abbrev ThreadPid (last : Nat) := Vector ThreadProxyId (last + 1)

/-- The array as `RIL_register` leaves it -/
def threadPidInit (last : Nat) : ThreadPid last :=
  Vector.replicate (last + 1) .free

/-- The first loop of `addThreadPid`: past the entries of other threads -/
def threadPlace (tid : Int) : List ThreadProxyId → Nat
  | [] => 0
  | entry :: rest =>
      if entry.pthread ≠ 0 ∧ entry.pthread ≠ tid then threadPlace tid rest + 1 else 0

/-- The second loop: the entries before the place move down. -/
def moveDown : (place : Nat) → place < last + 1 → ThreadPid last → ThreadPid last
  | 0, _, threadPid => threadPid
  | place + 1, inside, threadPid =>
      moveDown place (by omega) (threadPid.set (place + 1) threadPid[place])

def addThreadPid (cid tid : Int) (threadPid : ThreadPid last) : ThreadPid last :=
  (moveDown (min (threadPlace tid threadPid.toList) last) (by omega) threadPid).set 0 ⟨cid, tid⟩

/-- The calls of `addThreadPid`, each with its channel and thread, the first one first -/
def addThreadPids (last : Nat) (calls : List (Int × Int)) : ThreadPid last :=
  calls.foldl (fun threadPid call => addThreadPid call.1 call.2 threadPid) (threadPidInit last)

/-- The threads of the entries that are not free -/
def threadIds (threadPid : ThreadPid last) : List Int :=
  (threadPid.toList.map ThreadProxyId.pthread).filter (· ≠ 0)

/-- The loop of `RIL_myProxyIdByThread`, which reads an entry before it looks at the bound;
`none` when it reads behind the array. -/
def proxyIdByThread (self : Int) (threadPid : ThreadPid last) : Option Int :=
  (threadPid.toList.find? fun entry => entry.pthread = self).map ThreadProxyId.cid

/-! ## What a call does -/

theorem eraseIdx_set_succ (entries : List ThreadProxyId) (place : Nat)
    (inside : place + 1 < entries.length) :
    (entries.set (place + 1) entries[place]).eraseIdx place = entries.eraseIdx (place + 1) := by
  induction entries generalizing place with
  | nil => rfl
  | cons entry rest ih =>
      cases place with
      | zero =>
          cases rest with
          | nil => cases Nat.not_lt_zero _ (Nat.lt_of_succ_lt_succ inside)
          | cons second rest => rfl
      | succ place =>
          simp only [List.set_cons_succ, List.getElem_cons_succ, List.eraseIdx_cons_succ]
          rw [ih place (Nat.lt_of_succ_lt_succ inside)]

theorem tail_moveDown (place : Nat) (inside : place < last + 1) (threadPid : ThreadPid last) :
    (moveDown place inside threadPid).toList.tail = threadPid.toList.eraseIdx place := by
  induction place generalizing threadPid with
  | zero => exact List.eraseIdx_zero.symm
  | succ place ih =>
      have within : place + 1 < threadPid.toList.length := by simpa using inside
      rw [moveDown, ih, Vector.toList_set, ← Vector.getElem_toList (by omega),
        eraseIdx_set_succ _ _ within]

/-- The new entry comes in front, and the entry at the place of the first loop goes. -/
theorem toList_addThreadPid (cid tid : Int) (threadPid : ThreadPid last) :
    (addThreadPid cid tid threadPid).toList =
      ⟨cid, tid⟩ :: threadPid.toList.eraseIdx (min (threadPlace tid threadPid.toList) last) := by
  have moved := tail_moveDown (min (threadPlace tid threadPid.toList) last) (by omega) threadPid
  rw [addThreadPid, Vector.toList_set, ← moved]
  cases cells :
    (moveDown (min (threadPlace tid threadPid.toList) last) (by omega) threadPid).toList with
  | nil =>
      have length := congrArg List.length cells
      simp at length
  | cons first rest => rfl

/-! ## The table of what was used last -/

def threadEntry (entry : Int × Int) : ThreadProxyId :=
  ⟨entry.2, entry.1⟩

/-- The array holds the table, with the threads as keys, and behind it free entries. -/
def Shows (threadPid : ThreadPid last) (recent : Recency Int Int (last + 1)) : Prop :=
  0 ∉ recent.keys ∧ threadPid.toList =
    recent.entries.map threadEntry ++ List.replicate (last + 1 - recent.entries.length) .free

theorem shows_init : Shows (threadPidInit last) Recency.empty :=
  ⟨List.not_mem_nil, Vector.toList_replicate⟩

section Loop

variable {entries : List (Int × Int)} {tid : Int}

/-- The entries of other threads are passed. -/
theorem threadPlace_append (nonzero : 0 ∉ entries.map Prod.fst)
    (absent : tid ∉ entries.map Prod.fst) (rest : List ThreadProxyId) :
    threadPlace tid (entries.map threadEntry ++ rest) = entries.length + threadPlace tid rest := by
  induction entries with
  | nil => simp
  | cons entry entries ih =>
      simp only [List.map_cons, List.mem_cons, not_or] at nonzero absent
      have passed : entry.1 ≠ 0 ∧ entry.1 ≠ tid := ⟨Ne.symm nonzero.1, Ne.symm absent.1⟩
      rw [List.map_cons, List.cons_append, threadPlace, threadEntry, if_pos passed,
        ih nonzero.2 absent.2, List.length_cons]
      omega

/-- The loop ends at the entry of the thread, and without it the others are left. -/
theorem eraseIdx_threadPlace (nonzero : 0 ∉ entries.map Prod.fst)
    (present : tid ∈ entries.map Prod.fst) (rest : List ThreadProxyId) :
    threadPlace tid (entries.map threadEntry ++ rest) < entries.length ∧
      (entries.map threadEntry ++ rest).eraseIdx
          (threadPlace tid (entries.map threadEntry ++ rest)) =
        (entries.eraseP fun entry => entry.1 = tid).map threadEntry ++ rest := by
  induction entries with
  | nil => cases present
  | cons entry entries ih =>
      simp only [List.map_cons, List.mem_cons, not_or] at nonzero present
      rw [List.map_cons, List.cons_append, threadPlace]
      by_cases same : entry.1 = tid
      · have stops : ¬ ((threadEntry entry).pthread ≠ 0 ∧ (threadEntry entry).pthread ≠ tid) :=
          fun passed => passed.2 same
        rw [if_neg stops, List.eraseP_cons_of_pos (by simpa using same)]
        exact ⟨Nat.zero_lt_succ _, rfl⟩
      · have passed : (threadEntry entry).pthread ≠ 0 ∧ (threadEntry entry).pthread ≠ tid :=
          ⟨Ne.symm nonzero.1, same⟩
        have later := ih nonzero.2 (present.resolve_left (Ne.symm same))
        rw [if_pos passed, List.eraseP_cons_of_neg (by simpa using same), List.eraseIdx_cons_succ,
          later.2]
        exact ⟨Nat.succ_lt_succ later.1, rfl⟩

theorem threadPlace_free (tid : Int) (free : Nat) :
    threadPlace tid (List.replicate free .free) = 0 := by
  cases free with
  | zero => rfl
  | succ free =>
      rw [List.replicate_succ, threadPlace]
      exact if_neg fun passed => passed.1 rfl

theorem threadPlace_of_absent (nonzero : 0 ∉ entries.map Prod.fst)
    (absent : tid ∉ entries.map Prod.fst) (free : Nat) :
    threadPlace tid (entries.map threadEntry ++ List.replicate free .free) = entries.length := by
  rw [threadPlace_append nonzero absent, threadPlace_free, Nat.add_zero]

/-- The first free entry goes, and where there is none, the last entry. -/
theorem eraseIdx_length (fits : entries.length ≤ last + 1) :
    (entries.map threadEntry ++
        List.replicate (last + 1 - entries.length) ThreadProxyId.free).eraseIdx
        (min entries.length last) =
      (entries.take last).map threadEntry ++
        List.replicate (last - (entries.take last).length) ThreadProxyId.free := by
  by_cases full : entries.length = last + 1
  · rw [full, Nat.sub_self, List.replicate_zero, List.append_nil, Nat.min_eq_right (by omega),
      List.length_take, full, Nat.min_eq_left (by omega), Nat.sub_self, List.replicate_zero,
      List.append_nil, List.map_take, List.eraseIdx_eq_take_drop_succ, List.drop_of_length_le]
    · exact List.append_nil _
    · exact Nat.le_of_eq (by rw [List.length_map, full])
  · have room : entries.length ≤ last := by omega
    rw [Nat.min_eq_left room, List.take_of_length_le room,
      List.eraseIdx_append_of_length_le (Nat.le_of_eq (List.length_map _)), List.length_map,
      Nat.sub_self,
      Nat.succ_sub room, List.replicate_succ, List.eraseIdx_zero, List.tail_cons]

end Loop

variable {threadPid : ThreadPid last} {recent : Recency Int Int (last + 1)} {tid : Int}

/-- A call uses the thread in the table. -/
theorem Shows.addThreadPid (shows : Shows threadPid recent) (nonzero : tid ≠ 0) (cid : Int) :
    Shows (addThreadPid cid tid threadPid) (recent.touch tid cid) := by
  obtain ⟨others, cells⟩ := shows
  have fits := recent.length_le
  constructor
  · rw [Recency.keys_touch]
    intro zero
    rcases List.mem_cons.mp (List.mem_of_mem_take zero) with same | among
    · exact nonzero same.symm
    · exact others (List.mem_of_mem_erase among)
  · rw [toList_addThreadPid, cells]
    simp only [Recency.touch, List.take_succ_cons, List.map_cons, List.cons_append,
      List.cons.injEq, List.length_cons, Nat.add_sub_add_right]
    refine ⟨rfl, ?_⟩
    by_cases present : tid ∈ recent.keys
    · obtain ⟨inside, erased⟩ := eraseIdx_threadPlace others present
        (List.replicate (last + 1 - recent.entries.length) .free)
      have length := congrArg List.length (Recency.map_eraseP_key recent.entries tid)
      have known := List.length_erase_of_mem present
      simp only [Recency.keys, List.length_map] at length known
      rw [Nat.min_eq_left (by omega), erased, List.take_of_length_le (by omega)]
      congr 2
      omega
    · have same : (recent.entries.eraseP fun entry => entry.1 = tid) = recent.entries := by
        apply List.eraseP_of_forall_not
        intro entry occurs found
        exact present (List.mem_map.mpr ⟨entry, occurs, of_decide_eq_true found⟩)
      rw [threadPlace_of_absent others present, same, eraseIdx_length fits]

/-- The threads of the array are the keys of the table. -/
theorem Shows.threadIds_eq (shows : Shows threadPid recent) :
    threadIds threadPid = recent.keys := by
  obtain ⟨others, cells⟩ := shows
  have free : (List.replicate (last + 1 - recent.entries.length) (0 : Int)).filter (· ≠ 0) = [] :=
    List.filter_eq_nil_iff.mpr (by simp)
  have used : (recent.entries.map Prod.fst).filter (· ≠ 0) = recent.entries.map Prod.fst := by
    apply List.filter_eq_self.mpr
    intro key among
    exact decide_eq_true fun same => others (same ▸ among)
  rw [threadIds, cells, List.map_append, List.map_map, List.map_replicate, List.filter_append]
  exact (congrArg₂ (· ++ ·) used free).trans (List.append_nil _)

/-- A thread that is in the table finds its channel. -/
theorem Shows.proxyIdByThread_eq (shows : Shows threadPid recent) (nonzero : tid ≠ 0) :
    proxyIdByThread tid threadPid =
      (recent.entries.find? fun entry => entry.1 = tid).map Prod.snd := by
  have free : (List.replicate (last + 1 - recent.entries.length) ThreadProxyId.free).find?
      (fun entry => entry.pthread = tid) = none := by
    apply List.find?_eq_none.mpr
    intro entry among
    rw [List.eq_of_mem_replicate among]
    exact fun found => nonzero (of_decide_eq_true found).symm
  rw [proxyIdByThread, shows.2, List.find?_append, free, Option.or_none, List.find?_map,
    Option.map_map]
  rfl

/-! ## Runs -/

/-- The table of what was used last after the calls -/
def recentThreads (last : Nat) (calls : List (Int × Int)) : Recency Int Int (last + 1) :=
  calls.foldl (fun recent call => recent.touch call.2 call.1) .empty

theorem shows_addThreadPids (calls : List (Int × Int)) (threads : ∀ call ∈ calls, call.2 ≠ 0) :
    Shows (addThreadPids last calls) (recentThreads last calls) := by
  induction calls using List.reverseRecOn with
  | nil => exact shows_init
  | append_singleton calls call ih =>
      have earlier : Shows (addThreadPids last calls) (recentThreads last calls) :=
        ih fun call among => threads call (List.mem_append_left _ among)
      have nonzero : call.2 ≠ 0 :=
        threads call (List.mem_append_right _ (List.mem_singleton_self _))
      rw [addThreadPids, recentThreads, List.foldl_concat, List.foldl_concat]
      exact earlier.addThreadPid nonzero call.1

/-- In every sequence of calls by threads, the array holds the table of what was used last. -/
theorem threadPid_lru (calls : List (Int × Int)) (cid tid : Int)
    (threads : ∀ call ∈ calls ++ [(cid, tid)], call.2 ≠ 0) :
    Shows (addThreadPids last (calls ++ [(cid, tid)]))
        (recentThreads last (calls ++ [(cid, tid)])) ∧
      UsedLast (last + 1) (threadIds (addThreadPids last calls)) tid
        (threadIds (addThreadPids last (calls ++ [(cid, tid)]))) := by
  have before : Shows (addThreadPids last calls) (recentThreads last calls) :=
    shows_addThreadPids calls fun call among => threads call (List.mem_append_left _ among)
  have after : Shows (addThreadPids last (calls ++ [(cid, tid)]))
      (recentThreads last (calls ++ [(cid, tid)])) :=
    shows_addThreadPids (calls ++ [(cid, tid)]) threads
  refine ⟨after, ?_⟩
  rw [before.threadIds_eq, after.threadIds_eq, recentThreads, recentThreads, List.foldl_concat]
  exact Recency.usedLast_touch _ _ _

/-- Two threads, and the first one again, with two cards. -/
theorem threadPid_lru_again :
    Shows (addThreadPids 11 ([(1, 5), (2, 7)] ++ [(3, 5)]))
        (recentThreads 11 ([(1, 5), (2, 7)] ++ [(3, 5)])) ∧
      UsedLast 12 (threadIds (addThreadPids 11 [(1, 5), (2, 7)])) 5
        (threadIds (addThreadPids 11 ([(1, 5), (2, 7)] ++ [(3, 5)]))) :=
  threadPid_lru [(1, 5), (2, 7)] 3 5 (by decide)

/-- An entry of the thread 0 is taken for a free one, and the thread behind it is added twice. -/
theorem threadPid_zero :
    ¬ UsedLast 12 (threadIds (addThreadPids 11 [(1, 5), (2, 7), (3, 0)])) 5
      (threadIds (addThreadPids 11 ([(1, 5), (2, 7), (3, 0)] ++ [(4, 5)]))) := by
  intro used
  exact absurd used.distinct (by decide)

end X3Hal.Ril
