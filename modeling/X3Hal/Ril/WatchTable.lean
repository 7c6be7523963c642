import X3Hal.Transition.Core
import Mathlib.Data.Finset.Card
import Mathlib.Data.Finset.Range
import Mathlib.Tactic.Common

/-!
# The watch table of the event loop

`ril_event.cpp` keeps the events it watches in a table of eight entries, the set of their
descriptors for `select`, and a bound on the descriptors.  The three agree as long as no
event is added twice; an event that finds no free entry is not watched.
-/

namespace X3Hal.Ril

open X3Hal.Transition

/-! ## The table -/

/-- `MAX_FD_EVENTS` -/
def maxFdEvents : Nat := 8

/-- The events by their address, as `ril_event_set` set them up. -/
structure RilEvents where
  fd : Nat → Nat
  persist : Nat → Bool
  distinct : Function.Injective fd

structure WatchTable where
  /-- `watch_table` -/
  entry : Nat → Option Nat
  readFds : Finset Nat
  nfds : Nat
  /-- the field `index` of each event -/
  index : Nat → Int

/-- `ril_event_init`, with events as `ril_event_set` leaves them -/
def watchTableInit : WatchTable :=
  ⟨fun _ => none, ∅, 0, fun _ => -1⟩

section Operations

variable (events : RilEvents)

/-- One iteration of the loop of `removeWatch`. -/
def higherFd (entry : Nat → Option Nat) (n i : Nat) : Nat :=
  match entry i with
  | some rev => if n < events.fd rev then events.fd rev else n
  | none => n

/-- The highest descriptor in the table, or 0. -/
def highestFd (entry : Nat → Option Nat) : Nat :=
  (List.range maxFdEvents).foldl (higherFd events entry) 0

/-- `removeWatch` -/
def removeWatch (ev : Nat) (index : Nat) (table : WatchTable) : WatchTable :=
  let entry := Function.update table.entry index none
  { entry := entry
    readFds := table.readFds.erase (events.fd ev)
    nfds := if events.fd ev + 1 = table.nfds then highestFd events entry + 1 else table.nfds
    index := Function.update table.index ev (-1) }

/-- The first free entry. -/
def freeEntry (entry : Nat → Option Nat) : Option Nat :=
  (List.range maxFdEvents).find? fun i => entry i = none

/-- `ril_event_add` -/
def rilEventAdd (ev : Nat) (table : WatchTable) : WatchTable :=
  match freeEntry table.entry with
  | none => table
  | some i =>
      { entry := Function.update table.entry i (some ev)
        readFds := insert (events.fd ev) table.readFds
        nfds := if table.nfds ≤ events.fd ev then events.fd ev + 1 else table.nfds
        index := Function.update table.index ev i }

/-- `ril_event_del` -/
def rilEventDel (ev : Nat) (table : WatchTable) : WatchTable :=
  if table.index ev < 0 ∨ maxFdEvents ≤ table.index ev then table
  else removeWatch events ev (table.index ev).toNat table

/-- The loop of `processReadReadies` over the given entries, with the events that it puts on
`pending_list`. -/
def readReadies (rfds : List Nat) : List Nat → Int → WatchTable → WatchTable × List Nat
  | [], _, table => (table, [])
  | i :: rest, n, table =>
      if 0 < n then
        match table.entry i with
        | some rev =>
            if events.fd rev ∈ rfds then
              let next := if events.persist rev then table else removeWatch events rev i table
              let result := readReadies rfds rest (n - 1) next
              (result.1, rev :: result.2)
            else readReadies rfds rest n table
        | none => readReadies rfds rest n table
      else (table, [])

end Operations

inductive WatchEvent
  | rilEventAdd (ev : Nat)
  | rilEventDel (ev : Nat)
  /-- `processReadReadies` with the set and the count that `select` returns -/
  | processReadReadies (rfds : List Nat) (n : Int)
  deriving DecidableEq

/-- One step, with the events that become ready. -/
def WatchTable.step (events : RilEvents) (table : WatchTable) :
    WatchEvent → WatchTable × List Nat
  | .rilEventAdd ev => (Ril.rilEventAdd events ev table, [])
  | .rilEventDel ev => (Ril.rilEventDel events ev table, [])
  | .processReadReadies rfds n => readReadies events rfds (List.range maxFdEvents) n table

/-- The table as a system. -/
def watchSystem (events : RilEvents) : System WatchTable WatchEvent Nat where
  Init := fun table => table = watchTableInit
  step := fun table event => some (table.step events event)

/-! ## The set of watched events -/

/-- The event has an entry. -/
def WatchTable.Watched (table : WatchTable) (ev : Nat) : Prop :=
  ∃ i < maxFdEvents, table.entry i = some ev

instance (table : WatchTable) (ev : Nat) : Decidable (table.Watched ev) :=
  inferInstanceAs (Decidable (∃ i < maxFdEvents, table.entry i = some ev))

/-- Each event is added while it has no entry. -/
def AddedOnce : System.Guard WatchTable WatchEvent Nat
  | _, table, .rilEventAdd ev => ¬ table.Watched ev
  | _, _, _ => True

instance (history : History WatchEvent Nat) (table : WatchTable) (event : WatchEvent) :
    Decidable (AddedOnce history table event) :=
  match event with
  | .rilEventAdd _ => inferInstanceAs (Decidable (¬ _))
  | .rilEventDel _ | .processReadReadies _ _ => inferInstanceAs (Decidable True)

section Sets

variable (events : RilEvents)

/-- What remains of a set of events when one is deleted, or some become ready. -/
def leaveSet (set : Finset Nat) : WatchEvent → List Nat → Finset Nat
  | .rilEventAdd _, _ => set
  | .rilEventDel ev, _ => set.erase ev
  | .processReadReadies _ _, ready => set.filter fun ev => ev ∈ ready → events.persist ev

/-- The events that were added and neither deleted nor fired as one-shot since. -/
def outstandingStep (set : Finset Nat) (step : WatchEvent × List Nat) : Finset Nat :=
  match step.1 with
  | .rilEventAdd ev => insert ev set
  | event => leaveSet events set event step.2

def outstanding (history : History WatchEvent Nat) : Finset Nat :=
  history.foldl (outstandingStep events) ∅

/-- Of these, the events that were added while less than `maxFdEvents` were watched. -/
def watchedStep (set : Finset Nat) (step : WatchEvent × List Nat) : Finset Nat :=
  match step.1 with
  | .rilEventAdd ev => if set.card < maxFdEvents then insert ev set else set
  | event => leaveSet events set event step.2

def watched (history : History WatchEvent Nat) : Finset Nat :=
  history.foldl (watchedStep events) ∅

end Sets

/-! ## What the operations do -/

section Entries

variable {events : RilEvents} {table : WatchTable} {ev : Nat}

theorem freeEntry_some {entry : Nat → Option Nat} {i : Nat} (is : freeEntry entry = some i) :
    i < maxFdEvents ∧ entry i = none := by
  constructor
  · exact List.mem_range.mp (List.mem_of_find?_eq_some is)
  · simpa using List.find?_some is

theorem freeEntry_none {entry : Nat → Option Nat} (is : freeEntry entry = none) {i : Nat}
    (bound : i < maxFdEvents) : entry i ≠ none := by
  simpa using List.find?_eq_none.mp is i (List.mem_range.mpr bound)

theorem le_higherFd (entry : Nat → Option Nat) (n i : Nat) : n ≤ higherFd events entry n i := by
  unfold higherFd
  split
  · split
    case isTrue higher => exact higher.le
    case isFalse _ => exact le_rfl
  · exact le_rfl

theorem fd_le_higherFd {entry : Nat → Option Nat} {i : Nat} (is : entry i = some ev) (n : Nat) :
    events.fd ev ≤ higherFd events entry n i := by
  simp only [higherFd, is]
  split
  case isTrue _ => exact le_rfl
  case isFalse notHigher => exact Nat.le_of_not_lt notHigher

theorem le_foldl_higherFd (entry : Nat → Option Nat) (indices : List Nat) (n : Nat) :
    n ≤ indices.foldl (higherFd events entry) n := by
  induction indices generalizing n with
  | nil => exact le_rfl
  | cons first rest ih => exact (le_higherFd entry n first).trans (ih _)

theorem fd_le_foldl_higherFd {entry : Nat → Option Nat} {i : Nat} (is : entry i = some ev)
    {indices : List Nat} (isMem : i ∈ indices) (n : Nat) :
    events.fd ev ≤ indices.foldl (higherFd events entry) n := by
  induction indices generalizing n with
  | nil => exact nomatch isMem
  | cons first rest ih =>
      rcases List.mem_cons.mp isMem with rfl | inRest
      · exact (fd_le_higherFd is n).trans (le_foldl_higherFd entry rest _)
      · exact ih inRest _

theorem fd_le_highestFd {entry : Nat → Option Nat} {i : Nat} (bound : i < maxFdEvents)
    (is : entry i = some ev) : events.fd ev ≤ highestFd events entry :=
  fd_le_foldl_higherFd is (List.mem_range.mpr bound) 0

/-! ### The bound on the descriptors -/

/-- Every watched descriptor is below `nfds`. -/
def WatchTable.BelowNfds (events : RilEvents) (table : WatchTable) : Prop :=
  ∀ ev, table.Watched ev → events.fd ev < table.nfds

theorem watched_of_removeWatch {index other : Nat}
    (still : (removeWatch events ev index table).Watched other) : table.Watched other := by
  obtain ⟨i, bound, is⟩ := still
  refine ⟨i, bound, ?_⟩
  by_cases removed : i = index
  · rw [removed] at is
    simp [removeWatch] at is
  · simpa [removeWatch, removed] using is

theorem belowNfds_removeWatch (below : table.BelowNfds events) (ev index : Nat) :
    (removeWatch events ev index table).BelowNfds events := by
  intro other still
  have before := watched_of_removeWatch still
  obtain ⟨i, bound, is⟩ := still
  simp only [removeWatch]
  split
  · exact Nat.lt_succ_of_le (fd_le_highestFd bound is)
  · exact below other before

theorem watched_of_rilEventAdd {other : Nat}
    (isWatched : (rilEventAdd events ev table).Watched other) :
    table.Watched other ∨ other = ev := by
  unfold rilEventAdd at isWatched
  split at isWatched
  · exact .inl isWatched
  case h_2 index isFree =>
      obtain ⟨i, bound, is⟩ := isWatched
      by_cases added : i = index
      · subst added
        simp only [Function.update_self, Option.some.injEq] at is
        exact .inr is.symm
      · exact .inl ⟨i, bound, by simpa [added] using is⟩

theorem belowNfds_rilEventAdd (below : table.BelowNfds events) (ev : Nat) :
    (rilEventAdd events ev table).BelowNfds events := by
  intro other isWatched
  have before := watched_of_rilEventAdd isWatched
  unfold rilEventAdd at isWatched ⊢
  split
  case h_1 full =>
      rw [full] at isWatched
      exact below other isWatched
  case h_2 index isFree =>
      dsimp only
      rcases before with earlier | rfl
      · have bound := below other earlier
        split <;> omega
      · split <;> omega

theorem belowNfds_readReadies (rfds : List Nat) (indices : List Nat) (n : Int)
    (below : table.BelowNfds events) :
    (readReadies events rfds indices n table).1.BelowNfds events := by
  induction indices generalizing n table with
  | nil => exact below
  | cons i rest ih =>
      rw [readReadies]
      split
      · cases entry : table.entry i with
        | none => exact ih n below
        | some rev =>
            dsimp only
            split
            · refine ih (n - 1) ?_
              split
              · exact below
              · exact belowNfds_removeWatch below rev i
            · exact ih n below
      · exact below

theorem belowNfds_step (below : table.BelowNfds events) (event : WatchEvent) :
    (table.step events event).1.BelowNfds events := by
  cases event with
  | rilEventAdd ev => exact belowNfds_rilEventAdd below ev
  | rilEventDel ev =>
      show (rilEventDel events ev table).BelowNfds events
      unfold rilEventDel
      split
      · exact below
      · exact belowNfds_removeWatch below ev _
  | processReadReadies rfds n => exact belowNfds_readReadies rfds _ n below

/-! ### Events that are added once -/

/-- Each event that is watched has one entry, its own, and its descriptor is in the set. -/
structure WatchTable.Tidy (events : RilEvents) (table : WatchTable) : Prop where
  ownEntry : ∀ i < maxFdEvents, ∀ ev, table.entry i = some ev → table.index ev = i
  absent : ∀ ev, ¬ table.Watched ev → table.index ev = -1
  readFds : ∀ fd, fd ∈ table.readFds ↔ ∃ ev, table.Watched ev ∧ events.fd ev = fd

theorem watched_removeWatch_iff (tidy : table.Tidy events) {index : Nat}
    (bound : index < maxFdEvents) (is : table.entry index = some ev) (other : Nat) :
    (removeWatch events ev index table).Watched other ↔ table.Watched other ∧ other ≠ ev := by
  constructor
  · intro still
    refine ⟨watched_of_removeWatch still, ?_⟩
    rintro rfl
    obtain ⟨i, inside, isEntry⟩ := still
    by_cases removed : i = index
    · simp [removeWatch, removed] at isEntry
    · -- a second entry of the event would be its own as well
      have isEntry : table.entry i = some other := by simpa [removeWatch, removed] using isEntry
      have first := tidy.ownEntry i inside other isEntry
      have second := tidy.ownEntry index bound other is
      omega
  · rintro ⟨⟨i, inside, isEntry⟩, notRemoved⟩
    refine ⟨i, inside, ?_⟩
    have kept : i ≠ index := by
      rintro rfl
      exact notRemoved (Option.some.inj (isEntry.symm.trans is))
    simpa [removeWatch, kept] using isEntry

theorem tidy_removeWatch (tidy : table.Tidy events) {index : Nat} (bound : index < maxFdEvents)
    (is : table.entry index = some ev) : (removeWatch events ev index table).Tidy events := by
  have watched := watched_removeWatch_iff tidy bound is
  refine ⟨?_, ?_, ?_⟩
  · intro i inside other isEntry
    have isWatched : (removeWatch events ev index table).Watched other := ⟨i, inside, isEntry⟩
    have notRemoved := ((watched other).mp isWatched).2
    by_cases removed : i = index
    · simp [removeWatch, removed] at isEntry
    · have before : table.entry i = some other := by simpa [removeWatch, removed] using isEntry
      simpa [removeWatch, notRemoved] using tidy.ownEntry i inside other before
  · intro other notWatched
    rw [watched, not_and_not_right] at notWatched
    by_cases removed : other = ev
    · simp [removeWatch, removed]
    · simpa [removeWatch, removed] using tidy.absent other fun before =>
        removed (notWatched before)
  · intro fd
    simp only [watched]
    rw [removeWatch, Finset.mem_erase, tidy.readFds]
    constructor
    · rintro ⟨other, ev', before, rfl⟩
      exact ⟨ev', ⟨before, fun same => other (congrArg events.fd same)⟩, rfl⟩
    · rintro ⟨ev', ⟨before, notRemoved⟩, rfl⟩
      exact ⟨fun same => notRemoved (events.distinct same), ev', before, rfl⟩

theorem watched_rilEventAdd_iff {index : Nat} (free : freeEntry table.entry = some index)
    (other : Nat) :
    (rilEventAdd events ev table).Watched other ↔ table.Watched other ∨ other = ev := by
  refine ⟨watched_of_rilEventAdd, ?_⟩
  obtain ⟨bound, isFree⟩ := freeEntry_some free
  rw [rilEventAdd, free]
  rintro (⟨i, inside, is⟩ | rfl)
  · refine ⟨i, inside, ?_⟩
    have kept : i ≠ index := by
      rintro rfl
      exact nomatch isFree.symm.trans is
    simpa [kept] using is
  · exact ⟨index, bound, by simp⟩

theorem tidy_rilEventAdd (tidy : table.Tidy events) (fresh : ¬ table.Watched ev) :
    (rilEventAdd events ev table).Tidy events := by
  cases free : freeEntry table.entry with
  | none =>
      rw [rilEventAdd, free]
      exact tidy
  | some index =>
      have watched := @watched_rilEventAdd_iff events table ev index free
      rw [rilEventAdd, free] at watched ⊢
      dsimp only at watched ⊢
      refine ⟨?_, ?_, ?_⟩
      · intro i inside other isEntry
        by_cases added : i = index
        · subst added
          simp only [Function.update_self, Option.some.injEq] at isEntry
          simp [← isEntry]
        · have before : table.entry i = some other := by simpa [added] using isEntry
          have notNew : other ≠ ev := by
            rintro rfl
            exact fresh ⟨i, inside, before⟩
          simpa [notNew] using tidy.ownEntry i inside other before
      · intro other notWatched
        rw [watched, not_or] at notWatched
        simpa [notWatched.2] using tidy.absent other notWatched.1
      · intro fd
        simp only [watched, Finset.mem_insert, tidy.readFds]
        constructor
        · rintro (rfl | ⟨other, before, rfl⟩)
          · exact ⟨ev, .inr rfl, rfl⟩
          · exact ⟨other, .inl before, rfl⟩
        · rintro ⟨other, before | rfl, rfl⟩
          · exact .inr ⟨other, before, rfl⟩
          · exact .inl rfl

theorem rilEventDel_spec (tidy : table.Tidy events) (ev : Nat) :
    (rilEventDel events ev table).Tidy events ∧
      ∀ other, (rilEventDel events ev table).Watched other ↔ table.Watched other ∧ other ≠ ev := by
  by_cases isWatched : table.Watched ev
  · obtain ⟨i, inside, is⟩ := isWatched
    have own := tidy.ownEntry i inside ev is
    have valid : ¬ (table.index ev < 0 ∨ (maxFdEvents : Int) ≤ table.index ev) := by
      rw [own]
      omega
    rw [rilEventDel, if_neg valid, own, Int.toNat_natCast]
    exact ⟨tidy_removeWatch tidy inside is, watched_removeWatch_iff tidy inside is⟩
  · have absent := tidy.absent ev isWatched
    rw [rilEventDel, if_pos (by rw [absent]; decide)]
    refine ⟨tidy, fun other => ⟨fun still => ⟨still, ?_⟩, fun still => still.1⟩⟩
    rintro rfl
    exact isWatched still

/-- The events that become ready leave the table when they are one-shot. -/
theorem readReadies_spec (rfds : List Nat) {indices : List Nat} (n : Int)
    (inside : ∀ i ∈ indices, i < maxFdEvents) (tidy : table.Tidy events) :
    (readReadies events rfds indices n table).1.Tidy events ∧
      ∀ other, (readReadies events rfds indices n table).1.Watched other ↔
        table.Watched other ∧
          (other ∈ (readReadies events rfds indices n table).2 → events.persist other) := by
  induction indices generalizing n table with
  | nil => exact ⟨tidy, fun other => by simp [readReadies]⟩
  | cons i rest ih =>
      obtain ⟨bound, insideRest⟩ := List.forall_mem_cons.mp inside
      rw [readReadies]
      split
      · cases entry : table.entry i with
        | none => exact ih n insideRest tidy
        | some rev =>
            dsimp only
            split
            · cases persists : events.persist rev with
              | true =>
                  obtain ⟨final, watched⟩ := ih (n - 1) insideRest tidy
                  rw [if_pos rfl]
                  refine ⟨final, fun other => ?_⟩
                  rw [watched, List.mem_cons]
                  refine and_congr_right fun _ => ?_
                  constructor
                  · rintro later (rfl | isReady)
                    · exact persists
                    · exact later isReady
                  · exact fun later isReady => later (.inr isReady)
              | false =>
                  obtain ⟨final, watched⟩ := ih (n - 1) insideRest
                    (tidy_removeWatch tidy bound entry)
                  rw [if_neg Bool.false_ne_true]
                  refine ⟨final, fun other => ?_⟩
                  rw [watched, watched_removeWatch_iff tidy bound entry, List.mem_cons, and_assoc]
                  refine and_congr_right fun _ => ?_
                  constructor
                  · rintro ⟨notRemoved, later⟩ (rfl | isReady)
                    · exact absurd rfl notRemoved
                    · exact later isReady
                  · intro later
                    refine ⟨?_, fun isReady => later (.inr isReady)⟩
                    rintro rfl
                    exact Bool.false_ne_true (persists.symm.trans (later (.inl rfl)))
            · exact ih n insideRest tidy
      · exact ⟨tidy, fun other => by simp⟩

/-- The entries that hold an event. -/
def usedEntries (entry : Nat → Option Nat) : Finset Nat :=
  (Finset.range maxFdEvents).filter fun i => (entry i).isSome

/-- Each watched event uses one entry. -/
theorem card_eq_card_used (tidy : table.Tidy events) {set : Finset Nat}
    (same : ∀ other, table.Watched other ↔ other ∈ set) :
    set.card = (usedEntries table.entry).card := by
  have image : (usedEntries table.entry).image (fun i => (table.entry i).getD 0) = set := by
    ext other
    rw [← same, Finset.mem_image]
    constructor
    · rintro ⟨i, isUsed, is⟩
      obtain ⟨inside, used⟩ := Finset.mem_filter.mp isUsed
      obtain ⟨ev, isEntry⟩ := Option.isSome_iff_exists.mp used
      rw [isEntry, Option.getD_some] at is
      exact ⟨i, Finset.mem_range.mp inside, by rw [isEntry, is]⟩
    · rintro ⟨i, inside, isEntry⟩
      refine ⟨i, Finset.mem_filter.mpr ⟨Finset.mem_range.mpr inside, ?_⟩, ?_⟩
      · rw [isEntry]
        rfl
      · rw [isEntry]
        rfl
  rw [← image]
  refine Finset.card_image_of_injOn ?_
  intro i isUsed j isUsed' equal
  obtain ⟨inside, used⟩ := Finset.mem_filter.mp isUsed
  obtain ⟨inside', used'⟩ := Finset.mem_filter.mp isUsed'
  obtain ⟨ev, isEntry⟩ := Option.isSome_iff_exists.mp used
  obtain ⟨ev', isEntry'⟩ := Option.isSome_iff_exists.mp used'
  simp only [isEntry, isEntry', Option.getD_some] at equal
  subst equal
  have first := tidy.ownEntry i (Finset.mem_range.mp inside) ev isEntry
  have second := tidy.ownEntry j (Finset.mem_range.mp inside') ev isEntry'
  omega

/-- There is a free entry exactly when less than `maxFdEvents` events are watched. -/
theorem freeEntry_isSome_iff (tidy : table.Tidy events) {set : Finset Nat}
    (same : ∀ other, table.Watched other ↔ other ∈ set) :
    (freeEntry table.entry).isSome ↔ set.card < maxFdEvents := by
  have card := card_eq_card_used tidy same
  constructor
  · intro someFree
    obtain ⟨i, free⟩ := Option.isSome_iff_exists.mp someFree
    obtain ⟨bound, isFree⟩ := freeEntry_some free
    rw [card, ← Finset.card_range maxFdEvents]
    refine Finset.card_lt_card (Finset.filter_ssubset.mpr ⟨i, Finset.mem_range.mpr bound, ?_⟩)
    simp [isFree]
  · intro few
    by_contra noneFree
    rw [Option.not_isSome_iff_eq_none] at noneFree
    have all : usedEntries table.entry = Finset.range maxFdEvents :=
      Finset.filter_true_of_mem fun i isMem =>
        Option.isSome_iff_ne_none.mpr (freeEntry_none noneFree (Finset.mem_range.mp isMem))
    rw [card, all, Finset.card_range] at few
    exact absurd few (lt_irrefl _)

end Entries

/-! ## Every run -/

section Runs

variable {events : RilEvents}

theorem watched_snoc (history : History WatchEvent Nat) (step : WatchEvent × List Nat) :
    watched events (history ++ [step]) = watchedStep events (watched events history) step := by
  rw [watched, List.foldl_append]
  rfl

theorem tidy_init (events : RilEvents) : watchTableInit.Tidy events where
  ownEntry := fun _ _ _ is => nomatch is
  absent := fun _ _ => rfl
  readFds := by
    intro fd
    simp [watchTableInit, WatchTable.Watched]

/-- The table is tidy, and its events are the set of watched ones. -/
def TableIsSet (events : RilEvents) (history : History WatchEvent Nat) (table : WatchTable) :
    Prop :=
  table.Tidy events ∧ ∀ ev, table.Watched ev ↔ ev ∈ watched events history

theorem tableIsSet_step {history : History WatchEvent Nat} {table : WatchTable}
    (before : TableIsSet events history table) {event : WatchEvent}
    (guarded : AddedOnce history table event) :
    TableIsSet events (history ++ [(event, (table.step events event).2)])
      (table.step events event).1 := by
  obtain ⟨tidy, same⟩ := before
  rw [TableIsSet, watched_snoc]
  cases event with
  | rilEventAdd ev =>
      refine ⟨tidy_rilEventAdd tidy guarded, fun other => ?_⟩
      show (rilEventAdd events ev table).Watched other ↔
        other ∈ if (watched events history).card < maxFdEvents then
          insert ev (watched events history) else watched events history
      have room := freeEntry_isSome_iff tidy same
      cases free : freeEntry table.entry with
      | none =>
          rw [free] at room
          rw [if_neg fun few => Bool.false_ne_true (room.mpr few), rilEventAdd, free]
          exact same other
      | some index =>
          rw [free] at room
          rw [if_pos (room.mp rfl), watched_rilEventAdd_iff free, Finset.mem_insert, same, or_comm]
  | rilEventDel ev =>
      obtain ⟨final, watchedAfter⟩ := rilEventDel_spec tidy ev
      refine ⟨final, fun other => ?_⟩
      show (rilEventDel events ev table).Watched other ↔ other ∈ (watched events history).erase ev
      rw [watchedAfter, Finset.mem_erase, same, and_comm]
  | processReadReadies rfds n =>
      obtain ⟨final, watchedAfter⟩ :=
        readReadies_spec rfds n (fun i isMem => List.mem_range.mp isMem) tidy
      refine ⟨final, fun other => ?_⟩
      show _ ↔ other ∈ (watched events history).filter _
      rw [Finset.mem_filter, ← same]
      exact watchedAfter other

theorem tableIsSet_of_run {history : History WatchEvent Nat} {table : WatchTable}
    (running : (watchSystem events).Run AddedOnce history table) :
    TableIsSet events history table := by
  refine running.invariant (TableIsSet events) ?_ ?_
  · rintro table rfl
    refine ⟨tidy_init events, fun ev => ?_⟩
    simp [watchTableInit, WatchTable.Watched, watched]
  · intro history table event after out before guarded stepped
    obtain ⟨rfl, rfl⟩ := Prod.mk.inj (Option.some.inj stepped)
    exact tableIsSet_step before guarded

theorem belowNfds_of_run {history : History WatchEvent Nat} {table : WatchTable}
    (running : (watchSystem events).Run System.free history table) : table.BelowNfds events := by
  refine running.invariant (fun _ table => table.BelowNfds events) ?_ ?_
  · rintro table rfl ev ⟨i, bound, is⟩
    exact nomatch is
  · rintro history table event after out below - stepped
    obtain ⟨rfl, rfl⟩ := Prod.mk.inj (Option.some.inj stepped)
    exact belowNfds_step below event

/-- The bound holds in every run; where no event is added twice, the set and the indices
agree with the table, and it holds the events that were added while less than
`maxFdEvents` were watched and neither deleted nor fired as one-shot since. -/
theorem watchTable_agrees (events : RilEvents) (history : History WatchEvent Nat)
    (table : WatchTable) :
    ((watchSystem events).Run System.free history table → table.BelowNfds events) ∧
      ((watchSystem events).Run AddedOnce history table →
        table.Tidy events ∧ ∀ ev, table.Watched ev ↔ ev ∈ watched events history) :=
  ⟨belowNfds_of_run, tableIsSet_of_run⟩

end Runs

/-- Nine events, of which the last is one-shot. -/
def nineEvents : RilEvents :=
  ⟨fun ev => ev + 3, fun ev => ev ≠ 8, fun _ _ same => Nat.add_right_cancel same⟩

/-- Eight events fill the table; a ninth finds room after a deletion, and fires. -/
def refilled : List WatchEvent :=
  (List.range 8).map WatchEvent.rilEventAdd ++
    [.rilEventAdd 9, .rilEventDel 7, .rilEventAdd 8, .processReadReadies [3, 11] 2]

theorem watchTable_agrees_refilled :
    ∃ (history : History WatchEvent Nat) (table : WatchTable), table.BelowNfds nineEvents ∧
      table.Tidy nineEvents ∧
      (∀ ev, table.Watched ev ↔ ev ∈ watched nineEvents history) ∧
      (watched nineEvents history, history.outputs, table.nfds) =
        (Finset.range 7, [0, 8], 10) := by
  obtain ⟨history, table, running, viewed⟩ :=
    System.exists_run_of_exec (watchSystem nineEvents) AddedOnce refilled
      (fun final => (watched nineEvents final.1, final.1.outputs, final.2.nfds)) rfl
      (by decide +kernel)
      (by decide +kernel : ((watchSystem nineEvents).exec watchTableInit refilled).map _ =
        some (Finset.range 7, [0, 8], 10))
  obtain ⟨below, agrees⟩ := watchTable_agrees nineEvents history table
  exact ⟨history, table, below (running.mono fun _ _ _ _ => trivial), (agrees running).1,
    (agrees running).2, viewed⟩

/-- A ninth event is not watched, and an event that was added twice and deleted stays in
the table without its descriptor. -/
theorem watchTable_unsound :
    (∃ history table, (watchSystem nineEvents).Run System.free history table ∧
      8 ∈ outstanding nineEvents history ∧ ¬ table.Watched 8) ∧
    ∃ history table, (watchSystem nineEvents).Run System.free history table ∧
      table.Watched 0 ∧ nineEvents.fd 0 ∉ table.readFds := by
  constructor
  · obtain ⟨history, table, running, viewed⟩ :=
      System.exists_run_of_exec (watchSystem nineEvents) System.free
        ((List.range 9).map WatchEvent.rilEventAdd)
        (fun final => (decide (8 ∈ outstanding nineEvents final.1), decide (final.2.Watched 8)))
        rfl (by decide +kernel)
        (by decide +kernel : ((watchSystem nineEvents).exec watchTableInit _).map _ =
          some (true, false))
    obtain ⟨isOutstanding, notWatched⟩ := Prod.mk.inj viewed
    exact ⟨history, table, running, of_decide_eq_true isOutstanding,
      of_decide_eq_false notWatched⟩
  · obtain ⟨history, table, running, viewed⟩ :=
      System.exists_run_of_exec (watchSystem nineEvents) System.free
        [.rilEventAdd 0, .rilEventAdd 0, .rilEventDel 0]
        (fun final => (decide (final.2.Watched 0), decide (nineEvents.fd 0 ∈ final.2.readFds)))
        rfl (by decide +kernel)
        (by decide +kernel : ((watchSystem nineEvents).exec watchTableInit _).map _ =
          some (true, false))
    obtain ⟨isWatched, notInSet⟩ := Prod.mk.inj viewed
    exact ⟨history, table, running, of_decide_eq_true isWatched, of_decide_eq_false notInSet⟩

end X3Hal.Ril
