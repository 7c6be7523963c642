import X3Hal.Gui.WatchDogCallbacks

/-!
# A pass of the watchdog over its table

The timer keeps the lock of the table for reading through its loop, so that a pass finds every
anchor that is in the table, once.
-/

namespace X3Hal.Gui

open X3Hal.Transition X3Hal.Registry

universe u v w

variable {Tid : Type u} {Dog : Type v} {Recipient : Type w} [DecidableEq Tid] [DecidableEq Dog]
  {history : History (WatchDogEvent Tid Dog Recipient) (WatchDogOutput Tid Recipient)}
  {state after : WatchDogState Tid Dog Recipient} {id : Nat} {anchor : WdtAnchor Tid Recipient}

variable {event : WatchDogEvent Tid Dog Recipient} {more : List (WatchDogOutput Tid Recipient)}
  {now : Int} {idx : Nat}

/-- The other threads leave the timer where it is, report nothing, and leave the table alone while
the timer goes through it. -/
theorem others_of_step (stepped : watchDog.step state event = some (after, more))
    (notLoop : ∀ time, event ≠ .loop time) (notWake : event ≠ .wake) :
    after.loop = state.loop ∧ (∀ id anchor time, .onTimeout id anchor time ∉ more) ∧
      (state.tableRead = true → after.anchorTable = state.anchorTable) := by
  cases event with
  | setAnchor tid dog msg threshold object now =>
      simp only [watchDog, WatchDogState.step, WatchDogState.setAnchor] at stepped
      split at stepped
      case h_1 =>
        unfold WatchDogState.timerSetAnchor at stepped
        split at stepped
        case h_1 | h_2 =>
          cases stepped
          exact ⟨rfl, by simp, fun _ => rfl⟩
        case h_3 =>
          split at stepped
          case isTrue => cases stepped
          case isFalse =>
            cases stepped
            exact ⟨rfl, by simp, fun _ => rfl⟩
      case h_2 => cases stepped
  | delAnchor tid id =>
      simp only [watchDog, WatchDogState.step, WatchDogState.delAnchor] at stepped
      split at stepped
      case h_2 => cases stepped
      case h_1 =>
        split at stepped
        case h_1 =>
          cases stepped
          exact ⟨rfl, by simp, fun _ => rfl⟩
        case h_2 =>
          split at stepped
          all_goals
            cases stepped
            exact ⟨rfl, by simp, fun _ => rfl⟩
  | client tid now =>
      simp only [watchDog, WatchDogState.step, WatchDogState.client] at stepped
      split at stepped
      case h_1 => cases stepped
      case h_2 =>
        cases stepped
        exact ⟨rfl, by simp, fun _ => rfl⟩
      case h_3 | h_4 =>
        split at stepped
        case isTrue => cases stepped
        case isFalse unread =>
          cases stepped
          exact ⟨rfl, by simp, fun reads => absurd reads unread⟩
      case h_5 =>
        split at stepped
        case isTrue => cases stepped
        case isFalse =>
          cases stepped
          exact ⟨rfl, by simp, fun _ => rfl⟩
  | loop time => exact absurd rfl (notLoop time)
  | wake => exact absurd rfl notWake
  | suspend | resume | requestExit | setTimer | setTickNotify =>
      cases stepped
      exact ⟨rfl, by simp, fun _ => rfl⟩
  | setWdtNotify dog notify | setThreshold dog threshold =>
      obtain ⟨changed, changes, same⟩ := Option.map_eq_some_iff.mp stepped
      cases same
      rw [WatchDogState.setOf] at changes
      split at changes
      case isTrue => cases changes
      case isFalse =>
        cases changes
        exact ⟨rfl, by simp, fun _ => rfl⟩

/-- The timer comes into its loop with the lock, and goes on in it entry by entry. -/
theorem into_scanning (stepped : watchDog.step state event = some (after, more))
    (isScanning : after.loop = .scanning now idx) :
    (state.loop = .locking now ∧ idx = 0 ∧ after.anchorTable = state.anchorTable ∧ more = []) ∨
    (state.loop = .scanning now idx ∧ after.anchorTable = state.anchorTable ∧
      ∀ id anchor time, .onTimeout id anchor time ∉ more) ∨
    ∃ last entry systemTime, idx = last + 1 ∧ state.loop = .scanning now last ∧
      state.anchorTable.entries[last]? = some entry ∧ after.anchorTable = state.anchorTable ∧
      more = WatchDogState.scan now systemTime entry := by
  by_cases isLoop : ∃ time, event = .loop time
  · obtain ⟨systemTime, rfl⟩ := isLoop
    simp only [watchDog, WatchDogState.step, WatchDogState.threadLoop] at stepped
    split at stepped
    case h_1 | h_6 =>
      cases stepped
      dsimp only at isScanning
      split at isScanning <;> cases isScanning
    case h_2 =>
      split at stepped
      case isTrue =>
        cases stepped
        cases isScanning
      case isFalse =>
        split at stepped
        case isTrue => cases stepped
        case isFalse =>
          cases stepped
          cases isScanning
    case h_3 time isLocking =>
      cases stepped
      cases isScanning
      exact Or.inl ⟨isLocking, rfl, rfl, rfl⟩
    case h_4 time last wasScanning =>
      split at stepped
      case h_1 entry isEntry =>
        cases stepped
        cases isScanning
        exact Or.inr (Or.inr ⟨last, entry, systemTime, rfl, wasScanning, isEntry, rfl, rfl⟩)
      case h_2 =>
        cases stepped
        cases isScanning
    case h_5 =>
      cases stepped
      cases isScanning
    case h_7 | h_8 | h_9 => cases stepped
  · by_cases isWake : event = .wake
    · subst isWake
      obtain ⟨woken, wakes, same⟩ := Option.map_eq_some_iff.mp stepped
      cases same
      rw [WatchDogState.wake] at wakes
      split at wakes
      case h_1 | h_2 =>
        cases wakes
        cases isScanning
      case h_3 => cases wakes
    · obtain ⟨sameLoop, unreported, sameTable⟩ :=
        others_of_step stepped (fun time same => isLoop ⟨time, same⟩) isWake
      have wasScanning : state.loop = .scanning now idx := sameLoop.symm.trans isScanning
      have reads : state.tableRead = true := by
        rw [WatchDogState.tableRead, wasScanning]
      exact Or.inr (Or.inl ⟨wasScanning, sameTable reads, unreported⟩)

variable [DecidableEq Recipient]

omit [DecidableEq Dog] in
/-- A round of the loop counts for its own entry. -/
theorem count_scan (positive : 0 < now) (systemTime : Int)
    (entry : Nat × WdtAnchor Tid Recipient) :
    (WatchDogState.scan now systemTime entry).count (.onTimeout id anchor now) =
      if anchor.anchorTime ≠ 0 ∧ anchor.threshold < now - anchor.anchorTime then
        [entry].count (id, anchor)
      else 0 := by
  rw [WatchDogState.scan, WdtAnchor.isTimeout, if_neg positive.ne']
  by_cases same : entry = (id, anchor)
  · subst same
    split
    case isTrue late =>
      rw [if_pos (of_decide_eq_true late)]
      simp
    case isFalse notLate =>
      rw [if_neg (by simpa using notLate)]
      rfl
  · have apart : ¬ (entry.1 = id ∧ entry.2 = anchor) := fun both => same (Prod.ext both.1 both.2)
    have never : [entry].count (id, anchor) = 0 := by simp [same]
    rw [never, ite_self]
    split
    case isTrue =>
      rw [List.count_eq_zero, List.mem_singleton]
      intro equal
      cases equal
      exact apart ⟨rfl, rfl⟩
    case isFalse => rfl

/-- The reports of the anchors in the first entries, in the pass that the timer is in. -/
def PassTraced (now : Int) (idx : Nat)
    (pass : History (WatchDogEvent Tid Dog Recipient) (WatchDogOutput Tid Recipient))
    (state : WatchDogState Tid Dog Recipient) : Prop :=
  ∀ id anchor, pass.outputs.count (.onTimeout id anchor now) =
    if anchor.anchorTime ≠ 0 ∧ anchor.threshold < now - anchor.anchorTime then
      (state.anchorTable.entries.take idx).count (id, anchor)
    else 0

theorem scanning_traced (running : watchDog.Run System.free history state) :
    ∀ now idx, state.loop = .scanning now idx →
      ∃ before pass earlier, history = before ++ pass ∧
        watchDog.Run System.free before earlier ∧ earlier.loop = .locking now ∧
        PassTraced now idx pass state := by
  induction running with
  | start starts =>
      intro now idx isScanning
      rw [starts.loop] at isScanning
      cases isScanning
  | @next history state after event more earlier guarded stepped ih =>
      intro now idx isScanning
      rcases into_scanning stepped isScanning with
        ⟨isLocking, rfl, -, rfl⟩ | ⟨wasScanning, sameTable, unreported⟩ |
          ⟨last, entry, systemTime, rfl, wasScanning, isEntry, sameTable, rfl⟩
      · refine ⟨history, [(event, [])], state, rfl, earlier, isLocking, ?_⟩
        intro id anchor
        rw [List.take_zero]
        simp [History.outputs]
      · obtain ⟨before, pass, locked, rfl, reached, isLocking, traced⟩ := ih now idx wasScanning
        refine ⟨before, pass ++ [(event, more)], locked, List.append_assoc _ _ _, reached,
          isLocking, ?_⟩
        intro id anchor
        have none : more.count (.onTimeout id anchor now) = 0 :=
          List.count_eq_zero.mpr (unreported id anchor now)
        rw [History.outputs_snoc, List.count_append, none, Nat.add_zero, sameTable]
        exact traced id anchor
      · obtain ⟨before, pass, locked, rfl, reached, isLocking, traced⟩ := ih now last wasScanning
        refine ⟨before, pass ++ [(event, _)], locked, List.append_assoc _ _ _, reached,
          isLocking, ?_⟩
        intro id anchor
        have positive : 0 < now :=
          ((watchDog_sound earlier).time now (by rw [wasScanning]; rfl)).1
        have grown : state.anchorTable.entries.take (last + 1) =
            state.anchorTable.entries.take last ++ [entry] := by
          rw [List.take_add_one, isEntry]
          rfl
        rw [History.outputs_snoc, List.count_append, traced id anchor, count_scan positive,
          sameTable, grown, List.count_append]
        split
        · rfl
        · rfl

/-- When a pass over the table ends, every anchor that is set, and that its thread has in the
table, is reported exactly once if it is past its threshold, and else not. -/
theorem pass_reports_late_anchors (running : watchDog.Run System.free history state)
    (isScanning : state.loop = .scanning now idx) (due : state.anchorTable.size ≤ idx) :
    ∃ before pass earlier, history = before ++ pass ∧
      watchDog.Run System.free before earlier ∧ earlier.loop = .locking now ∧
      ∀ id anchor, anchorOf id history.outputs = some anchor →
        ¬ (state.clients anchor.tid).holds id anchor →
          pass.outputs.count (.onTimeout id anchor now) =
            if anchor.threshold < now - anchor.anchorTime then 1 else 0 := by
  obtain ⟨before, pass, earlier, split, reached, isLocking, traced⟩ :=
    scanning_traced running now idx isScanning
  refine ⟨before, pass, earlier, split, reached, isLocking, ?_⟩
  intro id anchor isSet inTable
  obtain ⟨positive, place⟩ := ((watchDog_sound running).anchors.placed id).found anchor isSet
  have present : (id, anchor) ∈ state.anchorTable.entries :=
    KeyedVector.valueFor_eq_some_iff.mp (place.resolve_right inTable)
  have once : state.anchorTable.entries.count (id, anchor) = 1 :=
    List.count_eq_one_of_mem (List.Nodup.of_map Prod.fst state.anchorTable.nodup_keys) present
  rw [traced id anchor, List.take_of_length_le due, once]
  simp only [ne_eq, positive.ne', not_false_eq_true, true_and]

/-- The pass that finds the anchor at 20 reports it once. -/
theorem pass_reports_one_anchor :
    ∃ history state, watchDog.Run System.free history state ∧
      history.events = lateAnchorEvents ∧
      ∃ before pass earlier, history = before ++ pass ∧
        watchDog.Run System.free before earlier ∧ earlier.loop = .locking 20 ∧
        ∀ id anchor, anchorOf id history.outputs = some anchor →
          ¬ (state.clients anchor.tid).holds id anchor →
            pass.outputs.count (.onTimeout id anchor 20) =
              if anchor.threshold < 20 - anchor.anchorTime then 1 else 0 := by
  have executed : (watchDog.exec (freshWatchDog 10) lateAnchorEvents).map
      (fun final => ((final.2.loop, final.2.anchorTable.size), final.1.events)) =
        some ((.scanning 20 1, 1), lateAnchorEvents) := rfl
  obtain ⟨history, state, running, seen⟩ :=
    System.exists_run_of_exec watchDog System.free lateAnchorEvents _ (freshWatchDog_starts 10) rfl
      executed
  obtain ⟨place, taken⟩ := Prod.mk.inj seen
  obtain ⟨isScanning, size⟩ := Prod.mk.inj place
  exact ⟨history, state, running, taken, pass_reports_late_anchors running isScanning size.le⟩

end X3Hal.Gui
