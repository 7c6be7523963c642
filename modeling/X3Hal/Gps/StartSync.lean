import X3Hal.Gps.Session
import X3Hal.Transition.Justified

/-!
# The wait for `M_START`

`mtk_gps_start` takes the first wake-up it finds in `lock_for_sync[M_START]`, and
nothing resets that condition before the start command goes out.  The wait is
justified by NMEA data that came after the command as long as the condition is
clear when the command is sent, and the wait does not overtake the read of the
gps event that woke it.
-/

namespace X3Hal.Gps

open X3Hal.Transition

/-- The outputs end in a start command and what came after it. -/
def LastStart (outputs since : List SessionOutput) : Prop :=
  ∃ earlier, outputs = earlier ++ .startSent :: since ∧ .startSent ∉ since

/-- Every return of the wait comes after NMEA data that was read after the start
command before it. -/
def WaitsJustified : List SessionOutput → Prop :=
  Justified fun before output => output = .startWaitReturned →
    ∃ since, LastStart before since ∧ .nmeaRead ∈ since

/-- A start command is sent only while `M_START` is clear, and the wait does not
return while the HAL thread still has the read of a gps event before it. -/
def freshWakeups : System.Guard Session SessionEvent SessionOutput :=
  fun _ s event =>
    match event, s.framework with
    | .send .sent, .startSend _ => s.startCondtion = 0
    | .framework, .startWait => .readNmea ∉ s.hal
    | _, _ => True

instance (history : History SessionEvent SessionOutput) (s : Session) (event : SessionEvent) :
    Decidable (freshWakeups history s event) := by
  unfold freshWakeups
  split
  · infer_instance
  · infer_instance
  · exact inferInstanceAs (Decidable True)

/-! ## Outputs that grow -/

theorem LastStart.append {outputs since out : List SessionOutput} (last : LastStart outputs since)
    (noStart : .startSent ∉ out) : LastStart (outputs ++ out) (since ++ out) := by
  rcases last with ⟨earlier, rfl, notIn⟩
  exact ⟨earlier, by simp, by simp [notIn, noStart]⟩

theorem WaitsJustified.append {outputs out : List SessionOutput}
    (justified : WaitsJustified outputs)
    (noReturn : .startWaitReturned ∉ out) : WaitsJustified (outputs ++ out) := by
  refine justified_append_iff.mpr ⟨justified, ?_⟩
  rintro before output after rfl rfl
  exact absurd (by simp) noReturn

theorem WaitsJustified.returned {outputs since : List SessionOutput}
    (justified : WaitsJustified outputs) (last : LastStart outputs since)
    (read : .nmeaRead ∈ since) : WaitsJustified (outputs ++ [.startWaitReturned]) :=
  justified_snoc_iff.mpr ⟨justified, fun _ => ⟨since, last, read⟩⟩

/-! ## The invariant -/

/-- A wake-up of `M_START` in the HAL thread has a read behind it, a wake-up that
waits for the framework thread had one, and the returns so far were justified. -/
structure Synced (outputs : List SessionOutput) (s : Session) : Prop where
  wakes : ∀ rest, .releaseStart :: rest <:+ s.hal → .readNmea ∈ rest
  waiting : s.framework = .startWait → ∃ since, LastStart outputs since ∧
    (s.startCondtion ≠ 0 → .readNmea ∈ s.hal ∨ .nmeaRead ∈ since)
  justified : WaitsJustified outputs

section Steps

variable {s after : Session} {outputs out : List SessionOutput}

/-- A step of the framework thread that ends outside the wait keeps the invariant. -/
theorem Synced.leave (synced : Synced outputs s) (hal : after.hal = s.hal)
    (framework : after.framework ≠ .startWait) (noReturn : .startWaitReturned ∉ out) :
    Synced (outputs ++ out) after where
  wakes := hal ▸ synced.wakes
  waiting inWait := absurd inWait framework
  justified := synced.justified.append noReturn

/-- An event of the HAL thread that wakes nobody by itself keeps the invariant. -/
theorem Synced.poll (synced : Synced outputs s) (polling : s.hal = [])
    (framework : after.framework = s.framework) (condtion : after.startCondtion = s.startCondtion)
    (wakes : ∀ rest, .releaseStart :: rest <:+ after.hal → .readNmea ∈ rest) :
    Synced (outputs ++ []) after where
  wakes := wakes
  waiting inWait := by
    obtain ⟨since, last, woken⟩ := synced.waiting (framework ▸ inWait)
    refine ⟨since, by simpa using last, fun set => .inr ?_⟩
    simpa [polling] using woken (condtion ▸ set)
  justified := synced.justified.append (by simp)

theorem Synced.halStep (synced : Synced outputs s) {statement : Statement} {rest : List Statement}
    (point : s.hal = statement :: rest) :
    Synced (outputs ++ (statement.run { s with hal := rest }).2)
      (statement.run { s with hal := rest }).1 where
  wakes later suffixes := by
    rw [hal_run] at suffixes
    exact synced.wakes later (point ▸ suffixes.trans (List.suffix_cons _ _))
  waiting inWait := by
    rw [framework_run] at inWait
    obtain ⟨since, last, woken⟩ := synced.waiting inWait
    refine ⟨since ++ (statement.run { s with hal := rest }).2, last.append ?_, ?_⟩
    · cases statement <;> simp [Statement.run]
    · intro set
      rw [hal_run]
      cases statement with
      | releaseStart => exact .inl (synced.wakes rest (point ▸ List.suffix_rfl))
      | readNmea => exact .inr (by simp [Statement.run])
      | clearStop =>
          have unchanged : s.startCondtion ≠ 0 := by
            simp only [Statement.run] at set
            split at set <;> exact set
          simpa [point, Statement.run] using woken unchanged
      | _ => simpa [point, Statement.run] using woken set
  justified := synced.justified.append (by cases statement <;> simp [Statement.run])

theorem Synced.frameworkStep (synced : Synced outputs s)
    (fresh : s.framework = .startWait → .readNmea ∉ s.hal)
    (stepped : frameworkStep s = some (after, out)) : Synced (outputs ++ out) after := by
  unfold X3Hal.Gps.frameworkStep at stepped
  split at stepped
  case h_1 point =>
      split at stepped <;> simp only [Option.some.injEq, Prod.mk.injEq] at stepped <;>
        rcases stepped with ⟨rfl, rfl⟩
      · exact synced.leave rfl (by simp [point]) (by simp)
      · exact synced.leave rfl (by simp) (by simp)
  case h_2 point =>
      split at stepped
      · cases stepped
      · rename_i set
        simp only [Option.some.injEq, Prod.mk.injEq] at stepped
        rcases stepped with ⟨rfl, rfl⟩
        obtain ⟨since, last, woken⟩ := synced.waiting point
        have read : .nmeaRead ∈ since := (woken set).resolve_left (fresh point)
        exact ⟨synced.wakes, fun inWait => by simp at inWait, synced.justified.returned last read⟩
  case h_3 point =>
      split at stepped <;> simp only [Option.some.injEq, Prod.mk.injEq] at stepped <;>
        rcases stepped with ⟨rfl, rfl⟩
      · exact synced.leave rfl (by simp [point]) (by simp)
      · exact synced.leave rfl (by simp) (by simp)
  case h_4 point =>
      simp only [Option.some.injEq, Prod.mk.injEq] at stepped
      rcases stepped with ⟨rfl, rfl⟩
      exact synced.leave rfl (by simp) (by simp)
  case h_5 statement rest point =>
      have result := Option.some.inj stepped
      obtain rfl : (statement.run { s with framework := .run rest }).1 = after := by rw [result]
      obtain rfl : (statement.run { s with framework := .run rest }).2 = out := by rw [result]
      refine synced.leave (by simp) (by simp) ?_
      cases statement <;> simp [Statement.run]
  all_goals cases stepped

theorem Synced.sendStep (synced : Synced outputs s) {result : SendResult}
    (fresh : ∀ idx, s.framework = .startSend idx → result = .sent → s.startCondtion = 0)
    (stepped : sendStep s result = some (after, out)) : Synced (outputs ++ out) after := by
  unfold X3Hal.Gps.sendStep at stepped
  split at stepped
  case h_1 idx point =>
      simp only [Option.some.injEq, Prod.mk.injEq] at stepped
      rcases stepped with ⟨rfl, rfl⟩
      refine ⟨synced.wakes, fun _ => ⟨[], ⟨outputs, rfl, by simp⟩, ?_⟩,
        synced.justified.append (by simp)⟩
      exact fun set => absurd (fresh idx point rfl) set
  case h_2 idx point =>
      split at stepped <;> simp only [Option.some.injEq, Prod.mk.injEq] at stepped <;>
        rcases stepped with ⟨rfl, rfl⟩ <;> exact synced.leave rfl (by simp) (by simp)
  case h_6 => cases stepped
  all_goals
    simp only [Option.some.injEq, Prod.mk.injEq] at stepped
    rcases stepped with ⟨rfl, rfl⟩
    exact synced.leave rfl (by simp) (by simp)

theorem readNmea_of_suffix_gpsHandler {flagUnlock : Int} {rest : List Statement}
    (suffixes : .releaseStart :: rest <:+ gpsHandler flagUnlock) : .readNmea ∈ rest := by
  unfold gpsHandler at suffixes
  split at suffixes <;> simp_all [List.suffix_cons_iff]

theorem releaseStart_not_mem_gpsIconHandler (started status : Int) :
    .releaseStart ∉ gpsIconHandler started status := by
  unfold gpsIconHandler
  split_ifs <;> decide

/-- Every step with fresh wake-ups keeps the invariant. -/
theorem Synced.step {history : History SessionEvent SessionOutput} {event : SessionEvent}
    (synced : Synced outputs s) (fresh : freshWakeups history s event)
    (stepped : sessionStep s event = some (after, out)) : Synced (outputs ++ out) after := by
  cases event with
  | callStart | callStop =>
      obtain ⟨idle, ⟨rfl, rfl⟩ | ⟨rfl, rfl⟩⟩ := sessionStep_call rfl stepped
      · exact synced.leave rfl (by simp) (by simp)
      · exact synced.leave rfl (by simp [idle]) (by simp)
  | framework =>
      refine synced.frameworkStep (fun point => ?_) stepped
      simpa [freshWakeups, point] using fresh
  | send result =>
      refine synced.sendStep (fun idx point sent => ?_) stepped
      simpa [freshWakeups, point, sent] using fresh
  | writeFails =>
      obtain ⟨cmd, rest, point, rfl, rfl⟩ := sessionStep_writeFails stepped
      exact synced.leave rfl (by simp) (by simp)
  | hal =>
      obtain ⟨statement, rest, point, ran⟩ := sessionStep_hal stepped
      obtain rfl : (statement.run { s with hal := rest }).1 = after := by rw [ran]
      obtain rfl : (statement.run { s with hal := rest }).2 = out := by rw [ran]
      exact synced.halStep point
  | control =>
      obtain ⟨cmd, rest, polling, -, rfl, rfl⟩ := sessionStep_control stepped
      cases cmd <;> simp only [handleControl] <;> split <;>
        exact synced.poll polling rfl rfl synced.wakes
  | gps =>
      obtain ⟨polling, rfl, rfl⟩ := sessionStep_poll rfl stepped
      exact synced.poll polling rfl rfl fun rest => readNmea_of_suffix_gpsHandler
  | mnlDie =>
      obtain ⟨polling, rfl, rfl⟩ := sessionStep_poll rfl stepped
      refine synced.poll polling rfl rfl fun rest suffixes => ?_
      exact absurd (suffixes.subset List.mem_cons_self)
        (show Statement.releaseStart ∉ mnlDieHandler by decide)
  | gpsIcon status =>
      obtain ⟨polling, rfl, rfl⟩ := sessionStep_poll rfl stepped
      refine synced.poll polling rfl rfl fun rest suffixes => ?_
      exact absurd (suffixes.subset List.mem_cons_self)
        (releaseStart_not_mem_gpsIconHandler s.started status)

end Steps

/-! ## Runs -/

/-- In every run in which start commands are sent only while `M_START` is clear and
the wait does not overtake the read of the gps event that woke it, the wait of
`mtk_gps_start` returns only after NMEA data that was read after its start command. -/
theorem start_wait_justified {history : History SessionEvent SessionOutput} {s : Session}
    (run : sessions.Run freshWakeups history s) : WaitsJustified history.outputs := by
  have synced : Synced history.outputs s := by
    refine System.Run.invariant (fun history s => Synced history.outputs s) ?_ ?_ run
    · rintro _ ⟨init, rfl⟩
      exact ⟨by simp [Session.fresh], by simp [Session.fresh], justified_nil⟩
    · intro history s event after out synced fresh stepped
      rw [History.outputs_snoc]
      exact synced.step fresh stepped
  exact synced.justified

/-- A start whose wait is woken by data read after the start command. -/
def startEvents : List SessionEvent :=
  [.callStart, .framework, .send .sent, .gps, .hal, .hal, .hal, .framework]

theorem start_wait_justified_startEvents :
    ∃ history s, sessions.Run freshWakeups history s ∧ .startWaitReturned ∈ history.outputs ∧
      WaitsJustified history.outputs := by
  have run := System.run_of_exec sessions freshWakeups startEvents ⟨true, rfl⟩ (by decide) rfl
  exact ⟨_, _, run, by decide, start_wait_justified run⟩

/-- NMEA data read before the call wakes the wait of a start after it. -/
theorem stale_wakeup_ends_wait :
    ∃ history s, sessions.Run System.free history s ∧ ¬WaitsJustified history.outputs := by
  have run := System.run_of_exec sessions System.free
    [.gps, .hal, .hal, .hal, .callStart, .framework, .send .sent, .framework] ⟨true, rfl⟩
    (by decide) rfl
  refine ⟨_, _, run, fun justified => ?_⟩
  obtain ⟨since, ⟨earlier, eq, _⟩, read⟩ := justified [.nmeaRead, .startSent] _ [] rfl rfl
  rcases earlier with _ | ⟨first, _ | ⟨second, earlier⟩⟩ <;> simp_all

end X3Hal.Gps
