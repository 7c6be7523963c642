import X3Hal.Gps.TestMode

/-!
# The block of the receiver test

`Dev_CNr` keeps pointing to a block that was released.  While it does, no test runs, so nothing
but a stop can reach the block; and a stop does when the framework asks for it, the state of a
test being looked at everywhere else.
-/

namespace X3Hal.Gps

open X3Hal.Memory (Owned Undefined int32 int32_ne_freed)
open X3Hal.Program

/-- No test runs and none is in signal mode. -/
abbrev TestState.Quiet (s : TestState) : Prop :=
  s.testFlag = false ∧ s.signalMode = false ∧ s.signalTestBegin = false ∧ s.testState = .unknown

/-- No test runs while the pointer is dangling. -/
def QuietWhenFreed (s : TestState) : Prop :=
  s.devCNr = .freed → s.Quiet

/-- The pointer is not dangling. -/
def Held (s : TestState) : Prop :=
  s.devCNr ≠ .freed

theorem Held.quietWhenFreed {s : TestState} (held : Held s) : QuietWhenFreed s :=
  fun freed => absurd freed held

theorem quietWhenFreed_init (init : Bool) : QuietWhenFreed (testInit init) :=
  fun _ => ⟨rfl, rfl, rfl, rfl⟩

/-- A program does not touch a released block, and keeps what is known of the state. -/
abbrev Spares (invariant : TestState → Prop) {α : Type} (program : TestProgram α) : Prop :=
  Keeps (· ≠ Undefined.freed) (fun _ s => invariant s) program

section Rules

variable {invariant : TestState → Prop} {α : Type} {program : TestProgram α} {s : TestState}

/-- A program without outputs that matter, from a state -/
theorem Spares.ends (spares : Spares invariant program) (holds : invariant s) :
    Ends (· ≠ .freed) program s fun _ after _ => invariant after :=
  spares [] s holds

theorem spares_of_ends (ends : ∀ s, invariant s →
    Ends (· ≠ .freed) program s fun _ after _ => invariant after) : Spares invariant program :=
  fun _ s holds => ends s holds

theorem spares_emit (output : TestOutput) :
    Spares invariant (emit output : TestProgram Unit) :=
  keeps_emit fun _ _ holds => holds

theorem spares_demand {value : Except Undefined α} (other : value ≠ .error .freed) :
    Spares invariant (demand value : TestProgram α) := by
  apply spares_of_ends
  intro s holds
  apply ends_demand
  · rintro why failed rfl
    exact other failed
  · exact fun _ _ => holds

end Rules

/-! ## Stop and start -/

variable (env : TestEnv)

/-- The daemon takes a stop while the pointer is dangling. -/
def StopsFreed (s : TestState) : Prop :=
  s.init = true ∧ env.stops = true ∧ s.devCNr = .freed

theorem ends_stop {s : TestState} (known : QuietWhenFreed s) :
    Ends (fun why => why = .freed → StopsFreed env s) (mtkGpsTestStop env) s
      fun _ after _ => QuietWhenFreed after := by
  unfold mtkGpsTestStop
  simp only [ends_update_bind_iff, ends_state_bind_iff]
  apply ends_ite
  · exact fun _ => known
  intro initialized
  apply ends_ite
  · exact fun _ => known
  intro stops
  rw [ends_emit_bind_iff]
  apply ends_demand_bind
  · intro why failed _
    have freed := (Owned.free_eq_error_iff.mp failed).1
    exact ⟨by simpa using initialized, by simpa using stops, freed⟩
  · intro devCNr _
    rw [ends_update_bind_iff]
    exact fun _ => ⟨rfl, rfl, rfl, rfl⟩

/-- A stop releases the block that is held, and ends the test. -/
theorem ends_mtkGpsTestStop {s : TestState} (held : Held s) :
    Ends (· ≠ .freed) (mtkGpsTestStop env) s fun _ after _ => QuietWhenFreed after := by
  apply (ends_stop env held.quietWhenFreed).allow
  rintro why stops rfl
  exact held (stops rfl).2.2

/-- A stop of a test -/
theorem ends_stop_then {s : TestState} (known : QuietWhenFreed s) (testing : ¬ s.Quiet)
    {α : Type} {next : Int → TestProgram α}
    (follows : ∀ ret, Spares QuietWhenFreed (next ret)) :
    Ends (· ≠ .freed) (mtkGpsTestStop env >>= next) s fun _ after _ => QuietWhenFreed after := by
  apply (ends_mtkGpsTestStop env fun freed => testing (known freed)).bind
  intro ret middle out kept
  exact (follows ret).ends kept

theorem not_quiet_of_state {s : TestState} (known : s.testState ≠ .unknown) : ¬ s.Quiet :=
  fun quiet => known quiet.2.2.2

theorem not_quiet_of_signalMode {s : TestState} (known : s.signalMode = true) : ¬ s.Quiet :=
  fun quiet => Bool.false_ne_true (quiet.2.1.symm.trans known)

theorem spares_stopBeforeStart : Spares QuietWhenFreed (stopBeforeStart env) := by
  apply keeps_state_bind
  intro before s known
  apply ends_onlyIf
  · intro testing
    exact ends_stop_then env known (not_quiet_of_state testing.1) fun _ => keeps_pure ()
  · exact fun _ => known

theorem allocate_ne_freed (testNum : Int) : allocate env testNum ≠ .error .freed := by
  unfold allocate
  split
  · nofun
  split
  · nofun
  split <;> nofun

theorem allocate_held {testNum : Int} {devCNr : Owned Int}
    (allocated : allocate env testNum = .ok devCNr) : devCNr ≠ .freed := by
  rintro rfl
  simp only [allocate] at allocated
  split at allocated
  · simp at allocated
  split at allocated
  · simp at allocated
  split at allocated <;> simp at allocated

theorem spares_mtkGpsTestStart (testNum prnNum timeDelay testMode : Int) :
    Spares QuietWhenFreed (mtkGpsTestStart env testNum prnNum timeDelay testMode) := by
  apply (spares_stopBeforeStart env).bind
  intro _
  apply spares_of_ends
  intro s known
  apply ends_demand_bind
  · rintro why failed rfl
    exact allocate_ne_freed env testNum failed
  intro devCNr allocated
  have held : devCNr ≠ .freed := allocate_held env allocated
  rw [ends_update_bind_iff]
  split
  · exact fun freed => absurd freed held
  simp only [ends_update_bind_iff, ends_state_bind_iff]
  split
  · exact fun freed => absurd freed held
  split
  · exact fun freed => absurd freed held
  · simp only [ends_update_bind_iff, ends_emit_bind_iff, ends_pure_iff]
    exact fun freed => absurd freed held

/-! ## Measurements -/

theorem foldlM_ne {ε α β : Type} {step : β → α → Except ε β} {why : ε}
    (other : ∀ value item, step value item ≠ .error why) (items : List α) (value : β) :
    items.foldlM step value ≠ .error why := by
  induction items generalizing value with
  | nil => nofun
  | cons item items ih =>
      rw [List.foldlM_cons]
      cases stepped : step value item with
      | error found =>
          rintro failed
          cases failed
          exact other value item stepped
      | ok next => exact ih next

theorem addSquares_ne_freed {devCNr : Owned Int} (held : devCNr ≠ .freed) (avgCNo : Int)
    (count : Nat) (dCNo : Int) : addSquares devCNr avgCNo count dCNo ≠ .error .freed := by
  apply foldlM_ne
  intro sum j
  cases read : devCNr.read j with
  | error why =>
      rintro failed
      cases failed
      exact Owned.read_ne_freed held j read
  | ok level =>
      cases less : int32 (level - avgCNo) with
      | error why =>
          intro failed
          apply int32_ne_freed (level - avgCNo)
          simpa [less, bind, Except.bind] using failed
      | ok difference =>
          cases squared : int32 (difference * difference) with
          | error why =>
              intro failed
              apply int32_ne_freed (difference * difference)
              simpa [less, squared, bind, Except.bind] using failed
          | ok square =>
              intro failed
              apply int32_ne_freed (sum + square)
              simpa [less, squared, bind, Except.bind] using failed

theorem spares_addLevel (level : Int) : Spares Held (addLevel level) := by
  apply keeps_state_bind
  intro before s held
  apply ends_demand_bind
  · rintro why failed rfl
    exact int32_ne_freed _ failed
  intro cNo _
  apply ends_demand_bind
  · rintro why failed rfl
    exact Owned.write_ne_freed held _ _ failed
  intro devCNr written
  apply ends_demand_bind
  · rintro why failed rfl
    exact int32_ne_freed _ failed
  intro _ _
  simp only [ends_update_bind_iff, ends_emit_iff]
  exact Owned.write_eq_ok written

theorem spares_foundSignal (snr : Int) : Spares Held (foundSignal snr) := by
  apply keeps_update_bind
  · intro _ s held
    split <;> exact held
  intro _
  apply keeps_update_bind
  · intro _ s held
    split <;> exact held
  intro _
  apply (spares_demand (int32_ne_freed _)).bind
  intro level
  apply keeps_state_bind
  intro before s held
  apply Spares.ends _ held
  apply (keeps_onlyIf fun _ => spares_addLevel level).bind
  exact fun _ => keeps_update fun _ _ held => held

theorem spares_updateDeviation : Spares Held updateDeviation := by
  apply keeps_state_bind
  intro before s held
  apply ends_onlyIf
  · intro _
    apply ends_demand_bind
    · rintro why failed rfl
      exact addSquares_ne_freed held _ _ _ failed
    · exact fun _ _ => held
  · exact fun _ => held

theorem spares_gpsAtCommandSearchSatellite (satellites : List (Int × Int)) :
    Spares Held (gpsAtCommandSearchSatellite satellites) := by
  apply keeps_state_bind
  intro before s held
  apply Spares.ends _ held
  split
  · exact keeps_pure ()
  · apply Keeps.bind
    · apply keeps_ite
      · exact fun _ => spares_foundSignal _
      · exact fun _ => keeps_update fun _ _ held => held
    · exact fun _ => spares_updateDeviation

theorem spares_gpsAtCommandTestProc (satellites : List (Int × Int)) :
    Spares Held (gpsAtCommandTestProc satellites) := by
  have searches := spares_gpsAtCommandSearchSatellite satellites
  apply keeps_state_bind
  intro before s held
  apply Spares.ends _ held
  apply keeps_ite fun _ => keeps_pure ()
  intro _
  apply keeps_ite
  · intro _
    exact keeps_onlyIf fun _ => searches.bind fun _ => keeps_update fun _ _ held => held
  · exact fun _ => searches

/-! ## Sentences -/

theorem spares_countCheck : Spares Held countCheck := by
  apply keeps_state_bind
  intro before s held
  apply Spares.ends _ held
  apply keeps_ite
  · intro _
    apply Keeps.bind (spares_demand (int32_ne_freed _))
    intro failureNum
    apply Keeps.bind (spares_demand (int32_ne_freed _))
    intro completedNum
    apply keeps_update_bind
    · exact fun _ _ held => held
    intro _
    apply keeps_ite
    · exact fun _ => (spares_emit _).bind fun _ => keeps_pure true
    · exact fun _ => keeps_pure false
  · intro _
    apply Keeps.bind (spares_demand (int32_ne_freed _))
    intro waitNum
    apply keeps_update_bind
    · exact fun _ _ held => held
    intro _
    apply keeps_ite
    · intro _
      apply keeps_update_bind
      · exact fun _ _ held => held
      · exact fun _ => (spares_emit _).bind fun _ => keeps_pure true
    · exact fun _ => keeps_pure false

theorem ends_finishTest {s : TestState} (held : Held s) :
    Ends (· ≠ .freed) (finishTest env) s fun _ after _ => QuietWhenFreed after := by
  unfold finishTest
  simp only [ends_update_bind_iff, ends_state_bind_iff]
  apply ends_onlyIf
  · intro _
    apply Ends.bind
    · exact ends_mtkGpsTestStop env held
    intro _ middle _ known
    exact known
  · exact fun _ freed => absurd freed held

theorem ends_checkTest {s : TestState} (held : Held s) :
    Ends (· ≠ .freed) (checkTest env) s fun _ after _ => QuietWhenFreed after := by
  apply ((spares_emit .checked).ends held).bind
  intro _ first _ held
  apply (spares_countCheck.ends held).bind
  intro ends middle _ held
  rw [ends_update_bind_iff]
  apply ends_onlyIf
  · exact fun _ => ends_finishTest env held
  · exact fun _ freed => absurd freed held

theorem spares_parseTestSentence (endTag : Bool) (set : Option (List (Int × Int))) :
    Spares QuietWhenFreed (parseTestSentence env endTag set) := by
  apply keeps_state_bind
  intro before s known
  dsimp only
  apply ends_ite
  · exact fun _ => known
  intro _
  have checked : Ends (· ≠ .freed)
      (onlyIf ((s.testFlag || s.signalTestBegin) ∧ endTag) (checkTest env)) s
      fun _ after _ => QuietWhenFreed after := by
    apply ends_onlyIf
    · intro watched
      apply ends_checkTest env
      intro freed
      simp [known freed] at watched
    · exact fun _ => known
  apply checked.bind
  intro _ middle out kept
  rw [ends_state_bind_iff]
  split
  · apply ends_onlyIf
    · intro tests
      have held : Held middle := by
        intro freed
        simp [kept freed] at tests
      apply ((spares_gpsAtCommandTestProc _).ends held).mono
      exact fun _ _ _ held => Held.quietWhenFreed held
    · exact fun _ => kept
  · exact kept

/-! ## AT commands -/

theorem spares_sendText {invariant : TestState → Prop} (text : String) :
    Spares invariant (sendText text) :=
  spares_emit _

theorem spares_sendBuffer {invariant : TestState → Prop} (text : List UInt8) (size : Nat) :
    Spares invariant (sendBuffer text size) := by
  apply Keeps.bind
  · apply spares_demand
    split <;> nofun
  · exact fun _ => spares_emit _

theorem spares_atCommandSendCno {invariant : TestState → Prop} (command : List UInt8) :
    Spares invariant (atCommandSendCno command) := by
  apply keeps_state_bind
  intro before s known
  apply Spares.ends _ known
  apply keeps_ite fun _ => spares_sendText _
  intro _
  exact keeps_ite (fun _ => spares_sendText _) fun _ => spares_sendBuffer _ _

theorem spares_atCommandSendTestResult {invariant : TestState → Prop} :
    Spares invariant atCommandSendTestResult := by
  apply keeps_state_bind
  intro before s known
  apply Spares.ends _ known
  split
  · exact spares_sendText _
  · exact spares_sendBuffer _ _
  all_goals
    apply keeps_ite fun _ => spares_sendBuffer _ _
    intro _
    exact keeps_ite (fun _ => spares_sendBuffer _ _) fun _ => spares_sendText _

theorem spares_startNumbered (name : String) (testNum : Int) :
    Spares QuietWhenFreed (startNumbered env name testNum) := by
  apply keeps_ite
  · exact fun _ => (spares_mtkGpsTestStart env _ _ _ _).bind fun _ => spares_sendText _
  · exact fun _ => spares_sendText _

theorem parseTestNum_ne_freed (command : List UInt8) :
    atCommandParseTestNum command ≠ .error .freed := by
  unfold atCommandParseTestNum
  split <;> nofun

theorem spares_atGpsCommandParser (command : List UInt8) :
    Spares QuietWhenFreed (atGpsCommandParser env command) := by
  apply keeps_update_bind
  · exact fun _ _ known => known
  intro _
  split
  · apply keeps_ite fun _ => spares_atCommandSendCno command
    intro _
    apply keeps_ite fun _ => keeps_pure ()
    intro _
    apply (spares_demand (parseTestNum_ne_freed command)).bind
    exact fun _ => spares_startNumbered env _ _
  · apply keeps_ite
    · intro _
      apply keeps_state_bind
      intro before s known
      apply Spares.ends _ known
      split
      · exact spares_sendText _
      · exact spares_sendBuffer _ _
      all_goals exact spares_sendText _
    · intro _
      exact keeps_ite (fun _ => spares_atCommandSendCno command) fun _ => spares_sendText _

theorem spares_setSignalMode : Spares QuietWhenFreed (setSignalMode env) := by
  apply keeps_state_bind
  intro before s known
  apply ends_ite
  · intro _
    apply Spares.ends _ known
    exact (spares_mtkGpsTestStart env _ _ _ _).bind fun _ => spares_sendText _
  · intro tests
    have held : Held s := fun freed => tests (by simp [known freed])
    simp only [sendText, ends_update_bind_iff, ends_emit_iff]
    exact fun freed => absurd freed held

theorem spares_endTest : Spares QuietWhenFreed (endTest env) := by
  apply keeps_state_bind
  intro before s known
  split
  · exact (spares_sendText _).ends known
  case isFalse testing =>
      exact ends_stop_then env known (not_quiet_of_state testing) fun _ => spares_sendText _

theorem spares_startGnss (testNum : Int) : Spares QuietWhenFreed (startGnss env testNum) := by
  apply keeps_update_bind
  · exact fun _ _ known => known
  intro _
  apply keeps_state_bind
  intro before s known
  apply ends_ite
  · intro signal
    have held : Held s := fun freed => not_quiet_of_signalMode signal (known freed)
    apply ends_ite
    · intro _
      simp only [sendText, ends_emit_bind_iff]
      apply ends_onlyIf
      · intro testing
        exact ends_stop_then env known (not_quiet_of_state testing) fun _ => keeps_pure ()
      · exact fun _ => known
    · intro _
      simp only [sendText, ends_update_bind_iff, ends_emit_bind_iff, ends_update_iff]
      exact fun freed => absurd freed held
  · exact fun _ => (spares_startNumbered env _ _).ends known

theorem spares_atGnssCommandParser (command : List UInt8) :
    Spares QuietWhenFreed (atGnssCommandParser env command) := by
  apply keeps_update_bind
  · exact fun _ _ known => known
  intro _
  split
  · apply keeps_ite fun _ => spares_atCommandSendTestResult
    intro _
    apply keeps_ite fun _ => spares_setSignalMode env
    intro _
    apply keeps_ite fun _ => spares_endTest env
    intro _
    apply (spares_demand (parseTestNum_ne_freed command)).bind
    exact fun _ => spares_startGnss env _
  · apply keeps_ite fun _ => spares_atCommandSendTestResult
    intro _
    exact keeps_ite (fun _ => spares_atCommandSendCno command) fun _ => spares_sendText _

theorem spares_receiveAtCommand (datagram : List UInt8) :
    Spares QuietWhenFreed (receiveAtCommand env datagram) := by
  apply Keeps.bind
  · apply spares_demand
    split <;> nofun
  intro _
  apply keeps_ite fun _ => spares_atGpsCommandParser env _
  intro _
  exact keeps_ite (fun _ => spares_atGnssCommandParser env _) fun _ => spares_sendText _

/-! ## Runs -/

/-- The framework stops a test while the pointer is dangling. -/
def StopsReleased (s : TestState) (event : TestEvent) : Prop :=
  ∃ env, event = .testStop env ∧ StopsFreed env s

theorem stopsReleased_fails {s : TestState} {event : TestEvent}
    (released : StopsReleased s event) :
    event.program s = .error .freed := by
  obtain ⟨env, rfl, init, stops, freed⟩ := released
  simp [TestEvent.program, mtkGpsTestStop, bind, update, state, emit, demand, init, stops, freed,
    Owned.free, Except.map]

/-- An event touches a released block only if it is a stop of the framework. -/
theorem ends_event {s : TestState} (known : QuietWhenFreed s) (event : TestEvent) :
    Ends (fun why => why = .freed → StopsReleased s event) event.program s
      fun _ after _ => QuietWhenFreed after := by
  have spared : ∀ {program : TestProgram Unit},
      Ends (· ≠ .freed) program s (fun _ after _ => QuietWhenFreed after) →
      Ends (fun why => why = .freed → StopsReleased s event) program s
        fun _ after _ => QuietWhenFreed after :=
    fun ends => ends.allow fun _ other freed => absurd freed other
  cases event with
  | atCommand env datagram => exact spared ((spares_receiveAtCommand env datagram).ends known)
  | sentence env endTag set => exact spared ((spares_parseTestSentence env endTag set).ends known)
  | testStart env testNum prnNum timeDelay testMode =>
      apply spared
      apply Spares.ends _ known
      exact (spares_mtkGpsTestStart env _ _ _ _).bind fun _ => keeps_pure ()
  | testStop env =>
      have stops : Ends (fun why => why = .freed → StopsReleased s (.testStop env))
          (mtkGpsTestStop env) s fun _ after _ => QuietWhenFreed after :=
        (ends_stop env known).allow fun _ only freed => ⟨env, rfl, only freed⟩
      exact stops.bind fun _ _ _ kept => kept

theorem quietWhenFreed_of_run {init : Bool} {history : Transition.History TestEvent TestOutput}
    {s : TestState} (running : (testSystem init).Run Transition.System.free history s) :
    QuietWhenFreed s := by
  apply running.invariant fun _ s => QuietWhenFreed s
  · rintro _ rfl
    exact quietWhenFreed_init init
  · intro _ s event after out known _ stepped
    exact (ends_event known event).of_step stepped

end X3Hal.Gps
