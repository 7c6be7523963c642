import X3Hal.Gps.TestMemory
import X3Hal.Gps.TestTally

/-!
# The reports of the receiver test

Between two looks at its counters a test may measure only once, since it ends when their sum is
what was asked for and not when it is more; and a test that has measured something may not be
stopped or started again, since not all of its counters are cleared then.  Of the tests that are
left alone like this, each report tells what was measured, and it comes when the test is over.
-/

namespace X3Hal.Gps

open X3Hal.Memory (Owned int32_of_range)
open X3Hal.Program

/-- So many squares of differences of levels have a sum that is an `int`. -/
def maxTestNum : Int := 2191

/-! ## The invariant -/

structure ResultBounds (result : TestResult) : Prop where
  errorCode : 0 ≤ result.errorCode ∧ result.errorCode ≤ 32
  theta : result.theta = 0
  phi : result.phi = 0
  successNum : 0 ≤ result.successNum ∧ result.successNum ≤ maxTestNum
  completeNum : 0 ≤ result.completeNum ∧ result.completeNum ≤ maxTestNum
  avgCNo : 0 ≤ result.avgCNo ∧ result.avgCNo ≤ 990
  devCNo : 0 ≤ result.devCNo ∧ result.devCNo ≤ 990
  avgSpeed : result.avgSpeed = 0

/-- The numbers that replies show -/
structure NumberBounds (s : TestState) : Prop where
  result : ResultBounds s.result
  errCode : 0 ≤ s.errCode ∧ s.errCode ≤ 32
  completedNum : 0 ≤ s.completedNum ∧ s.completedNum ≤ maxTestNum
  avgCNo : 0 ≤ s.avgCNo ∧ s.avgCNo ≤ 990
  devCNo : 0 ≤ s.devCNo ∧ s.devCNo ≤ 990
  cn : 0 ≤ s.cn ∧ s.cn ≤ 990
  sigSucNum : 0 ≤ s.sigSucNum ∧ s.sigSucNum ≤ 1

/-- The block of a test that runs, with the levels at its front -/
structure BlockHolds (tally : Tally) (s : TestState) : Prop where
  asked : tally.testNum = s.halTestData.testNum
  some_asked : 1 ≤ tally.testNum
  not_many : tally.testNum ≤ maxTestNum
  block : ∃ cells, s.devCNr = .live cells ∧ (cells.length : Int) = tally.testNum ∧
    tally.levels <+: cells

/-- A test that has measured something -/
structure Testing (tally : Tally) (s : TestState) : Prop where
  testFlag : s.testFlag = true
  avgCNo : s.avgCNo = mean tally.levels
  errCode : s.errCode = 0
  checks : (tally.checks : Int) = s.prevSuccessNum + s.failureNum
  failureNum : 0 ≤ s.failureNum
  known : s.prevSuccessNum ≤ s.successNum
  recent : s.successNum ≤ s.prevSuccessNum + 1
  goes_on : tally.checks < tally.testNum

structure Unmeasured (tally : Tally) (s : TestState) : Prop where
  checks : tally.checks = 0
  prevSuccessNum : s.prevSuccessNum = 0
  failureNum : s.failureNum = 0

/-- The variables say what the tally says, but for the deviation. -/
structure TestSound (tally : Tally) (s : TestState) : Prop where
  init : s.init = true
  quiet : QuietWhenFreed s
  numbers : NumberBounds s
  waitNum : s.waitNum = tally.waits
  waits : tally.waits < 20
  successNum : s.successNum = tally.levels.length
  cNo : s.cNo = tally.levels.sum
  dCNo : s.dCNo = 0
  levels : Levels tally.levels
  block : s.testFlag = true → BlockHolds tally s
  resting : tally.levels = [] → Unmeasured tally s
  testing : tally.levels ≠ [] → Testing tally s

def Deviates (tally : Tally) (s : TestState) : Prop :=
  tally.levels ≠ [] → s.devCNo = deviation tally.levels

/-- The invariant between two events -/
structure TestInvariant (tally : Tally) (s : TestState) : Prop where
  sound : TestSound tally s
  deviates : Deviates tally s

section Sound

variable {tally : Tally} {s : TestState}

theorem TestSound.not_ended (sound : TestSound tally s) : ¬ tally.Ended := by
  by_cases none : tally.levels = []
  · rw [ended_iff_of_nil none]
    exact Nat.ne_of_lt sound.waits
  · rw [ended_iff_of_levels none]
    exact Int.ne_of_lt (sound.testing none).goes_on

theorem TestSound.levels_eq_nil_iff (sound : TestSound tally s) :
    tally.levels = [] ↔ s.successNum = 0 := by
  rw [sound.successNum, List.length_eq_zero_iff]

theorem numberBounds_init (init : Bool) : NumberBounds (testInit init) := by
  constructor
  · constructor <;> simp [testInit, maxTestNum]
  all_goals simp [testInit, maxTestNum]

theorem testInvariant_init : TestInvariant Tally.start (testInit true) := by
  constructor
  · exact {
      init := rfl
      quiet := quietWhenFreed_init true
      numbers := numberBounds_init true
      waitNum := rfl
      waits := by decide
      successNum := rfl
      cNo := rfl
      dCNo := rfl
      levels := nofun
      block := nofun
      resting := fun _ => ⟨rfl, rfl, rfl⟩
      testing := fun some => absurd rfl some }
  · exact fun some => absurd rfl some

end Sound

/-! ## Replies -/

theorem printInt_length {value : Int} (low : 0 ≤ value) (digits : Nat) (some : 0 < digits)
    (high : value < 10 ^ digits) : (printInt value).length ≤ digits := by
  obtain ⟨number, rfl⟩ := Int.eq_ofNat_of_zero_le low
  have small : number < 10 ^ digits := by exact_mod_cast high
  have short := (Nat.length_repr_le_iff some).mpr small
  unfold printInt Memory.ascii
  rw [List.length_map]
  exact short

theorem printResult_length {result : TestResult} (bounds : ResultBounds result) :
    (printResult result).length ≤ 33 := by
  have one : ∀ {value : Int}, value = 0 → (printInt value).length ≤ 1 := by
    rintro _ rfl
    decide
  have code := printInt_length bounds.errorCode.1 2 (by decide)
    (by have := bounds.errorCode.2; omega)
  have success := printInt_length bounds.successNum.1 4 (by decide)
    (by have := bounds.successNum.2; simp only [maxTestNum] at this; omega)
  have complete := printInt_length bounds.completeNum.1 4 (by decide)
    (by have := bounds.completeNum.2; simp only [maxTestNum] at this; omega)
  have average := printInt_length bounds.avgCNo.1 3 (by decide)
    (by have := bounds.avgCNo.2; omega)
  have spread := printInt_length bounds.devCNo.1 3 (by decide)
    (by have := bounds.devCNo.2; omega)
  have theta := one bounds.theta
  have phi := one bounds.phi
  have speed := one bounds.avgSpeed
  have comma : (Memory.ascii ", ").length = 2 := by decide
  simp only [printResult, List.foldl_cons, List.foldl_nil, List.length_append, comma]
  omega

section Replies

variable {tally : Tally} {s : TestState}

/-- Neither the tally nor the state changes. -/
def Unmoved (tally : Tally) (s : TestState) : Unit → Tally → TestState → Prop :=
  fun _ later after => later = tally ∧ after = s

variable (going : ¬ tally.Ended)

include going

theorem meets_sendText (text : String) :
    tallyMonitor.Meets (sendText text) tally s (Unmoved tally s) :=
  Monitor.meets_emit going ⟨rfl, rfl⟩

theorem meets_sendBuffer {text : List UInt8} {size : Nat} (fits : text.length < size) :
    tallyMonitor.Meets (sendBuffer text size) tally s (Unmoved tally s) := by
  apply Monitor.meets_demand_bind
  · exact if_pos fits
  · exact Monitor.meets_emit going ⟨rfl, rfl⟩

theorem meets_sendResult {result : TestResult} (bounds : ResultBounds result) :
    tallyMonitor.Meets (sendResult result) tally s (Unmoved tally s) := by
  apply meets_sendBuffer going
  have short := printResult_length bounds
  have opens : (Memory.ascii "[").length = 1 := by decide
  have closes : (Memory.ascii "][0, 0, 0, 0, 0, 0, 0, 0]").length = 25 := by decide
  simp only [List.length_append, opens, closes]
  omega

theorem meets_atCommandSendCno (numbers : NumberBounds s) (command : List UInt8) :
    tallyMonitor.Meets (atCommandSendCno command) tally s (Unmoved tally s) := by
  unfold atCommandSendCno
  rw [Monitor.meets_state_bind_iff]
  dsimp only
  apply Monitor.meets_ite
  · exact fun _ => meets_sendText going _
  intro _
  apply Monitor.meets_ite
  · exact fun _ => meets_sendText going _
  intro _
  apply meets_sendBuffer going
  have inside : ∀ level : Int, 0 ≤ level ∧ level ≤ 990 →
      (printInt (level.tdiv 10)).length ≤ 2 := by
    intro level bounds
    rw [Int.tdiv_eq_ediv_of_nonneg bounds.1]
    exact printInt_length (by omega) 2 (by decide) (by omega)
  have number := inside (if s.signalMode then s.cn else s.avgCNo) (by
    split
    · exact numbers.cn
    · exact numbers.avgCNo)
  have suffix : (if isGnss command then Memory.ascii ", NA" else []).length ≤ 4 := by
    split <;> decide
  rw [List.length_append]
  omega

theorem meets_atCommandSendTestResult (numbers : NumberBounds s) :
    tallyMonitor.Meets atCommandSendTestResult tally s (Unmoved tally s) := by
  unfold atCommandSendTestResult
  rw [Monitor.meets_state_bind_iff]
  have shown : tallyMonitor.Meets (sendResult s.result) tally s (Unmoved tally s) :=
    meets_sendResult going numbers.result
  split
  · exact meets_sendText going _
  · exact shown
  all_goals
    apply Monitor.meets_ite fun _ => shown
    intro _
    exact Monitor.meets_ite (fun _ => shown) fun _ => meets_sendText going _

theorem meets_gpsStatus (numbers : NumberBounds s) :
    tallyMonitor.Meets (do
      let s ← state
      match mtkGpsTestInprogress s with
      | .inprogress => sendText "GPS Test In Progress"
      | .done => sendBuffer (Memory.ascii "<" ++ printResult s.result ++ Memory.ascii ">") 60
      | .unknown | .start | .stop | .resultDone => sendText "ERROR") tally s
      (Unmoved tally s) := by
  rw [Monitor.meets_state_bind_iff]
  have short := printResult_length numbers.result
  have opens : (Memory.ascii "<").length = 1 := by decide
  have closes : (Memory.ascii ">").length = 1 := by decide
  split
  · exact meets_sendText going _
  · apply meets_sendBuffer going
    simp only [List.length_append, opens, closes]
    omega
  all_goals exact meets_sendText going _

end Replies

/-! ## Stop and start -/

section Control

variable {env : TestEnv} {tally : Tally} {s : TestState}

/-- A test that has seen nothing yet -/
theorem sound_empty (init : s.init = true) (quiet : QuietWhenFreed s) (numbers : NumberBounds s)
    (waitNum : s.waitNum = 0) (successNum : s.successNum = 0) (cNo : s.cNo = 0) (dCNo : s.dCNo = 0)
    (block : s.testFlag = true → BlockHolds tally.empty s) (prevSuccessNum : s.prevSuccessNum = 0)
    (failureNum : s.failureNum = 0) : TestInvariant tally.empty s := by
  constructor
  · exact {
      init := init
      quiet := quiet
      numbers := numbers
      waitNum := waitNum
      waits := Nat.zero_lt_succ _
      successNum := successNum
      cNo := cNo
      dCNo := dCNo
      levels := nofun
      block := block
      resting := fun _ => ⟨rfl, prevSuccessNum, failureNum⟩
      testing := fun some => absurd rfl some }
  · exact fun some => absurd rfl some

/-- The daemon takes the stop, and all is cleared but the failures; or it does not. -/
inductive StopEffect (env : TestEnv) (tally : Tally) (s : TestState) :
    Int → Tally → TestState → Prop
  | stopped (devCNr : Owned Int) (taken : env.stops = true) :
      StopEffect env tally s 0 tally.empty { s.released with testModeFlag := true, devCNr }
  | refused (refuses : env.stops = false) :
      StopEffect env tally s (-1) tally { s with testModeFlag := true }

theorem meets_mtkGpsTestStop (going : ¬ tally.Ended) (init : s.init = true) (held : Held s) :
    tallyMonitor.Meets (mtkGpsTestStop env) tally s (StopEffect env tally s) := by
  unfold mtkGpsTestStop
  rw [Monitor.meets_update_bind_iff, Monitor.meets_state_bind_iff]
  apply Monitor.meets_ite
  · simp [init]
  intro _
  apply Monitor.meets_ite
  · intro refuses
    apply Monitor.meets_pure
    exact .refused (by simpa using refuses)
  · intro taken
    apply Monitor.meets_emit_bind going
    obtain ⟨devCNr, freed⟩ : ∃ devCNr, s.devCNr.free = .ok devCNr := by
      cases holds : s.devCNr with
      | null => exact ⟨_, rfl⟩
      | live cells => exact ⟨_, rfl⟩
      | freed => exact absurd holds held
    apply Monitor.meets_demand_bind freed
    rw [Monitor.meets_update_bind_iff]
    apply Monitor.meets_pure
    exact .stopped devCNr (by simpa using taken)

theorem NumberBounds.released (numbers : NumberBounds s) (testModeFlag : Bool)
    (devCNr : Owned Int) : NumberBounds { s.released with testModeFlag, devCNr } where
  result := numbers.result
  errCode := (by decide : (0 : Int) ≤ 1 ∧ (1 : Int) ≤ 32)
  completedNum := (by decide : (0 : Int) ≤ 0 ∧ (0 : Int) ≤ maxTestNum)
  avgCNo := numbers.avgCNo
  devCNo := (by decide : (0 : Int) ≤ 0 ∧ (0 : Int) ≤ 990)
  cn := numbers.cn
  sigSucNum := numbers.sigSucNum

/-- Only `test_mode_flag` differs. -/
theorem TestInvariant.testModeFlag (invariant : TestInvariant tally s) (testModeFlag : Bool) :
    TestInvariant tally { s with testModeFlag } where
  sound := { invariant.sound with
    numbers := { invariant.sound.numbers with }
    block := fun tests => { invariant.sound.block tests with }
    resting := fun none => { invariant.sound.resting none with }
    testing := fun some => { invariant.sound.testing some with } }
  deviates := invariant.deviates

/-- A test that has measured nothing may be stopped. -/
theorem StopEffect.invariant {ret : Int} {later : Tally} {after : TestState}
    (effect : StopEffect env tally s ret later after) (invariant : TestInvariant tally s)
    (none : tally.levels = []) : TestInvariant later after ∧ later.levels = [] := by
  cases effect with
  | stopped devCNr _ =>
      have resting := invariant.sound.resting none
      constructor
      · apply sound_empty
        · exact invariant.sound.init
        · exact fun _ => ⟨rfl, rfl, rfl, rfl⟩
        · exact invariant.sound.numbers.released true devCNr
        · rfl
        · rfl
        · rfl
        · rfl
        · nofun
        · exact resting.prevSuccessNum
        · exact resting.failureNum
      · rfl
  | refused _ => exact ⟨invariant.testModeFlag true, none⟩

theorem meets_stop_unmeasured (invariant : TestInvariant tally s) (none : tally.levels = [])
    (held : Held s) :
    tallyMonitor.Meets (mtkGpsTestStop env) tally s fun _ later after =>
      TestInvariant later after ∧ later.levels = [] :=
  (meets_mtkGpsTestStop invariant.sound.not_ended invariant.sound.init held).mono
    fun _ _ _ effect => effect.invariant invariant none

/-- A block of as many integers as are asked for -/
theorem allocate_eq (allocates : env.allocates = true) {testNum : Int} (some : 0 ≤ testNum) :
    allocate env testNum = .ok (.live (List.replicate testNum.toNat 0)) := by
  rw [allocate, if_neg (Int.not_lt.mpr some), if_pos allocates]

/-- The numbers that a test may be started with: what the framework asks for, an AT command, and
signal mode where no test runs -/
inductive MayStart (s : TestState) (testNum testMode : Int) : Prop
  | numbered (some : 1 ≤ testNum) (not_many : testNum ≤ maxTestNum)
  | signal (none : testNum = 0) (mode : testMode = 1) (still : s.testFlag = false)

theorem meets_stopBeforeStart (invariant : TestInvariant tally s) (none : tally.levels = []) :
    tallyMonitor.Meets (stopBeforeStart env) tally s fun _ later after =>
      TestInvariant later after ∧ later.levels = [] ∧
        (s.testFlag = false → after.testFlag = false) := by
  unfold stopBeforeStart
  rw [Monitor.meets_state_bind_iff]
  apply Monitor.meets_onlyIf
  · intro testing
    have held : Held s := fun freed => not_quiet_of_state testing.1 (invariant.sound.quiet freed)
    apply (meets_mtkGpsTestStop invariant.sound.not_ended invariant.sound.init held).bind
    intro ret later after effect
    apply Monitor.meets_pure
    have kept := effect.invariant invariant none
    refine ⟨kept.1, kept.2, ?_⟩
    cases effect with
    | stopped _ _ => exact fun _ => rfl
    | refused _ => exact id
  · exact fun _ => ⟨invariant, none, id⟩

/-- A state that differs from one where nothing was measured in what a start sets -/
theorem restarted_invariant (invariant : TestInvariant tally s) (none : tally.levels = [])
    (testFlag signalMode : Bool) (testState : AtTestState) (halTestData : HalAtTest)
    (startTime : Int) {devCNr : Owned Int} (held : devCNr ≠ .freed) (testNum : Int)
    (block : testFlag = true → testNum = halTestData.testNum ∧ 1 ≤ testNum ∧
      testNum ≤ maxTestNum ∧ devCNr = .live (List.replicate testNum.toNat 0)) :
    TestInvariant { tally with testNum }
      { s with testFlag, signalMode, testState, halTestData, startTime, avgCNo := 0, devCNr } where
  sound := { invariant.sound with
    quiet := fun freed => absurd freed held
    numbers := { invariant.sound.numbers with
      avgCNo := (by decide : (0 : Int) ≤ 0 ∧ (0 : Int) ≤ 990) }
    block := fun tests => {
      asked := (block tests).1
      some_asked := (block tests).2.1
      not_many := (block tests).2.2.1
      block := by
        refine ⟨_, (block tests).2.2.2, ?_, ?_⟩
        · have some := (block tests).2.1
          change ((List.replicate testNum.toNat (0 : Int)).length : Int) = testNum
          rw [List.length_replicate]
          omega
        · change tally.levels <+: _
          rw [none]
          exact List.nil_prefix }
    resting := fun _ => { invariant.sound.resting none with }
    testing := fun some => absurd none some }
  deviates := fun some => absurd none some

theorem meets_mtkGpsTestStart (invariant : TestInvariant tally s) (none : tally.levels = [])
    (allocates : env.allocates = true) {testNum testMode : Int} (prnNum timeDelay : Int)
    (may : MayStart s testNum testMode) :
    tallyMonitor.Meets (mtkGpsTestStart env testNum prnNum timeDelay testMode) tally s
      fun _ later after => TestInvariant later after ∧ later.levels = [] := by
  unfold mtkGpsTestStart
  apply (meets_stopBeforeStart invariant none).bind
  rintro _ tally s' ⟨invariant, none, still⟩
  have some : 0 ≤ testNum := by
    cases may <;> omega
  have held : Owned.live (List.replicate testNum.toNat (0 : Int)) ≠ .freed := nofun
  apply Monitor.meets_demand_bind (allocate_eq allocates some)
  rw [Monitor.meets_update_bind_iff]
  apply Monitor.meets_ite
  · rintro ⟨rfl, rfl⟩
    cases may <;> simp_all
  intro _
  rw [Monitor.meets_update_bind_iff, Monitor.meets_state_bind_iff]
  apply Monitor.meets_ite
  · simp [invariant.sound.init]
  intro _
  apply Monitor.meets_ite
  · intro _
    rw [Monitor.meets_update_bind_iff]
    apply Monitor.meets_pure
    exact ⟨restarted_invariant invariant none false _ .unknown ⟨testNum, prnNum, timeDelay⟩ env.now
      held tally.testNum nofun, none⟩
  · intro _
    rw [Monitor.meets_update_bind_iff]
    apply Monitor.meets_emit_bind invariant.sound.not_ended
    apply Monitor.meets_pure
    constructor
    · apply restarted_invariant invariant none _ _ .inprogress ⟨testNum, prnNum, timeDelay⟩ env.now
      · exact held
      · intro tests
        cases may with
        | numbered some not_many => exact ⟨rfl, some, not_many, rfl⟩
        | signal _ mode unflagged => simp [mode, still unflagged] at tests
    · exact none

end Control

/-! ## Measurements -/

section Measurements

variable {tally : Tally} {s : TestState}

theorem prefix_set {levels cells : List Int} (front : levels <+: cells)
    (inside : levels.length < cells.length) (level : Int) :
    levels ++ [level] <+: cells.set levels.length level := by
  obtain ⟨rest, rfl⟩ := front
  cases rest with
  | nil => simp at inside
  | cons first rest =>
      refine ⟨rest, ?_⟩
      simp

/-- A test that was looked at since its last level has room for one more. -/
theorem TestSound.room (sound : TestSound tally s) (tests : s.testFlag = true)
    (looked : s.successNum = s.prevSuccessNum) : (tally.levels.length : Int) < tally.testNum := by
  by_cases none : tally.levels = []
  · have some := (sound.block tests).some_asked
    rw [none]
    exact Int.lt_of_lt_of_le Int.zero_lt_one some
  · have testing := sound.testing none
    have count := sound.successNum
    have checks := testing.checks
    have failures := testing.failureNum
    have open_ := testing.goes_on
    omega

theorem mean_append (levels : List Int) (level : Int) :
    mean (levels ++ [level]) = (levels.sum + level) / (levels.length + 1 : Nat) := by
  rw [mean, List.sum_append, List.sum_singleton, List.length_append, List.length_singleton]

theorem meets_addLevel (sound : TestSound tally s) (tests : s.testFlag = true)
    (looked : s.successNum = s.prevSuccessNum) {level : Int} (low : 0 ≤ level)
    (high : level ≤ 990) :
    tallyMonitor.Meets (addLevel level) tally s fun _ later after =>
      TestSound later after ∧ Held after := by
  have holds := sound.block tests
  obtain ⟨cells, live, length, front⟩ := holds.block
  have room := sound.room tests looked
  have not_many := holds.not_many
  simp only [maxTestNum] at not_many
  have count := sound.successNum
  have sums := sum_bounds sound.levels
  have inside : tally.levels.length < cells.length := by omega
  unfold addLevel
  rw [Monitor.meets_state_bind_iff]
  apply Monitor.meets_demand_bind
  · apply int32_of_range <;> rw [sound.cNo] <;> omega
  apply Monitor.meets_demand_bind
  · rw [live, count]
    exact Owned.write_live inside level
  apply Monitor.meets_demand_bind
  · apply int32_of_range <;> omega
  rw [Monitor.meets_update_bind_iff]
  apply Monitor.meets_emit sound.not_ended
  have levels := sound.levels.append low high
  have average : (s.cNo + level).tdiv (s.successNum + 1) = mean (tally.levels ++ [level]) := by
    rw [mean_append, sound.cNo, count, Int.tdiv_eq_ediv_of_nonneg (by omega)]
    push_cast
    rfl
  have resting := sound.resting
  have testing := sound.testing
  constructor
  · exact {
      init := sound.init
      quiet := nofun
      numbers := { sound.numbers with
        errCode := (by decide : (0 : Int) ≤ 0 ∧ (0 : Int) ≤ 32)
        avgCNo := average ▸ levels.mean_bounds }
      waitNum := sound.waitNum
      waits := sound.waits
      successNum := by
        change s.successNum + 1 = (tally.levels ++ [level]).length
        rw [count, List.length_append, List.length_singleton]
      cNo := by
        change s.cNo + level = (tally.levels ++ [level]).sum
        rw [sound.cNo, List.sum_append, List.sum_singleton]
      dCNo := sound.dCNo
      levels := levels
      block := fun _ => {
        asked := holds.asked
        some_asked := holds.some_asked
        not_many := holds.not_many
        block := by
          refine ⟨_, rfl, ?_, ?_⟩
          · rw [List.length_set]
            exact length
          · exact prefix_set front inside level }
      resting := fun none => absurd (List.append_eq_nil_iff.mp none).2 (List.cons_ne_nil _ _)
      testing := fun _ => {
        testFlag := tests
        avgCNo := average
        errCode := rfl
        checks := by
          by_cases none : tally.levels = []
          · have counters := resting none
            change (tally.checks : Int) = s.prevSuccessNum + s.failureNum
            rw [counters.checks, counters.prevSuccessNum, counters.failureNum]
            rfl
          · exact (testing none).checks
        failureNum := by
          by_cases none : tally.levels = []
          · exact (resting none).failureNum.ge
          · exact (testing none).failureNum
        known := looked ▸ Nat.le_succ _
        recent := Nat.succ_le_succ looked.le
        goes_on := by
          by_cases none : tally.levels = []
          · have counters := resting none
            have some := holds.some_asked
            change (tally.checks : Int) < tally.testNum
            rw [counters.checks]
            exact some
          · exact (testing none).goes_on } }
  · nofun

/-! ## Deviations -/

theorem addSquares_eq {levels rest : List Int} (inside : Levels levels) {average : Int}
    (average_inside : 0 ≤ average ∧ average ≤ 990) (few : (levels.length : Int) ≤ maxTestNum)
    {count : Nat} (part : count ≤ levels.length) :
    addSquares (.live (levels ++ rest)) average count 0 =
      .ok (squaresFrom average (levels.take count)) := by
  induction count with
  | zero => rfl
  | succ count ih =>
      have here : count < levels.length := part
      have before := ih (Nat.le_of_lt here)
      have level_inside := inside _ (List.getElem_mem here)
      have square := square_bounds level_inside average_inside
      have first : Levels (levels.take count) := fun level among =>
        inside level (List.mem_of_mem_take among)
      have sum := squaresFrom_bounds first average_inside
      rw [List.length_take, Nat.min_eq_left (Nat.le_of_lt here)] at sum
      simp only [maxTestNum] at few
      have grown : squaresFrom average (levels.take (count + 1)) =
          squaresFrom average (levels.take count) +
            (levels[count] - average) * (levels[count] - average) := by
        simp only [squaresFrom, List.take_succ_eq_append_getElem here, List.map_append,
          List.sum_append, List.map_cons, List.map_nil, List.sum_singleton]
      have read : (Owned.live (levels ++ rest)).read count = .ok levels[count] := by
        rw [Owned.read_live (by rw [List.length_append]; omega), List.getElem_append_left here]
      have difference := int32_of_range (levels[count] - average) (by omega) (by omega)
      have squared := int32_of_range ((levels[count] - average) * (levels[count] - average))
        (by omega) (by omega)
      have added := int32_of_range (squaresFrom average (levels.take count) +
        (levels[count] - average) * (levels[count] - average)) (by omega) (by omega)
      unfold addSquares at before ⊢
      rw [List.range_succ, List.foldlM_append, before, grown]
      simp only [bind, Except.bind, List.foldlM_cons, List.foldlM_nil, read, difference, squared,
        added, pure, Except.pure]

theorem TestSound.few (sound : TestSound tally s) (some : tally.levels ≠ []) :
    (tally.levels.length : Int) ≤ maxTestNum := by
  have testing := sound.testing some
  have not_many := (sound.block testing.testFlag).not_many
  have checks := testing.checks
  have failures := testing.failureNum
  have recent := testing.recent
  have goes_on := testing.goes_on
  have count := sound.successNum
  omega

theorem meets_updateDeviation (sound : TestSound tally s) :
    tallyMonitor.Meets updateDeviation tally s fun _ => TestInvariant := by
  unfold updateDeviation
  rw [Monitor.meets_state_bind_iff]
  apply Monitor.meets_onlyIf
  · intro counted
    have some : tally.levels ≠ [] := fun none => counted (sound.levels_eq_nil_iff.mp none)
    have testing := sound.testing some
    obtain ⟨cells, live, length, rest, rfl⟩ := (sound.block testing.testFlag).block
    have average := sound.levels.mean_bounds
    have squares := squaresFrom_bounds sound.levels average
    apply Monitor.meets_demand_bind
    · rw [live, sound.dCNo, sound.successNum, testing.avgCNo]
      exact addSquares_eq sound.levels average (sound.few some) le_rfl
    rw [List.take_length, Monitor.meets_update_iff]
    have root : ((squaresFrom (mean tally.levels) tally.levels).tdiv s.successNum).toNat.sqrt =
        deviation tally.levels := by
      rw [Int.tdiv_eq_ediv_of_nonneg squares.1, sound.successNum]
      rfl
    rw [root]
    have spread := sound.levels.deviation_bounds
    constructor
    · exact { sound with
        quiet := fun freed => absurd (live.symm.trans freed) nofun
        dCNo := rfl
        numbers := { sound.numbers with devCNo := spread }
        block := fun tests => { sound.block tests with }
        resting := fun none => absurd none some
        testing := fun _ => { testing with } }
    · exact fun _ => rfl
  · intro uncounted
    have none := sound.levels_eq_nil_iff.mpr (not_not.mp uncounted)
    exact ⟨sound, fun some => absurd none some⟩

/-- A signal is a number of two digits. -/
def Signals (satellites : List (Int × Int)) : Prop :=
  ∀ satellite ∈ satellites, 0 ≤ satellite.2 ∧ satellite.2 ≤ 99

/-- The set has a signal of the satellite of the test. -/
def Measures (s : TestState) (satellites : List (Int × Int)) : Prop :=
  ((satellites.find? fun satellite => satellite.1 = s.halTestData.prnNum).any
    fun satellite => satellite.2 ≠ 0) = true

/-- Only the state of a test differs, and the success in signal mode. -/
theorem TestSound.moved (sound : TestSound tally s) (held : Held s) (testState : AtTestState)
    {sigSucNum : Int} (success : 0 ≤ sigSucNum ∧ sigSucNum ≤ 1) :
    TestSound tally { s with testState, sigSucNum } := { sound with
  quiet := fun freed => absurd freed held
  numbers := { sound.numbers with sigSucNum := success }
  block := fun tests => { sound.block tests with }
  resting := fun none => { sound.resting none with }
  testing := fun some => { sound.testing some with } }

/-- A satellite may be measured. -/
structure MayMeasure (tally : Tally) (s : TestState) : Prop where
  sound : TestSound tally s
  held : Held s
  looked : s.successNum = s.prevSuccessNum

theorem MayMeasure.moved (may : MayMeasure tally s) (testState : AtTestState) {sigSucNum : Int}
    (success : 0 ≤ sigSucNum ∧ sigSucNum ≤ 1) :
    MayMeasure tally { s with testState, sigSucNum } :=
  ⟨may.sound.moved may.held testState success, may.held, may.looked⟩

theorem TestSound.withCn (sound : TestSound tally s) {cn : Int} (inside : 0 ≤ cn ∧ cn ≤ 990) :
    TestSound tally { s with cn } := { sound with
  numbers := { sound.numbers with cn := inside }
  block := fun tests => { sound.block tests with }
  resting := fun none => { sound.resting none with }
  testing := fun some => { sound.testing some with } }

theorem meets_foundSignal (may : MayMeasure tally s) {snr : Int} (low : 0 ≤ snr)
    (high : snr ≤ 99) :
    tallyMonitor.Meets (foundSignal snr) tally s fun _ => TestSound := by
  unfold foundSignal
  rw [Monitor.meets_update_bind_iff]
  have first : MayMeasure tally
      (if s.signalMode && !s.signalTestBegin then { s with testState := .inprogress } else s) := by
    split
    · exact may.moved .inprogress may.sound.numbers.sigSucNum
    · exact may
  generalize (if s.signalMode && !s.signalTestBegin then { s with testState := .inprogress }
    else s) = s at first
  rw [Monitor.meets_update_bind_iff]
  have second : MayMeasure tally (if s.signalMode && s.signalTestBegin then
      { s with testState := .resultDone, sigSucNum := 1 } else s) := by
    split
    · exact first.moved .resultDone (by decide : (0 : Int) ≤ 1 ∧ (1 : Int) ≤ 1)
    · exact first
  generalize (if s.signalMode && s.signalTestBegin then
    { s with testState := .resultDone, sigSucNum := 1 } else s) = s at second
  apply Monitor.meets_demand_bind
  · exact int32_of_range (snr * 10) (by omega) (by omega)
  rw [Monitor.meets_state_bind_iff]
  have measured : tallyMonitor.Meets (onlyIf s.testFlag (addLevel (snr * 10))) tally s
      fun _ => TestSound := by
    apply Monitor.meets_onlyIf
    · intro tests
      apply (meets_addLevel second.sound tests second.looked (by omega) (by omega)).mono
      exact fun _ _ _ both => both.1
    · exact fun _ => second.sound
  apply measured.bind
  intro _ later after sound
  rw [Monitor.meets_update_iff]
  exact sound.withCn ⟨by omega, by omega⟩

/-- What a set of satellites may show while a test runs -/
structure SetFits (s : TestState) (satellites : List (Int × Int)) : Prop where
  signals : Signals satellites
  looked : Measures s satellites → s.successNum = s.prevSuccessNum

theorem meets_gpsAtCommandSearchSatellite (sound : TestSound tally s) (deviates : Deviates tally s)
    (held : Held s) {satellites : List (Int × Int)} (fits : SetFits s satellites) :
    tallyMonitor.Meets (gpsAtCommandSearchSatellite satellites) tally s fun _ =>
      TestInvariant := by
  unfold gpsAtCommandSearchSatellite
  rw [Monitor.meets_state_bind_iff]
  split
  · exact Monitor.meets_pure ⟨sound, deviates⟩
  case h_2 prn snr found =>
      have inside : 0 ≤ snr ∧ snr ≤ 99 := fits.signals _ (List.mem_of_find?_eq_some found)
      have scanned : tallyMonitor.Meets
          (if snr ≠ 0 then foundSignal snr else update fun s => { s with sigSucNum := 0 }) tally s
          fun _ => TestSound := by
        apply Monitor.meets_ite
        · intro signal
          have measures : Measures s satellites := by
            rw [Measures, found]
            simpa using signal
          exact meets_foundSignal ⟨sound, held, fits.looked measures⟩ inside.1 inside.2
        · intro _
          rw [Monitor.meets_update_iff]
          exact sound.moved held s.testState (by decide : (0 : Int) ≤ 0 ∧ (0 : Int) ≤ 1)
      apply scanned.bind
      exact fun _ _ _ sound => meets_updateDeviation sound

/-- The result of signal mode -/
theorem TestInvariant.withSignal (invariant : TestInvariant tally s) :
    TestInvariant tally { s with
      result := { s.result with
        errorCode := 0, successNum := s.sigSucNum, completeNum := 1, avgCNo := s.cn,
        devCNo := 0 } } where
  sound := { invariant.sound with
    numbers := { invariant.sound.numbers with
      result := { invariant.sound.numbers.result with
        errorCode := (by decide : (0 : Int) ≤ 0 ∧ (0 : Int) ≤ 32)
        successNum := ⟨invariant.sound.numbers.sigSucNum.1,
          Int.le_trans invariant.sound.numbers.sigSucNum.2 (by decide)⟩
        completeNum := (by decide : (0 : Int) ≤ 1 ∧ (1 : Int) ≤ maxTestNum)
        avgCNo := invariant.sound.numbers.cn
        devCNo := (by decide : (0 : Int) ≤ 0 ∧ (0 : Int) ≤ 990) } }
    block := fun tests => { invariant.sound.block tests with }
    resting := fun none => { invariant.sound.resting none with }
    testing := fun some => { invariant.sound.testing some with } }
  deviates := invariant.deviates

theorem meets_gpsAtCommandTestProc (invariant : TestInvariant tally s) (held : Held s)
    {satellites : List (Int × Int)} (fits : SetFits s satellites) :
    tallyMonitor.Meets (gpsAtCommandTestProc satellites) tally s fun _ => TestInvariant := by
  have searched := meets_gpsAtCommandSearchSatellite invariant.sound invariant.deviates held fits
  unfold gpsAtCommandTestProc
  rw [Monitor.meets_state_bind_iff]
  apply Monitor.meets_ite
  · exact fun _ => Monitor.meets_pure invariant
  intro _
  apply Monitor.meets_ite
  · intro _
    apply Monitor.meets_onlyIf
    · intro _
      apply searched.bind
      intro _ later after kept
      rw [Monitor.meets_update_iff]
      exact kept.withSignal
    · exact fun _ => invariant
  · exact fun _ => searched

end Measurements

/-! ## Looks at the counters -/

section Checks

variable {env : TestEnv} {tally : Tally} {s : TestState}

/-- A test that was reported, before it is ended -/
structure Reported (tally : Tally) (s : TestState) : Prop where
  fresh : tally = tally.empty
  init : s.init = true
  held : Held s
  numbers : NumberBounds s
  few : (s.successNum : Int) ≤ maxTestNum
  /-- without a test nothing was counted -/
  uncounted : s.testFlag = false →
    s.successNum = 0 ∧ s.cNo = 0 ∧ s.dCNo = 0 ∧ s.failureNum = 0

/-- What a look leaves: a test that goes on, looked at, or one that was reported -/
structure LookEffect (tally : Tally) (s : TestState) (ends : Bool) : Prop where
  goes_on : ends = false → TestInvariant tally { s with prevSuccessNum := s.successNum }
  reported : ends = true → Reported tally s

theorem meets_countMeasured (invariant : TestInvariant tally s) (held : Held s)
    (some : tally.levels ≠ []) :
    tallyMonitor.Meets countCheck (tally.after .checked) s fun ends later after =>
      LookEffect later after ends := by
  have sound := invariant.sound
  have testing := sound.testing some
  have holds := sound.block testing.testFlag
  have counted : 0 < s.successNum :=
    Nat.pos_of_ne_zero fun none => some (sound.levels_eq_nil_iff.mpr none)
  have checks := testing.checks
  have failures := testing.failureNum
  have known := testing.known
  have recent := testing.recent
  have goes_on := testing.goes_on
  have asked := holds.asked
  have not_many := holds.not_many
  have few := sound.few some
  have count := sound.successNum
  simp only [maxTestNum] at not_many few
  rw [checked_of_levels some]
  unfold countCheck
  rw [Monitor.meets_state_bind_iff, if_pos counted]
  obtain ⟨failureNum, failed⟩ : ∃ failureNum,
      s.failureNum + (if s.prevSuccessNum = s.successNum then 1 else 0) = failureNum := ⟨_, rfl⟩
  have completed : s.successNum + failureNum = tally.checks + 1 := by
    rw [← failed]
    split <;> omega
  have later_failures : 0 ≤ failureNum := by
    rw [← failed]
    split <;> omega
  rw [failed]
  apply Monitor.meets_demand_bind
  · exact int32_of_range failureNum (by omega) (by omega)
  apply Monitor.meets_demand_bind
  · exact int32_of_range (s.successNum + failureNum) (by omega) (by omega)
  rw [Monitor.meets_update_bind_iff, completed]
  have bounds : (0 : Int) ≤ tally.checks + 1 ∧ (tally.checks : Int) + 1 ≤ maxTestNum := by
    simp only [maxTestNum]
    omega
  apply Monitor.meets_ite
  · intro reached
    have still : ({ tally with checks := tally.checks + 1 } : Tally).levels ≠ [] := some
    have ended : ({ tally with checks := tally.checks + 1 } : Tally).Ended := by
      rw [ended_iff_of_levels still]
      push_cast
      omega
    have shown : (⟨s.errCode, s.successNum, tally.checks + 1, s.avgCNo, s.devCNo⟩ : TestReport) =
        ({ tally with checks := tally.checks + 1 } : Tally).report := by
      rw [Tally.report, if_neg still, testing.errCode, count, testing.avgCNo,
        invariant.deviates some]
      rfl
    apply Monitor.meets_emit_bind (allows_report ended shown)
    apply Monitor.meets_pure
    constructor
    · nofun
    · exact fun _ => {
        fresh := rfl
        init := sound.init
        held := held
        numbers := { sound.numbers with completedNum := bounds }
        few := by
          change (s.successNum : Int) ≤ maxTestNum
          rw [count]
          exact sound.few some
        uncounted := fun none => by simp [testing.testFlag] at none }
  · intro missed
    apply Monitor.meets_pure
    constructor
    · intro _
      constructor
      · exact { sound with
          numbers := { sound.numbers with completedNum := bounds }
          block := fun tests => { sound.block tests with }
          resting := fun none => absurd none some
          testing := fun _ => {
            testFlag := testing.testFlag
            avgCNo := testing.avgCNo
            errCode := testing.errCode
            checks := by
              change ((tally.checks + 1 : Nat) : Int) = s.successNum + failureNum
              push_cast
              omega
            failureNum := later_failures
            known := le_rfl
            recent := Nat.le_succ _
            goes_on := by
              change ((tally.checks + 1 : Nat) : Int) < tally.testNum
              push_cast
              omega } }
      · exact fun _ => invariant.deviates some
    · nofun

theorem meets_countWaiting (invariant : TestInvariant tally s) (held : Held s)
    (none : tally.levels = []) :
    tallyMonitor.Meets countCheck (tally.after .checked) s fun ends later after =>
      LookEffect later after ends := by
  have sound := invariant.sound
  have resting := sound.resting none
  have uncounted := sound.levels_eq_nil_iff.mp none
  have waits := sound.waits
  have waited := sound.waitNum
  rw [checked_of_nil none]
  unfold countCheck
  rw [Monitor.meets_state_bind_iff, if_neg (Nat.not_lt.mpr uncounted.le)]
  apply Monitor.meets_demand_bind
  · exact int32_of_range (s.waitNum + 1) (by omega) (by omega)
  rw [Monitor.meets_update_bind_iff]
  apply Monitor.meets_ite
  · intro reached
    simp only [maxValidStatusWaitCount] at reached
    rw [Monitor.meets_update_bind_iff]
    have still : ({ tally with waits := tally.waits + 1 } : Tally).levels = [] := none
    have ended : ({ tally with waits := tally.waits + 1 } : Tally).Ended := by
      rw [ended_iff_of_nil still]
      change tally.waits + 1 = 20
      omega
    have shown : (⟨32, s.successNum, 1, 0, 0⟩ : TestReport) =
        ({ tally with waits := tally.waits + 1 } : Tally).report := by
      rw [Tally.report, if_pos still, uncounted]
      rfl
    apply Monitor.meets_emit_bind (allows_report ended shown)
    apply Monitor.meets_pure
    constructor
    · nofun
    · exact fun _ => {
        fresh := rfl
        init := sound.init
        held := held
        numbers := { sound.numbers with
          errCode := (by decide : (0 : Int) ≤ 32 ∧ (32 : Int) ≤ 32)
          completedNum := (by decide : (0 : Int) ≤ 1 ∧ (1 : Int) ≤ maxTestNum) }
        few := by
          change (s.successNum : Int) ≤ maxTestNum
          rw [uncounted]
          decide
        uncounted := fun _ =>
          ⟨uncounted, by rw [sound.cNo, none]; rfl, sound.dCNo, resting.failureNum⟩ }
  · intro missed
    simp only [maxValidStatusWaitCount] at missed
    apply Monitor.meets_pure
    constructor
    · intro _
      constructor
      · exact { sound with
          numbers := { sound.numbers with }
          waitNum := by
            change s.waitNum + 1 = ((tally.waits + 1 : Nat) : Int)
            push_cast
            omega
          waits := by
            change tally.waits + 1 < 20
            omega
          block := fun tests => { sound.block tests with }
          resting := fun _ => ⟨resting.checks, uncounted, resting.failureNum⟩
          testing := fun some => absurd none some }
      · exact fun some => absurd none some
    · nofun

theorem meets_finishTest (reported : Reported tally s) (stops : env.stops = true)
    (looked : s.prevSuccessNum = s.successNum) :
    tallyMonitor.Meets (finishTest env) tally s fun _ later after =>
      TestInvariant later after ∧ after.prevSuccessNum = after.successNum := by
  have numbers := reported.numbers
  have shown : ResultBounds { s.result with
      errorCode := s.errCode, successNum := s.successNum, completeNum := s.completedNum,
      avgCNo := s.avgCNo, devCNo := s.devCNo } := { numbers.result with
    errorCode := numbers.errCode
    successNum := ⟨Int.natCast_nonneg _, reported.few⟩
    completeNum := numbers.completedNum
    avgCNo := numbers.avgCNo
    devCNo := numbers.devCNo }
  have going : ¬ tally.Ended := reported.fresh ▸ not_ended_empty tally
  unfold finishTest
  rw [Monitor.meets_update_bind_iff, Monitor.meets_state_bind_iff]
  apply Monitor.meets_onlyIf
  · intro _
    apply Monitor.Meets.bind
    · exact meets_mtkGpsTestStop going reported.init reported.held
    intro ret later after effect
    rw [Monitor.meets_update_iff]
    cases effect with
    | refused refuses => simp [stops] at refuses
    | stopped devCNr _ =>
        constructor
        · apply sound_empty
          · exact reported.init
          · exact fun _ => ⟨rfl, rfl, rfl, rfl⟩
          · exact {
              result := shown
              errCode := (by decide : (0 : Int) ≤ 1 ∧ (1 : Int) ≤ 32)
              completedNum := (by decide : (0 : Int) ≤ 0 ∧ (0 : Int) ≤ maxTestNum)
              avgCNo := numbers.avgCNo
              devCNo := (by decide : (0 : Int) ≤ 0 ∧ (0 : Int) ≤ 990)
              cn := numbers.cn
              sigSucNum := numbers.sigSucNum }
          · rfl
          · rfl
          · rfl
          · rfl
          · nofun
          · rfl
          · rfl
        · rfl
  · intro unflagged
    have still : s.testFlag = false := by simpa using unflagged
    have uncounted := reported.uncounted still
    constructor
    · rw [reported.fresh]
      apply sound_empty
      · exact reported.init
      · exact fun freed => absurd freed reported.held
      · exact { numbers with
          result := shown
          errCode := (by decide : (0 : Int) ≤ 1 ∧ (1 : Int) ≤ 32) }
      · rfl
      · exact uncounted.1
      · exact uncounted.2.1
      · exact uncounted.2.2.1
      · exact fun tests => absurd tests unflagged
      · exact looked.trans uncounted.1
      · exact uncounted.2.2.2
    · exact looked

theorem meets_checkTest (invariant : TestInvariant tally s) (held : Held s)
    (stops : env.stops = true) :
    tallyMonitor.Meets (checkTest env) tally s fun _ later after =>
      TestInvariant later after ∧ after.prevSuccessNum = after.successNum := by
  unfold checkTest
  apply Monitor.meets_emit_bind invariant.sound.not_ended
  have looked : tallyMonitor.Meets countCheck (tally.after .checked) s fun ends later after =>
      LookEffect later after ends := by
    by_cases none : tally.levels = []
    · exact meets_countWaiting invariant held none
    · exact meets_countMeasured invariant held none
  apply Monitor.Meets.bind looked
  intro ends later after effect
  rw [Monitor.meets_update_bind_iff]
  apply Monitor.meets_onlyIf
  · intro ends
    have reported := effect.reported ends
    exact meets_finishTest { reported with numbers := { reported.numbers with } } stops rfl
  · intro goes_on
    exact ⟨effect.goes_on (by simpa using goes_on), rfl⟩

end Checks

/-! ## Sentences -/

section Sentences

variable {env : TestEnv} {tally : Tally} {s : TestState}

/-- A set may show a new signal after a look, or with the sentence that brings the next one. -/
def SentenceFits (s : TestState) (endTag : Bool) (set : Option (List (Int × Int))) : Prop :=
  ∀ satellites ∈ set, Signals satellites ∧
    (Measures s satellites → s.successNum = s.prevSuccessNum ∨ endTag = true)

/-- Signal mode waits for a command. -/
theorem meets_waitingTestProc (invariant : TestInvariant tally s) (mode : s.signalMode = true)
    (waits : s.signalTestBegin = false) (satellites : List (Int × Int)) :
    tallyMonitor.Meets (gpsAtCommandTestProc satellites) tally s fun _ => TestInvariant := by
  unfold gpsAtCommandTestProc
  rw [Monitor.meets_state_bind_iff]
  apply Monitor.meets_ite
  · exact fun _ => Monitor.meets_pure invariant
  intro _
  rw [if_pos mode]
  apply Monitor.meets_onlyIf
  · exact fun begins => absurd (waits.symm.trans begins) Bool.false_ne_true
  · exact fun _ => invariant

theorem meets_parseTestSentence (invariant : TestInvariant tally s) (stops : env.stops = true)
    {endTag : Bool} {set : Option (List (Int × Int))} (fits : SentenceFits s endTag set) :
    tallyMonitor.Meets (parseTestSentence env endTag set) tally s fun _ => TestInvariant := by
  unfold parseTestSentence
  rw [Monitor.meets_state_bind_iff]
  apply Monitor.meets_ite
  · exact fun _ => Monitor.meets_pure invariant
  intro _
  have checked : tallyMonitor.Meets
      (onlyIf ((s.testFlag || s.signalTestBegin) ∧ endTag) (checkTest env)) tally s
      fun _ later after => TestInvariant later after ∧
        (after.prevSuccessNum = after.successNum ∨
          after = s ∧ ¬ ((s.testFlag || s.signalTestBegin) ∧ endTag)) := by
    apply Monitor.meets_onlyIf
    · intro watched
      have held : Held s := by
        intro freed
        simp [invariant.sound.quiet freed] at watched
      exact (meets_checkTest invariant held stops).mono fun _ _ _ both => ⟨both.1, .inl both.2⟩
    · exact fun unwatched => ⟨invariant, .inr ⟨rfl, unwatched⟩⟩
  apply checked.bind
  rintro _ later after ⟨kept, looked⟩
  rw [Monitor.meets_state_bind_iff]
  cases set with
  | none => exact Monitor.meets_pure kept
  | some satellites =>
      have shows := fits satellites rfl
      apply Monitor.meets_onlyIf
      · intro tests
        have held : Held after := by
          intro freed
          simp [kept.sound.quiet freed] at tests
        rcases looked with looked | ⟨rfl, unwatched⟩
        · exact meets_gpsAtCommandTestProc kept held ⟨shows.1, fun _ => looked.symm⟩
        · by_cases watched : (after.testFlag || after.signalTestBegin) = true
          · have middle : endTag ≠ true := fun last => unwatched ⟨watched, last⟩
            apply meets_gpsAtCommandTestProc kept held
            exact ⟨shows.1, fun measures => (shows.2 measures).resolve_right middle⟩
          · simp only [Bool.or_eq_true, not_or, Bool.not_eq_true] at watched
            have mode : after.signalMode = true := by simpa [watched.1] using tests
            exact meets_waitingTestProc kept mode watched.2 satellites
      · exact fun _ => kept

end Sentences

/-! ## AT commands -/

section Commands

variable {env : TestEnv} {tally : Tally} {s : TestState} {command : List UInt8}

/-- A command that changes no test -/
def asksOnly (command : List UInt8) : Bool :=
  61 ∉ command || command = Memory.ascii "AT%GPS=?" || command = Memory.ascii "AT%GNSS=?"

/-- The number of a command is one that a test may be started with, or none at all. -/
def numberFits (command : List UInt8) : Bool :=
  match atCommandParseTestNum command with
  | .ok testNum => testNum ≠ 0 ∧ testNum ≤ maxTestNum
  | .error _ => false

/-- A command changes no test that has measured something. -/
structure CommandFits (s : TestState) (env : TestEnv) (command : List UInt8) : Prop where
  unmeasured : s.successNum = 0
  allocates : env.allocates = true
  number : numberFits command = true

theorem CommandFits.exists_testNum (fits : CommandFits s env command) :
    ∃ testNum, atCommandParseTestNum command = .ok testNum ∧ testNum ≠ 0 ∧
      testNum ≤ maxTestNum := by
  have number := fits.number
  unfold numberFits at number
  split at number
  case h_1 testNum parsed => exact ⟨testNum, parsed, by simpa using number⟩
  case h_2 => simp at number

theorem TestInvariant.unmeasured (invariant : TestInvariant tally s)
    (fits : CommandFits s env command) : tally.levels = [] :=
  invariant.sound.levels_eq_nil_iff.mpr fits.unmeasured

/-- A reply leaves the invariant. -/
theorem meets_reply (invariant : TestInvariant tally s) {program : TestProgram Unit}
    (unmoved : tallyMonitor.Meets program tally s (Unmoved tally s)) :
    tallyMonitor.Meets program tally s fun _ => TestInvariant := by
  apply unmoved.mono
  rintro _ _ _ ⟨rfl, rfl⟩
  exact invariant

theorem meets_text (invariant : TestInvariant tally s) (text : String) :
    tallyMonitor.Meets (sendText text) tally s fun _ => TestInvariant :=
  meets_reply invariant (meets_sendText invariant.sound.not_ended text)

theorem meets_startNumbered (invariant : TestInvariant tally s) (none : tally.levels = [])
    (allocates : env.allocates = true) (name : String) {testNum : Int} (some : testNum ≠ 0)
    (not_many : testNum ≤ maxTestNum) :
    tallyMonitor.Meets (startNumbered env name testNum) tally s fun _ => TestInvariant := by
  apply Monitor.meets_ite
  · intro positive
    have may : MayStart s testNum 0 := .numbered (by omega) not_many
    apply (meets_mtkGpsTestStart invariant none allocates gpsTestPrn 2 may).bind
    exact fun ret later after kept => meets_text kept.1 _
  · exact fun _ => meets_text invariant _

theorem meets_atGpsCommandParser (invariant : TestInvariant tally s)
    (fits : (∀ argument, command.drop 6 = 61 :: argument → argument = Memory.ascii "?") ∨
      CommandFits s env command) :
    tallyMonitor.Meets (atGpsCommandParser env command) tally s fun _ => TestInvariant := by
  unfold atGpsCommandParser
  rw [Monitor.meets_update_bind_iff]
  have kept := invariant.testModeFlag false
  have going := kept.sound.not_ended
  have numbers := kept.sound.numbers
  split
  case h_1 argument rest =>
      apply Monitor.meets_ite
      · exact fun _ => meets_reply kept (meets_atCommandSendCno going numbers command)
      intro asks
      apply Monitor.meets_ite
      · exact fun _ => Monitor.meets_pure kept
      intro _
      have undisturbed := fits.resolve_left fun only => asks (only argument rest)
      obtain ⟨testNum, parsed, some, not_many⟩ := undisturbed.exists_testNum
      apply Monitor.meets_demand_bind parsed
      exact meets_startNumbered kept
        (invariant.unmeasured undisturbed) undisturbed.allocates _ some
        not_many
  case h_2 =>
      apply Monitor.meets_ite
      · exact fun _ => meets_reply kept (meets_gpsStatus going numbers)
      intro _
      apply Monitor.meets_ite
      · exact fun _ => meets_reply kept (meets_atCommandSendCno going numbers command)
      · exact fun _ => meets_text kept _

theorem meets_setSignalMode (invariant : TestInvariant tally s) (none : tally.levels = [])
    (allocates : env.allocates = true) :
    tallyMonitor.Meets (setSignalMode env) tally s fun _ => TestInvariant := by
  unfold setSignalMode
  rw [Monitor.meets_state_bind_iff]
  apply Monitor.meets_ite
  · intro still
    have may : MayStart s 0 1 := .signal rfl rfl (by simpa using still)
    apply (meets_mtkGpsTestStart invariant none allocates 1 2 may).bind
    exact fun ret later after kept => meets_text kept.1 _
  · intro tests
    have held : Held s := fun freed => by simp [invariant.sound.quiet freed] at tests
    rw [Monitor.meets_update_bind_iff]
    apply meets_text
    exact {
      sound := { invariant.sound with
        quiet := fun freed => absurd freed held
        numbers := { invariant.sound.numbers with }
        block := nofun
        resting := fun none => { invariant.sound.resting none with }
        testing := fun some => absurd none some }
      deviates := fun some => absurd none some }

theorem meets_endTest (invariant : TestInvariant tally s) (none : tally.levels = []) :
    tallyMonitor.Meets (endTest env) tally s fun _ => TestInvariant := by
  unfold endTest
  rw [Monitor.meets_state_bind_iff]
  apply Monitor.meets_ite
  · exact fun _ => meets_text invariant _
  · intro testing
    have held : Held s := fun freed => not_quiet_of_state testing (invariant.sound.quiet freed)
    apply (meets_stop_unmeasured invariant none held).bind
    exact fun ret later after kept => meets_text kept.1 _

theorem TestInvariant.cleared (invariant : TestInvariant tally s) (none : tally.levels = []) :
    TestInvariant tally s.cleared := by
  have sound := invariant.sound
  constructor
  · exact { sound with
      numbers := { sound.numbers with
        result := by constructor <;> simp [maxTestNum, TestState.cleared]
        completedNum := (by decide : (0 : Int) ≤ 0 ∧ (0 : Int) ≤ maxTestNum)
        avgCNo := (by decide : (0 : Int) ≤ 0 ∧ (0 : Int) ≤ 990)
        devCNo := (by decide : (0 : Int) ≤ 0 ∧ (0 : Int) ≤ 990)
        cn := (by decide : (0 : Int) ≤ 0 ∧ (0 : Int) ≤ 990) }
      successNum := by rw [none]; rfl
      cNo := by rw [none]; rfl
      dCNo := rfl
      block := fun tests => { sound.block tests with }
      resting := fun none => { sound.resting none with }
      testing := fun some => absurd none some }
  · exact fun some => absurd none some

theorem meets_startGnss (invariant : TestInvariant tally s) (none : tally.levels = [])
    (allocates : env.allocates = true) {testNum : Int} (some : testNum ≠ 0)
    (not_many : testNum ≤ maxTestNum) :
    tallyMonitor.Meets (startGnss env testNum) tally s fun _ => TestInvariant := by
  unfold startGnss
  rw [Monitor.meets_update_bind_iff, Monitor.meets_state_bind_iff]
  have cleared := invariant.cleared none
  generalize s.cleared = s at cleared
  apply Monitor.meets_ite
  · intro mode
    have held : Held s := fun freed => not_quiet_of_signalMode mode (cleared.sound.quiet freed)
    apply Monitor.meets_ite
    · intro _
      apply (meets_sendText cleared.sound.not_ended _).bind
      rintro _ _ _ ⟨rfl, rfl⟩
      apply Monitor.meets_onlyIf
      · intro _
        apply (meets_stop_unmeasured cleared none held).bind
        exact fun ret later after kept => Monitor.meets_pure kept.1
      · exact fun _ => cleared
    · intro _
      rw [Monitor.meets_update_bind_iff]
      apply (meets_sendText cleared.sound.not_ended _).bind
      rintro _ _ _ ⟨rfl, rfl⟩
      rw [Monitor.meets_update_iff]
      exact {
        sound := { cleared.sound with
          quiet := fun freed => absurd freed held
          numbers := { cleared.sound.numbers with }
          block := fun tests => { cleared.sound.block tests with }
          resting := fun none => { cleared.sound.resting none with }
          testing := fun some => absurd none some }
        deviates := fun some => absurd none some }
  · exact fun _ => meets_startNumbered cleared none allocates _ some not_many

theorem meets_atGnssCommandParser (invariant : TestInvariant tally s)
    (fits : (∀ argument, command.drop 7 = 61 :: argument → argument = Memory.ascii "?") ∨
      CommandFits s env command) :
    tallyMonitor.Meets (atGnssCommandParser env command) tally s fun _ => TestInvariant := by
  unfold atGnssCommandParser
  rw [Monitor.meets_update_bind_iff]
  have kept := invariant.testModeFlag false
  have going := kept.sound.not_ended
  have numbers := kept.sound.numbers
  split
  case h_1 argument rest =>
      apply Monitor.meets_ite
      · exact fun _ => meets_reply kept (meets_atCommandSendTestResult going numbers)
      intro asks
      have undisturbed := fits.resolve_left fun only => asks (only argument rest)
      have none := invariant.unmeasured undisturbed
      apply Monitor.meets_ite
      · exact fun _ => meets_setSignalMode kept none undisturbed.allocates
      intro _
      apply Monitor.meets_ite
      · exact fun _ => meets_endTest kept none
      intro _
      obtain ⟨testNum, parsed, some, not_many⟩ := undisturbed.exists_testNum
      apply Monitor.meets_demand_bind parsed
      exact meets_startGnss kept none undisturbed.allocates some not_many
  case h_2 =>
      apply Monitor.meets_ite
      · exact fun _ => meets_reply kept (meets_atCommandSendTestResult going numbers)
      intro _
      apply Monitor.meets_ite
      · exact fun _ => meets_reply kept (meets_atCommandSendCno going numbers command)
      · exact fun _ => meets_text kept _

/-- The argument of a command that only asks -/
theorem argument_of_asksOnly {name : List UInt8}
    (questions : ∀ question ∈ ["AT%GPS=?", "AT%GNSS=?"].map Memory.ascii, name <+: question →
      question.drop name.length = 61 :: Memory.ascii "?") (named : name <+: command)
    (asks : asksOnly command = true) {argument : List UInt8}
    (rest : command.drop name.length = 61 :: argument) : argument = Memory.ascii "?" := by
  simp only [asksOnly, Bool.or_eq_true, decide_eq_true_eq] at asks
  have among : (61 : UInt8) ∈ command :=
    List.mem_of_mem_drop (rest ▸ List.mem_cons_self : (61 : UInt8) ∈ command.drop name.length)
  have shown : command ∈ ["AT%GPS=?", "AT%GNSS=?"].map Memory.ascii := by
    rcases asks with (absent | gps) | gnss
    · exact absurd among absent
    · exact gps ▸ List.mem_cons_self
    · exact gnss ▸ List.mem_cons_of_mem _ List.mem_cons_self
  have question := questions command shown named
  rw [rest, List.cons.injEq] at question
  exact question.2

theorem meets_receiveAtCommand (invariant : TestInvariant tally s) {datagram : List UInt8}
    (short : datagram.length < 20) (fits : asksOnly (datagram.takeWhile (· ≠ 0)) = true ∨
      CommandFits s env (datagram.takeWhile (· ≠ 0))) :
    tallyMonitor.Meets (receiveAtCommand env datagram) tally s fun _ => TestInvariant := by
  unfold receiveAtCommand
  apply Monitor.meets_demand_bind
  · exact if_pos short
  generalize datagram.takeWhile (· ≠ 0) = command at fits
  apply Monitor.meets_ite
  · intro gps
    apply meets_atGpsCommandParser invariant
    apply fits.imp_left
    intro asks argument
    exact argument_of_asksOnly (by decide) (List.isPrefixOf_iff_prefix.mp gps) asks
  · intro _
    apply Monitor.meets_ite
    · intro gnss
      apply meets_atGnssCommandParser invariant
      apply fits.imp_left
      intro asks argument
      exact argument_of_asksOnly (by decide) (List.isPrefixOf_iff_prefix.mp gnss) asks
    · exact fun _ => meets_text invariant _

end Commands

/-! ## Runs -/

/-- Tests are left alone: no two signals come between two looks, no test that has measured
something is started or stopped, and the numbers are those of tests. -/
def TestsLeftAlone : Transition.System.Guard TestState TestEvent TestOutput
  | _, s, .atCommand env datagram => datagram.length < 20 ∧
      (asksOnly (datagram.takeWhile (· ≠ 0)) = true ∨
        s.successNum = 0 ∧ env.allocates = true ∧
          numberFits (datagram.takeWhile (· ≠ 0)) = true)
  | _, s, .sentence env endTag set => env.stops = true ∧ SentenceFits s endTag set
  | _, s, .testStart env testNum _ _ _ => s.successNum = 0 ∧ env.allocates = true ∧
      1 ≤ testNum ∧ testNum ≤ maxTestNum
  | _, s, .testStop _ => s.successNum = 0 ∧ s.testState ≠ .unknown

instance (s : TestState) (endTag : Bool) (set : Option (List (Int × Int))) :
    Decidable (SentenceFits s endTag set) :=
  inferInstanceAs (Decidable (∀ satellites ∈ set, (∀ satellite ∈ satellites, _ ∧ _) ∧
    ((_ : Bool) = true → _ ∨ _)))

instance (history : Transition.History TestEvent TestOutput) (s : TestState)
    (event : TestEvent) : Decidable (TestsLeftAlone history s event) :=
  match event with
  | .atCommand _ _ | .testStart _ _ _ _ _ | .testStop _ => inferInstanceAs (Decidable (_ ∧ _))
  | .sentence _ _ _ => inferInstanceAs (Decidable (_ ∧ SentenceFits _ _ _))

theorem meets_event {tally : Tally} {s : TestState} (invariant : TestInvariant tally s)
    {history : Transition.History TestEvent TestOutput} {event : TestEvent}
    (alone : TestsLeftAlone history s event) :
    tallyMonitor.Meets event.program tally s fun _ => TestInvariant := by
  cases event with
  | atCommand env datagram =>
      exact meets_receiveAtCommand invariant alone.1
        (alone.2.imp_right fun fits => ⟨fits.1, fits.2.1, fits.2.2⟩)
  | sentence env endTag set => exact meets_parseTestSentence invariant alone.1 alone.2
  | testStart env testNum prnNum timeDelay testMode =>
      have none := invariant.sound.levels_eq_nil_iff.mpr alone.1
      have may : MayStart s testNum testMode := .numbered alone.2.2.1 alone.2.2.2
      apply (meets_mtkGpsTestStart invariant none alone.2.1 prnNum timeDelay may).bind
      exact fun _ _ _ kept => Monitor.meets_pure kept.1
  | testStop env =>
      have none := invariant.sound.levels_eq_nil_iff.mpr alone.1
      have held : Held s := fun freed => not_quiet_of_state alone.2 (invariant.sound.quiet freed)
      apply (meets_stop_unmeasured invariant none held).bind
      exact fun _ _ _ kept => Monitor.meets_pure kept.1

/-- What holds of the tests of a run: each report is that of the levels measured since the last
one, and it comes at once when as many looks were taken as were asked for, or 20 without a level;
and the next event does not run into anything undefined. -/
structure TestsReported (history : Transition.History TestEvent TestOutput) (s : TestState) :
    Prop where
  accepts : tallyMonitor.Accepts Tally.start history.outputs
  goes_on : ¬ (tallyMonitor.afterAll Tally.start history.outputs).Ended
  defined : ∀ event, TestsLeftAlone history s event →
    ∃ after out, event.program s = .ok ((), after, out)

/-- The reports of a run -/
def reportsOf (outputs : List TestOutput) : List TestReport :=
  outputs.filterMap fun output =>
    match output with
    | .report report => some report
    | .ack _ _ | .mtkStart _ | .mtkStop | .measured _ | .checked => none

/-- A second signal before the next look is written behind the block. -/
example : (testSystem true).exec (testInit true)
    [.atCommand ⟨0, true, true, true⟩ (Memory.ascii "AT%GNSS=1"),
      .sentence ⟨5, true, true, true⟩ false (some [(1, 40)]),
      .sentence ⟨5, true, true, true⟩ false (some [(1, 41)])] = none := by
  decide +kernel

end X3Hal.Gps
