import X3Hal.Gps.Number
import X3Hal.Memory.Owned
import X3Hal.Memory.Strings
import X3Hal.Program.Monitors

/-!
# The receiver test

A build with `GPS_AT_COMMAND` measures the signal of one satellite.  AT commands, the framework
and the sentences of the receiver move one set of variables, and `Dev_CNr` points to a block with
the levels that a test has measured.  Sizes are those of a 64-bit process.
-/

namespace X3Hal.Gps

open X3Hal.Memory (Owned Undefined int32)
open X3Hal.Program (state update emit demand onlyIf)

/-- `MNL_AT_TEST_STATE` -/
inductive AtTestState
  | unknown | start | stop | inprogress | done | resultDone
  deriving DecidableEq, Repr

/-- `HAL_AT_TEST_T` -/
structure HalAtTest where
  testNum : Int
  prnNum : Int
  timeDelay : Int
  deriving DecidableEq, Repr

/-- The array `result` -/
structure TestResult where
  errorCode : Int
  theta : Int
  phi : Int
  successNum : Int
  completeNum : Int
  avgCNo : Int
  devCNo : Int
  avgSpeed : Int
  deriving DecidableEq, Repr

/-- The arguments of `sms_airtest_no_signal_report` -/
structure TestReport where
  errCode : Int
  successNum : Int
  completedNum : Int
  avgCNo : Int
  devCNo : Int
  deriving DecidableEq, Repr

structure TestState where
  /-- `MNL_AT_TEST_FLAG` -/
  testFlag : Bool
  /-- `MNL_AT_SIGNAL_MODE` -/
  signalMode : Bool
  /-- `MNL_AT_SIGNAL_TEST_BEGIN` -/
  signalTestBegin : Bool
  testState : AtTestState
  halTestData : HalAtTest
  startTime : Int
  /-- `Dev_CNr` -/
  devCNr : Owned Int
  cn : Int
  result : TestResult
  cNo : Int
  dCNo : Int
  avgCNo : Int
  devCNo : Int
  completedNum : Int
  successNum : Nat
  failureNum : Int
  waitNum : Int
  sigSucNum : Int
  errCode : Int
  /-- SMS mode, and not USB mode -/
  testModeFlag : Bool
  /-- the `prev_success_num` of `nmea_reader_parse` -/
  prevSuccessNum : Nat
  /-- `init` of the GPS state -/
  init : Bool
  deriving DecidableEq, Repr

def testInit (init : Bool) : TestState where
  testFlag := false
  signalMode := false
  signalTestBegin := false
  testState := .unknown
  halTestData := ⟨0, 0, 0⟩
  startTime := 0
  devCNr := .null
  cn := 0
  result := ⟨1, 0, 0, 0, 0, 0, 0, 0⟩
  cNo := 0
  dCNo := 0
  avgCNo := 0
  devCNo := 0
  completedNum := 0
  successNum := 0
  failureNum := 0
  waitNum := 0
  sigSucNum := 0
  errCode := 1
  testModeFlag := true
  prevSuccessNum := 0
  init := init

inductive TestOutput
  /-- `at_command_send_ack`: a text, and the size of the datagram that it begins -/
  | ack (text : List UInt8) (size : Nat)
  /-- the daemon has taken `MNL_CMD_START`, for a test of this many measurements -/
  | mtkStart (testNum : Int)
  /-- the daemon has taken `MNL_CMD_STOP` -/
  | mtkStop
  /-- a level was added to the sum -/
  | measured (level : Int)
  /-- the counters of a test were looked at -/
  | checked
  /-- `sms_airtest_no_signal_report` -/
  | report (report : TestReport)
  deriving DecidableEq, Repr

/-- What a step depends on beside the state -/
structure TestEnv where
  /-- the time -/
  now : Int
  /-- `mtk_start` succeeds -/
  starts : Bool
  /-- `mtk_stop` succeeds -/
  stops : Bool
  /-- `malloc` has memory -/
  allocates : Bool
  deriving DecidableEq, Repr

abbrev TestProgram := Program TestState TestOutput Undefined

/-! ## Start and stop -/

/-- `malloc` of as many integers, and the `memset` of them -/
def allocate (env : TestEnv) (testNum : Int) : Except Undefined (Owned Int) :=
  if testNum < 0 then .error .null
  else if env.allocates then .ok (.live (List.replicate testNum.toNat 0))
  else if testNum = 0 then .ok .null
  else .error .null

/-- What `mtk_gps_test_stop` resets -/
def TestState.released (s : TestState) : TestState :=
  { s with
    halTestData := ⟨0, 0, 0⟩
    testFlag := false
    signalMode := false
    testState := .unknown
    signalTestBegin := false
    successNum := 0
    completedNum := 0
    waitNum := 0
    cNo := 0
    dCNo := 0
    devCNo := 0
    errCode := 1 }

def mtkGpsTestStop (env : TestEnv) : TestProgram Int := do
  update fun s => { s with testModeFlag := true }
  let s ← state
  if !s.init then pure (-1)
  else if !env.stops then pure (-1)
  else do
    emit .mtkStop
    let devCNr ← demand s.devCNr.free
    update fun s => { s.released with devCNr }
    pure 0

/-- The stop of a test that timed out in SMS mode -/
def stopBeforeStart (env : TestEnv) : TestProgram Unit := do
  let s ← state
  onlyIf (s.testState ≠ .unknown ∧ s.testModeFlag) do
    let _ ← mtkGpsTestStop env
    pure ()

def mtkGpsTestStart (env : TestEnv) (testNum prnNum timeDelay testMode : Int) :
    TestProgram Int := do
  stopBeforeStart env
  -- the block of a test that was not stopped is lost
  let devCNr ← demand (allocate env testNum)
  update fun s => { s with
    halTestData := ⟨testNum, prnNum, timeDelay⟩, startTime := env.now, avgCNo := 0, devCNr }
  if testNum = 0 ∧ testMode = 0 then pure (-1)
  else do
    update fun s => { s with
      signalMode := s.signalMode || testMode = 1, testFlag := s.testFlag || testMode ≠ 1 }
    let s ← state
    if !s.init then pure (-1)
    else if !env.starts then do
      update fun s => { s with testState := .unknown, testFlag := false }
      pure (-1)
    else do
      update fun s => { s with testState := .inprogress }
      emit (.mtkStart testNum)
      pure 0

/-! ## Measurements -/

/-- The sum of the squares, with the integers that it goes through -/
def addSquares (devCNr : Owned Int) (avgCNo : Int) (count : Nat) (dCNo : Int) :
    Except Undefined Int :=
  (List.range count).foldlM (fun dCNo j => do
    let level ← devCNr.read j
    let difference ← int32 (level - avgCNo)
    let square ← int32 (difference * difference)
    int32 (dCNo + square)) dCNo

/-- A level of a test that runs -/
def addLevel (level : Int) : TestProgram Unit := do
  let s ← state
  let cNo ← demand (int32 (s.cNo + level))
  let devCNr ← demand (s.devCNr.write s.successNum level)
  let _ ← demand (int32 (s.successNum + 1))
  update fun s => { s with
    errCode := 0
    cNo
    devCNr
    successNum := s.successNum + 1
    avgCNo := cNo.tdiv (s.successNum + 1) }
  emit (.measured level)

/-- The satellite of the test has a signal. -/
def foundSignal (snr : Int) : TestProgram Unit := do
  update fun s =>
    if s.signalMode && !s.signalTestBegin then { s with testState := .inprogress } else s
  update fun s =>
    if s.signalMode && s.signalTestBegin then { s with testState := .resultDone, sigSucNum := 1 }
    else s
  let level ← demand (int32 (snr * 10))
  let s ← state
  onlyIf s.testFlag (addLevel level)
  update fun s => { s with cn := level }

def updateDeviation : TestProgram Unit := do
  let s ← state
  onlyIf (s.successNum ≠ 0) do
    let dCNo ← demand (addSquares s.devCNr s.avgCNo s.successNum s.dCNo)
    update fun s => { s with dCNo := 0, devCNo := (dCNo.tdiv s.successNum).toNat.sqrt }

/-- `gps_at_command_search_satellite`, in the numbers and signals of the last set -/
def gpsAtCommandSearchSatellite (satellites : List (Int × Int)) : TestProgram Unit := do
  let s ← state
  match satellites.find? fun satellite => satellite.1 = s.halTestData.prnNum with
  | none => pure ()
  | some (_, snr) => do
      (if snr ≠ 0 then foundSignal snr else update fun s => { s with sigSucNum := 0 })
      updateDeviation

def gpsAtCommandTestProc (satellites : List (Int × Int)) : TestProgram Unit := do
  let s ← state
  if s.testState = .done then pure ()
  else if s.signalMode then
    onlyIf s.signalTestBegin do
      gpsAtCommandSearchSatellite satellites
      update fun s => { s with
        result := { s.result with
          errorCode := 0, successNum := s.sigSucNum, completeNum := 1, avgCNo := s.cn,
          devCNo := 0 } }
  else gpsAtCommandSearchSatellite satellites

/-! ## Sentences -/

def maxValidStatusWaitCount : Int := 20

/-- The counters of a test; whether it ends -/
def countCheck : TestProgram Bool := do
  let s ← state
  if 0 < s.successNum then do
    let failureNum ← demand
      (int32 (s.failureNum + if s.prevSuccessNum = s.successNum then 1 else 0))
    let completedNum ← demand (int32 (s.successNum + failureNum))
    update fun s => { s with failureNum, completedNum }
    if completedNum = s.halTestData.testNum then do
      emit (.report ⟨s.errCode, s.successNum, completedNum, s.avgCNo, s.devCNo⟩)
      pure true
    else pure false
  else do
    let waitNum ← demand (int32 (s.waitNum + 1))
    update fun s => { s with waitNum }
    if waitNum = maxValidStatusWaitCount then do
      update fun s => { s with errCode := 32, completedNum := 1 }
      emit (.report ⟨32, s.successNum, 1, 0, 0⟩)
      pure true
    else pure false

def finishTest (env : TestEnv) : TestProgram Unit := do
  update fun s => { s with
    result := { s.result with
      errorCode := s.errCode, successNum := s.successNum, completeNum := s.completedNum,
      avgCNo := s.avgCNo, devCNo := s.devCNo }
    waitNum := 0
    testState := .done
    errCode := 1 }
  let s ← state
  onlyIf s.testFlag do
    let _ ← mtkGpsTestStop env
    update fun s => { s with failureNum := 0, prevSuccessNum := 0 }

/-- The counters are looked at, once in each burst of sentences. -/
def checkTest (env : TestEnv) : TestProgram Unit := do
  emit .checked
  let ends ← countCheck
  update fun s => { s with prevSuccessNum := s.successNum }
  onlyIf ends (finishTest env)

/-- The part of `nmea_reader_parse` for tests: `endTag` is `gps_nmea_end_tag`, and a sentence that
completes a set of satellites has their numbers and signals -/
def parseTestSentence (env : TestEnv) (endTag : Bool) (set : Option (List (Int × Int))) :
    TestProgram Unit := do
  let s ← state
  let watched := s.testFlag || s.signalTestBegin
  if watched ∧ wrap32 (env.now - s.startTime) < s.halTestData.timeDelay then pure ()
  else do
    onlyIf (watched ∧ endTag) (checkTest env)
    let s ← state
    match set with
    | some satellites => onlyIf (s.testFlag || s.signalMode) (gpsAtCommandTestProc satellites)
    | none => pure ()

/-! ## AT commands -/

/-- A literal is sent with its NUL. -/
def sendText (text : String) : TestProgram Unit :=
  emit (.ack (Memory.ascii text) (text.length + 1))

/-- A buffer is sent whole; the text in it has a NUL. -/
def sendBuffer (text : List UInt8) (size : Nat) : TestProgram Unit := do
  demand (if text.length < size then .ok () else .error .outside)
  emit (.ack text size)

/-- `mtk_gps_test_inprogress` -/
def mtkGpsTestInprogress (s : TestState) : AtTestState :=
  match s.testState with
  | .done | .resultDone => .done
  | .inprogress => .inprogress
  | .unknown | .start | .stop => .unknown

def printInt (value : Int) : List UInt8 :=
  Memory.ascii (toString value)

/-- The numbers of a result, with a comma and a blank between two of them -/
def printResult (result : TestResult) : List UInt8 :=
  [result.theta, result.phi, result.successNum, result.completeNum, result.avgCNo, result.devCNo,
    result.avgSpeed].foldl (fun text value => text ++ Memory.ascii ", " ++ printInt value)
    (printInt result.errorCode)

def isGnss (command : List UInt8) : Bool :=
  (Memory.ascii "AT%GNSS").isPrefixOf command

def atCommandSendCno (command : List UInt8) : TestProgram Unit := do
  let s ← state
  let level := if s.signalMode then s.cn else s.avgCNo
  if mtkGpsTestInprogress s = .inprogress then sendText "GNSS Test In Progress"
  else if level = 0 then sendText "0, NA"
  else
    let suffix := if isGnss command then Memory.ascii ", NA" else []
    sendBuffer (printInt (level.tdiv 10) ++ suffix) 10

def sendResult (result : TestResult) : TestProgram Unit :=
  sendBuffer
    (Memory.ascii "[" ++ printResult result ++ Memory.ascii "][0, 0, 0, 0, 0, 0, 0, 0]") 60

def atCommandSendTestResult : TestProgram Unit := do
  let s ← state
  match mtkGpsTestInprogress s with
  | .inprogress => sendText "GNSS Test In Progress"
  | .done => sendResult s.result
  | .unknown | .start | .stop | .resultDone =>
      if s.result.errorCode ≠ 0 then sendResult s.result
      else if s.result.avgCNo ≠ 0 ∧ !(s.signalMode || s.signalTestBegin) then sendResult s.result
      else sendText "[0, 0, 0, 0, 0, 0, 0, 0][0, 0, 0, 0, 0, 0, 0, 0]"

/-- `strtoul` with base 10: the number, and what follows it -/
def strtoul (text : List UInt8) : Nat × List UInt8 :=
  let (negative, unsigned) := readSign (text.dropWhile isSpace)
  let digits := unsigned.takeWhile isDigit
  let magnitude := digitsValue 10 digits
  (if 2 ^ 64 ≤ magnitude then 2 ^ 64 - 1
    else if negative then (2 ^ 64 - magnitude) % 2 ^ 64 else magnitude,
    if digits = [] then text else unsigned.drop digits.length)

/-- `at_command_parse_test_num`: the pointer behind the number is put into a block as long as the
command. -/
def atCommandParseTestNum (command : List UInt8) : Except Undefined Int :=
  if command.length < 8 then .error .outside
  else
    let (res, rest) := strtoul (command.drop (if isGnss command then 8 else 7))
    .ok (if res ≠ 0 ∧ rest = [] then wrap32 res else -1)

def gpsTestPrn : Int := 1

/-- `AT%GPS=n` and `AT%GNSS=n` out of signal mode -/
def startNumbered (env : TestEnv) (name : String) (testNum : Int) : TestProgram Unit := do
  if 0 ≤ testNum then do
    let ret ← mtkGpsTestStart env testNum gpsTestPrn 2 0
    sendText (if ret = 0 then name ++ " TEST START OK" else name ++ " ERROR")
  else sendText "Invalid Test Num =0"

def atGpsCommandParser (env : TestEnv) (command : List UInt8) : TestProgram Unit := do
  update fun s => { s with testModeFlag := false }
  match command.drop 6 with
  | 61 :: argument =>
      if argument = Memory.ascii "?" then atCommandSendCno command
      else if argument ∈ ["E", "e", "D", "d"].map Memory.ascii then pure ()
      else do
        let testNum ← demand (atCommandParseTestNum command)
        startNumbered env "GPS" testNum
  | rest =>
      if rest = Memory.ascii "?" then do
        let s ← state
        match mtkGpsTestInprogress s with
        | .inprogress => sendText "GPS Test In Progress"
        | .done => sendBuffer (Memory.ascii "<" ++ printResult s.result ++ Memory.ascii ">") 60
        | .unknown | .start | .stop | .resultDone => sendText "ERROR"
      else if rest = [] then atCommandSendCno command
      else sendText "GPS ERROR"

/-- `AT%GNSS=S` -/
def setSignalMode (env : TestEnv) : TestProgram Unit := do
  let s ← state
  if !s.testFlag then do
    let ret ← mtkGpsTestStart env 0 1 2 1
    sendText (if ret = 0 then "GNSS START START OK" else "GNSS START START FAIL")
  else do
    update fun s => { s with signalMode := true, testFlag := false }
    sendText "GNSS START START OK"

/-- `AT%GNSS=E` -/
def endTest (env : TestEnv) : TestProgram Unit := do
  let s ← state
  if s.testState = .unknown then sendText "GNSS Test is Not In Progress"
  else do
    let ret ← mtkGpsTestStop env
    sendText (if ret = 0 then "GNSS TEST END OK" else "GNSS TEST END FAIL")

/-- What `AT%GNSS=n` clears -/
def TestState.cleared (s : TestState) : TestState :=
  { s with
    result := ⟨1, 0, 0, 0, 0, 0, 0, 0⟩
    avgCNo := 0
    successNum := 0
    completedNum := 0
    cNo := 0
    dCNo := 0
    devCNo := 0
    cn := 0 }

/-- `AT%GNSS=n` -/
def startGnss (env : TestEnv) (testNum : Int) : TestProgram Unit := do
  update TestState.cleared
  let s ← state
  if s.signalMode then
    if testNum ≤ 0 then do
      sendText "Invalid Test Num = 0"
      onlyIf (s.testState ≠ .unknown) do
        let _ ← mtkGpsTestStop env
        pure ()
    else do
      update fun s => { s with signalTestBegin := true, testState := .inprogress }
      sendText "GNSS TEST START OK"
      update fun s => { s with startTime := env.now }
  else startNumbered env "GNSS" testNum

def atGnssCommandParser (env : TestEnv) (command : List UInt8) : TestProgram Unit := do
  update fun s => { s with testModeFlag := false }
  match command.drop 7 with
  | 61 :: argument =>
      if argument = Memory.ascii "?" then atCommandSendTestResult
      else if argument ∈ ["S", "s"].map Memory.ascii then setSignalMode env
      else if argument ∈ ["E", "e"].map Memory.ascii then endTest env
      else do
        let testNum ← demand (atCommandParseTestNum command)
        startGnss env testNum
  | rest =>
      if rest = Memory.ascii "?" then atCommandSendTestResult
      else if rest = [] then atCommandSendCno command
      else sendText "GNSS ERROR"

def atCommandParser (env : TestEnv) (command : List UInt8) : TestProgram Unit :=
  if (Memory.ascii "AT%GPS").isPrefixOf command then atGpsCommandParser env command
  else if isGnss command then atGnssCommandParser env command
  else sendText "GPS ERROR"

/-- A datagram is read into an array of 20 bytes, and a NUL is put behind it. -/
def receiveAtCommand (env : TestEnv) (datagram : List UInt8) : TestProgram Unit := do
  demand (if datagram.length < 20 then .ok () else .error .outside)
  atCommandParser env (datagram.takeWhile (· ≠ 0))

/-! ## The system -/

inductive TestEvent
  | atCommand (env : TestEnv) (datagram : List UInt8)
  | sentence (env : TestEnv) (endTag : Bool) (set : Option (List (Int × Int)))
  /-- the framework calls `mtk_gps_test_start` -/
  | testStart (env : TestEnv) (testNum prnNum timeDelay testMode : Int)
  /-- the framework calls `mtk_gps_test_stop` -/
  | testStop (env : TestEnv)
  deriving DecidableEq

def TestEvent.program : TestEvent → TestProgram Unit
  | .atCommand env datagram => receiveAtCommand env datagram
  | .sentence env endTag set => parseTestSentence env endTag set
  | .testStart env testNum prnNum timeDelay testMode => do
      let _ ← mtkGpsTestStart env testNum prnNum timeDelay testMode
      pure ()
  | .testStop env => do
      let _ ← mtkGpsTestStop env
      pure ()

/-- The receiver test, after the GPS state is set up or without it -/
def testSystem (init : Bool) : Transition.System TestState TestEvent TestOutput :=
  Program.system (· = testInit init) TestEvent.program

end X3Hal.Gps
