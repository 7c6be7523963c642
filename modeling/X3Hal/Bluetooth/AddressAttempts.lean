import X3Hal.Bluetooth.Address

/-!
# Attempts and the address

`fgGetEFUSE` is set in one attempt and cleared by `GORMcmd_HCC_Set_Local_BD_Addr`, which an
attempt that fails earlier does not reach.  The next attempt then asks for the controller's
address too, whatever it starts from.
-/

namespace X3Hal.Bluetooth

open X3Hal.Transition HciCommand

/-! ## The commands of the address -/

section Scripts

variable {chipId index : Nat} {script : List HciCommand} {fgConsys : Bool}

theorem chipScript_cases (isScript : chipScript chipId = some (script, fgConsys)) :
    (fgConsys = false ∧ script ∈ [script6628, script6630, script6632]) ∨
      (fgConsys = true ∧ script = scriptConsys) := by
  rw [chipScript] at isScript
  split_ifs at isScript
  all_goals cases isScript
  · exact Or.inl ⟨rfl, by simp⟩
  · exact Or.inl ⟨rfl, by simp⟩
  · exact Or.inl ⟨rfl, by simp⟩
  · exact Or.inr ⟨rfl, rfl⟩

/-- A chip with a script has a default address. -/
theorem chipDefault_of_chipScript (isScript : chipScript chipId = some (script, fgConsys)) :
    ∃ addr, chipDefault chipId = some addr := by
  rw [chipScript] at isScript
  rw [chipDefault]
  split_ifs at isScript ⊢
  all_goals exact ⟨_, rfl⟩

/-- Only a combo chip is asked for its address, by the first command. -/
theorem getLocalBdAddr_first (isScript : chipScript chipId = some (script, fgConsys))
    (scripted : script[index]? = some getLocalBdAddr) : fgConsys = false ∧ index = 0 := by
  have less : index < script.length := (List.getElem?_eq_some_iff.mp scripted).1
  rcases chipScript_cases isScript with ⟨notConsys, isCombo⟩ | ⟨-, rfl⟩
  · have only : ∀ script ∈ [script6628, script6630, script6632], ∀ index < script.length,
        script[index]? = some getLocalBdAddr → index = 0 := by
      decide
    exact ⟨notConsys, only script isCombo index less scripted⟩
  · have never : ∀ index < scriptConsys.length, scriptConsys[index]? ≠ some getLocalBdAddr := by
      decide
    exact absurd scripted (never index less)

/-- The address is set by the second command of a combo chip and the first one of the others. -/
theorem setLocalBdAddr_second (isScript : chipScript chipId = some (script, fgConsys))
    (scripted : script[index]? = some setLocalBdAddr) : index = if fgConsys then 0 else 1 := by
  have less : index < script.length := (List.getElem?_eq_some_iff.mp scripted).1
  rcases chipScript_cases isScript with ⟨rfl, isCombo⟩ | ⟨rfl, rfl⟩
  · have only : ∀ script ∈ [script6628, script6630, script6632], ∀ index < script.length,
        script[index]? = some setLocalBdAddr → index = 1 := by
      decide
    exact only script isCombo index less scripted
  · have only : ∀ index < scriptConsys.length,
        scriptConsys[index]? = some setLocalBdAddr → index = 0 := by
      decide
    exact only index less scripted

/-- `ucDefaultAddr` is the default of the chip once the thread has its script. -/
theorem startsDefault_of_isDefaultAddr {addr older : Address}
    (isScript : chipScript chipId = some (script, fgConsys))
    (isDefault : isDefaultAddr ((chipDefault chipId).getD older) addr = true) :
    startsDefault chipId addr = true := by
  rcases chipDefault_of_chipScript isScript with ⟨default, isChipDefault⟩
  rw [isChipDefault, Option.getD_some, isDefaultAddr] at isDefault
  rw [startsDefault, isChipDefault]
  exact isDefault

end Scripts

/-- An address written over itself stays. -/
theorem writtenOver_self (count : Nat) (addr : Address) : writtenOver count addr addr = addr := by
  ext i less
  simp [writtenOver]

/-! ## How the promises grow -/

/-- The controller has given its own address in an attempt. -/
def OwnAddress (outputs : List AddressOutput) (attempt : Nat) : Prop :=
  ∃ addr, .fetched attempt true addr ∈ outputs

section Growth

variable {outputs out : List AddressOutput} {attempt : Nat}

theorem OwnAddress.append (own : OwnAddress outputs attempt) :
    OwnAddress (outputs ++ out) attempt := by
  rcases own with ⟨addr, fetched⟩
  exact ⟨addr, List.mem_append_left _ fetched⟩

theorem latestStart_snoc_began (outputs : List AddressOutput) (attempt chipId : Nat)
    (addr : Address) :
    latestStart (outputs ++ [.began attempt chipId addr]) = some (attempt, chipId, addr) := by
  simp [latestStart]

theorem latestStart_append
    (other : ∀ attempt chipId addr, .began attempt chipId addr ∉ out) :
    latestStart (outputs ++ out) = latestStart outputs := by
  rw [latestStart, List.filterMap_append]
  apply congrArg List.getLast?
  rw [List.append_right_eq_self, List.filterMap_eq_nil_iff]
  intro output occurs
  cases output with
  | began attempt chipId addr => exact absurd occurs (other attempt chipId addr)
  | fetched | saved | set => rfl

theorem Rightful.append {addr : Address} (rightful : Rightful outputs attempt addr)
    (other : ∀ attempt chipId addr, .began attempt chipId addr ∉ out) :
    Rightful (outputs ++ out) attempt addr := by
  rcases rightful with ⟨start, latest, isAttempt, source⟩
  rw [← latestStart_append other] at latest
  refine ⟨start, latest, isAttempt, source.imp id fun own => ?_⟩
  exact ⟨own.1, List.mem_append_left _ own.2⟩

end Growth

/-! ## The invariant -/

def AddressOutput.attempt : AddressOutput → Nat
  | .began attempt _ _ | .fetched attempt _ _ | .saved attempt _ | .set attempt _ _ => attempt

/-- An attempt whose thread has not begun. -/
structure FreshAddress (outputs : List AddressOutput) (init : InitState) (addr : Address) :
    Prop where
  began : latestStart outputs = some (init.attempt, init.chipId, addr)
  callbacks : ∀ callback ∈ init.callbacks, callback.attempt ≠ init.attempt
  verdicts : ∀ verdict ∈ init.verdicts, verdict.attempt ≠ init.attempt
  fetched : ∀ success other, .fetched init.attempt success other ∉ outputs
  set : ∀ sent accepted, .set init.attempt sent accepted ∉ outputs

/-- An attempt with its start address whose thread is at a command; an address that was sent is
that of a command before the bound. -/
structure AttemptAddress (outputs : List AddressOutput) (init : InitState) (addr start : Address)
    (i bound : Nat) : Prop where
  began : latestStart outputs = some (init.attempt, init.chipId, start)
  planned : ∃ fgConsys, chipScript init.chipId = some (init.plan.script, fgConsys) ∧
    (fgConsys = false → init.plan.start = 0 → startsDefault init.chipId start = true)
  started : init.plan.start ≤ i
  callbacks : ∀ callback ∈ init.callbacks, callback.attempt = init.attempt →
    init.plan.start ≤ callback.index ∧
      init.plan.script[callback.index]? = some callback.command
  verdicts : ∀ verdict ∈ init.verdicts, verdict.attempt = init.attempt →
    verdict.passes = true → init.plan.script[verdict.index]? = some getLocalBdAddr →
      OwnAddress outputs init.attempt
  fetched : ∀ success other, .fetched init.attempt success other ∈ outputs →
    init.plan.start = 0 ∧ init.plan.script[0]? = some getLocalBdAddr
  set : ∀ sent accepted, .set init.attempt sent accepted ∈ outputs →
    ∃ earlier < bound, init.plan.script[earlier]? = some setLocalBdAddr
  answered : ∀ earlier < i, init.plan.start ≤ earlier →
    init.plan.script[earlier]? = some getLocalBdAddr → OwnAddress outputs init.attempt
  given : (∀ sent accepted, .set init.attempt sent accepted ∉ outputs) →
    (∀ success other, .fetched init.attempt success other ∉ outputs) → addr = start
  own : (∀ sent accepted, .set init.attempt sent accepted ∉ outputs) →
    OwnAddress outputs init.attempt → .fetched init.attempt true addr ∈ outputs

/-- A success that the thread would see is that of its `Get_Local_BD_Addr`. -/
def StatusAddress (outputs : List AddressOutput) (init : InitState) (i : Nat) : Prop :=
  init.cmdStatus = .success → init.plan.script[i]? = some getLocalBdAddr →
    OwnAddress outputs init.attempt

/-- What is so at each place of the thread. -/
def PlaceAddress (outputs : List AddressOutput) (init : InitState) (addr : Address) :
    ThreadPlace → Prop
  | .created => FreshAddress outputs init addr
  | .loop i | .arm i => ∃ start, AttemptAddress outputs init addr start i i
  | .sending i => (∃ start, AttemptAddress outputs init addr start i i) ∧
      StatusAddress outputs init i
  | .waiting i => (∃ start, AttemptAddress outputs init addr start i (i + 1)) ∧
      StatusAddress outputs init i
  | .none | .ending _ _ | .reported | .done => True

structure AddressSound (outputs : List AddressOutput) (state : AddressState) : Prop where
  justified : Justified AddressDue outputs
  kept : NvramKept outputs state.nvram
  bounded : ∀ output ∈ outputs, output.attempt ≤ state.init.attempt
  callbacks : ∀ callback ∈ state.init.callbacks, callback.attempt ≤ state.init.attempt
  verdicts : ∀ verdict ∈ state.init.verdicts, verdict.attempt ≤ state.init.attempt
  idle : state.init.main = .out → state.init.place = .none
  place : PlaceAddress outputs state.init state.addr state.init.place

/-- A step of the thread that leaves what the attempt has sent and got. -/
structure SameAttempt (init after : InitState) : Prop where
  attempt : after.attempt = init.attempt
  chipId : after.chipId = init.chipId
  plan : after.plan = init.plan
  callbacks : after.callbacks = init.callbacks
  verdicts : ∀ verdict ∈ after.verdicts, verdict ∈ init.verdicts

section Places

variable {outputs out : List AddressOutput} {init after : InitState} {addr start : Address}
  {i bound : Nat}

theorem FreshAddress.frame (fresh : FreshAddress outputs init addr)
    (same : SameAttempt init after) : FreshAddress outputs after addr := by
  rcases fresh with ⟨began, callbacks, verdicts, fetched, set⟩
  constructor
  · rw [same.attempt, same.chipId]
    exact began
  · rw [same.attempt, same.callbacks]
    exact callbacks
  · rw [same.attempt]
    exact fun verdict occurs => verdicts verdict (same.verdicts verdict occurs)
  · rw [same.attempt]
    exact fetched
  · rw [same.attempt]
    exact set

theorem AttemptAddress.frame (sound : AttemptAddress outputs init addr start i bound)
    (same : SameAttempt init after) : AttemptAddress outputs after addr start i bound := by
  rcases same with ⟨attempt, chipId, plan, callbacks, verdicts⟩
  constructor
  · rw [attempt, chipId]
    exact sound.began
  · rw [chipId, plan]
    exact sound.planned
  · rw [plan]
    exact sound.started
  · rw [attempt, plan, callbacks]
    exact sound.callbacks
  · rw [attempt, plan]
    exact fun verdict occurs => sound.verdicts verdict (verdicts verdict occurs)
  · rw [attempt, plan]
    exact sound.fetched
  · rw [attempt, plan]
    exact sound.set
  · rw [attempt, plan]
    exact sound.answered
  · rw [attempt]
    exact sound.given
  · rw [attempt]
    exact sound.own

/-- What is so at a place is kept when its parts are. -/
theorem PlaceAddress.imp {others : List AddressOutput} {other : Address} {place : ThreadPlace}
    (sound : PlaceAddress outputs init addr place)
    (fresh : place = .created → FreshAddress outputs init addr → FreshAddress others after other)
    (attempt : ∀ start i bound, place.underWay = true →
      AttemptAddress outputs init addr start i bound →
        AttemptAddress others after other start i bound)
    (status : ∀ start i bound, place = .sending i ∨ place = .waiting i →
      AttemptAddress outputs init addr start i bound →
        StatusAddress outputs init i → StatusAddress others after i) :
    PlaceAddress others after other place := by
  cases place with
  | none | ending | reported | done => trivial
  | created => exact fresh rfl sound
  | loop i | arm i =>
      rcases sound with ⟨start, sound⟩
      exact ⟨start, attempt start i i rfl sound⟩
  | sending i =>
      rcases sound with ⟨⟨start, sound⟩, isStatus⟩
      exact ⟨⟨start, attempt start i i rfl sound⟩, status start i i (Or.inl rfl) sound isStatus⟩
  | waiting i =>
      rcases sound with ⟨⟨start, sound⟩, isStatus⟩
      exact ⟨⟨start, attempt start i (i + 1) rfl sound⟩,
        status start i (i + 1) (Or.inr rfl) sound isStatus⟩

end Places

namespace AttemptAddress

variable {outputs out : List AddressOutput} {init : InitState} {addr start : Address}
  {i bound later : Nat} {command : HciCommand}

/-- The outputs grow by addresses that are sent before a later bound. -/
theorem grow (sound : AttemptAddress outputs init addr start i bound) (atLeast : bound ≤ later)
    (noBegan : ∀ attempt chipId addr, .began attempt chipId addr ∉ out)
    (noFetched : ∀ attempt success addr, .fetched attempt success addr ∉ out)
    (sets : ∀ attempt sent accepted, .set attempt sent accepted ∈ out →
      ∃ earlier < later, init.plan.script[earlier]? = some setLocalBdAddr) :
    AttemptAddress (outputs ++ out) init addr start i later := by
  constructor
  · rw [latestStart_append noBegan]
    exact sound.began
  · exact sound.planned
  · exact sound.started
  · exact sound.callbacks
  · intro verdict occurs isAttempt passes scripted
    exact (sound.verdicts verdict occurs isAttempt passes scripted).append
  · intro success other fetched
    rcases List.mem_append.mp fetched with old | new
    · exact sound.fetched success other old
    · exact absurd new (noFetched _ success other)
  · intro sent accepted isSet
    rcases List.mem_append.mp isSet with old | new
    · rcases sound.set sent accepted old with ⟨earlier, less, scripted⟩
      exact ⟨earlier, less.trans_le atLeast, scripted⟩
    · exact sets _ sent accepted new
  · exact fun earlier less started scripted =>
      (sound.answered earlier less started scripted).append
  · intro notSet notFetched
    apply sound.given
    · exact fun sent accepted isSet => notSet sent accepted (List.mem_append_left _ isSet)
    · exact fun success other fetched => notFetched success other (List.mem_append_left _ fetched)
  · rintro notSet ⟨other, fetched⟩
    rcases List.mem_append.mp fetched with old | new
    · apply List.mem_append_left
      apply sound.own _ ⟨other, old⟩
      exact fun sent accepted isSet => notSet sent accepted (List.mem_append_left _ isSet)
    · exact absurd new (noFetched _ true other)

theorem weaken (sound : AttemptAddress outputs init addr start i bound) (atLeast : bound ≤ later) :
    AttemptAddress outputs init addr start i later := by
  have grown : AttemptAddress (outputs ++ []) init addr start i later :=
    sound.grow atLeast nofun nofun nofun
  rw [List.append_nil] at grown
  exact grown

/-- The thread goes on after a command that has given the address if it asks for it. -/
theorem next (sound : AttemptAddress outputs init addr start i bound)
    (given : init.plan.script[i]? = some getLocalBdAddr → OwnAddress outputs init.attempt) :
    AttemptAddress outputs init addr start (i + 1) bound := by
  refine { sound with started := Nat.le_succ_of_le sound.started, answered := ?_ }
  intro earlier less started scripted
  rcases Nat.lt_succ_iff_lt_or_eq.mp less with before | rfl
  · exact sound.answered earlier before started scripted
  · exact given scripted

/-- A command goes out with its callback. -/
theorem send (sound : AttemptAddress outputs init addr start i bound)
    (scripted : init.plan.script[i]? = some command) :
    AttemptAddress outputs (init.send i true command).1 addr start i bound := by
  rw [InitState.send, if_pos rfl]
  refine ⟨sound.began, sound.planned, sound.started, ?_, sound.verdicts, sound.fetched, sound.set,
    sound.answered, sound.given, sound.own⟩
  intro callback occurs isAttempt
  rcases List.mem_cons.mp occurs with rfl | old
  · exact ⟨sound.started, scripted⟩
  · exact sound.callbacks callback old isAttempt

/-- The controller's address came to an attempt that asked for it. -/
theorem asked (sound : AttemptAddress outputs init addr start i bound) {success : Bool}
    {other : Address} (fetched : .fetched init.attempt success other ∈ outputs) :
    chipScript init.chipId = some (init.plan.script, false) ∧ init.plan.start = 0 ∧
      startsDefault init.chipId start = true := by
  rcases sound.planned with ⟨fgConsys, isScript, default⟩
  rcases sound.fetched success other fetched with ⟨isFirst, scripted⟩
  rcases getLocalBdAddr_first isScript scripted with ⟨rfl, -⟩
  exact ⟨isScript, isFirst, default rfl isFirst⟩

/-- The address that is set is the start address or the controller's own one. -/
theorem rightful (sound : AttemptAddress outputs init addr start i i)
    (scripted : init.plan.script[i]? = some setLocalBdAddr) :
    addr = start ∨
      (startsDefault init.chipId start = true ∧ .fetched init.attempt true addr ∈ outputs) := by
  have notSet : ∀ sent accepted, .set init.attempt sent accepted ∉ outputs := by
    intro sent accepted isSet
    rcases sound.set sent accepted isSet with ⟨earlier, less, isEarlier⟩
    rcases sound.planned with ⟨fgConsys, isScript, -⟩
    have same : earlier = i := by
      rw [setLocalBdAddr_second isScript isEarlier, setLocalBdAddr_second isScript scripted]
    exact absurd same less.ne
  by_cases fetches : ∃ success other, .fetched init.attempt success other ∈ outputs
  · rcases fetches with ⟨success, other, fetched⟩
    rcases sound.asked fetched with ⟨isScript, isFirst, default⟩
    have second : i = 1 := setLocalBdAddr_second isScript scripted
    have less : 0 < i := by rw [second]; exact Nat.one_pos
    have own := sound.answered 0 less isFirst.le (sound.fetched success other fetched).2
    exact Or.inr ⟨default, sound.own notSet own⟩
  · have notFetched : ∀ success other, .fetched init.attempt success other ∉ outputs :=
      fun success other fetched => fetches ⟨success, other, fetched⟩
    exact Or.inl (sound.given notSet notFetched)

/-- An event of a command that does not ask for the address. -/
theorem receive_other (sound : AttemptAddress outputs init addr start i bound)
    {callback : Callback} (occurs : callback ∈ init.callbacks)
    (notGet : callback.command ≠ getLocalBdAddr) (code opCode status : Nat) :
    AttemptAddress outputs
      { init with verdicts := init.verdict callback code opCode status :: init.verdicts }
      addr start i bound := by
  refine ⟨sound.began, sound.planned, sound.started, sound.callbacks, ?_, sound.fetched, sound.set,
    sound.answered, sound.given, sound.own⟩
  intro verdict isVerdict isAttempt passes scripted
  rcases List.mem_cons.mp isVerdict with rfl | old
  · have isCommand := (sound.callbacks callback occurs isAttempt).2
    exact absurd (Option.some.inj (isCommand.symm.trans scripted)) notGet
  · exact sound.verdicts verdict old isAttempt passes scripted

/-- An event of the command that asks for the address. -/
theorem receive_getLocalBdAddr (sound : AttemptAddress outputs init addr start i bound)
    {callback : Callback} (occurs : callback ∈ init.callbacks)
    (isGet : callback.command = getLocalBdAddr) (code opCode status : Nat) (got : Address)
    (due : AnswerDue outputs init.attempt (init.verdict callback code opCode status)) :
    AttemptAddress
      (outputs ++
        [.fetched callback.attempt (init.verdict callback code opCode status).passes got])
      { init with verdicts := init.verdict callback code opCode status :: init.verdicts }
      got start i bound := by
  -- before the address is set, the event is of this attempt
  have ofAttempt : (∀ sent accepted, .set init.attempt sent accepted ∉ outputs) →
      callback.attempt = init.attempt ∧
        ((init.verdict callback code opCode status).passes = true ∨
          ∀ output ∈ outputs, output.succeedsIn init.attempt = false) := by
    intro notSet
    rcases due with ⟨output, isOutput, isSet⟩ | ofAttempt
    · cases output with
      | set attempt sent accepted =>
          rw [AddressOutput.setsIn, decide_eq_true_eq] at isSet
          exact absurd (isSet ▸ isOutput) (notSet sent accepted)
      | began | fetched | saved => cases isSet
    · exact ofAttempt
  constructor
  · rw [latestStart_append (by simp)]
    exact sound.began
  · exact sound.planned
  · exact sound.started
  · exact sound.callbacks
  · intro verdict isVerdict isAttempt passes scripted
    rcases List.mem_cons.mp isVerdict with rfl | old
    · refine ⟨got, List.mem_append_right _ (List.mem_singleton.mpr ?_)⟩
      rw [passes]
      exact congrArg (AddressOutput.fetched · true got) isAttempt.symm
    · exact (sound.verdicts verdict old isAttempt passes scripted).append
  · intro success other fetched
    rcases List.mem_append.mp fetched with old | new
    · exact sound.fetched success other old
    · have isAttempt : callback.attempt = init.attempt :=
        (AddressOutput.fetched.inj (List.mem_singleton.mp new)).1.symm
      rcases sound.planned with ⟨fgConsys, isScript, -⟩
      rcases sound.callbacks callback occurs isAttempt with ⟨started, scripted⟩
      rw [isGet] at scripted
      rcases getLocalBdAddr_first isScript scripted with ⟨-, isFirst⟩
      rw [isFirst] at started scripted
      exact ⟨Nat.le_zero.mp started, scripted⟩
  · intro sent accepted isSet
    rcases List.mem_append.mp isSet with old | new
    · exact sound.set sent accepted old
    · cases List.mem_singleton.mp new
  · exact fun earlier less started scripted =>
      (sound.answered earlier less started scripted).append
  · intro notSet notFetched
    have isAttempt := (ofAttempt fun sent accepted isSet =>
      notSet sent accepted (List.mem_append_left _ isSet)).1
    refine absurd ?_ (notFetched (init.verdict callback code opCode status).passes got)
    rw [isAttempt]
    exact List.mem_append_right _ (List.mem_singleton.mpr rfl)
  · rintro notSet ⟨other, fetched⟩
    rcases ofAttempt fun sent accepted isSet =>
      notSet sent accepted (List.mem_append_left _ isSet) with ⟨isAttempt, passes | none⟩
    · rw [isAttempt, passes]
      exact List.mem_append_right _ (List.mem_singleton.mpr rfl)
    · rcases List.mem_append.mp fetched with old | new
      · have notSuccess := none _ old
        simp [AddressOutput.succeedsIn] at notSuccess
      · rcases AddressOutput.fetched.inj (List.mem_singleton.mp new) with ⟨-, passes, -⟩
        rw [isAttempt, ← passes]
        exact List.mem_append_right _ (List.mem_singleton.mpr rfl)

end AttemptAddress

namespace AddressSound

variable {outputs out : List AddressOutput} {state after : AddressState} {i : Nat}

/-- A step that leaves the outputs and the addresses. -/
theorem silent (sound : AddressSound outputs state) (addr : after.addr = state.addr)
    (nvram : after.nvram = state.nvram) (same : SameAttempt state.init after.init)
    (idle : after.init.main = .out → after.init.place = .none)
    (place : PlaceAddress outputs after.init state.addr after.init.place) :
    AddressSound outputs after := by
  refine ⟨sound.justified, ?_, ?_, ?_, ?_, idle, ?_⟩
  · rw [nvram]
    exact sound.kept
  · rw [same.attempt]
    exact sound.bounded
  · rw [same.attempt, same.callbacks]
    exact sound.callbacks
  · rw [same.attempt]
    exact fun verdict occurs => sound.verdicts verdict (same.verdicts verdict occurs)
  · rw [addr]
    exact place

/-- A step of the thread is not one of an idle driver. -/
theorem busy (sound : AddressSound outputs state) (moves : state.init.place ≠ .none)
    {place : ThreadPlace} : state.init.main = .out → place = .none :=
  fun isOut => absurd (sound.idle isOut) moves

theorem fwCfg {chipId : Nat} {record : NvramRecord} {readable : Bool} {settings : Settings}
    (sound : AddressSound outputs state)
    (stepped : state.fwCfg chipId record readable settings = some (after, out)) :
    AddressSound (outputs ++ out) after := by
  rw [AddressState.fwCfg] at stepped
  split at stepped
  case isFalse => cases stepped
  case isTrue isOut =>
    split at stepped
    case h_1 =>
      cases stepped
      rw [List.append_nil]
      exact sound
    case h_2 addr isStart =>
      cases stepped
      have bounded : ∀ output ∈ outputs, output.attempt ≠ state.init.attempt + 1 :=
        fun output occurs => (Nat.lt_succ_of_le (sound.bounded output occurs)).ne
      have latest := latestStart_snoc_began outputs (state.init.attempt + 1) chipId addr
      refine ⟨?_, ?_, ?_, ?_, ?_, nofun, ?_⟩
      · rw [justified_snoc_iff]
        exact ⟨sound.justified, trivial⟩
      · intro start isLatest notDefault
        rw [latest, Option.mem_some_iff] at isLatest
        cases isLatest
        rw [startAddr] at isStart
        split at isStart
        · rw [startsDefault, isStart] at notDefault
          simp at notDefault
        · exact Option.some.inj isStart
      · intro output occurs
        rcases List.mem_append.mp occurs with old | new
        · exact Nat.le_succ_of_le (sound.bounded output old)
        · rw [List.mem_singleton.mp new]
          exact le_rfl
      · exact fun callback occurs => Nat.le_succ_of_le (sound.callbacks callback occurs)
      · exact fun verdict occurs => Nat.le_succ_of_le (sound.verdicts verdict occurs)
      · refine ⟨latest, ?_, ?_, ?_, ?_⟩
        · exact fun callback occurs => (Nat.lt_succ_of_le (sound.callbacks callback occurs)).ne
        · exact fun verdict occurs => (Nat.lt_succ_of_le (sound.verdicts verdict occurs)).ne
        · intro success other fetched
          rcases List.mem_append.mp fetched with old | new
          · exact absurd rfl (bounded _ old)
          · cases List.mem_singleton.mp new
        · intro sent accepted isSet
          rcases List.mem_append.mp isSet with old | new
          · exact absurd rfl (bounded _ old)
          · cases List.mem_singleton.mp new

/-- The thread has its script; the first command follows from the flag. -/
theorem start (sound : AddressSound outputs state)
    (due : state.init.fgGetEfuse = true → (chipScript state.init.chipId).any (!·.2) = true →
      startsDefault state.init.chipId state.addr = true)
    (stepped : state.start = some (after, out)) : AddressSound (outputs ++ out) after := by
  rcases Option.map_eq_some_iff.mp stepped with ⟨started, moved, same⟩
  rcases InitState.steps_of_step moved with ⟨isCreated, rfl⟩
  cases same
  have isPlace : state.init.place = .created := isCreated
  have moves : state.init.place ≠ .none := by rw [isPlace]; nofun
  have fresh := sound.place
  rw [isPlace] at fresh
  rw [List.append_nil, InitState.start]
  split
  case h_1 =>
    exact sound.silent rfl rfl ⟨rfl, rfl, rfl, rfl, fun _ => id⟩ (sound.busy moves) trivial
  case h_2 script fgConsys isScript =>
    refine ⟨sound.justified, sound.kept, sound.bounded, sound.callbacks, sound.verdicts,
      sound.busy moves, state.addr, ?_⟩
    refine ⟨fresh.began, ⟨fgConsys, isScript, ?_⟩, le_rfl, ?_, ?_, ?_, ?_, ?_, ?_, ?_⟩
    · rintro rfl isFirst
      by_cases isDefault : isDefaultAddr ((chipDefault state.init.chipId).getD
          state.ucDefaultAddr) state.addr = true
      · exact startsDefault_of_isDefaultAddr isScript isDefault
      · have isFlag : state.init.fgGetEfuse = true := by
          simpa [isDefault] using isFirst
        exact due isFlag (by rw [isScript]; rfl)
    · exact fun callback occurs isAttempt => absurd isAttempt (fresh.callbacks callback occurs)
    · exact fun verdict occurs isAttempt => absurd isAttempt (fresh.verdicts verdict occurs)
    · exact fun success other fetched => absurd fetched (fresh.fetched success other)
    · exact fun sent accepted isSet => absurd isSet (fresh.set sent accepted)
    · exact fun earlier less started => absurd started (Nat.not_le.mpr less)
    · exact fun _ _ => rfl
    · rintro - ⟨other, fetched⟩
      exact absurd fetched (fresh.fetched true other)

theorem check (sound : AddressSound outputs state) (atLoop : state.init.place = .loop i) :
    AddressSound outputs { state with init := (state.init.check i).1 } := by
  have moves : state.init.place ≠ .none := by rw [atLoop]; nofun
  have place := sound.place
  rw [atLoop] at place
  rcases place with ⟨start, attempt⟩
  rw [InitState.check]
  split
  case h_1 =>
    exact sound.silent rfl rfl ⟨rfl, rfl, rfl, rfl, fun _ => id⟩ (sound.busy moves) trivial
  case h_2 command scripted =>
    split_ifs with isTerminate skipped
    · exact sound.silent rfl rfl ⟨rfl, rfl, rfl, rfl, fun _ => id⟩ (sound.busy moves) trivial
    · have same : SameAttempt state.init { state.init with place := .loop (i + 1) } :=
        ⟨rfl, rfl, rfl, rfl, fun _ => id⟩
      refine sound.silent rfl rfl same (sound.busy moves) ⟨start, ?_⟩
      apply AttemptAddress.frame _ same
      apply (attempt.weaken (Nat.le_succ i)).next
      intro isGet
      rw [scripted, Option.some.injEq] at isGet
      rw [isGet] at skipped
      cases skipped
    · have same : SameAttempt state.init { state.init with place := .arm i } :=
        ⟨rfl, rfl, rfl, rfl, fun _ => id⟩
      exact sound.silent rfl rfl same (sound.busy moves) ⟨start, attempt.frame same⟩

theorem arm (sound : AddressSound outputs state) (atArm : state.init.place = .arm i)
    (allocated : Bool) :
    AddressSound outputs { state with init := (state.init.arm i allocated).1 } := by
  have moves : state.init.place ≠ .none := by rw [atArm]; nofun
  have place := sound.place
  rw [atArm] at place
  rcases place with ⟨start, attempt⟩
  rw [InitState.arm]
  split_ifs
  · exact sound.silent rfl rfl ⟨rfl, rfl, rfl, rfl, fun _ => id⟩ (sound.busy moves) trivial
  · have same : SameAttempt state.init
        { state.init with cmdStatus := .pending, place := .sending i } :=
      ⟨rfl, rfl, rfl, rfl, fun _ => id⟩
    exact sound.silent rfl rfl same (sound.busy moves) ⟨⟨start, attempt.frame same⟩, nofun⟩
  · exact sound.silent rfl rfl ⟨rfl, rfl, rfl, rfl, fun _ => id⟩ (sound.busy moves) trivial

theorem look {looked : InitState} {out : List InitOutput} (sound : AddressSound outputs state)
    (atWaiting : state.init.place = .waiting i)
    (stepped : state.init.look i = some (looked, out)) :
    AddressSound outputs { state with init := looked } := by
  have moves : state.init.place ≠ .none := by rw [atWaiting]; nofun
  have place := sound.place
  rw [atWaiting] at place
  rcases place with ⟨⟨start, attempt⟩, isStatus⟩
  rw [InitState.look] at stepped
  split at stepped
  case h_1 => cases stepped
  case h_2 isSuccess =>
    cases stepped
    have same : SameAttempt state.init { state.init with place := .loop (i + 1) } :=
      ⟨rfl, rfl, rfl, rfl, fun _ => id⟩
    refine sound.silent rfl rfl same (sound.busy moves) ⟨start, ?_⟩
    exact (attempt.next (isStatus isSuccess)).frame same
  case h_3 =>
    cases stepped
    exact sound.silent rfl rfl ⟨rfl, rfl, rfl, rfl, fun _ => id⟩ (sound.busy moves) trivial
  case h_4 =>
    cases stepped
    exact sound.silent rfl rfl ⟨rfl, rfl, rfl, rfl, fun _ => id⟩ (sound.busy moves) trivial

/-- A command is sent, with the outputs of its address. -/
theorem sent {command : HciCommand} (sound : AddressSound outputs state) (called : AddressState)
    (atSending : state.init.place = .sending i)
    (scripted : state.init.plan.script[i]? = some command) (accepted : Bool)
    (addr : called.addr = state.addr) (kept : NvramKept outputs called.nvram)
    (justified : Justified (fun before => AddressDue (outputs ++ before)) out)
    (own : ∀ output ∈ out, output.attempt = state.init.attempt)
    (noBegan : ∀ attempt chipId addr, .began attempt chipId addr ∉ out)
    (noFetched : ∀ attempt success addr, .fetched attempt success addr ∉ out)
    (sets : ∀ attempt sent accepted, .set attempt sent accepted ∈ out →
      command = setLocalBdAddr) :
    AddressSound (outputs ++ out)
      { called with init := (state.init.send i accepted command).1 } := by
  have moves : state.init.place ≠ .none := by rw [atSending]; nofun
  have place := sound.place
  rw [atSending] at place
  rcases place with ⟨⟨start, attempt⟩, isStatus⟩
  have bounded : ∀ output ∈ outputs ++ out, output.attempt ≤ state.init.attempt := by
    intro output occurs
    rcases List.mem_append.mp occurs with old | new
    · exact sound.bounded output old
    · exact (own output new).le
  have grownKept : NvramKept (outputs ++ out) called.nvram := by
    rw [NvramKept, latestStart_append noBegan]
    exact kept
  have grown : Justified AddressDue (outputs ++ out) :=
    justified_append_iff.mpr ⟨sound.justified, justified⟩
  cases accepted with
  | true =>
      refine ⟨grown, grownKept, bounded, ?_, sound.verdicts, sound.busy moves, ?_⟩
      · intro callback occurs
        rcases List.mem_cons.mp occurs with rfl | old
        · exact le_rfl
        · exact sound.callbacks callback old
      · rw [addr]
        refine ⟨⟨start, (attempt.grow (Nat.le_succ i) noBegan noFetched ?_).send scripted⟩, ?_⟩
        · intro other sent accepted isSet
          exact ⟨i, Nat.lt_succ_self i, sets other sent accepted isSet ▸ scripted⟩
        · exact fun isSuccess isGet => (isStatus isSuccess isGet).append
  | false =>
      exact ⟨grown, grownKept, bounded, sound.callbacks, sound.verdicts, sound.busy moves, trivial⟩

/-- The address that is sent and saved is rightful. -/
theorem setLocalBdAddr (sound : AddressSound outputs state)
    (atSending : state.init.place = .sending i)
    (scripted : state.init.plan.script[i]? = some setLocalBdAddr) (accepted : Bool)
    (written : Nat) :
    AddressSound (outputs ++ (state.setLocalBdAddr accepted written).2)
      { (state.setLocalBdAddr accepted written).1 with
        init := (state.init.send i accepted setLocalBdAddr).1 } := by
  have place := sound.place
  rw [atSending] at place
  rcases place with ⟨⟨start, attempt⟩, -⟩
  have source := attempt.rightful scripted
  have rightful : Rightful outputs state.init.attempt state.addr :=
    ⟨_, attempt.began, rfl, source⟩
  rw [AddressState.setLocalBdAddr]
  split
  case isTrue saves =>
    apply sound.sent { state with nvram := writtenOver written state.addr state.nvram } atSending
      scripted accepted rfl
    · intro latest isLatest notDefault
      have isNvram := sound.kept latest isLatest notDefault
      rw [attempt.began, Option.mem_some_iff] at isLatest
      cases isLatest
      rcases source with isStart | ⟨isDefault, -⟩
      · rw [isNvram, isStart]
        exact writtenOver_self written start
      · rw [notDefault] at isDefault
        cases isDefault
    · rw [← List.singleton_append, justified_append_iff, justified_singleton, justified_singleton,
        List.append_nil, List.append_nil]
      exact ⟨rightful, rightful.append (by simp)⟩
    · simp [AddressOutput.attempt]
    · simp
    · simp
    · exact fun _ _ _ _ => rfl
  case isFalse =>
    apply sound.sent state atSending scripted accepted rfl sound.kept
    · rw [justified_singleton, List.append_nil]
      exact rightful
    · simp [AddressOutput.attempt]
    · simp
    · simp
    · exact fun _ _ _ _ => rfl

theorem send {accepted : Bool} {written : Nat} (sound : AddressSound outputs state)
    (stepped : state.send accepted written = some (after, out)) :
    AddressSound (outputs ++ out) after := by
  rcases Option.map_eq_some_iff.mp stepped with ⟨sent, moved, same⟩
  rcases InitState.steps_of_step moved with ⟨i, command, atSending, scripted, rfl⟩
  have isSends : state.sends .setLocalBdAddr ↔ command = .setLocalBdAddr := by
    rw [AddressState.sends, atSending]
    dsimp only
    rw [scripted, Option.some_inj]
  by_cases isSet : command = .setLocalBdAddr
  · rw [if_pos (isSends.mpr isSet)] at same
    cases isSet
    cases same
    exact sound.setLocalBdAddr atSending scripted accepted written
  · rw [if_neg (isSends.not.mpr isSet)] at same
    cases same
    exact sound.sent state atSending scripted accepted rfl sound.kept justified_nil (by simp)
      (by simp) (by simp) (by simp)

theorem receive {attempt index code opCode status : Nat} {got : Address}
    (sound : AddressSound outputs state)
    (due : ∀ callback ∈ state.callback? attempt index, callback.command = getLocalBdAddr →
      state.init.place.underWay = true → AnswerDue outputs state.init.attempt
        (state.init.verdict callback code opCode status))
    (stepped : state.receive attempt index code opCode status got = some (after, out)) :
    AddressSound (outputs ++ out) after := by
  rcases Option.map_eq_some_iff.mp stepped with ⟨callback, found, same⟩
  have occurs : callback ∈ state.init.callbacks := List.mem_of_find?_eq_some found
  have bounded : ∀ verdict ∈ state.init.verdict callback code opCode status :: state.init.verdicts,
      verdict.attempt ≤ state.init.attempt := by
    intro verdict isVerdict
    rcases List.mem_cons.mp isVerdict with rfl | old
    · exact sound.callbacks callback occurs
    · exact sound.verdicts verdict old
  have fresh : ∀ addr, FreshAddress outputs state.init addr →
      ∀ verdict ∈ state.init.verdict callback code opCode status :: state.init.verdicts,
        verdict.attempt ≠ state.init.attempt := by
    intro addr isFresh verdict isVerdict
    rcases List.mem_cons.mp isVerdict with rfl | old
    · exact isFresh.callbacks callback occurs
    · exact isFresh.verdicts verdict old
  by_cases isGet : callback.command = getLocalBdAddr
  · have latest : latestStart (outputs ++ [.fetched callback.attempt
        (state.init.verdict callback code opCode status).passes got]) = latestStart outputs :=
      latestStart_append (by simp)
    rw [if_pos isGet] at same
    cases same
    refine ⟨?_, ?_, ?_, sound.callbacks, bounded, sound.idle, ?_⟩
    · rw [justified_snoc_iff]
      exact ⟨sound.justified, trivial⟩
    · rw [NvramKept, latest]
      exact sound.kept
    · intro output isOutput
      rcases List.mem_append.mp isOutput with old | new
      · exact sound.bounded output old
      · rw [List.mem_singleton.mp new]
        exact sound.callbacks callback occurs
    · apply sound.place.imp
      · intro isCreated isFresh
        rcases due callback found isGet (by rw [isCreated]; rfl) with
          ⟨output, isOutput, isSet⟩ | ⟨isAttempt, -⟩
        · cases output with
          | set attempt sent accepted =>
              rw [AddressOutput.setsIn, decide_eq_true_eq] at isSet
              exact absurd (isSet ▸ isOutput) (isFresh.set sent accepted)
          | began | fetched | saved => cases isSet
        · exact absurd isAttempt (isFresh.callbacks callback occurs)
      · intro start i bound underWay isAttempt
        exact isAttempt.receive_getLocalBdAddr occurs isGet code opCode status got
          (due callback found isGet underWay)
      · exact fun _ i _ _ _ isStatus isSuccess scripted => (isStatus isSuccess scripted).append
  · rw [if_neg isGet] at same
    cases same
    rw [List.append_nil]
    refine ⟨sound.justified, sound.kept, sound.bounded, sound.callbacks, bounded, sound.idle, ?_⟩
    apply sound.place.imp
    · exact fun _ isFresh => ⟨isFresh.began, isFresh.callbacks, fresh _ isFresh, isFresh.fetched,
        isFresh.set⟩
    · exact fun start i bound _ isAttempt =>
        isAttempt.receive_other occurs isGet code opCode status
    · exact fun _ _ _ _ _ isStatus => isStatus

theorem signal {history : History AddressEvent AddressOutput} {verdict : Verdict}
    (sound : AddressSound outputs state) (occurs : verdict ∈ state.init.verdicts)
    (due : AddressGuard history state (.other (.signal verdict))) :
    AddressSound outputs { state with init := { state.init with
      cmdStatus := if verdict.passes then .success else .fail
      verdicts := state.init.verdicts.erase verdict } } := by
  have same : SameAttempt state.init { state.init with
      cmdStatus := if verdict.passes then .success else .fail
      verdicts := state.init.verdicts.erase verdict } :=
    ⟨rfl, rfl, rfl, rfl, fun _ => List.mem_of_mem_erase⟩
  refine sound.silent rfl rfl same sound.idle ?_
  apply sound.place.imp
  · exact fun _ fresh => fresh.frame same
  · exact fun _ _ _ _ attempt => attempt.frame same
  · intro start i bound place attempt _ isSuccess scripted
    have passes : verdict.passes = true := by
      cases isPasses : verdict.passes with
      | true => rfl
      | false => simp [isPasses] at isSuccess
    have ofCommand := due passes
    have isOwn : verdict.attempt = state.init.attempt ∧ verdict.index = i := by
      rcases place with atSending | atWaiting
      · rw [atSending] at ofCommand
        exact ofCommand scripted
      · rw [atWaiting] at ofCommand
        exact ofCommand scripted
    apply attempt.verdicts verdict occurs isOwn.1 passes
    rw [isOwn.2]
    exact scripted

end AddressSound

namespace AddressSound

variable {outputs : List AddressOutput} {state after : AddressState}

/-- What the callers of the thread do. -/
theorem caller {init : InitState} (sound : AddressSound outputs state)
    (same : SameAttempt state.init init) (place : init.place = state.init.place)
    (status : init.cmdStatus = .success → state.init.cmdStatus = .success)
    (inAttempt : init.main ≠ .out) : AddressSound outputs { state with init := init } := by
  refine sound.silent rfl rfl same (fun isOut => absurd isOut inAttempt) ?_
  dsimp only
  rw [place]
  apply sound.place.imp
  · exact fun _ fresh => fresh.frame same
  · exact fun _ _ _ _ attempt => attempt.frame same
  · intro _ i _ _ _ isStatus isSuccess scripted
    rw [same.plan] at scripted
    rw [same.attempt]
    exact isStatus (status isSuccess) scripted

/-- The other steps are those of the initialisation, and show nothing. -/
theorem step_other {event : InitEvent} {out : List AddressOutput}
    (stepped : state.step (.other event) = some (after, out)) :
    ∃ ran, state.init.step event = some ran ∧ after = { state with init := ran.1 } ∧ out = [] := by
  cases event with
  | initDevice | start | send | receive => cases stepped
  | created | cleanup | join | check | arm | look | report | finish | signal =>
      rcases Option.map_eq_some_iff.mp stepped with ⟨ran, moved, same⟩
      cases same
      exact ⟨ran, moved, rfl, rfl⟩

theorem other {history : History AddressEvent AddressOutput} {event : InitEvent}
    {out : List AddressOutput} (sound : AddressSound outputs state)
    (due : AddressGuard history state (.other event))
    (stepped : state.step (.other event) = some (after, out)) :
    AddressSound (outputs ++ out) after := by
  rcases step_other stepped with ⟨ran, moved, rfl, rfl⟩
  have steps := InitState.steps_of_step moved
  rw [List.append_nil]
  cases event with
  | initDevice | start | send | receive => cases stepped
  | created =>
      rcases steps with ⟨-, rfl⟩
      exact sound.caller ⟨rfl, rfl, rfl, rfl, fun _ => id⟩ rfl id nofun
  | cleanup =>
      rcases steps with ⟨-, rfl⟩
      rw [InitState.cleanup]
      split
      · exact sound.caller ⟨rfl, rfl, rfl, rfl, fun _ => id⟩ rfl nofun nofun
      · exact sound.caller ⟨rfl, rfl, rfl, rfl, fun _ => id⟩ rfl id nofun
  | join =>
      rcases steps with ⟨-, rfl⟩
      exact sound.silent rfl rfl ⟨rfl, rfl, rfl, rfl, fun _ => id⟩ (fun _ => rfl) trivial
  | check =>
      rcases steps with ⟨i, atLoop, rfl⟩
      exact sound.check atLoop
  | arm allocated =>
      rcases steps with ⟨i, atArm, rfl⟩
      exact sound.arm atArm allocated
  | look =>
      rcases steps with ⟨i, atWaiting, looked⟩
      exact sound.look atWaiting looked
  | report =>
      rcases steps with ⟨i, ret, atEnding, rfl⟩
      have moves : state.init.place ≠ .none := by rw [atEnding]; nofun
      exact sound.silent rfl rfl ⟨rfl, rfl, rfl, rfl, fun _ => id⟩ (sound.busy moves) trivial
  | finish =>
      rcases steps with ⟨isReported, rfl⟩
      have moves : state.init.place ≠ .none := by rw [isReported]; nofun
      exact sound.silent rfl rfl ⟨rfl, rfl, rfl, rfl, fun _ => id⟩ (sound.busy moves) trivial
  | signal verdict =>
      rcases steps with ⟨occurs, rfl⟩
      exact sound.signal occurs due

theorem step {history : History AddressEvent AddressOutput} {event : AddressEvent}
    {out : List AddressOutput} (sound : AddressSound history.outputs state)
    (guarded : AddressGuard history state event)
    (stepped : state.step event = some (after, out)) :
    AddressSound (history.outputs ++ out) after := by
  cases event with
  | fwCfg => exact sound.fwCfg stepped
  | start => exact sound.start guarded stepped
  | send => exact sound.send stepped
  | receive => exact sound.receive guarded stepped
  | other => exact sound.other guarded stepped

theorem run {history : History AddressEvent AddressOutput} {state : AddressState}
    (run : addressSystem.Run AddressGuard history state) :
    AddressSound history.outputs state := by
  induction run with
  | start starts =>
      have isInit : _ = initInit := starts
      constructor <;> simp [isInit, initInit, NvramKept, latestStart, PlaceAddress]
  | next running guarded stepped ih =>
      rw [History.outputs_snoc]
      exact ih.step guarded stepped

end AddressSound

/-- In every run whose events meet the guard, an attempt sends and saves the address that it
started from, or, when that is a default one, the controller's own. -/
theorem addresses_right {history : History AddressEvent AddressOutput} {state : AddressState}
    (run : addressSystem.Run AddressGuard history state) :
    Justified AddressDue history.outputs ∧ NvramKept history.outputs state.nvram :=
  ⟨(AddressSound.run run).justified, (AddressSound.run run).kept⟩

/-- The steps up to the first command of a thread. -/
def beginning (chipId : Nat) (addr : Address) : List AddressEvent :=
  [.fwCfg chipId ⟨addr, false⟩ true ⟨false, false⟩, .other .created, .start]

def sending (written : Nat) : List AddressEvent :=
  [.other .check, .other (.arm true), .send true written]

/-- A command that is sent, and then looked at, with the events that come to it. -/
def turn (written : Nat) (events : List AddressEvent) : List AddressEvent :=
  [sending written, events, [.other .look]].flatten

/-- The event of `Get_Local_BD_Addr`. -/
def answer (attempt status : Nat) (addr : Address) : List AddressEvent :=
  [.receive attempt 0 commandComplete 0x1009 status addr,
    .other (.signal ⟨attempt, 0, commandComplete, 0x1009, status, status = 0⟩)]

/-- The end of a thread and of its attempt. -/
def ended : List AddressEvent :=
  [.other .report, .other .finish, .other .cleanup, .other .join]

/-- An attempt gets the controller's address and saves it, and the next one starts from it. -/
theorem addresses_right_saved : ∃ history state,
    addressSystem.Run AddressGuard history state ∧
    (Justified AddressDue history.outputs ∧ NvramKept history.outputs state.nvram) ∧
    (state.nvram, history.outputs) = (#v[0xC0, 1, 2, 3, 4, 5],
      [.began 1 0x6630 #v[0, 0, 0x46, 0x66, 0x30, 1], .fetched 1 true #v[0xC0, 1, 2, 3, 4, 5],
        .saved 1 #v[0xC0, 1, 2, 3, 4, 5], .set 1 #v[0xC0, 1, 2, 3, 4, 5] true,
        .began 2 0x6630 #v[0xC0, 1, 2, 3, 4, 5], .set 2 #v[0xC0, 1, 2, 3, 4, 5] true]) ∧
    history.events = [beginning 0x6630 #v[0, 0, 0x46, 0x66, 0x30, 1],
      turn 0 (answer 1 0 #v[0xC0, 1, 2, 3, 4, 5]), turn 6 [.other .cleanup],
      [.other .report, .other .finish, .other .join],
      beginning 0x6630 #v[0xC0, 1, 2, 3, 4, 5], sending 6].flatten := by
  let initial : AddressState := ⟨initInit, zeroAddr, zeroAddr, zeroAddr⟩
  have begins : addressSystem.Init initial := rfl
  apply System.exists_run_with (fun final => (final.2.nvram, final.1.outputs))
    (fun _ _ run => addresses_right run) begins
  · decide +kernel
  · decide +kernel

/-- What goes wrong: an attempt from a default address fails before the address is set, and the
next one, from a valid address, sends and saves the controller's own. -/
theorem addresses_wrong : ∃ history state,
    addressSystem.Run System.free history state ∧
    ¬ Justified AddressDue history.outputs ∧ ¬ NvramKept history.outputs state.nvram ∧
    history.events = [beginning 0x6630 #v[0, 0, 0x46, 0x66, 0x30, 1], turn 0 (answer 1 1 zeroAddr),
      ended, beginning 0x6630 #v[2, 3, 5, 7, 11, 13], turn 0 (answer 2 0 #v[0xC0, 1, 2, 3, 4, 5]),
      sending 6].flatten := by
  let events : List AddressEvent := [beginning 0x6630 #v[0, 0, 0x46, 0x66, 0x30, 1],
    turn 0 (answer 1 1 zeroAddr), ended, beginning 0x6630 #v[2, 3, 5, 7, 11, 13],
    turn 0 (answer 2 0 #v[0xC0, 1, 2, 3, 4, 5]), sending 6].flatten
  let before : List AddressOutput := [.began 1 0x6630 #v[0, 0, 0x46, 0x66, 0x30, 1],
    .fetched 1 false zeroAddr, .began 2 0x6630 #v[2, 3, 5, 7, 11, 13],
    .fetched 2 true #v[0xC0, 1, 2, 3, 4, 5], .saved 2 #v[0xC0, 1, 2, 3, 4, 5]]
  let last : AddressOutput := .set 2 #v[0xC0, 1, 2, 3, 4, 5] true
  let initial : AddressState := ⟨initInit, zeroAddr, zeroAddr, zeroAddr⟩
  have begins : addressSystem.Init initial := rfl
  have executed : (addressSystem.exec initial events).map
      (fun final => (final.2.nvram, final.1.outputs, final.1.events)) =
        some (#v[0xC0, 1, 2, 3, 4, 5], before ++ [last], events) := by
    decide +kernel
  rcases System.exists_run_of_exec addressSystem System.free events _ begins
    (by decide +kernel) executed with ⟨history, state, run, seen⟩
  rcases Prod.mk.inj seen with ⟨nvram, seen⟩
  rcases Prod.mk.inj seen with ⟨outputs, taken⟩
  refine ⟨history, state, run, ?_, ?_, taken⟩
  · intro justified
    have unjustified : ¬ AddressDue before last := by decide +kernel
    exact unjustified (justified before last [] outputs)
  · intro kept
    dsimp only at nvram outputs
    rw [nvram, outputs] at kept
    have latest : latestStart (before ++ [last]) = some (2, 0x6630, #v[2, 3, 5, 7, 11, 13]) := rfl
    have changed := kept _ latest (by decide +kernel)
    revert changed
    decide +kernel

end X3Hal.Bluetooth
