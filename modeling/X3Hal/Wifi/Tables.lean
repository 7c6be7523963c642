import X3Hal.Wifi.Commands

/-!
# What stands in the tables of the Wi-Fi HAL

The entries of `event_cb` are those of the started commands, in the order of their starts, and
so are the entries of `cmd`, as long as whatever is removed by event or by id is the first of
its kind.
-/

namespace X3Hal.Wifi

open X3Hal.Transition X3Hal.Memory X3Hal.Registry

open VendorEvent StartAction

/-! ## Starts that leave nothing behind -/

def StartAction.registered : StartAction → Option VendorEvent
  | registerVendorHandler event => some event
  | create | requestResponse _ => none

/-- The events that a command waits for. -/
def CommandKind.events (kind : CommandKind) : List VendorEvent :=
  kind.start.filterMap StartAction.registered

/-- The events that a start unregisters when it fails; `none` when it succeeds. -/
def failure : List StartAction → List Bool → Option (List VendorEvent)
  | [], _ => none
  | create :: rest, results => if results.headD true then failure rest results.tail else some []
  | registerVendorHandler _ :: rest, results => failure rest results
  | requestResponse unregister :: rest, results =>
      if results.headD true then failure rest results.tail else some unregister

/-- Whatever was registered before an action that fails is unregistered then. -/
def Undoes : List VendorEvent → List StartAction → Prop
  | _, [] => True
  | events, create :: rest => events = [] ∧ Undoes events rest
  | events, registerVendorHandler event :: rest =>
      event ∉ events ∧ Undoes (events ++ [event]) rest
  | events, requestResponse unregister :: rest =>
      unregister.Nodup ∧ (∀ event ∈ events, event ∈ unregister) ∧ Undoes events rest

theorem undoes_start (kind : CommandKind) : Undoes [] kind.start := by
  cases kind <;> simp [CommandKind.start, Undoes, FullScanResultsCommand.start, ScanCommand.start,
    BssidHotlistCommand.start, EPNOCommand.start, SignificantWifiChangeCommand.start,
    AnqpoConfigureCommand.start, SetRSSIMonitorCommand.start, RttCommand.start]

/-- A command unregisters each of its events once. -/
theorem cancel_events (kind : CommandKind) :
    kind.cancel.Nodup ∧ kind.events.Nodup ∧ kind.events ⊆ kind.cancel ∧
      kind.cancel ⊆ kind.events := by
  cases kind <;> decide

theorem runStart_of_success {cmd : Nat} {actions : List StartAction} {results : List Bool}
    {info : HalInfo} (succeeds : failure actions results = none)
    (room : info.eventCb.length + (actions.filterMap StartAction.registered).length ≤
      allocEventCb) :
    runStart cmd actions results info =
      (true, { info with eventCb :=
        info.eventCb ++ entriesOf (actions.filterMap StartAction.registered) cmd }) := by
  induction actions generalizing results info with
  | nil => simp [runStart]
  | cons action rest ih =>
      cases action with
      | create =>
          cases accepted : results.headD true with
          | true =>
              simp only [failure, accepted, if_true] at succeeds
              simp only [runStart, accepted, if_true]
              exact ih succeeds room
          | false =>
              simp only [failure, accepted, Bool.false_eq_true, if_false] at succeeds
              cases succeeds
      | registerVendorHandler event =>
          simp only [failure] at succeeds
          have longer : (registerVendorHandler event :: rest).filterMap StartAction.registered =
              event :: rest.filterMap StartAction.registered := rfl
          rw [longer, List.length_cons] at room
          rw [longer, runStart, wifiRegisterVendorHandler, if_pos (by omega), ih succeeds]
          · simp [entriesOf]
          · rw [List.length_append, List.length_singleton]
            omega
      | requestResponse unregister =>
          cases accepted : results.headD true with
          | true =>
              simp only [failure, accepted, if_true] at succeeds
              simp only [runStart, accepted, if_true]
              exact ih succeeds room
          | false =>
              simp only [failure, accepted, Bool.false_eq_true, if_false] at succeeds
              cases succeeds

/-- A start that fails takes back what it registered, if no other command waits for the events
that it unregisters.  A full table only makes this less. -/
theorem runStart_of_failure {cmd : Nat} {actions : List StartAction} {results : List Bool}
    {info : HalInfo} {base : List CbInfo} {events added unregister : List VendorEvent}
    (undoes : Undoes events actions) (fails : failure actions results = some unregister)
    (foreign : ∀ entry ∈ base, entry.1 ∉ unregister)
    (table : info.eventCb = base ++ entriesOf added cmd) (part : added ⊆ events)
    (distinct : added.Nodup) :
    runStart cmd actions results info = (false, { info with eventCb := base }) := by
  induction actions generalizing results info events added with
  | nil => cases fails
  | cons action rest ih =>
      cases action with
      | create =>
          cases accepted : results.headD true with
          | true =>
              simp only [failure, accepted, if_true] at fails
              simp only [runStart, accepted, if_true]
              exact ih undoes.2 fails table part distinct
          | false =>
              rw [undoes.1] at part
              rw [List.subset_nil.mp part, entriesOf_nil, List.append_nil] at table
              simp only [runStart, accepted, Bool.false_eq_true, if_false, ← table]
      | registerVendorHandler event =>
          simp only [failure] at fails
          rw [runStart, wifiRegisterVendorHandler]
          split
          case isTrue room =>
            have fresh : event ∉ added := fun among => undoes.1 (part among)
            have longer : info.eventCb ++ [(event, cmd)] =
                base ++ entriesOf (added ++ [event]) cmd := by
              rw [table, List.append_assoc, entriesOf_append]
              rfl
            rw [ih undoes.2 fails longer]
            · intro other among
              rcases List.mem_append.mp among with old | new
              · exact List.mem_append_left _ (part old)
              · exact List.mem_append_right _ new
            · rw [List.nodup_append]
              refine ⟨distinct, List.nodup_singleton event, ?_⟩
              rintro other among last new rfl
              rw [List.mem_singleton.mp new] at among
              exact fresh among
          case isFalse full =>
            exact ih undoes.2 fails table (fun other among =>
              List.mem_append_left _ (part among)) distinct
      | requestResponse undone =>
          cases accepted : results.headD true with
          | true =>
              simp only [failure, accepted, if_true] at fails
              simp only [runStart, accepted, if_true]
              exact ih undoes.2.2 fails table part distinct
          | false =>
              simp only [failure, accepted, Bool.false_eq_true, if_false,
                Option.some.injEq] at fails
              subst fails
              have removed : removeAll undone (base ++ entriesOf added cmd) = base :=
                removeAll_last undoes.1 distinct
                  (fun other among => undoes.2.1 other (part among)) foreign
              simp only [runStart, accepted, Bool.false_eq_true, if_false,
                wifiUnregisterVendorHandlers, table, removed]

/-! ## The started commands -/

/-- The commands that were started and not stopped, oldest first. -/
def startedCommands (outputs : List WifiOutput) : List Nat :=
  outputs.foldl (fun started output =>
    match output with
    | .started cmd => started ++ [cmd]
    | .stopped cmd => started.erase cmd
    | .crash => started) []

namespace WifiHal

/-- The events that the command at an address waits for. -/
def events (hal : WifiHal) (cmd : Nat) : List VendorEvent :=
  ((hal.made[cmd]?).map fun command => command.kind.events).getD []

/-- The handlers of the command at an address. -/
def handlers (hal : WifiHal) (cmd : Nat) : List CbInfo :=
  entriesOf (hal.events cmd) cmd

/-- The entry of `cmd` for the command at an address. -/
def entry (hal : WifiHal) (cmd : Nat) : CmdInfo :=
  ⟨((hal.made[cmd]?).map WifiCommand.id).getD 0, cmd⟩

/-- A start finds room for its handlers; or it fails, has an id of its own, and no command
waits for the events that it unregisters. -/
def Admits (hal : WifiHal) (kind : CommandKind) (id : Int) : Option (List VendorEvent) → Prop
  | none => hal.info.eventCb.length + kind.events.length ≤ allocEventCb
  | some unregister => ∀ entry ∈ hal.info.cmd,
      entry.id ≠ id ∧ ∀ event ∈ unregister, event ∉ hal.events entry.cmd

instance (hal : WifiHal) (kind : CommandKind) (id : Int)
    (unregister : Option (List VendorEvent)) : Decidable (hal.Admits kind id unregister) :=
  match unregister with
  | none => inferInstanceAs (Decidable (_ ≤ _))
  | some _ => inferInstanceAs (Decidable (∀ entry ∈ hal.info.cmd, _ ∧ _))

end WifiHal

/-- The tables hold what the started commands put there, a command keeps its reference while it
is started, and nothing is used or released after its release. -/
structure TablesExact (history : History WifiCall WifiOutput) (hal : WifiHal) : Prop where
  safe : .crash ∉ history.outputs
  handlers : hal.info.eventCb = (startedCommands history.outputs).flatMap hal.handlers
  commands : hal.running → hal.info.cmd = (startedCommands history.outputs).map hal.entry
  valid : ∀ handler ∈ hal.info.eventCb, hal.refs handler.2 = .live
  references : ∀ cmd < hal.made.length,
    hal.refs cmd = if cmd ∈ startedCommands history.outputs then .live else .freed

/-- What is removed by event or by id is the first of its kind: a start that fails, and a call
that cancels a command of its own, unregister events that no started command waits for; a
start that fails has an id of its own; no command that was started before the one to be
cancelled waits for one of its events; and none that was started before an RTT request has the
request's id when it completes.  And the handlers of a command find room. -/
def WifiOrderly : System.Guard WifiHal WifiCall WifiOutput
  | _, hal, .start kind id results =>
      hal.info.cmd.length < allocCmd → hal.Admits kind id (failure kind.start results)
  | _, hal, .stop kind id =>
      if kind.cancelsTemporary id then
        ∀ entry ∈ hal.info.cmd, ∀ event ∈ kind.cancel, event ∉ hal.events entry.cmd
      else
        ∀ found ∈ hal.info.cmd.find? fun entry => entry.id = id,
          ∀ entry ∈ hal.info.cmd.takeWhile fun entry => entry.id ≠ id,
            ∀ event ∈ hal.events found.cmd, event ∉ hal.events entry.cmd
  | _, hal, .event event completed =>
      event = rttComplete → completed →
        ∀ handler ∈ hal.info.eventCb.find? fun handler => handler.1 = rttComplete,
          ∀ command ∈ hal.made[handler.2]?,
            ∀ entry ∈ hal.info.cmd.find? fun entry => entry.id = command.id,
              entry.cmd = handler.2
  | _, _, .cleanup => True

instance (history : History WifiCall WifiOutput) (hal : WifiHal) (call : WifiCall) :
    Decidable (WifiOrderly history hal call) :=
  match call with
  | .start _ _ _ => inferInstanceAs (Decidable (_ → hal.Admits _ _ _))
  | .stop _ _ => inferInstanceAs (Decidable (ite _ _ _))
  | .event _ _ => inferInstanceAs (Decidable (_ → _ → _))
  | .cleanup => inferInstanceAs (Decidable True)

/-! ## The invariant -/

structure WifiSound (outputs : List WifiOutput) (hal : WifiHal) : Prop where
  intact : hal.crashed = false
  safe : .crash ∉ outputs
  handlers : hal.info.eventCb = (startedCommands outputs).flatMap hal.handlers
  commands : hal.running → hal.info.cmd = (startedCommands outputs).map hal.entry
  once : (startedCommands outputs).Nodup
  earlier : ∀ cmd ∈ startedCommands outputs, cmd < hal.made.length
  references : ∀ cmd, hal.refs cmd =
    if cmd ∈ startedCommands outputs then .live
    else if cmd < hal.made.length then .freed else .absent

theorem startedCommands_snoc (outputs : List WifiOutput) (output : WifiOutput) :
    startedCommands (outputs ++ [output]) =
      match output with
      | .started cmd => startedCommands outputs ++ [cmd]
      | .stopped cmd => (startedCommands outputs).erase cmd
      | .crash => startedCommands outputs :=
  List.foldl_append ..

theorem wifiSound_initialize : WifiSound [] wifiInitialize := by
  constructor <;> simp [wifiInitialize, startedCommands]

namespace WifiHal

/-- A command was made and released. -/
def discard (command : WifiCommand) (hal : WifiHal) : WifiHal :=
  { hal with
    made := hal.made ++ [command]
    refs := Function.update hal.refs hal.made.length .freed }

/-- A command was made and entered. -/
def enter (command : WifiCommand) (hal : WifiHal) : WifiHal :=
  { hal with
    made := hal.made ++ [command]
    refs := hal.refs.alloc hal.made.length
    info :=
      { eventCb := hal.info.eventCb ++ entriesOf command.kind.events hal.made.length
        cmd := hal.info.cmd ++ [⟨command.id, hal.made.length⟩] } }

/-- A command was released, and the others are left in the tables. -/
def withdraw (cmd : Nat) (others : List Nat) (hal : WifiHal) : WifiHal :=
  { hal with
    refs := Function.update hal.refs cmd .freed
    info := ⟨others.flatMap hal.handlers, others.map hal.entry⟩ }

end WifiHal

section Steps

variable {outputs : List WifiOutput} {hal : WifiHal}

/-- A new command does not change what is known of the others. -/
theorem handlers_of_append {hal after : WifiHal} {command : WifiCommand}
    (made : after.made = hal.made ++ [command]) {cmd : Nat} (earlier : cmd < hal.made.length) :
    after.handlers cmd = hal.handlers cmd := by
  rw [WifiHal.handlers, WifiHal.events, made, List.getElem?_append_left earlier]
  rfl

theorem entry_of_append {hal after : WifiHal} {command : WifiCommand}
    (made : after.made = hal.made ++ [command]) {cmd : Nat} (earlier : cmd < hal.made.length) :
    after.entry cmd = hal.entry cmd := by
  rw [WifiHal.entry, made, List.getElem?_append_left earlier]
  rfl

theorem WifiSound.handlers_of_append (sound : WifiSound outputs hal) {after : WifiHal}
    {command : WifiCommand} (made : after.made = hal.made ++ [command]) :
    (startedCommands outputs).flatMap after.handlers = hal.info.eventCb := by
  rw [sound.handlers]
  apply List.flatMap_congr
  intro cmd started
  exact Wifi.handlers_of_append made (sound.earlier cmd started)

theorem WifiSound.entries_of_append (sound : WifiSound outputs hal) {after : WifiHal}
    {command : WifiCommand} (made : after.made = hal.made ++ [command]) (running : hal.running) :
    (startedCommands outputs).map after.entry = hal.info.cmd := by
  rw [sound.commands running]
  apply List.map_congr_left
  intro cmd started
  exact entry_of_append made (sound.earlier cmd started)

theorem WifiSound.fresh (sound : WifiSound outputs hal) :
    hal.made.length ∉ startedCommands outputs := fun started =>
  Nat.lt_irrefl _ (sound.earlier _ started)

theorem WifiSound.discard (sound : WifiSound outputs hal) (command : WifiCommand) :
    WifiSound outputs (hal.discard command) := by
  have made : (hal.discard command).made = hal.made ++ [command] := rfl
  constructor
  · exact sound.intact
  · exact sound.safe
  · exact (sound.handlers_of_append made).symm
  · exact fun running => (sound.entries_of_append made running).symm
  · exact sound.once
  · intro cmd started
    rw [made, List.length_append]
    exact Nat.lt_add_right 1 (sound.earlier cmd started)
  · intro cmd
    rw [made, List.length_append, List.length_singleton]
    show Function.update hal.refs hal.made.length .freed cmd = _
    by_cases new : cmd = hal.made.length
    · subst new
      rw [Function.update_self, if_neg sound.fresh, if_pos (Nat.lt_succ_self _)]
    · have bound : cmd < hal.made.length + 1 ↔ cmd < hal.made.length := by omega
      rw [Function.update_of_ne new, sound.references cmd]
      simp only [bound]

theorem WifiSound.enter (sound : WifiSound outputs hal) (command : WifiCommand) :
    WifiSound (outputs ++ [.started hal.made.length]) (hal.enter command) := by
  have made : (hal.enter command).made = hal.made ++ [command] := rfl
  have started := startedCommands_snoc outputs (.started hal.made.length)
  have found : (hal.enter command).made[hal.made.length]? = some command := by
    rw [made]
    exact List.getElem?_concat_length
  constructor
  · exact sound.intact
  · simpa using sound.safe
  · rw [started, List.flatMap_append, sound.handlers_of_append made, List.flatMap_singleton,
      WifiHal.handlers, WifiHal.events, found]
    rfl
  · intro running
    rw [started, List.map_append, sound.entries_of_append made running, List.map_singleton,
      WifiHal.entry, found]
    rfl
  · rw [started, List.nodup_append]
    refine ⟨sound.once, List.nodup_singleton _, ?_⟩
    rintro cmd among other new rfl
    rw [List.mem_singleton.mp new] at among
    exact sound.fresh among
  · intro cmd among
    rw [started] at among
    rw [made, List.length_append, List.length_singleton]
    rcases List.mem_append.mp among with old | new
    · exact Nat.lt_succ_of_lt (sound.earlier cmd old)
    · rw [List.mem_singleton.mp new]
      exact Nat.lt_succ_self _
  · intro cmd
    rw [started, made, List.length_append, List.length_singleton]
    show hal.refs.alloc hal.made.length cmd = _
    by_cases new : cmd = hal.made.length
    · subst new
      rw [Heap.alloc_self, if_pos (by simp)]
    · have among : cmd ∈ startedCommands outputs ++ [hal.made.length] ↔
          cmd ∈ startedCommands outputs := by
        simp [new]
      have bound : cmd < hal.made.length + 1 ↔ cmd < hal.made.length := by omega
      rw [Heap.alloc_of_ne new, sound.references cmd]
      simp only [among, bound]

/-- A command is started once. -/
theorem WifiSound.not_mem_before (sound : WifiSound outputs hal) {before after : List Nat}
    {cmd : Nat} (split : startedCommands outputs = before ++ cmd :: after) : cmd ∉ before := by
  intro among
  have once := sound.once
  rw [split, List.nodup_append] at once
  exact once.2.2 cmd among cmd List.mem_cons_self rfl

theorem WifiSound.withdraw (sound : WifiSound outputs hal) {before after : List Nat} {cmd : Nat}
    (split : startedCommands outputs = before ++ cmd :: after) :
    WifiSound (outputs ++ [.stopped cmd]) (hal.withdraw cmd (before ++ after)) := by
  have erased : (startedCommands outputs).erase cmd = before ++ after := by
    rw [split, List.erase_append_right _ (sound.not_mem_before split), List.erase_cons_head]
  have started : startedCommands (outputs ++ [.stopped cmd]) = before ++ after := by
    rw [startedCommands_snoc]
    exact erased
  have others : ∀ other, other ∈ before ++ after ↔
      other ≠ cmd ∧ other ∈ startedCommands outputs := by
    intro other
    rw [← erased, sound.once.mem_erase_iff]
  constructor
  · exact sound.intact
  · simpa using sound.safe
  · rw [started]
    rfl
  · intro _
    rw [started]
    rfl
  · rw [started, ← erased]
    exact sound.once.erase cmd
  · intro other among
    rw [started] at among
    exact sound.earlier other ((others other).mp among).2
  · intro other
    rw [started]
    show Function.update hal.refs cmd .freed other = _
    by_cases same : other = cmd
    · subst same
      have earlier : other < hal.made.length :=
        sound.earlier other (by rw [split]; simp)
      rw [Function.update_self, if_neg fun among => ((others other).mp among).1 rfl]
      exact (if_pos earlier).symm
    · rw [Function.update_of_ne same, sound.references other]
      simp only [others other, ne_eq, same, not_false_eq_true, true_and]
      rfl

/-! ## One call -/

/-- No handler is for an event that no started command waits for. -/
theorem WifiSound.foreign (sound : WifiSound outputs hal) (running : hal.running)
    {events : List VendorEvent}
    (apart : ∀ entry ∈ hal.info.cmd, ∀ event ∈ events, event ∉ hal.events entry.cmd) :
    ∀ handler ∈ hal.info.eventCb, handler.1 ∉ events := by
  intro handler occurs among
  rw [sound.handlers, List.mem_flatMap] at occurs
  obtain ⟨cmd, started, own⟩ := occurs
  have entered : hal.entry cmd ∈ hal.info.cmd := by
    rw [sound.commands running]
    exact List.mem_map_of_mem started
  exact apart _ entered _ among (mem_entriesOf.mp own).1

/-- A new command is released again. -/
theorem releaseRef_create (hal : WifiHal) (command : WifiCommand) (info : HalInfo) :
    ({ hal.create command with info := info } : WifiHal).releaseRef hal.made.length =
      some { hal.discard command with info := info } := by
  have live : hal.refs.alloc hal.made.length hal.made.length = .live := Heap.alloc_self ..
  show ((hal.refs.alloc hal.made.length).release hal.made.length).map _ = _
  rw [Heap.release_of_live live]
  simp [WifiHal.discard, WifiHal.create, Heap.alloc]

/-- The first command of an id is unregistered. -/
theorem wifiUnregisterCmd_snoc {info : HalInfo} {id : Int} {cmd : Nat}
    (fresh : ∀ entry ∈ info.cmd, entry.id ≠ id) (eventCb : List CbInfo) :
    (wifiUnregisterCmd id ⟨eventCb, info.cmd ++ [⟨id, cmd⟩]⟩).2 = ⟨eventCb, info.cmd⟩ := by
  have foreign : ∀ entry ∈ info.cmd, ¬ decide (entry.id = id) = true := by
    simpa using fresh
  rw [wifiUnregisterCmd, List.eraseP_append_right _ foreign, List.eraseP_cons_of_pos (by simp),
    List.append_nil]

theorem start_eq (running : hal.running) (sound : WifiSound outputs hal) {kind : CommandKind}
    {id : Int} {results : List Bool}
    (admits : hal.info.cmd.length < allocCmd → hal.Admits kind id (failure kind.start results)) :
    hal.start kind id results = some (hal.discard ⟨kind, id⟩, []) ∨
      hal.start kind id results = some (hal.enter ⟨kind, id⟩, [.started hal.made.length]) := by
  have sameInfo : (hal.create ⟨kind, id⟩).info = hal.info := rfl
  rw [WifiHal.start, sameInfo, wifiRegisterCmd]
  by_cases room : hal.info.cmd.length < allocCmd
  · rw [if_pos room]
    have admitted := admits room
    cases fails : failure kind.start results with
    | none =>
        rw [fails] at admitted
        right
        have succeeded : runStart hal.made.length kind.start results
            ⟨hal.info.eventCb, hal.info.cmd ++ [⟨id, hal.made.length⟩]⟩ =
              (true, ⟨hal.info.eventCb ++ entriesOf kind.events hal.made.length,
                hal.info.cmd ++ [⟨id, hal.made.length⟩]⟩) :=
          runStart_of_success fails admitted
        simp only [succeeded]
        rfl
    | some unregister =>
        rw [fails] at admitted
        left
        have foreign := sound.foreign running fun entry occurs => (admitted entry occurs).2
        have undone : runStart hal.made.length kind.start results
            ⟨hal.info.eventCb, hal.info.cmd ++ [⟨id, hal.made.length⟩]⟩ =
              (false, ⟨hal.info.eventCb, hal.info.cmd ++ [⟨id, hal.made.length⟩]⟩) :=
          runStart_of_failure (undoes_start kind) fails foreign (List.append_nil _).symm
            (List.nil_subset _) List.nodup_nil
        have unregistered := @wifiUnregisterCmd_snoc hal.info id hal.made.length
          (fun entry occurs => (admitted entry occurs).1) hal.info.eventCb
        simp only [undone, unregistered, Bool.false_eq_true, if_false]
        rw [releaseRef_create]
        rfl
  · rw [if_neg room]
    left
    have released : (hal.create ⟨kind, id⟩).releaseRef hal.made.length =
        some (hal.discard ⟨kind, id⟩) := releaseRef_create hal ⟨kind, id⟩ hal.info
    simp only [released, Option.map_some]

theorem cancel_eq {hal : WifiHal} {cmd : Nat} {kind : CommandKind} (live : hal.refs cmd = .live)
    (found : hal.kind cmd = some kind) :
    hal.cancel cmd =
      some { hal with info := wifiUnregisterVendorHandlers kind.cancel hal.info } := by
  rw [WifiHal.cancel, if_pos live, found]
  rfl

/-- A command that is made to be cancelled leaves the tables as they are. -/
theorem stop_temporary (running : hal.running) (sound : WifiSound outputs hal)
    {kind : CommandKind} {id : Int} (temporary : kind.cancelsTemporary id)
    (apart : ∀ entry ∈ hal.info.cmd, ∀ event ∈ kind.cancel, event ∉ hal.events entry.cmd) :
    hal.stop kind id = some (hal.discard ⟨kind, id⟩, []) := by
  have live : (hal.create ⟨kind, id⟩).refs hal.made.length = .live := Heap.alloc_self ..
  have found : (hal.create ⟨kind, id⟩).kind hal.made.length = some kind := by
    simp [WifiHal.kind, WifiHal.create]
  have unchanged : wifiUnregisterVendorHandlers kind.cancel (hal.create ⟨kind, id⟩).info =
      hal.info := by
    show { hal.info with eventCb := removeAll kind.cancel hal.info.eventCb } = hal.info
    rw [removeAll_of_foreign (sound.foreign running apart)]
  rw [WifiHal.stop, if_pos temporary, cancel_eq live found, unchanged, Option.bind_some,
    releaseRef_create]
  rfl

theorem exists_made {hal : WifiHal} {cmd : Nat} (earlier : cmd < hal.made.length) :
    ∃ command, hal.made[cmd]? = some command ∧ hal.kind cmd = some command.kind ∧
      hal.events cmd = command.kind.events := by
  have found := List.getElem?_eq_getElem earlier
  refine ⟨_, found, ?_, ?_⟩
  · rw [WifiHal.kind, found]
    rfl
  · rw [WifiHal.events, found]
    rfl

/-- The handlers of a command go, and no others, when those of its events come first. -/
theorem removeAll_handlers {before after : List Nat} {cmd : Nat} {kind : CommandKind}
    (waits : hal.events cmd = kind.events)
    (apart : ∀ other ∈ before, ∀ event ∈ kind.events, event ∉ hal.events other) :
    removeAll kind.cancel ((before ++ cmd :: after).flatMap hal.handlers) =
      (before ++ after).flatMap hal.handlers := by
  rcases cancel_events kind with ⟨once, distinct, covered, covers⟩
  rw [List.flatMap_append, List.flatMap_cons, List.flatMap_append, WifiHal.handlers, waits]
  apply removeAll_added once distinct covered
  · intro handler occurs among
    obtain ⟨other, earlier, own⟩ := List.mem_flatMap.mp occurs
    exact apart other earlier _ (covers among) (mem_entriesOf.mp own).1
  · intro handler occurs among
    exact covers among

/-- The first command of an id, among the started ones. -/
theorem WifiSound.split (sound : WifiSound outputs hal) (running : hal.running) {id : Int}
    {entry : CmdInfo} (found : (hal.info.cmd.find? fun entry => entry.id = id) = some entry) :
    ∃ before after, startedCommands outputs = before ++ entry.cmd :: after ∧
      (hal.info.cmd.takeWhile fun entry => entry.id ≠ id) = before.map hal.entry ∧
      (hal.info.cmd.eraseP fun entry => entry.id = id) = (before ++ after).map hal.entry := by
  rw [List.find?_eq_some_iff_append] at found
  obtain ⟨hit, front, back, table, misses⟩ := found
  have entries := (sound.commands running).symm.trans table
  obtain ⟨before, rest, split, rfl, others⟩ := List.map_eq_append_iff.mp entries
  obtain ⟨cmd, after, rfl, same, rfl⟩ := List.map_eq_cons_iff.mp others
  subst same
  refine ⟨before, after, split, ?_, ?_⟩
  · rw [table, List.takeWhile_append_of_pos, List.takeWhile_cons_of_neg, List.append_nil]
    · simpa using hit
    · simpa using misses
  · have gone : (hal.entry cmd :: after.map hal.entry).eraseP (fun entry => entry.id = id) =
        after.map hal.entry := List.eraseP_cons_of_pos hit
    rw [table, List.eraseP_append_right, gone, List.map_append]
    simpa using misses

/-- A command that is out of `cmd` is cancelled and released. -/
theorem WifiSound.cancel_split (sound : WifiSound outputs hal) {before after : List Nat}
    {cmd : Nat} (split : startedCommands outputs = before ++ cmd :: after)
    (apart : ∀ other ∈ before, ∀ event ∈ hal.events cmd, event ∉ hal.events other) :
    ∃ cancelled : WifiHal,
      ({ hal with
        info := ⟨hal.info.eventCb, (before ++ after).map hal.entry⟩ } : WifiHal).cancel cmd =
          some cancelled ∧
        cancelled.releaseRef cmd = some (hal.withdraw cmd (before ++ after)) := by
  have started : cmd ∈ startedCommands outputs := by
    rw [split]
    simp
  rcases exists_made (sound.earlier cmd started) with ⟨command, -, kind, waits⟩
  have live : hal.refs cmd = .live := by
    rw [sound.references, if_pos started]
  rw [waits] at apart
  refine ⟨_, cancel_eq live kind, ?_⟩
  rw [wifiUnregisterVendorHandlers, sound.handlers, split, removeAll_handlers waits apart]
  show (hal.refs.release cmd).map _ = _
  rw [Heap.release_of_live live]
  rfl

theorem wifiCancelCmd_eq (running : hal.running) (sound : WifiSound outputs hal) {id : Int}
    (apart : ∀ found ∈ hal.info.cmd.find? fun entry => entry.id = id,
      ∀ entry ∈ hal.info.cmd.takeWhile fun entry => entry.id ≠ id,
        ∀ event ∈ hal.events found.cmd, event ∉ hal.events entry.cmd) :
    hal.wifiCancelCmd id = some (hal, []) ∨
      ∃ before cmd after, startedCommands outputs = before ++ cmd :: after ∧
        hal.wifiCancelCmd id = some (hal.withdraw cmd (before ++ after), [.stopped cmd]) := by
  rw [WifiHal.wifiCancelCmd, wifiUnregisterCmd]
  cases found : hal.info.cmd.find? fun entry => entry.id = id with
  | none =>
      left
      have absent : ∀ entry ∈ hal.info.cmd, ¬ decide (entry.id = id) = true :=
        List.find?_eq_none.mp found
      simp only [Option.map_none, List.eraseP_of_forall_not absent]
  | some entry =>
      right
      rcases sound.split running found with ⟨before, after, split, front, others⟩
      rw [found, front] at apart
      have foreign : ∀ other ∈ before, ∀ event ∈ hal.events entry.cmd,
          event ∉ hal.events other :=
        fun other earlier => apart entry rfl _ (List.mem_map_of_mem earlier)
      rcases sound.cancel_split split foreign with ⟨cancelled, cancels, releases⟩
      refine ⟨before, entry.cmd, after, split, ?_⟩
      simp only [Option.map_some, others, cancels, Option.bind_some, releases]

/-- The command that takes an event comes before all others that wait for it. -/
theorem WifiSound.first_of_find (sound : WifiSound outputs hal) {event : VendorEvent}
    {handler : CbInfo}
    (found : (hal.info.eventCb.find? fun entry => entry.1 = event) = some handler)
    {before after : List Nat} (split : startedCommands outputs = before ++ handler.2 :: after) :
    ∀ other ∈ before, event ∉ hal.events other := by
  intro other earlier waits
  have absent := sound.not_mem_before split
  rw [sound.handlers, split, List.flatMap_append, List.find?_append] at found
  cases front : (before.flatMap hal.handlers).find? fun entry => entry.1 = event with
  | none =>
      have own : (event, other) ∈ before.flatMap hal.handlers :=
        List.mem_flatMap.mpr ⟨other, earlier, mem_entriesOf.mpr ⟨waits, rfl⟩⟩
      simpa using List.find?_eq_none.mp front _ own
  | some first =>
      rw [front, Option.some_or] at found
      cases found
      obtain ⟨owner, among, own⟩ := List.mem_flatMap.mp (List.mem_of_find?_eq_some front)
      rw [(mem_entriesOf.mp own).2] at absent
      exact absent among

theorem rtt_events : CommandKind.rtt.events = [rttComplete] :=
  rfl

theorem handleEvent_eq (running : hal.running) (sound : WifiSound outputs hal)
    {event : VendorEvent} {completed : Bool}
    (apart : event = rttComplete → completed →
      ∀ handler ∈ hal.info.eventCb.find? fun handler => handler.1 = rttComplete,
        ∀ command ∈ hal.made[handler.2]?,
          ∀ entry ∈ hal.info.cmd.find? fun entry => entry.id = command.id,
            entry.cmd = handler.2) :
    hal.handleEvent event completed = some (hal, []) ∨
      ∃ before cmd after, startedCommands outputs = before ++ cmd :: after ∧
        hal.handleEvent event completed =
          some (hal.withdraw cmd (before ++ after), [.stopped cmd]) := by
  unfold WifiHal.handleEvent
  cases found : hal.info.eventCb.find? fun entry => entry.1 = event with
  | none => exact .inl rfl
  | some handler =>
      obtain ⟨subcmd, cmd⟩ := handler
      have same : subcmd = event := by simpa using List.find?_some found
      subst same
      have occurs := List.mem_of_find?_eq_some found
      rw [sound.handlers, List.mem_flatMap] at occurs
      obtain ⟨owner, started, own⟩ := occurs
      obtain ⟨waits, rfl⟩ := mem_entriesOf.mp own
      rcases exists_made (sound.earlier cmd started) with ⟨command, made, -, events⟩
      have live : hal.refs cmd = .live := by
        rw [sound.references, if_pos started]
      simp only [live, if_true, made, Option.bind_some]
      by_cases rtt : command.kind = .rtt ∧ completed = true
      · right
        rw [if_pos rtt]
        rw [events, rtt.1, rtt_events, List.mem_singleton] at waits
        subst waits
        have entered : hal.entry cmd ∈ hal.info.cmd := by
          rw [sound.commands running]
          exact List.mem_map_of_mem started
        have named : (hal.entry cmd).id = command.id := by
          rw [WifiHal.entry, made]
          rfl
        cases registered : hal.info.cmd.find? fun entry => entry.id = command.id with
        | none =>
            have missed := List.find?_eq_none.mp registered _ entered
            simp [named] at missed
        | some entry =>
            have self : entry.cmd = cmd :=
              apart rfl rtt.2 _ found command made entry registered
            rcases sound.split running registered with ⟨before, after, split, -, others⟩
            rw [self] at split
            have waitsFor : hal.events cmd = CommandKind.rtt.events := by
              rw [events, rtt.1]
            have foreign : ∀ other ∈ before, ∀ event ∈ CommandKind.rtt.events,
                event ∉ hal.events other := by
              intro other earlier event among
              rw [rtt_events, List.mem_singleton] at among
              subst among
              exact sound.first_of_find found split other earlier
            have removed : removeAll [rttComplete] hal.info.eventCb =
                (before ++ after).flatMap hal.handlers := by
              rw [sound.handlers, split]
              exact removeAll_handlers waitsFor foreign
            refine ⟨before, cmd, after, split, ?_⟩
            simp only [WifiHal.completeRtt, wifiUnregisterCmd, wifiUnregisterVendorHandlers,
              registered, Option.map_some, self, others, removed]
            show Option.map _ ((hal.refs.release cmd).map _) = _
            rw [Heap.release_of_live live]
            rfl
      · left
        rw [if_neg rtt]

/-- The loop of `wifi_cleanup` cancels and releases what is left, and leaves `cmd` as it is. -/
theorem cleanupLoop_eq {hal : WifiHal} {past remaining : List Nat}
    (table : hal.info.cmd = (past ++ remaining).map hal.entry)
    (handlers : hal.info.eventCb = remaining.flatMap hal.handlers) (once : remaining.Nodup)
    (live : ∀ cmd ∈ remaining, hal.refs cmd = .live)
    (made : ∀ cmd ∈ remaining, cmd < hal.made.length) :
    hal.cleanupLoop remaining.length past.length =
      some ({ hal with
        info := ⟨[], hal.info.cmd⟩
        refs := fun cmd => if cmd ∈ remaining then .freed else hal.refs cmd },
        remaining.map WifiOutput.stopped) := by
  induction remaining generalizing past hal with
  | nil =>
      obtain ⟨⟨eventCb, cmd⟩, _, _, _, _⟩ := hal
      simp only [List.flatMap_nil] at handlers
      subst handlers
      simp [WifiHal.cleanupLoop]
  | cons cmd rest ih =>
      rw [List.nodup_cons] at once
      rcases exists_made (made cmd List.mem_cons_self) with ⟨command, -, kind, waits⟩
      have current : hal.info.cmd[past.length]? = some (hal.entry cmd) := by
        simp [table]
      have removed : removeAll command.kind.cancel hal.info.eventCb =
          rest.flatMap hal.handlers := by
        rw [handlers]
        exact @removeAll_handlers hal [] rest cmd command.kind waits
          fun other among => absurd among List.not_mem_nil
      let after : WifiHal := { hal with
        info := ⟨rest.flatMap hal.handlers, hal.info.cmd⟩
        refs := Function.update hal.refs cmd .freed }
      have released : ({ hal with
          info := ⟨rest.flatMap hal.handlers, hal.info.cmd⟩ } : WifiHal).releaseRef cmd =
            some after := by
        show (hal.refs.release cmd).map _ = _
        rw [Heap.release_of_live (live cmd List.mem_cons_self)]
        rfl
      have liveRest : ∀ other ∈ rest, after.refs other = .live := by
        intro other among
        show Function.update hal.refs cmd .freed other = .live
        rw [Function.update_of_ne]
        · exact live other (List.mem_cons_of_mem cmd among)
        · rintro rfl
          exact once.1 among
      have tableRest : after.info.cmd = ((past ++ [cmd]) ++ rest).map after.entry := by
        rw [List.append_assoc]
        exact table
      have loop := @ih after (past ++ [cmd]) tableRest rfl once.2 liveRest
        fun other among => made other (List.mem_cons_of_mem cmd among)
      rw [List.length_append, List.length_singleton] at loop
      rw [List.length_cons, WifiHal.cleanupLoop, current]
      simp only [WifiHal.entry]
      rw [cancel_eq (live cmd List.mem_cons_self) kind, Option.bind_some,
        wifiUnregisterVendorHandlers, removed, released, Option.bind_some]
      have passedOver : hal.info.cmd.length = after.info.cmd.length := rfl
      have refs : (fun other => if other ∈ rest then BlockState.freed else after.refs other) =
          fun other => if other ∈ cmd :: rest then .freed else hal.refs other := by
        funext other
        show (if other ∈ rest then BlockState.freed
          else Function.update hal.refs cmd .freed other) = _
        by_cases same : other = cmd
        · simp [same]
        · simp [same]
      rw [if_pos passedOver, loop, refs]
      rfl

theorem startedCommands_stopAll (outputs : List WifiOutput) :
    startedCommands (outputs ++ (startedCommands outputs).map WifiOutput.stopped) = [] := by
  have stops : ∀ started : List Nat, (started.map WifiOutput.stopped).foldl
      (fun started output =>
        match output with
        | .started cmd => started ++ [cmd]
        | .stopped cmd => started.erase cmd
        | .crash => started) started = [] := by
    intro started
    induction started with
    | nil => rfl
    | cons cmd rest ih =>
        rw [List.map_cons, List.foldl_cons]
        simp only [List.erase_cons_head]
        exact ih
  rw [startedCommands, List.foldl_append]
  exact stops (startedCommands outputs)

/-- `wifi_cleanup` cancels and releases every started command. -/
theorem WifiSound.cleanup (sound : WifiSound outputs hal) (running : hal.running) :
    ∃ after, hal.wifiCleanup =
        some (after, (startedCommands outputs).map WifiOutput.stopped) ∧
      WifiSound (outputs ++ (startedCommands outputs).map WifiOutput.stopped) after := by
  have live : ∀ cmd ∈ startedCommands outputs, hal.refs cmd = .live := by
    intro cmd started
    rw [sound.references, if_pos started]
  have loop := @cleanupLoop_eq hal [] (startedCommands outputs) (sound.commands running)
    sound.handlers sound.once live sound.earlier
  have rounds : hal.info.cmd.length = (startedCommands outputs).length := by
    rw [sound.commands running, List.length_map]
  rw [WifiHal.wifiCleanup, rounds]
  rw [List.length_nil] at loop
  rw [loop]
  refine ⟨_, rfl, ?_⟩
  constructor
  · exact sound.intact
  · simpa using sound.safe
  · rw [startedCommands_stopAll]
    rfl
  · exact nofun
  · rw [startedCommands_stopAll]
    exact List.nodup_nil
  · rw [startedCommands_stopAll]
    exact nofun
  · intro cmd
    rw [startedCommands_stopAll, if_neg List.not_mem_nil]
    show (if cmd ∈ startedCommands outputs then BlockState.freed else hal.refs cmd) =
      if cmd < hal.made.length then .freed else .absent
    by_cases started : cmd ∈ startedCommands outputs
    · rw [if_pos started, if_pos (sound.earlier cmd started)]
    · rw [if_neg started, sound.references, if_neg started]

end Steps

/-! ## Runs -/

theorem WifiSound.step {outputs : List WifiOutput} {hal after : WifiHal}
    {history : History WifiCall WifiOutput} {call : WifiCall} {out : List WifiOutput}
    (sound : WifiSound outputs hal) (guarded : WifiOrderly history hal call)
    (stepped : hal.step call = some (after, out)) : WifiSound (outputs ++ out) after := by
  rw [WifiHal.step] at stepped
  split at stepped
  case isFalse => cases stepped
  case isTrue alive =>
    have running := alive.2
    -- a call that does not crash has its own result
    have safe : ∀ {result : WifiHal × List WifiOutput}, hal.safeStep call = some result →
        WifiSound (outputs ++ result.2) result.1 → WifiSound (outputs ++ out) after := by
      intro result returns keeps
      rw [returns] at stepped
      cases Option.some.inj stepped
      exact keeps
    have still : WifiSound (outputs ++ []) hal := by
      rw [List.append_nil]
      exact sound
    cases call with
    | start kind id results =>
        rcases start_eq running sound guarded with result | result
        · apply safe result
          rw [List.append_nil]
          exact sound.discard _
        · exact safe result (sound.enter _)
    | stop kind id =>
        rw [WifiOrderly] at guarded
        split at guarded
        case isTrue temporary =>
          apply safe (stop_temporary running sound temporary guarded)
          rw [List.append_nil]
          exact sound.discard _
        case isFalse other =>
          have called : hal.safeStep (.stop kind id) = hal.wifiCancelCmd id := by
            rw [WifiHal.safeStep, WifiHal.stop, if_neg other]
          rcases wifiCancelCmd_eq running sound guarded with result | found
          · exact safe (called.trans result) still
          · obtain ⟨before, cmd, later, split, result⟩ := found
            exact safe (called.trans result) (sound.withdraw split)
    | event event completed =>
        rcases handleEvent_eq running sound guarded with result | found
        · exact safe result still
        · obtain ⟨before, cmd, later, split, result⟩ := found
          exact safe result (sound.withdraw split)
    | cleanup =>
        rcases sound.cleanup running with ⟨_, result, keeps⟩
        exact safe result keeps

theorem WifiSound.run {history : History WifiCall WifiOutput} {hal : WifiHal}
    (run : wifiSystem.Run WifiOrderly history hal) : WifiSound history.outputs hal := by
  induction run with
  | start starts =>
      rw [starts]
      exact wifiSound_initialize
  | next running guarded stepped ih =>
      rw [History.outputs_snoc]
      exact ih.step guarded stepped

/-- In every run whose removals meet their own entries first, the tables are exact. -/
theorem tables_exact {history : History WifiCall WifiOutput} {hal : WifiHal}
    (run : wifiSystem.Run WifiOrderly history hal) : TablesExact history hal := by
  have sound := WifiSound.run run
  constructor
  · exact sound.safe
  · exact sound.handlers
  · exact sound.commands
  · intro handler occurs
    rw [sound.handlers, List.mem_flatMap] at occurs
    obtain ⟨cmd, started, own⟩ := occurs
    rw [(mem_entriesOf.mp own).2, sound.references, if_pos started]
  · intro cmd made
    rw [sound.references]
    simp only [made, if_true]

/-- Two commands that share an event, the older one stopped first; a start that fails; an RTT
request that completes; and what is left, cleaned up. -/
theorem tables_exact_seven : ∃ history hal, wifiSystem.Run WifiOrderly history hal ∧
    TablesExact history hal ∧
    history.outputs =
      [.started 0, .started 1, .stopped 0, .started 3, .stopped 3, .stopped 1] := by
  let calls : List WifiCall := [.start .scan 1 [], .start .fullScanResults 2 [], .stop .scan 1,
    .start .bssidHotlist 3 [true, true, true, false], .start .rtt 4 [], .event .rttComplete true,
    .cleanup]
  have executed : (wifiSystem.exec wifiInitialize calls).map (fun final => final.1.outputs) =
      some [.started 0, .started 1, .stopped 0, .started 3, .stopped 3, .stopped 1] := by
    decide +kernel
  rcases System.exists_run_of_exec wifiSystem WifiOrderly calls _ rfl (by decide +kernel)
    executed with ⟨history, hal, run, outputs⟩
  exact ⟨history, hal, run, tables_exact run, outputs⟩

/-- What goes wrong: a full scan that is disabled takes the handler of the scan, and leaves its
own, which the next event finds released; a start that fails unregisters another command of its
id; and a scan that is stopped by -1 stays in `cmd` without handlers. -/
theorem tables_inexact :
    (∃ history hal, wifiSystem.Run System.free history hal ∧ ¬ TablesExact history hal ∧
      history.events = [.start .scan 1 [], .start .fullScanResults 2 [],
        .stop .fullScanResults 2, .event .fullScanResults false] ∧
      .crash ∈ history.outputs) ∧
    (∃ history hal, wifiSystem.Run System.free history hal ∧ ¬ TablesExact history hal ∧
      history.events = [.start .setRSSIMonitor 1 [], .start .anqpoConfigure 1 [true, false]]) ∧
    ∃ history hal, wifiSystem.Run System.free history hal ∧ ¬ TablesExact history hal ∧
      history.events = [.start .scan 1 [], .stop .scan (-1)] := by
  refine ⟨?_, ?_, ?_⟩
  · let calls : List WifiCall := [.start .scan 1 [], .start .fullScanResults 2 [],
      .stop .fullScanResults 2, .event .fullScanResults false]
    have executed : (wifiSystem.exec wifiInitialize calls).map
        (fun final => (final.1.events, decide (.crash ∈ final.1.outputs))) =
          some (calls, true) := by
      decide +kernel
    rcases System.exists_run_of_exec wifiSystem System.free calls _ rfl (by decide +kernel)
      executed with ⟨history, hal, run, view⟩
    obtain ⟨events, crashed⟩ := Prod.mk.inj view
    have crash : .crash ∈ history.outputs := of_decide_eq_true crashed
    exact ⟨history, hal, run, fun kept => kept.safe crash, events, crash⟩
  · let calls : List WifiCall := [.start .setRSSIMonitor 1 [],
      .start .anqpoConfigure 1 [true, false]]
    have executed : (wifiSystem.exec wifiInitialize calls).map
        (fun final => (final.1.events, decide (final.2.running = true),
          decide (final.2.info.cmd = (startedCommands final.1.outputs).map final.2.entry))) =
          some (calls, true, false) := by
      decide +kernel
    rcases System.exists_run_of_exec wifiSystem System.free calls _ rfl (by decide +kernel)
      executed with ⟨history, hal, run, view⟩
    obtain ⟨events, rest⟩ := Prod.mk.inj view
    obtain ⟨running, differs⟩ := Prod.mk.inj rest
    exact ⟨history, hal, run, fun kept =>
      of_decide_eq_false differs (kept.commands (of_decide_eq_true running)), events⟩
  · let calls : List WifiCall := [.start .scan 1 [], .stop .scan (-1)]
    have executed : (wifiSystem.exec wifiInitialize calls).map
        (fun final => (final.1.events,
          decide (final.2.info.eventCb =
            (startedCommands final.1.outputs).flatMap final.2.handlers))) =
          some (calls, false) := by
      decide +kernel
    rcases System.exists_run_of_exec wifiSystem System.free calls _ rfl (by decide +kernel)
      executed with ⟨history, hal, run, view⟩
    obtain ⟨events, differs⟩ := Prod.mk.inj view
    exact ⟨history, hal, run, fun kept => of_decide_eq_false differs kept.handlers, events⟩

end X3Hal.Wifi
