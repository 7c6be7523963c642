import Mathlib.Data.List.Infix
import X3Hal.Transition.Justified
import X3Hal.Ygps.NumericFields

/-!
# PMTK commands

The commands of YGPS wait in a queue.  A thread takes one after the other, opens a connection,
writes the command and reads until a chunk has an answer.  The answer is kept in a field that is
not cleared in between.
-/

namespace X3Hal.Ygps

open Memory (ascii)
open Transition

/-! ## The line of a command -/

/-- A text in Java -/
def javaText (text : String) : JavaString :=
  (ascii text).map UInt8.toUInt16

/-- `DataOutputStream.writeBytes` writes the low byte of a character. -/
def lowByte (unit : UInt16) : UInt8 :=
  unit.toUInt8

/-- A capital letter for a small one of ASCII -/
def asciiUpper (byte : UInt8) : UInt8 :=
  if 97 ≤ byte ∧ byte ≤ 122 then byte - 32 else byte

/-- `toUpperCase().getBytes()`, which depends on the tables of Java beyond ASCII -/
structure UpperBytes where
  bytes : JavaString → List UInt8
  ascii : ∀ command : JavaString, (∀ unit ∈ command, unit < 128) →
    bytes command = command.map fun unit => asciiUpper (lowByte unit)

/-- All bytes with exclusive or -/
def xorAll (bytes : List UInt8) : UInt8 :=
  bytes.foldl (· ^^^ ·) 0

/-- A digit of `%X` -/
def hexUnit (digit : UInt8) : UInt16 :=
  if digit < 10 then 48 + digit.toUInt16 else 55 + digit.toUInt16

/-- `%1$02x` in capital letters -/
def checkDigits (sum : UInt8) : JavaString :=
  [hexUnit (sum / 16), hexUnit (sum % 16)]

/-- `calcCS` -/
def calcCS (upper : UpperBytes) (command : JavaString) : JavaString :=
  if command = [] then [] else checkDigits (xorAll (upper.bytes command))

/-- `sendComm` -/
def sendComm (upper : UpperBytes) (command : JavaString) : JavaString :=
  javaText "$" ++ command ++ javaText "*" ++ calcCS upper command

/-- The bytes that are written for a line -/
def wire (line : JavaString) : List UInt8 :=
  line.map lowByte ++ [13, 10]

/-! ## The thread -/

/-- How what a server sends ends -/
inductive StreamEnd
  | endOfStream
  /-- an `IOException`, as after the timeout of the socket -/
  | fails
  deriving DecidableEq

/-- What a server does with a connection -/
inductive Server
  | refuses
  /-- A write fails, so that the line does not get through. -/
  | breaks
  | answers (chunks : List JavaString) (last : StreamEnd)
  deriving DecidableEq

/-- The loop over what is read, with the lines that were read before it: `mResponse` -/
def readResponse (last : StreamEnd) (mResponse : Option JavaString) : Nat → List JavaString →
    Option JavaString
  | _, [] =>
      match last with
      | .endOfStream => mResponse
      | .fails => some (javaText "ERROR")
  | line, result :: chunks =>
      if javaText "PMTK" <:+: result then some result
      else if line + 1 > 10 then some (javaText "TIMEOUT")
      else readResponse last mResponse (line + 1) chunks

/-- The fields of `ClientSocket`; the connection is closed after each command. -/
structure ClientSocket where
  mCommandQueue : List JavaString
  mCommand : Option JavaString
  mResponse : Option JavaString
  deriving DecidableEq

/-- `mResponse` after a connection -/
def Server.respond (mResponse : Option JavaString) : Server → Option JavaString
  | refuses | breaks => some (javaText "ERROR")
  | answers chunks last => readResponse last mResponse 0 chunks

inductive ClientEvent
  | sendCommand (command : JavaString)
  /-- The thread takes a command from the queue. -/
  | take
  /-- The thread ends its work on the command that it has. -/
  | serve (server : Server)
  deriving DecidableEq

inductive ClientOutput
  | put
  | written (bytes : List UInt8)
  | onResponse (response : Option JavaString)
  deriving DecidableEq

/-- What a connection is given of a line -/
def Server.written (line : JavaString) : Server → List ClientOutput
  | refuses | breaks => []
  | answers _ _ => [.written (wire line)]

/-- The calls and the thread -/
def clientSocket (upper : UpperBytes) : System ClientSocket ClientEvent ClientOutput where
  Init client := client = ⟨[], none, none⟩
  step client
    | .sendCommand command =>
        let line := sendComm upper command
        if command = line ∨ line ∈ client.mCommandQueue then some (client, [])
        else some ({ client with mCommandQueue := client.mCommandQueue ++ [line] }, [.put])
    | .take =>
        match client.mCommand, client.mCommandQueue with
        | none, first :: rest =>
            some ({ client with mCommandQueue := rest, mCommand := some first }, [])
        | some _, _ | none, [] => none
    | .serve server =>
        client.mCommand.map fun line =>
          let response := server.respond client.mResponse
          ({ client with mCommand := none, mResponse := response },
            server.written line ++ [.onResponse response])

/-! ## What a session is to do -/

/-- The line of a command as it is to be written -/
def wireLine (command : JavaString) : List UInt8 :=
  ascii "$" ++ command.map lowByte ++ ascii "*" ++
    (checkDigits (xorAll (command.map lowByte))).map lowByte ++ [13, 10]

/-- The commands that were put in the queue -/
def putCommands (history : History ClientEvent ClientOutput) : List JavaString :=
  history.filterMap fun step =>
    match step with
    | (.sendCommand command, [.put]) => some command
    | _ => none

/-- How many commands the thread has ended -/
def servedCount (history : History ClientEvent ClientOutput) : Nat :=
  history.countP fun step =>
    match step.1 with
    | .serve _ => true
    | .sendCommand _ | .take => false

def written? : ClientOutput → Option (List UInt8)
  | .written bytes => some bytes
  | .put | .onResponse _ => none

def response? : ClientOutput → Option (Option JavaString)
  | .onResponse response => some response
  | .put | .written _ => none

/-- A response of the connection itself: a chunk with an answer, or that there was none in the
lines that are read, or that the connection failed -/
def OwnResponse (response : JavaString) : Server → Prop
  | .refuses | .breaks => response = javaText "ERROR"
  | .answers chunks last => (response ∈ chunks ∧ javaText "PMTK" <:+: response) ∨
      (10 < chunks.length ∧ response = javaText "TIMEOUT") ∨
        (last = .fails ∧ response = javaText "ERROR")

/-- The line gets through to a server that takes it, and there is one response, of its own. -/
structure ServedRight (command : JavaString) (server : Server) (out : List ClientOutput) :
    Prop where
  written : out.filterMap written? =
    match server with
    | .refuses | .breaks => []
    | .answers _ _ => [wireLine command]
  response : ∃ response, out.filterMap response? = [some response] ∧ OwnResponse response server

/-- The commands are served in the order in which they were put, each once and right. -/
def SessionExact (history : History ClientEvent ClientOutput) : Prop :=
  Justified (fun earlier step => ∀ server, step.1 = .serve server →
    ∃ command, (putCommands earlier)[servedCount earlier]? = some command ∧
      ServedRight command server step.2) history

/-- A small letter of ASCII -/
def isSmall (unit : UInt16) : Bool :=
  97 ≤ unit ∧ unit ≤ 122

/-- The digits are those of the bytes that are written.  In ASCII a small letter differs from its
capital in one bit; beyond it the capitals are Java's. -/
def DigitsRight (upper : UpperBytes) (command : JavaString) : Prop :=
  command ≠ [] ∧ ((∀ unit ∈ command, unit < 128) → Even (command.countP isSmall)) ∧
    (¬ (∀ unit ∈ command, unit < 128) →
      xorAll (upper.bytes command) = xorAll (command.map lowByte))

/-- The stream ends before an answer and before the limit of lines. -/
def Server.EndsEarly : Server → Prop
  | refuses | breaks => False
  | answers chunks last => last = .endOfStream ∧ chunks.length ≤ 10 ∧
      ∀ chunk ∈ chunks, ¬ javaText "PMTK" <:+: chunk

/-- A line that gets through has the right checksum, and its stream does not end early. -/
structure ServeFits (upper : UpperBytes) (command : JavaString) (server : Server) : Prop where
  digits : (∃ chunks ending, server = .answers chunks ending) → DigitsRight upper command
  ends : ¬ server.EndsEarly

def SessionFits (upper : UpperBytes) (history : History ClientEvent ClientOutput) : Prop :=
  Justified (fun earlier step => ∀ server command, step.1 = .serve server →
    (putCommands earlier)[servedCount earlier]? = some command →
    ServeFits upper command server) history

/-! ## The checksum -/

/-- The byte of two digits -/
def ofDigits : List UInt8 → UInt8
  | [high, low] => (high - if high < 58 then 48 else 55) * 16 + (low - if low < 58 then 48 else 55)
  | _ => 0

theorem ofDigits_checkDigits (sum : UInt8) : ofDigits ((checkDigits sum).map lowByte) = sum :=
  @Memory.forall_byte (fun sum => ofDigits ((checkDigits sum).map lowByte) = sum)
    (by decide +kernel) sum

theorem checkDigits_inj {sum other : UInt8} :
    (checkDigits sum).map lowByte = (checkDigits other).map lowByte ↔ sum = other := by
  constructor
  · intro same
    rw [← ofDigits_checkDigits sum, same, ofDigits_checkDigits]
  · exact fun same => same ▸ rfl

theorem xorAll_cons (byte : UInt8) (bytes : List UInt8) :
    xorAll (byte :: bytes) = byte ^^^ xorAll bytes := by
  rw [xorAll, xorAll, List.foldl_cons, UInt8.xor_comm, List.foldl_assoc]

/-- The bit in which it differs from its capital -/
def smallBit (unit : UInt16) : UInt8 :=
  if isSmall unit then 32 else 0

theorem asciiUpper_eq {unit : UInt16} (isAscii : unit < 128) :
    asciiUpper (lowByte unit) = lowByte unit ^^^ smallBit unit := by
  have each : ∀ number : Fin 128, asciiUpper (lowByte (UInt16.ofNat number)) =
      lowByte (UInt16.ofNat number) ^^^ smallBit (UInt16.ofNat number) := by
    decide +kernel
  have here := each ⟨unit.toNat, isAscii⟩
  rwa [UInt16.ofNat_toNat] at here

theorem xorAll_upper {command : JavaString} (isAscii : ∀ unit ∈ command, unit < 128) :
    xorAll (command.map fun unit => asciiUpper (lowByte unit)) =
      xorAll (command.map lowByte) ^^^ xorAll (command.map smallBit) := by
  induction command with
  | nil => rfl
  | cons unit command ih =>
      obtain ⟨first, rest⟩ := List.forall_mem_cons.mp isAscii
      simp only [List.map_cons, xorAll_cons, ih rest, asciiUpper_eq first]
      ac_rfl

theorem xorAll_smallBit (command : JavaString) :
    xorAll (command.map smallBit) = if Even (command.countP isSmall) then 0 else 32 := by
  induction command with
  | nil => rfl
  | cons unit command ih =>
      rw [List.map_cons, xorAll_cons, ih, List.countP_cons, smallBit]
      by_cases small : isSmall unit = true
      · simp only [small, if_true, Nat.even_add_one]
        by_cases even : Even (command.countP isSmall)
        · rw [if_pos even, if_neg (not_not_intro even)]
          rfl
        · rw [if_neg even, if_pos even]
          rfl
      · simp [small]

/-- The checksum of a command of ASCII is right exactly when it has an even number of small
letters. -/
theorem xorAll_bytes_eq_iff (upper : UpperBytes) {command : JavaString}
    (isAscii : ∀ unit ∈ command, unit < 128) :
    xorAll (upper.bytes command) = xorAll (command.map lowByte) ↔
      Even (command.countP isSmall) := by
  rw [upper.ascii command isAscii, xorAll_upper isAscii, xorAll_smallBit]
  by_cases even : Even (command.countP isSmall)
  · simp [even]
  · have bit : (32 : UInt8) ≠ 0 := by decide
    rw [if_neg even]
    refine iff_of_false ?_ even
    intro same
    have cancel := congrArg (xorAll (command.map lowByte) ^^^ ·) same
    simp only [← UInt8.xor_assoc, UInt8.xor_self, UInt8.zero_xor] at cancel
    exact bit cancel

theorem digitsRight_iff (upper : UpperBytes) (command : JavaString) :
    DigitsRight upper command ↔
      command ≠ [] ∧ xorAll (upper.bytes command) = xorAll (command.map lowByte) := by
  rw [DigitsRight]
  apply and_congr Iff.rfl
  by_cases isAscii : ∀ unit ∈ command, unit < 128
  · rw [xorAll_bytes_eq_iff upper isAscii]
    exact ⟨fun digits => digits.1 isAscii, fun even => ⟨fun _ => even, absurd isAscii⟩⟩
  · exact ⟨fun digits => digits.2 isAscii,
      fun same => ⟨fun all => absurd all isAscii, fun _ => same⟩⟩

/-- What is written is what is to be written exactly when the checksum is right. -/
theorem wire_eq_iff (upper : UpperBytes) (command : JavaString) :
    wire (sendComm upper command) = wireLine command ↔ DigitsRight upper command := by
  have dollar : (javaText "$").map lowByte = ascii "$" := by decide
  have asterisk : (javaText "*").map lowByte = ascii "*" := by decide
  rw [wire, wireLine, sendComm, List.map_append, List.map_append, List.map_append, dollar,
    asterisk, List.append_left_inj, List.append_right_inj, calcCS, digitsRight_iff]
  by_cases empty : command = []
  · rw [if_pos empty]
    exact iff_of_false (by simp [checkDigits]) fun right => right.1 empty
  · rw [if_neg empty, checkDigits_inj]
    simp [empty]

/-! ## Responses -/

theorem readResponse_spec {last : StreamEnd} {mResponse : Option JavaString} {line : Nat}
    (chunks : List JavaString) (within : line ≤ 10) :
    (∃ response ∈ chunks, javaText "PMTK" <:+: response ∧
        readResponse last mResponse line chunks = some response) ∨
      (10 < line + chunks.length ∧
        readResponse last mResponse line chunks = some (javaText "TIMEOUT")) ∨
      (line + chunks.length ≤ 10 ∧ (∀ chunk ∈ chunks, ¬ javaText "PMTK" <:+: chunk) ∧
        readResponse last mResponse line chunks =
          match last with
          | .endOfStream => mResponse
          | .fails => some (javaText "ERROR")) := by
  induction chunks generalizing line with
  | nil => exact .inr (.inr ⟨within, List.forall_mem_nil _, rfl⟩)
  | cons result chunks ih =>
      rw [readResponse]
      by_cases answers : javaText "PMTK" <:+: result
      · exact .inl ⟨result, List.mem_cons_self, answers, if_pos answers⟩
      · rw [if_neg answers]
        by_cases beyond : line + 1 > 10
        · refine .inr (.inl ⟨?_, if_pos beyond⟩)
          rw [List.length_cons]
          omega
        · rw [if_neg beyond, List.length_cons]
          rcases ih (Nat.le_of_not_lt beyond) with
            ⟨response, among, has, isResponse⟩ | ⟨limit, isTimeout⟩ | ⟨short, none, ends⟩
          · exact .inl ⟨response, List.mem_cons_of_mem _ among, has, isResponse⟩
          · exact .inr (.inl ⟨by omega, isTimeout⟩)
          · exact .inr (.inr ⟨by omega, List.forall_mem_cons.mpr ⟨answers, none⟩, ends⟩)

/-- A response of its own is what every connection gives whose stream does not end early. -/
theorem ownResponse_iff (mResponse : Option JavaString) (server : Server) :
    (∃ response, server.respond mResponse = some response ∧ OwnResponse response server) ↔
      ¬ server.EndsEarly := by
  cases server with
  | refuses => exact iff_of_true ⟨_, rfl, rfl⟩ id
  | breaks => exact iff_of_true ⟨_, rfl, rfl⟩ id
  | answers chunks last =>
      rw [Server.respond]
      rcases @readResponse_spec last mResponse 0 chunks (Nat.zero_le 10) with
        ⟨answer, among, has, isAnswer⟩ | ⟨limit, isTimeout⟩ | ⟨short, without, ends⟩
      · exact iff_of_true ⟨answer, isAnswer, .inl ⟨among, has⟩⟩
          fun early => early.2.2 answer among has
      · rw [Nat.zero_add] at limit
        exact iff_of_true ⟨_, isTimeout, .inr (.inl ⟨limit, rfl⟩)⟩
          fun early => absurd early.2.1 (Nat.not_le_of_lt limit)
      · rw [Nat.zero_add] at short
        cases last with
        | fails => exact iff_of_true ⟨_, ends, .inr (.inr ⟨rfl, rfl⟩)⟩ fun early => nomatch early.1
        | endOfStream =>
            refine iff_of_false ?_ (not_not_intro ⟨rfl, short, without⟩)
            rintro ⟨response, -, ⟨among, has⟩ | ⟨limit, -⟩ | ⟨failed, -⟩⟩
            · exact without response among has
            · exact absurd short (Nat.not_le_of_lt limit)
            · cases failed

/-! ## Runs -/

/-- The lines that wait are those of the commands that were put and not served yet. -/
structure Tracks (upper : UpperBytes) (history : History ClientEvent ClientOutput)
    (client : ClientSocket) : Prop where
  lines : ((putCommands history).drop (servedCount history)).map (sendComm upper) =
    client.mCommand.toList ++ client.mCommandQueue
  served : servedCount history ≤ (putCommands history).length

section Step

variable {upper : UpperBytes} {history : History ClientEvent ClientOutput} {client : ClientSocket}

theorem Tracks.put (tracks : Tracks upper history client) (command : JavaString) :
    Tracks upper (history ++ [(.sendCommand command, [.put])])
      { client with mCommandQueue := client.mCommandQueue ++ [sendComm upper command] } := by
  have puts : putCommands (history ++ [(.sendCommand command, [.put])]) =
      putCommands history ++ [command] :=
    List.filterMap_append
  have serves : servedCount (history ++ [(.sendCommand command, [.put])]) = servedCount history :=
    List.countP_append
  constructor
  · rw [puts, serves, List.drop_append_of_le_length tracks.served, List.map_append, tracks.lines,
      List.append_assoc]
    rfl
  · rw [puts, serves, List.length_append]
    exact Nat.le_add_right_of_le tracks.served

/-- An event without an output, and not the end of a command -/
theorem Tracks.quiet (tracks : Tracks upper history client) {event : ClientEvent}
    (quiet : ∀ server, event ≠ .serve server) {after : ClientSocket}
    (same : after.mCommand.toList ++ after.mCommandQueue =
      client.mCommand.toList ++ client.mCommandQueue) :
    Tracks upper (history ++ [(event, [])]) after := by
  have puts : putCommands (history ++ [(event, [])]) = putCommands history := by
    cases event <;> simp [putCommands]
  have serves : servedCount (history ++ [(event, [])]) = servedCount history := by
    cases event with
    | serve server => exact absurd rfl (quiet server)
    | sendCommand _ | take => simp [servedCount]
  constructor
  · rw [puts, serves, same, tracks.lines]
  · rw [puts, serves]
    exact tracks.served

/-- The line that is served is that of the next command. -/
theorem Tracks.next (tracks : Tracks upper history client) {line : JavaString}
    (isLine : client.mCommand = some line) :
    ∃ command, (putCommands history)[servedCount history]? = some command ∧
      sendComm upper command = line ∧
      ((putCommands history).drop (servedCount history + 1)).map (sendComm upper) =
        client.mCommandQueue := by
  have lines := tracks.lines
  rw [isLine] at lines
  cases rest : (putCommands history).drop (servedCount history) with
  | nil =>
      rw [rest] at lines
      cases lines
  | cons command commands =>
      rw [rest] at lines
      obtain ⟨isFirst, others⟩ := List.cons.inj lines
      refine ⟨command, ?_, isFirst, ?_⟩
      · rw [← List.head?_drop, rest]
        rfl
      · rw [← List.drop_drop, rest]
        exact others

theorem Tracks.serve (tracks : Tracks upper history client) {line : JavaString}
    (isLine : client.mCommand = some line) (server : Server) (out : List ClientOutput)
    (response : Option JavaString) :
    Tracks upper (history ++ [(.serve server, out)])
      { client with mCommand := none, mResponse := response } := by
  obtain ⟨command, isNext, -, rest⟩ := tracks.next isLine
  have puts : putCommands (history ++ [(.serve server, out)]) = putCommands history := by
    simp [putCommands]
  have serves : servedCount (history ++ [(.serve server, out)]) = servedCount history + 1 :=
    List.countP_append
  constructor
  · rw [puts, serves, rest]
    rfl
  · rw [puts, serves]
    exact (List.getElem?_eq_some_iff.mp isNext).1

end Step

/-- What a run keeps. -/
structure SessionSound (upper : UpperBytes) (history : History ClientEvent ClientOutput)
    (client : ClientSocket) : Prop where
  tracks : Tracks upper history client
  exactIff : SessionExact history ↔ SessionFits upper history

/-- What is written and answered is right exactly when the connection fits. -/
theorem servedRight_iff (upper : UpperBytes) (command : JavaString) (mResponse : Option JavaString)
    (server : Server) :
    ServedRight command server
        (server.written (sendComm upper command) ++ [.onResponse (server.respond mResponse)]) ↔
      ServeFits upper command server := by
  have answered : (server.written (sendComm upper command) ++
      [ClientOutput.onResponse (server.respond mResponse)]).filterMap response? =
        [server.respond mResponse] := by
    cases server with
    | refuses | breaks | answers _ _ => rfl
  have responds := ownResponse_iff mResponse server
  constructor
  · rintro ⟨written, response, isResponse, own⟩
    rw [answered, List.cons.injEq] at isResponse
    refine ⟨?_, responds.mp ⟨response, isResponse.1, own⟩⟩
    rintro ⟨chunks, last, rfl⟩
    exact (wire_eq_iff upper command).mp (List.cons.inj written).1
  · rintro ⟨digits, ends⟩
    obtain ⟨response, isResponse, own⟩ := responds.mpr ends
    refine ⟨?_, response, ?_, own⟩
    · cases server with
      | refuses => rfl
      | breaks => rfl
      | answers chunks last =>
          have line := (wire_eq_iff upper command).mpr (digits ⟨chunks, last, rfl⟩)
          exact congrArg (fun bytes => [bytes]) line
    · rw [answered, isResponse]

/-- An event that serves no command leaves both as they are. -/
theorem exactIff_quiet {upper : UpperBytes} {history : History ClientEvent ClientOutput}
    {event : ClientEvent} (quiet : ∀ server, event ≠ .serve server) (out : List ClientOutput)
    (earlier : SessionExact history ↔ SessionFits upper history) :
    SessionExact (history ++ [(event, out)]) ↔ SessionFits upper (history ++ [(event, out)]) := by
  rw [SessionExact, SessionFits, justified_snoc_iff, justified_snoc_iff]
  apply and_congr earlier
  exact iff_of_true (fun server isServe => absurd isServe (quiet server))
    fun server _ isServe => absurd isServe (quiet server)

theorem sessionSound {upper : UpperBytes} {history : History ClientEvent ClientOutput}
    {client : ClientSocket} (run : (clientSocket upper).Run System.free history client) :
    SessionSound upper history client := by
  apply run.invariant
  · rintro state rfl
    exact ⟨⟨rfl, Nat.le_refl 0⟩, iff_of_true justified_nil justified_nil⟩
  · intro history state event after out sound _ stepped
    cases event with
    | sendCommand command =>
        have quiet (server : Server) : ClientEvent.sendCommand command ≠ .serve server := nofun
        refine ⟨?_, exactIff_quiet quiet out sound.exactIff⟩
        simp only [clientSocket] at stepped
        split at stepped
        · cases stepped
          exact sound.tracks.quiet quiet rfl
        · cases stepped
          exact sound.tracks.put command
    | take =>
        have quiet (server : Server) : ClientEvent.take ≠ .serve server := nofun
        refine ⟨?_, exactIff_quiet quiet out sound.exactIff⟩
        simp only [clientSocket] at stepped
        split at stepped
        case h_1 first rest idle waiting =>
          cases stepped
          exact sound.tracks.quiet quiet (by rw [idle, waiting]; rfl)
        case h_2 => cases stepped
        case h_3 => cases stepped
    | serve server =>
        obtain ⟨line, isLine, served⟩ := Option.map_eq_some_iff.mp stepped
        obtain ⟨rfl, rfl⟩ := Prod.mk.inj served
        refine ⟨sound.tracks.serve isLine server _ _, ?_⟩
        obtain ⟨command, isNext, rfl, -⟩ := sound.tracks.next isLine
        have right := servedRight_iff upper command state.mResponse server
        rw [SessionExact, SessionFits, justified_snoc_iff, justified_snoc_iff]
        apply and_congr sound.exactIff
        constructor
        · rintro exact other served isServe isPut
          cases isServe
          obtain ⟨next, isNextToo, servedRight⟩ := exact server rfl
          rw [isNext, Option.some.injEq] at isPut isNextToo
          subst isPut isNextToo
          exact right.mp servedRight
        · rintro fits other isServe
          cases isServe
          exact ⟨command, isNext, right.mpr (fits server command rfl isNext)⟩

/-- A session is as it is to be exactly when every connection fits. -/
theorem sessionExact_iff {upper : UpperBytes} {history : History ClientEvent ClientOutput}
    {client : ClientSocket} (run : (clientSocket upper).Run System.free history client) :
    SessionExact history ↔ SessionFits upper history :=
  (sessionSound run).exactIff

/-- Java's letters for a text of ASCII -/
def asciiBytes : UpperBytes where
  bytes command := command.map fun unit => asciiUpper (lowByte unit)
  ascii _ _ := rfl

/-- A query of the version, and its answer -/
def versionHistory : History ClientEvent ClientOutput :=
  [(.sendCommand (javaText "PMTK605"), [.put])] ++ [(.take, [])] ++
    [(.serve (.answers [javaText "$PMTK705,2*00"] .endOfStream),
      [.written (ascii "$PMTK605*31" ++ [13, 10]),
        .onResponse (some (javaText "$PMTK705,2*00"))])]

theorem sessionExact_version :
    ∃ client, (clientSocket asciiBytes).Run System.free versionHistory client ∧
      SessionExact versionHistory := by
  have executed : ((clientSocket asciiBytes).exec ⟨[], none, none⟩
      (History.events versionHistory)).map Prod.fst = some versionHistory := by
    decide +kernel
  obtain ⟨history, client, run, rfl⟩ := System.exists_run_of_exec (clientSocket asciiBytes)
    System.free (History.events versionHistory) Prod.fst rfl (by decide +kernel) executed
  refine ⟨client, run, (sessionExact_iff run).mpr ?_⟩
  simp only [SessionFits, versionHistory, justified_snoc_iff, justified_singleton]
  refine ⟨⟨by rintro server command ⟨⟩, by rintro server command ⟨⟩⟩, ?_⟩
  intro server command isServe isPut
  cases isServe
  cases isPut
  refine ⟨fun _ => (digitsRight_iff asciiBytes _).mpr ⟨by decide, by decide⟩, ?_⟩
  rintro ⟨-, -, without⟩
  exact without _ (List.mem_singleton_self _) (by decide)

/-- The server closes the connection after the second command: the response is that of the
first. -/
def staleHistory : History ClientEvent ClientOutput :=
  versionHistory ++ [(.sendCommand (javaText "PMTK000"), [.put])] ++ [(.take, [])] ++
    [(.serve (.answers [] .endOfStream),
      [.written (ascii "$PMTK000*32" ++ [13, 10]),
        .onResponse (some (javaText "$PMTK705,2*00"))])]

theorem session_stale :
    ∃ client, (clientSocket asciiBytes).Run System.free staleHistory client ∧
      ¬ SessionExact staleHistory := by
  have executed : ((clientSocket asciiBytes).exec ⟨[], none, none⟩
      (History.events staleHistory)).map Prod.fst = some staleHistory := by
    decide +kernel
  obtain ⟨history, client, run, rfl⟩ := System.exists_run_of_exec (clientSocket asciiBytes)
    System.free (History.events staleHistory) Prod.fst rfl (by decide +kernel) executed
  refine ⟨client, run, ?_⟩
  intro exact
  obtain ⟨command, -, right⟩ := (justified_snoc_iff.mp exact).2 _ rfl
  obtain ⟨response, isResponse, own⟩ := right.response
  rcases own with ⟨among, -⟩ | ⟨limit, -⟩ | ⟨failed, -⟩
  · cases among
  · cases limit
  · cases failed

end X3Hal.Ygps
