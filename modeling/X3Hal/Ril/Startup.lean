import X3Hal.Memory.Words
import X3Hal.Transition.Loops
import X3Hal.Wpa.DriverCmd

/-!
# The start of the daemon

`main` reads the options, names the service after the client and gives the vendor library its
arguments: the words behind `--`, or those of a property.  Neither the array of the arguments nor
the name of the service is checked for its size.
-/

namespace X3Hal.Ril

open X3Hal.Memory
open X3Hal.Wpa (atoi)

/-! ## What the daemon finds -/

/-- `MAX_LIB_ARGS` -/
def maxLibArgs : Nat := 16

/-- `MAX_RILDS` -/
def maxRilds : Int := 3

/-- `MAX_SERVICE_NAME_LENGTH` -/
def maxServiceNameLength : Nat := 6

/-- `MAX_CLIENT_ID_LENGTH` -/
def maxClientIdLength : Nat := 2

/-- `ril_service_name_base` -/
def rilServiceNameBase : List UInt8 :=
  ascii "slot"

/-- A property, which is a string that fits its buffer. -/
structure Property (size : Nat) where
  value : List UInt8
  plain : 0 ∉ value
  fits : value.length < size

/-- What `property_get` copies. -/
def Property.get {size : Nat} (property : Property size) (default : List UInt8) : List UInt8 :=
  if property.value = [] then default.take (size - 1) else property.value

/-- A buffer of zeros with a string copied into it. -/
def buffer (size : Nat) (text : List UInt8) : List UInt8 :=
  text ++ List.replicate (size - text.length) 0

/-- The functions that a vendor library exports. -/
structure VendorLibrary where
  rilInit : Bool
  rilInitSocket : Bool
  rilSapInit : Bool
  deriving DecidableEq

/-- The command line: the name of the program and its arguments. -/
structure CommandLine where
  program : List UInt8
  arguments : List (List UInt8)
  plain : ∀ argument ∈ arguments, 0 ∉ argument

/-- What the daemon is started with. -/
structure Device (size : Nat) where
  mtkInit : Int
  libPath : Property size
  libArgs : Property size
  dlopen : List UInt8 → Option VendorLibrary

/-! ## The options -/

/-- What the loop over the options has found; `i` is its index. -/
structure RildOptions where
  i : Nat
  rilLibPath : Option (List UInt8)
  clientId : Option (List UInt8)
  hasLibArgs : Bool
  deriving DecidableEq

/-- The loop of `main` over the words of the command line from `options.i` on; without a result
`usage` exits. -/
def readOptions (options : RildOptions) : List (List UInt8) → Option RildOptions
  | [] => some options
  | [word] =>
      if word = ascii "--" then some { options with i := options.i + 1, hasLibArgs := true }
      else none
  | word :: value :: rest =>
      if word = ascii "-l" then
        readOptions { options with i := options.i + 2, rilLibPath := some value } rest
      else if word = ascii "--" then
        some { options with i := options.i + 1, hasLibArgs := true }
      else if word = ascii "-c" then
        readOptions { options with i := options.i + 2, clientId := some value } rest
      else none

/-! ## The name of the service -/

/-- The name that is set for a client; the first client keeps the name that there is. -/
def serviceName (clientId : List UInt8) : Option (Option (List UInt8)) :=
  if clientId.take maxClientIdLength = (ascii "0").take maxClientIdLength then some none
  else do
    let block := strncpy maxServiceNameLength rilServiceNameBase
    -- `strncat` puts its NUL behind as many bytes as it is told.
    let base ← Memory.cString block 0
    let block ← store block base.length (clientId.take maxServiceNameLength ++ [0])
    some (some block)

/-! ## The arguments of the library -/

/-- An entry of an array of arguments. -/
inductive Argument
  | commandLine (index : Nat)
  | args (offset : Nat)
  deriving DecidableEq

/-- `make_argv`: the block of the words, the array, and the count. -/
def makeArgv : Nat → List UInt8 → Option Nat → List (Option Argument) → Nat →
    Option (List UInt8 × List (Option Argument) × Nat)
  | 0, _, _, _, _ => none
  | fuel + 1, args, s, argv, count => do
      let (args, s, tok) ← strtok 32 args s
      match tok with
      | none => some (args, argv, count)
      | some tok =>
          let argv ← store argv count [some (.args tok)]
          makeArgv fuel args s argv (count + 1)

/-- The string of an entry. -/
def readArgument (commandLine : CommandLine) (args : List UInt8) : Option Argument →
    Option (List UInt8)
  | none => none
  | some (.commandLine index) => (commandLine.program :: commandLine.arguments)[index]?
  | some (.args offset) => Memory.cString args offset

/-- The array that `main` is given. -/
def CommandLine.argv (commandLine : CommandLine) : List (Option Argument) :=
  (List.range' 0 (commandLine.arguments.length + 1)).map
    (fun index => some (.commandLine index)) ++
    [none]

/-- The strings that the library is given. -/
def libraryArguments {size : Nat} (device : Device size) (commandLine : CommandLine)
    (options : RildOptions) : Option (List (List UInt8)) :=
  if options.hasLibArgs then do
    let first := options.i - 1
    let argc := commandLine.arguments.length + 1 - options.i + 1
    let argv ← store commandLine.argv first [some (.commandLine 0)]
    let given ← load argv first argc
    given.mapM (readArgument commandLine [])
  else do
    let args := buffer size (device.libArgs.get (ascii "-d /dev/ttyC0"))
    let (args, argv, argc) ← makeArgv (size + 1) args (some 0)
      (List.replicate maxLibArgs none) 1
    let argv ← store argv 0 [some (.commandLine 0)]
    let given ← load argv 0 argc
    given.mapM (readArgument commandLine args)

/-! ## The daemon -/

inductive VendorFunction
  | rilInit
  | rilInitSocket
  | rilSapInit
  deriving DecidableEq

inductive Ending
  | exit (status : Int)
  | sleepLoop
  deriving DecidableEq

/-- What a start has done: the name that it set, and the functions with their arguments. -/
structure Start where
  serviceName : Option (List UInt8)
  calls : List (VendorFunction × List (List UInt8))
  ending : Ending
  deriving DecidableEq

/-- The library of the path that is chosen. -/
def Device.library {size : Nat} (device : Device size) (rilLibPath : Option (List UInt8)) :
    Option VendorLibrary :=
  device.dlopen (rilLibPath.getD (device.libPath.get (ascii "/vendor/lib/mtk-ril.so")))

/-- The part of `main` behind the name of the service. -/
def startLibrary {size : Nat} (device : Device size) (commandLine : CommandLine)
    (options : RildOptions) (name : Option (List UInt8)) : Option Start :=
  if options.rilLibPath = none ∧ device.libPath.get (ascii "/vendor/lib/mtk-ril.so") = [] then
    some ⟨name, [], .sleepLoop⟩
  else
    match device.library options.rilLibPath with
    | none => some ⟨name, [], .exit 1⟩
    | some library =>
        if library.rilInitSocket = false ∧ library.rilInit = false then some ⟨name, [], .exit 1⟩
        else do
          let given ← libraryArguments device commandLine options
          let init := if library.rilInitSocket then .rilInitSocket else .rilInit
          let sap := if library.rilSapInit then [(.rilSapInit, given)] else []
          some ⟨name, (init, given) :: sap, .sleepLoop⟩

/-- `main` of the daemon -/
def rildMain {size : Nat} (device : Device size) (commandLine : CommandLine) : Option Start :=
  if device.mtkInit = -1 then some ⟨none, [], .sleepLoop⟩
  else
    match readOptions ⟨1, none, none, false⟩ commandLine.arguments with
    | none => some ⟨none, [], .exit 1⟩
    | some options =>
        if options.clientId.any (fun clientId => maxRilds ≤ atoi clientId) then
          some ⟨none, [], .exit 0⟩
        else do
          let name ← serviceName (options.clientId.getD (ascii "0"))
          startLibrary device commandLine options name

/-! ## What a start is to do -/

/-- An option of the command line. -/
inductive RildOption
  | library (path : List UInt8)
  | client (id : List UInt8)

namespace RildOption

def words : RildOption → List (List UInt8)
  | library path => [ascii "-l", path]
  | client id => [ascii "-c", id]

def path? : RildOption → Option (List UInt8)
  | library path => some path
  | client _ => none

def client? : RildOption → Option (List UInt8)
  | library _ => none
  | client id => some id

end RildOption

/-- Options, and the words behind `--`. -/
structure OptionLine where
  options : List RildOption
  libArgs : Option (List (List UInt8))

namespace OptionLine

def words (line : OptionLine) : List (List UInt8) :=
  line.options.flatMap RildOption.words ++
    match line.libArgs with
    | none => []
    | some rest => ascii "--" :: rest

/-- The path of the last option that has one. -/
def path (line : OptionLine) : Option (List UInt8) :=
  (line.options.filterMap RildOption.path?).getLast?

def client (line : OptionLine) : Option (List UInt8) :=
  (line.options.filterMap RildOption.client?).getLast?

/-- The arguments that are meant for the library. -/
def given {size : Nat} (line : OptionLine) (device : Device size) : List (List UInt8) :=
  line.libArgs.getD (Memory.words 32 (device.libArgs.get (ascii "-d /dev/ttyC0")))

end OptionLine

/-- A start goes through, its functions have the program's name and the arguments that are meant
for the library, and the name that it sets is that of the client. -/
def StartsExactly {size : Nat} (device : Device size) (commandLine : CommandLine) : Prop :=
  ∃ start, rildMain device commandLine = some start ∧
    ∀ line : OptionLine, commandLine.arguments = line.words →
      (∀ call ∈ start.calls, call.2 = commandLine.program :: line.given device) ∧
      ∀ name ∈ start.serviceName,
        Memory.cString name 0 = some (rilServiceNameBase ++ line.client.getD (ascii "0"))

/-- The library is asked for its functions, and has one of the two. -/
def ReachesStart {size : Nat} (device : Device size) (line : OptionLine) : Prop :=
  (line.path = none → device.libPath.get (ascii "/vendor/lib/mtk-ril.so") ≠ []) ∧
    ∃ library, device.library line.path = some library ∧
      (library.rilInitSocket = true ∨ library.rilInit = true)

/-- The name of a client that is not refused has a byte at most, and a property that a library is
given has less words than there are entries. -/
structure StartFits {size : Nat} (device : Device size) (line : OptionLine) : Prop where
  name : ∀ id ∈ line.client, atoi id < maxRilds → id ≠ ascii "0" → id.length < 2
  words : line.libArgs = none → (∀ id ∈ line.client, atoi id < maxRilds) →
    ReachesStart device line →
    (line.given device).length < maxLibArgs

/-! ## Reading the options -/

/-- The last of several values, or the one before them. -/
theorem getLast?_cons_or {α : Type*} (value : α) (values : List α) (earlier : Option α) :
    (value :: values).getLast?.or earlier = values.getLast?.or (some value) := by
  rw [List.getLast?_cons]
  cases values.getLast? with
  | none => rfl
  | some last => rfl

theorem readOptions_words (options : RildOptions) (line : OptionLine) :
    readOptions options line.words =
      some ⟨options.i + 2 * line.options.length + line.libArgs.toList.length,
        line.path.or options.rilLibPath, line.client.or options.clientId,
        line.libArgs.isSome || options.hasLibArgs⟩ := by
  rcases line with ⟨read, libArgs⟩
  induction read generalizing options with
  | nil =>
      cases libArgs with
      | none => rfl
      | some rest =>
          cases rest with
          | nil => rfl
          | cons value rest => rfl
  | cons option read ih =>
      have index : options.i + 2 + 2 * read.length = options.i + 2 * (read.length + 1) := by omega
      cases option with
      | library path =>
          have next := ih { options with i := options.i + 2, rilLibPath := some path }
          have path' := getLast?_cons_or path (read.filterMap RildOption.path?) options.rilLibPath
          simp only [OptionLine.path, OptionLine.client, index] at next
          simp only [OptionLine.path, OptionLine.client, List.filterMap_cons, RildOption.path?,
            RildOption.client?, path', List.length_cons]
          exact next
      | client id =>
          have next := ih { options with i := options.i + 2, clientId := some id }
          have id' := getLast?_cons_or id (read.filterMap RildOption.client?) options.clientId
          simp only [OptionLine.path, OptionLine.client, index] at next
          simp only [OptionLine.path, OptionLine.client, List.filterMap_cons, RildOption.path?,
            RildOption.client?, id', List.length_cons]
          exact next

theorem exists_optionLine (options : RildOptions) {words : List (List UInt8)} {read : RildOptions}
    (reads : readOptions options words = some read) : ∃ line : OptionLine, words = line.words := by
  fun_induction readOptions options words with
  | case1 options => exact ⟨⟨[], none⟩, rfl⟩
  | case2 options => exact ⟨⟨[], some []⟩, rfl⟩
  | case3 options word other => cases reads
  | case4 options value rest ih =>
      obtain ⟨line, rfl⟩ := ih reads
      exact ⟨⟨.library value :: line.options, line.libArgs⟩, rfl⟩
  | case5 options value rest other => exact ⟨⟨[], some (value :: rest)⟩, rfl⟩
  | case6 options value rest other others ih =>
      obtain ⟨line, rfl⟩ := ih reads
      exact ⟨⟨.client value :: line.options, line.libArgs⟩, rfl⟩
  | case7 options word value rest library last client => cases reads

/-! ## The words of the property -/

section Words

variable {commandLine : CommandLine} {text : List UInt8} {fuel : Nat}

theorem makeArgv_none (args : List UInt8) (argv : List (Option Argument)) (count : Nat) :
    makeArgv (fuel + 1) args none argv count = some (args, argv, count) :=
  rfl

/-- A store behind the entries that are filled. -/
theorem store_entry {α : Type*} (front back : List α) (old entry : α) :
    store (front ++ old :: back) front.length [entry] = some (front ++ [entry] ++ back) := by
  have stored := @store_split _ [old] [entry] rfl front back
  rw [List.append_assoc]
  exact stored

theorem store_entry_full {α : Type*} (front : List α) (entry : α) :
    store (front ++ []) front.length [entry] = none :=
  store_eq_none (by simp)

/-- What `make_argv` leaves of a block that begins with `before`: the entries are the words. -/
structure Argued (commandLine : CommandLine) (before text : List UInt8)
    (front : List (Option Argument)) (result : List UInt8 × List (Option Argument) × Nat) :
    Prop where
  before : before <+: result.1
  entries : ∃ entries rest,
    result.2 = (front ++ (entries ++ rest), front.length + entries.length) ∧
    entries.mapM (readArgument commandLine result.1) = some (words 32 text)

/-- What is read of a word that is put in front of the entries. -/
theorem Argued.cons {before next word rest : List UInt8} {front : List (Option Argument)}
    {place : Nat} {result : List UInt8 × List (Option Argument) × Nat}
    (argued : Argued commandLine next rest (front ++ [some (.args place)]) result)
    (reads : Memory.cString next place = some word) (earlier : before <+: next)
    (split : words 32 text = word :: words 32 rest) :
    Argued commandLine before text front result := by
  obtain ⟨entries, others, filled, read⟩ := argued.entries
  obtain ⟨more, isMore⟩ := argued.before
  refine ⟨earlier.trans argued.before, some (.args place) :: entries, others, ?_, ?_⟩
  · rw [filled]
    simp only [List.append_assoc, List.cons_append, List.nil_append, List.length_append,
      List.length_cons, List.length_nil, Nat.zero_add, Nat.add_assoc, Nat.add_comm 1]
  · have readFirst : readArgument commandLine result.1 (some (.args place)) = some word := by
      rw [readArgument, ← isMore]
      exact cString_append reads more
    rw [List.mapM_cons, readFirst, split, read]
    rfl

/-- The array has a place for each word, or the words leave it. -/
theorem makeArgv_spec (commandLine : CommandLine) (enough : text.length < fuel) (plain : 0 ∉ text)
    (before after : List UInt8) (front back : List (Option Argument)) :
    (words 32 text).length ≤ back.length ∧
        (∃ result, makeArgv fuel (before ++ (text ++ 0 :: after)) (some before.length)
          (front ++ back) front.length = some result ∧
            Argued commandLine before text front result) ∨
      ¬ (words 32 text).length ≤ back.length ∧
        makeArgv fuel (before ++ (text ++ 0 :: after)) (some before.length)
          (front ++ back) front.length = none := by
  induction fuel generalizing text before front back with
  | zero => omega
  | succ fuel ih =>
      rw [makeArgv]
      cases wordSplit 32 text with
      | blank count =>
          have none : words 32 (List.replicate count 32) = [] := by
            have blanks := @words_replicate_append 32 count []
            rwa [List.append_nil, words_nil] at blanks
          left
          rw [strtok_blank before after count plain, none]
          refine ⟨Nat.zero_le _, _, rfl, List.prefix_append _ _, [], back, rfl, none ▸ rfl⟩
      | last count word some_byte ends =>
          have single : words 32 (List.replicate count 32 ++ word) = [word] := by
            rw [words_replicate_append, words_eq_singleton some_byte ends]
          have nonempty := List.length_pos_of_ne_nil some_byte
          obtain ⟨fuel, rfl⟩ : ∃ less, fuel = less + 1 :=
            ⟨fuel - 1, by simp only [List.length_append] at enough; omega⟩
          rw [strtok_last before after count some_byte ends plain, single]
          simp only [Option.bind_eq_bind, Option.bind_some]
          cases back with
          | nil =>
              right
              rw [store_entry_full]
              exact ⟨by simp, rfl⟩
          | cons old back =>
              left
              rw [store_entry, Option.bind_some, makeArgv_none]
              have reads := cString_split (fun among => plain (List.mem_append_right _ among))
                (before ++ List.replicate count 32) after
              rw [List.append_assoc, ← List.append_assoc (List.replicate count 32),
                List.length_append, List.length_replicate] at reads
              have argued : Argued commandLine
                  (before ++ (List.replicate count 32 ++ word ++ 0 :: after)) []
                  (front ++ [some (.args (before.length + count))])
                  (before ++ (List.replicate count 32 ++ word ++ 0 :: after),
                    front ++ [some (.args (before.length + count))] ++ back, front.length + 1) :=
                ⟨List.prefix_refl _, [], back, by simp, by rw [words_nil]; rfl⟩
              refine ⟨by simp, _, rfl, argued.cons reads (List.prefix_append _ _) ?_⟩
              rw [single, words_nil]
      | more count word rest some_byte ends =>
          have split : words 32 (List.replicate count 32 ++ (word ++ 32 :: rest)) =
              word :: words 32 rest := by
            rw [words_replicate_append, words_append_cons some_byte ends]
          have plainRest : 0 ∉ rest := fun among => plain (by simp [among])
          have shorter : rest.length < fuel := by
            simp only [List.length_append, List.length_cons] at enough
            omega
          rw [strtok_more before after count some_byte ends plain, split]
          simp only [Option.bind_eq_bind, Option.bind_some]
          cases back with
          | nil =>
              right
              rw [store_entry_full]
              exact ⟨by simp, rfl⟩
          | cons old back =>
              rw [store_entry, Option.bind_some]
              have plainWord : 0 ∉ word := fun among => plain (by simp [among])
              have reads := cString_split plainWord
                (before ++ List.replicate count 32) []
              rw [← List.append_assoc, List.length_append, List.length_replicate] at reads
              have filled : (front ++ [some (Argument.args (before.length + count))]).length =
                  front.length + 1 :=
                List.length_append
              rcases ih shorter plainRest (before ++ List.replicate count 32 ++ word ++ [0])
                (front ++ [some (.args (before.length + count))]) back with
                ⟨fits, result, done, argued⟩ | ⟨full, fails⟩
              · left
                rw [filled] at done
                refine ⟨Nat.succ_le_succ fits, result, done, argued.cons reads ?_ split⟩
                simp only [List.append_assoc]
                exact List.prefix_append _ _
              · right
                rw [filled] at fails
                exact ⟨fun fits => full (Nat.le_of_succ_le_succ fits), fails⟩

end Words

section Arguments

variable {size : Nat} {device : Device size} {commandLine : CommandLine} {line : OptionLine}

theorem Property.get_fits (property : Property size) (default : List UInt8) :
    (property.get default).length < size := by
  have positive := property.fits
  unfold Property.get
  split
  · rw [List.length_take]
    omega
  · exact positive

theorem Property.get_plain (property : Property size) {default : List UInt8}
    (plain : 0 ∉ default) :
    0 ∉ property.get default := by
  unfold Property.get
  split
  · exact fun among => plain (List.mem_of_mem_take among)
  · exact property.plain

theorem buffer_eq {text : List UInt8} (fits : text.length < size) :
    ∃ after, buffer size text = text ++ 0 :: after := by
  obtain ⟨more, isMore⟩ := Nat.exists_eq_add_of_lt fits
  refine ⟨List.replicate more 0, ?_⟩
  rw [buffer, show size - text.length = more + 1 by omega, List.replicate_succ]

/-- The words of the property are the arguments when the array has a place for them. -/
theorem libraryArguments_property {options : RildOptions} (without : options.hasLibArgs = false)
    (behind : line.libArgs = none) :
    libraryArguments device commandLine options =
      if (line.given device).length < maxLibArgs then
        some (commandLine.program :: line.given device)
      else none := by
  have given : line.given device =
      words 32 (device.libArgs.get (ascii "-d /dev/ttyC0")) := by
    rw [OptionLine.given, behind]
    rfl
  have fits := device.libArgs.get_fits (ascii "-d /dev/ttyC0")
  have plain := device.libArgs.get_plain (show 0 ∉ ascii "-d /dev/ttyC0" by decide)
  obtain ⟨after, isBuffer⟩ := buffer_eq fits
  have enough : (device.libArgs.get (ascii "-d /dev/ttyC0")).length < size + 1 := by omega
  rw [given, libraryArguments, without, isBuffer]
  rcases makeArgv_spec commandLine enough plain [] after [none] (List.replicate 15 none) with
    ⟨room, result, done, argued⟩ | ⟨full, fails⟩
  · obtain ⟨entries, rest, filled, read⟩ := argued.entries
    rcases result with ⟨args, argv, argc⟩
    obtain ⟨rfl, rfl⟩ := Prod.mk.inj filled
    have loop : makeArgv (size + 1)
        (device.libArgs.get (ascii "-d /dev/ttyC0") ++ 0 :: after) (some 0)
        (List.replicate maxLibArgs none) 1 =
          some (args, [none] ++ (entries ++ rest), [none].length + entries.length) := done
    have name : store ([none] ++ (entries ++ rest)) 0 [some (Argument.commandLine 0)] =
        some (some (.commandLine 0) :: (entries ++ rest)) :=
      store_entry [] (entries ++ rest) none (some (.commandLine 0))
    have loaded := load_split [] (some (Argument.commandLine 0) :: entries) rest
    simp only [List.nil_append, List.length_nil, List.length_cons, List.cons_append] at loaded
    have within : (words 32 (device.libArgs.get (ascii "-d /dev/ttyC0"))).length < maxLibArgs := by
      rw [List.length_replicate] at room
      exact Nat.lt_succ_of_le room
    simp only [Bool.false_eq_true, if_false, loop, name, Option.bind_eq_bind, Option.bind_some,
      List.length_singleton, Nat.add_comm 1, loaded, if_pos within, List.mapM_cons, read]
    rfl
  · have loop : makeArgv (size + 1)
        (device.libArgs.get (ascii "-d /dev/ttyC0") ++ 0 :: after) (some 0)
        (List.replicate maxLibArgs none) 1 = none := fails
    have beyond :
        ¬ (words 32 (device.libArgs.get (ascii "-d /dev/ttyC0"))).length < maxLibArgs := by
      rw [List.length_replicate] at full
      exact fun within => full (Nat.le_of_lt_succ within)
    simp only [Bool.false_eq_true, if_false, loop, if_neg beyond]
    rfl

/-- Places of the command line that follow each other -/
theorem mapM_commandLine (args : List UInt8) (start count : Nat)
    (inside : start + count ≤ commandLine.arguments.length + 1) :
    ((List.range' start count).map fun index => some (Argument.commandLine index)).mapM
        (readArgument commandLine args) =
      some (((commandLine.program :: commandLine.arguments).drop start).take count) := by
  induction count generalizing start with
  | zero => rfl
  | succ count ih =>
      have here : start < (commandLine.program :: commandLine.arguments).length := by
        rw [List.length_cons]
        omega
      have read : readArgument commandLine args (some (.commandLine start)) =
          some (commandLine.program :: commandLine.arguments)[start] :=
        List.getElem?_eq_getElem here
      rw [List.range'_succ, List.map_cons, List.mapM_cons, read, ih (start + 1) (by omega),
        List.drop_eq_getElem_cons here, List.take_succ_cons]
      rfl

theorem length_optionWords (options : List RildOption) :
    (options.flatMap RildOption.words).length = 2 * options.length := by
  induction options with
  | nil => rfl
  | cons option options ih =>
      have two : option.words.length = 2 := by
        cases option with
        | library _ => rfl
        | client _ => rfl
      rw [List.flatMap_cons, List.length_append, two, ih, List.length_cons]
      omega

/-- The words behind `--` are the arguments. -/
theorem libraryArguments_words {rest : List (List UInt8)}
    (arguments : commandLine.arguments = line.words) (behind : line.libArgs = some rest)
    {options : RildOptions} (has : options.hasLibArgs = true)
    (index : options.i = 1 + 2 * line.options.length + 1) :
    libraryArguments device commandLine options =
      some (commandLine.program :: line.given device) := by
  have given : line.given device = rest := by
    rw [OptionLine.given, behind]
    rfl
  have isLine : commandLine.arguments =
      line.options.flatMap RildOption.words ++ ascii "--" :: rest := by
    rw [arguments, OptionLine.words, behind]
  have read := length_optionWords line.options
  generalize line.options.flatMap RildOption.words = before at isLine read
  have length : commandLine.arguments.length = before.length + 1 + rest.length := by
    rw [isLine, List.length_append, List.length_cons]
    omega
  have argv : commandLine.argv =
      (List.range' 0 (before.length + 1)).map (fun index => some (Argument.commandLine index)) ++
        some (.commandLine (before.length + 1)) ::
          ((List.range' (before.length + 2) rest.length).map
            (fun index => some (Argument.commandLine index)) ++ [none]) := by
    have places : List.range' 0 (commandLine.arguments.length + 1) =
        List.range' 0 (before.length + 1) ++
          (before.length + 1) :: List.range' (before.length + 2) rest.length := by
      have parts := @List.range'_append_1 0 (before.length + 1) (rest.length + 1)
      have first : List.range' (before.length + 1) (rest.length + 1) =
          (before.length + 1) :: List.range' (before.length + 2) rest.length :=
        List.range'_succ
      rw [Nat.zero_add, first] at parts
      rw [parts, length]
      congr 1
    rw [CommandLine.argv, places, List.map_append, List.map_cons, List.append_assoc,
      List.cons_append]
  have behindWords : ((commandLine.program :: commandLine.arguments).drop (before.length + 2)).take
      rest.length = rest := by
    have split : commandLine.program :: commandLine.arguments =
        (commandLine.program :: before ++ [ascii "--"]) ++ rest := by
      rw [isLine]
      simp
    rw [split, List.drop_left' (by simp), List.take_length]
  have readRest := @mapM_commandLine commandLine [] (before.length + 2) rest.length (by omega)
  have front : ((List.range' 0 (before.length + 1)).map
      fun index => some (Argument.commandLine index)).length = options.i - 1 := by
    rw [List.length_map, List.length_range', index]
    omega
  have argc : commandLine.arguments.length + 1 - options.i + 1 =
      ([some (Argument.commandLine 0)] ++ (List.range' (before.length + 2) rest.length).map
        fun index => some (Argument.commandLine index)).length := by
    simp only [List.length_append, List.length_map, List.length_range', List.length_singleton]
    omega
  have named := store_entry
    ((List.range' 0 (before.length + 1)).map fun index => some (Argument.commandLine index))
    ((List.range' (before.length + 2) rest.length).map
      (fun index => some (Argument.commandLine index)) ++ [none])
    (some (Argument.commandLine (before.length + 1))) (some (Argument.commandLine 0))
  have loaded := load_split
    ((List.range' 0 (before.length + 1)).map fun index => some (Argument.commandLine index))
    ([some (Argument.commandLine 0)] ++ (List.range' (before.length + 2) rest.length).map
      fun index => some (Argument.commandLine index)) [none]
  rw [List.append_assoc, ← List.append_assoc [_]] at named
  rw [libraryArguments, if_pos has, given]
  simp only [argv, ← front, named, argc, loaded, Option.bind_eq_bind, Option.bind_some]
  rw [List.singleton_append, List.mapM_cons, readRest, behindWords]
  rfl

end Arguments

/-! ## The name -/

theorem take_clientId_iff (id : List UInt8) :
    id.take maxClientIdLength = (ascii "0").take maxClientIdLength ↔ id = ascii "0" := by
  constructor
  · intro same
    rcases id with _ | ⟨byte, _ | ⟨second, id⟩⟩
    · cases same
    · exact same
    · cases same
  · exact fun same => same ▸ rfl

theorem serviceName_zero : serviceName (ascii "0") = some none :=
  rfl

/-- The name of another client is stored behind the base, where two bytes are left. -/
theorem serviceName_other {id : List UInt8} (other : id ≠ ascii "0") :
    serviceName id =
      (store (ascii "slot" ++ [0, 0]) 4 (id.take maxServiceNameLength ++ [0])).map some := by
  have differs : ¬ id.take maxClientIdLength = (ascii "0").take maxClientIdLength :=
    fun same => other ((take_clientId_iff id).mp same)
  have copied : strncpy maxServiceNameLength rilServiceNameBase = ascii "slot" ++ [0, 0] := by
    decide
  have base : Memory.cString (ascii "slot" ++ [0, 0]) 0 = some (ascii "slot") := by
    decide
  have length : (ascii "slot").length = 4 := by
    decide
  rw [serviceName, if_neg differs, copied]
  simp only [base, length, Option.bind_eq_bind, Option.bind_some]
  cases store (ascii "slot" ++ [0, 0]) 4 (id.take maxServiceNameLength ++ [0]) with
  | none => rfl
  | some block => rfl

theorem serviceName_long {id : List UInt8} (other : id ≠ ascii "0") (long : ¬ id.length < 2) :
    serviceName id = none := by
  have outside : ¬ 4 + (id.take maxServiceNameLength ++ [0]).length ≤
      (ascii "slot" ++ [0, 0]).length := by
    rw [List.length_append, List.length_take]
    simp [maxServiceNameLength, ascii]
    omega
  rw [serviceName_other other, store_eq_none outside]
  rfl

theorem serviceName_short {id : List UInt8} (other : id ≠ ascii "0") (short : id.length < 2)
    (plain : 0 ∉ id) :
    ∃ block, serviceName id = some (some block) ∧
      Memory.cString block 0 = some (rilServiceNameBase ++ id) := by
  rw [serviceName_other other]
  rcases id with _ | ⟨byte, _ | ⟨second, id⟩⟩
  · exact ⟨_, rfl, by decide⟩
  · have text : 0 ∉ rilServiceNameBase ++ [byte] := by
      have base : 0 ∉ rilServiceNameBase := by decide
      exact fun among => (List.mem_append.mp among).elim base plain
    exact ⟨_, rfl, cString_split text [] []⟩
  · exact absurd short (by simp)

theorem serviceName_isSome_iff (id : List UInt8) :
    (serviceName id).isSome ↔ (id ≠ ascii "0" → id.length < 2) := by
  by_cases zero : id = ascii "0"
  · rw [zero, serviceName_zero]
    exact iff_of_true rfl fun other => absurd rfl other
  · by_cases short : id.length < 2
    · refine iff_of_true ?_ fun _ => short
      rw [serviceName_other zero, Option.isSome_map, store_isSome_iff, List.length_append,
        List.length_take]
      simp [maxServiceNameLength, ascii]
      omega
    · rw [serviceName_long zero short]
      exact iff_of_false Bool.false_ne_true fun fits => short (fits zero)

theorem cString_of_serviceName {id block : List UInt8} (plain : 0 ∉ id)
    (named : serviceName id = some (some block)) :
    Memory.cString block 0 = some (rilServiceNameBase ++ id) := by
  by_cases zero : id = ascii "0"
  · rw [zero, serviceName_zero] at named
    cases named
  · by_cases short : id.length < 2
    · obtain ⟨stored, isStored, read⟩ := serviceName_short zero short plain
      rw [isStored, Option.some.injEq, Option.some.injEq] at named
      exact named ▸ read
    · rw [serviceName_long zero short] at named
      cases named

/-! ## The start -/

section Start

variable {size : Nat} {device : Device size} {commandLine : CommandLine} {line : OptionLine}

/-- The functions are given what there is for the library. -/
theorem startLibrary_of_reaches {options : RildOptions} (path : options.rilLibPath = line.path)
    (reaches : ReachesStart device line) (name : Option (List UInt8)) :
    ∃ calls : List (List UInt8) → List (VendorFunction × List (List UInt8)),
      (∀ given, ∀ call ∈ calls given, call.2 = given) ∧
        startLibrary device commandLine options name =
          (libraryArguments device commandLine options).map fun given =>
            ⟨name, calls given, .sleepLoop⟩ := by
  obtain ⟨found, library, isLibrary, starts⟩ := reaches
  have chosen : ¬ (options.rilLibPath = none ∧
      device.libPath.get (ascii "/vendor/lib/mtk-ril.so") = []) := by
    rintro ⟨without, empty⟩
    exact found (path ▸ without) empty
  have exported : ¬ (library.rilInitSocket = false ∧ library.rilInit = false) := by
    rintro ⟨noSocket, noInit⟩
    rcases starts with socket | init
    · exact Bool.false_ne_true (noSocket.symm.trans socket)
    · exact Bool.false_ne_true (noInit.symm.trans init)
  refine ⟨fun given => (if library.rilInitSocket then .rilInitSocket else .rilInit, given) ::
    if library.rilSapInit then [(.rilSapInit, given)] else [], ?_, ?_⟩
  · intro given call among
    rcases List.mem_cons.mp among with rfl | sap
    · rfl
    · split at sap
      · rw [List.mem_singleton.mp sap]
      · cases sap
  · rw [startLibrary, if_neg chosen, path, isLibrary]
    simp only [if_neg exported]
    cases libraryArguments device commandLine options with
    | none => rfl
    | some given => rfl

theorem startLibrary_of_not_reaches {options : RildOptions} (path : options.rilLibPath = line.path)
    (stays : ¬ ReachesStart device line) (name : Option (List UInt8)) :
    ∃ ending, startLibrary device commandLine options name = some ⟨name, [], ending⟩ := by
  rw [startLibrary, path]
  split
  case isTrue => exact ⟨_, rfl⟩
  case isFalse found =>
    cases isLibrary : device.library line.path with
    | none => exact ⟨_, rfl⟩
    | some library =>
        have without : library.rilInitSocket = false ∧ library.rilInit = false := by
          rw [← Bool.not_eq_true, ← Bool.not_eq_true, ← not_or]
          intro starts
          exact stays ⟨fun none empty => found ⟨none, empty⟩, library, isLibrary, starts⟩
        exact ⟨_, if_pos without⟩

/-- The options that are read of a line. -/
def OptionLine.read (line : OptionLine) : RildOptions :=
  ⟨1 + 2 * line.options.length + line.libArgs.toList.length, line.path, line.client,
    line.libArgs.isSome⟩

theorem rildMain_words (ready : device.mtkInit ≠ -1)
    (arguments : commandLine.arguments = line.words) :
    rildMain device commandLine =
      if line.client.any (fun clientId => maxRilds ≤ atoi clientId) then some ⟨none, [], .exit 0⟩
      else (serviceName (line.client.getD (ascii "0"))).bind
        (startLibrary device commandLine line.read) := by
  have reads : readOptions ⟨1, none, none, false⟩ line.words = some line.read := by
    rw [readOptions_words, Option.or_none, Option.or_none, Bool.or_false]
    rfl
  rw [rildMain, if_neg ready, arguments, reads]
  rfl

theorem libraryArguments_read (arguments : commandLine.arguments = line.words) :
    libraryArguments device commandLine line.read =
      if line.libArgs = none → (line.given device).length < maxLibArgs then
        some (commandLine.program :: line.given device)
      else none := by
  cases behind : line.libArgs with
  | none =>
      have without : line.read.hasLibArgs = false := by
        rw [OptionLine.read, behind]
        rfl
      simp only [libraryArguments_property without behind, forall_const]
  | some rest =>
      have has : line.read.hasLibArgs = true := by
        rw [OptionLine.read, behind]
        rfl
      have index : line.read.i = 1 + 2 * line.options.length + 1 := by
        rw [OptionLine.read, behind]
        rfl
      rw [libraryArguments_words arguments behind has index, if_pos nofun]

/-- Whether the client is refused. -/
theorem refused_iff :
    line.client.any (fun clientId => maxRilds ≤ atoi clientId) = true ↔
      ¬ ∀ id ∈ line.client, atoi id < maxRilds := by
  cases line.client with
  | none => simp
  | some id => simp

theorem startLibrary_isSome_iff (arguments : commandLine.arguments = line.words)
    (name : Option (List UInt8)) :
    (startLibrary device commandLine line.read name).isSome ↔
      (ReachesStart device line → line.libArgs = none →
        (line.given device).length < maxLibArgs) := by
  by_cases reaches : ReachesStart device line
  · obtain ⟨calls, -, started⟩ :=
      @startLibrary_of_reaches _ device commandLine line line.read rfl reaches name
    rw [started, Option.isSome_map, libraryArguments_read arguments]
    split
    case isTrue fits => exact iff_of_true rfl fun _ => fits
    case isFalse full => exact iff_of_false Bool.false_ne_true fun fits => full (fits reaches)
  · obtain ⟨ending, started⟩ :=
      @startLibrary_of_not_reaches _ device commandLine line line.read rfl reaches name
    rw [started]
    exact iff_of_true rfl fun reached => absurd reached reaches

theorem rildMain_isSome_iff (ready : device.mtkInit ≠ -1)
    (arguments : commandLine.arguments = line.words) :
    (rildMain device commandLine).isSome ↔ StartFits device line := by
  rw [rildMain_words ready arguments]
  by_cases accepted : ∀ id ∈ line.client, atoi id < maxRilds
  · rw [if_neg fun refused => refused_iff.mp refused accepted]
    have named : (serviceName (line.client.getD (ascii "0"))).isSome ↔
        ∀ id ∈ line.client, id ≠ ascii "0" → id.length < 2 := by
      rw [serviceName_isSome_iff]
      cases line.client with
      | none => simp
      | some id => simp
    refine (Transition.bind_isSome_iff named fun name _ =>
      startLibrary_isSome_iff arguments name).trans ?_
    constructor
    · rintro ⟨name, words⟩
      exact ⟨fun id among _ => name id among, fun behind _ reaches => words reaches behind⟩
    · rintro ⟨name, words⟩
      exact ⟨fun id among => name id among (accepted id among),
        fun reaches behind => words behind accepted reaches⟩
  · rw [if_pos (refused_iff.mpr accepted)]
    refine iff_of_true rfl ⟨?_, fun _ all => absurd all accepted⟩
    intro id among within
    refine absurd (fun other alsoAmong => ?_) accepted
    obtain rfl := Option.mem_unique among alsoAmong
    exact within

theorem plain_client (arguments : commandLine.arguments = line.words) :
    0 ∉ line.client.getD (ascii "0") := by
  cases isClient : line.client with
  | none => decide
  | some id =>
      obtain ⟨option, occurs, isId⟩ := List.mem_filterMap.mp (List.mem_of_getLast? isClient)
      refine commandLine.plain id ?_
      rw [arguments]
      refine List.mem_append_left _ (List.mem_flatMap.mpr ⟨option, occurs, ?_⟩)
      cases option with
      | library path => cases isId
      | client other =>
          cases isId
          exact List.mem_cons_of_mem _ (List.mem_singleton_self id)

/-- What a start that goes through has done. -/
theorem start_of_rildMain {start : Start} (ready : device.mtkInit ≠ -1)
    (arguments : commandLine.arguments = line.words)
    (started : rildMain device commandLine = some start) :
    (∀ call ∈ start.calls, call.2 = commandLine.program :: line.given device) ∧
      ∀ name ∈ start.serviceName,
        Memory.cString name 0 = some (rilServiceNameBase ++ line.client.getD (ascii "0")) := by
  rw [rildMain_words ready arguments] at started
  split at started
  case isTrue =>
    cases started
    exact ⟨nofun, nofun⟩
  case isFalse =>
    obtain ⟨name, named, startedLibrary⟩ := Option.bind_eq_some_iff.mp started
    have nameRight : ∀ block ∈ name,
        Memory.cString block 0 = some (rilServiceNameBase ++ line.client.getD (ascii "0")) := by
      intro block isName
      rw [Option.mem_def.mp isName] at named
      exact cString_of_serviceName (plain_client arguments) named
    by_cases reaches : ReachesStart device line
    · obtain ⟨calls, same, isStart⟩ :=
        @startLibrary_of_reaches _ device commandLine line line.read rfl reaches name
      rw [isStart, libraryArguments_read arguments] at startedLibrary
      obtain ⟨given, isGiven, rfl⟩ := Option.map_eq_some_iff.mp startedLibrary
      split at isGiven
      case isTrue =>
        cases isGiven
        exact ⟨same _, nameRight⟩
      case isFalse => cases isGiven
    · obtain ⟨ending, isStart⟩ :=
        @startLibrary_of_not_reaches _ device commandLine line line.read rfl reaches name
      rw [isStart] at startedLibrary
      cases startedLibrary
      exact ⟨nofun, nameRight⟩

/-- A start is as it is to be exactly when the command line and the property fit. -/
theorem startsExactly_iff (device : Device size) (commandLine : CommandLine) :
    StartsExactly device commandLine ↔
      (device.mtkInit ≠ -1 → ∀ line : OptionLine, commandLine.arguments = line.words →
        StartFits device line) := by
  constructor
  · rintro ⟨start, started, -⟩ ready line arguments
    rw [← rildMain_isSome_iff ready arguments, started]
    rfl
  · intro fits
    by_cases ready : device.mtkInit = -1
    · exact ⟨_, if_pos ready, fun _ _ => ⟨nofun, nofun⟩⟩
    · by_cases readable : ∃ line : OptionLine, commandLine.arguments = line.words
      · obtain ⟨line, arguments⟩ := readable
        obtain ⟨start, started⟩ := Option.isSome_iff_exists.mp
          ((rildMain_isSome_iff ready arguments).mpr (fits ready line arguments))
        exact ⟨start, started, fun other words => start_of_rildMain ready words started⟩
      · have usage : readOptions ⟨1, none, none, false⟩ commandLine.arguments = none := by
          rw [Option.eq_none_iff_forall_ne_some]
          exact fun read reads => readable (exists_optionLine _ reads)
        refine ⟨⟨none, [], .exit 1⟩, ?_, fun line words => absurd ⟨line, words⟩ readable⟩
        rw [rildMain, if_neg ready, usage]

end Start

/-- Sixteen words -/
def sixteenWords : List UInt8 :=
  ascii "a b c d e f g h i j k l m n o p"

theorem sixteenWords_plain : 0 ∉ sixteenWords := by
  decide

theorem sixteenWords_fits : sixteenWords.length < 92 := by
  decide

theorem noPath_plain : (0 : UInt8) ∉ ([] : List UInt8) :=
  List.not_mem_nil

theorem noPath_fits : ([] : List UInt8).length < 92 :=
  Nat.succ_pos 91

/-- A device without another path, whose property has sixteen words -/
def sixteenWordsDevice : Device 92 where
  mtkInit := 0
  libPath := ⟨[], noPath_plain, noPath_fits⟩
  libArgs := ⟨sixteenWords, sixteenWords_plain, sixteenWords_fits⟩
  dlopen _ := some ⟨true, false, false⟩

/-- The last word is stored behind the array. -/
theorem start_sixteenWords :
    ¬ StartsExactly sixteenWordsDevice ⟨ascii "rild", [], List.forall_mem_nil _⟩ := by
  rintro ⟨start, started, -⟩
  have fails :
      rildMain sixteenWordsDevice ⟨ascii "rild", [], List.forall_mem_nil _⟩ = none := by
    decide +kernel
  rw [fails] at started
  cases started

end X3Hal.Ril
