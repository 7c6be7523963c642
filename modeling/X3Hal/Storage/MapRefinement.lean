import Mathlib.Logic.Equiv.Basic
import X3Hal.Registry.NamedMap
import X3Hal.Storage.PersistentStorage
import X3Hal.Transition.Core

/-!
# The storage as a map

A call of `set` acts on the files as on a map just if no file operation that it does not look
at fails; under that condition the storage is a map in every run.
-/

namespace X3Hal.Storage

open Registry (MapCall MapAnswer HoldsMap replay replayCall)
open Transition (System History)

/-! ## One call -/

/-- A change of a map: it is made if the call returns true, and else nothing changes and
the value was not in place before. -/
def ActsAsMap (prop : Units) (value : Option Bytes) (files : Directory)
    (result : Directory × Bool) :
    Prop :=
  if result.2 then result.1 = Function.update files prop value
  else result.1 = files ∧ files prop ≠ value

/-- Every file operation on the way to the new value succeeds; a file that is not deleted is
replaced. -/
structure Stores (operations : FileOperations) (key prop : Units) (files : Directory) : Prop where
  supported : operations.supported = true
  long : 3 ≤ key.length
  temp : operations.tempMiddle ≠ none
  copy : operations.copy = .succeeds
  delete : files prop ≠ none → operations.delete ≠ .throws
  rename : operations.rename = .succeeds

/-- The call ends before it has changed a file. -/
inductive EndsEarly (operations : FileOperations) (key : Units) : Prop
  | unsupported (unsupported : operations.supported = false)
  | short (short : key.length < 3)
  | noTemp (noTemp : operations.tempMiddle = none)
  | noCopy (noCopy : operations.copy ≠ .succeeds) (removed : operations.copyLeft = none)

/-- The condition for `set` to act as on a map. -/
def SetRight (operations : FileOperations) (key prop : Units) (files : Directory) :
    Option Bytes → Prop
  | some buffer =>
      Stores operations key prop files ∨ EndsEarly operations key ∧ files prop ≠ some buffer
  | none =>
      if operations.supported then files prop ≠ none → operations.delete ≠ .fails
      else files prop ≠ none

section Set

variable (digest : List UInt8 → List UInt8) {operations : FileOperations} {key : Units}
  {files : Directory} {buffer : Bytes}

theorem EndsEarly.not_stores (early : EndsEarly operations key) (prop : Units)
    (files : Directory) :
    ¬ Stores operations key prop files := by
  intro stores
  cases early with
  | unsupported unsupported => exact absurd (stores.supported.symm.trans unsupported) (by decide)
  | short short => exact absurd stores.long (Nat.not_le.mpr short)
  | noTemp noTemp => exact stores.temp noTemp
  | noCopy noCopy removed => exact noCopy stores.copy

theorem set_early (early : EndsEarly operations key) (possible : operations.Possible key files) :
    set digest operations key (some buffer) files = (files, false) := by
  rw [set]
  split
  case isTrue => rfl
  case isFalse inDomain =>
    rw [not_or] at inDomain
    have written : writeTemp operations key buffer files = (files, none) := by
      rw [writeTemp]
      cases early with
      | unsupported unsupported => exact absurd unsupported inDomain.1
      | short short => rw [if_pos short]
      | noTemp noTemp => rw [noTemp, ite_self]
      | noCopy noCopy removed =>
          split
          case isTrue => rfl
          case isFalse =>
            cases temp : operations.tempMiddle with
            | none => rfl
            | some middle =>
                have fresh : Function.update files (tempName key middle) none = files := by
                  rw [← possible middle temp, Function.update_eq_self]
                cases copied : operations.copy with
                | succeeds => exact absurd copied noCopy
                | fails => simp only [removed, fresh]
                | throws => simp only [removed, fresh]
    simp only [written]

section Written

variable {middle : Units} (supported : operations.supported = true)
  (keyFits : key.length ≤ maxKeyLen) (fits : buffer.length ≤ maxValueLen) (long : 3 ≤ key.length)
  (temp : operations.tempMiddle = some middle)

include supported keyFits fits long temp

/-- A copy that stops leaves its file. -/
theorem set_notCopied (notCopied : operations.copy ≠ .succeeds) :
    set digest operations key (some buffer) files =
      (Function.update files (tempName key middle) operations.copyLeft, false) := by
  have inDomain : ¬ (operations.supported = false ∨ maxKeyLen < key.length ∨
      (some buffer).any (maxValueLen < ·.length)) := by
    rw [supported]
    simp [keyFits, fits]
  rw [set, if_neg inDomain, writeTemp, if_neg (Nat.not_lt.mpr long), temp]
  cases copied : operations.copy with
  | succeeds => exact absurd copied notCopied
  | fails => rfl
  | throws => rfl

theorem set_copied (copied : operations.copy = .succeeds) :
    set digest operations key (some buffer) files =
      if (deleteProp operations (encode digest key)
          (Function.update files (tempName key middle) (some buffer))).2 then
        renameTemp operations (tempName key middle) (encode digest key)
          (deleteProp operations (encode digest key)
            (Function.update files (tempName key middle) (some buffer))).1
      else
        ((deleteProp operations (encode digest key)
          (Function.update files (tempName key middle) (some buffer))).1, false) := by
  have inDomain : ¬ (operations.supported = false ∨ maxKeyLen < key.length ∨
      (some buffer).any (maxValueLen < ·.length)) := by
    rw [supported]
    simp [keyFits, fits]
  rw [set, if_neg inDomain, writeTemp, if_neg (Nat.not_lt.mpr long), temp, copied]

end Written

/-- A result with the temporary file is that of no call on a map. -/
theorem not_actsAsMap_of_left {prop tmp : Units} {value : Option Bytes}
    {result : Directory × Bool} (apart : tmp ≠ prop) (fresh : files tmp = none)
    (left : result.1 tmp ≠ none) : ¬ ActsAsMap prop value files result := by
  intro acts
  rw [ActsAsMap] at acts
  split at acts
  · rw [acts, Function.update_of_ne apart] at left
    exact left fresh
  · rw [acts.1] at left
    exact left fresh

/-- The temporary file takes the name, or it is left behind. -/
theorem renameTemp_actsAsMap_iff {prop tmp : Units} {deleted : Directory} (apart : tmp ≠ prop)
    (fresh : files tmp = none)
    (written : ∀ other, other ≠ prop →
      deleted other = Function.update files tmp (some buffer) other) :
    ActsAsMap prop (some buffer) files (renameTemp operations tmp prop deleted) ↔
      operations.rename = .succeeds := by
  have inTemp : deleted tmp = some buffer := by rw [written tmp apart, Function.update_self]
  have left : deleted tmp ≠ none := by
    rw [inTemp]
    exact Option.some_ne_none buffer
  constructor
  · intro acts
    by_contra notRenamed
    rw [renameTemp] at acts
    cases renamed : operations.rename with
    | succeeds => exact notRenamed renamed
    | fails =>
        rw [renamed] at acts
        exact not_actsAsMap_of_left apart fresh left acts
    | throws =>
        rw [renamed] at acts
        exact not_actsAsMap_of_left apart fresh left acts
  · intro renamed
    rw [renameTemp, renamed, ActsAsMap, if_pos rfl, inTemp]
    funext other
    dsimp only
    by_cases isProp : other = prop
    · rw [isProp, Function.update_self, Function.update_self]
    · rw [Function.update_of_ne isProp, Function.update_of_ne isProp]
      by_cases isTemp : other = tmp
      · rw [isTemp, Function.update_self, fresh]
      · rw [Function.update_of_ne isTemp, written other isProp, Function.update_of_ne isTemp]

theorem set_some_iff (keyFits : key.length ≤ maxKeyLen) (fits : buffer.length ≤ maxValueLen)
    (possible : operations.Possible key files) :
    ActsAsMap (encode digest key) (some buffer) files
        (set digest operations key (some buffer) files) ↔
      SetRight operations key (encode digest key) files (some buffer) := by
  by_cases early : EndsEarly operations key
  · rw [set_early digest early possible]
    constructor
    · exact fun acts => .inr ⟨early, acts.2⟩
    · rintro (stores | ⟨-, differs⟩)
      · exact absurd stores (early.not_stores _ _)
      · exact ⟨rfl, differs⟩
  · have supported : operations.supported = true :=
      eq_true_of_ne_false fun unsupported => early (.unsupported unsupported)
    have long : 3 ≤ key.length := Nat.not_lt.mp fun short => early (.short short)
    rcases Option.ne_none_iff_exists'.mp (fun noTemp => early (.noTemp noTemp)) with ⟨middle, temp⟩
    have fresh := possible middle temp
    have apart := tempName_ne_encode digest key middle key
    have storesOnly : SetRight operations key (encode digest key) files (some buffer) ↔
        Stores operations key (encode digest key) files := by
      constructor
      · rintro (stores | ⟨ends, -⟩)
        · exact stores
        · exact absurd ends early
      · exact .inl
    rw [storesOnly]
    by_cases copied : operations.copy = .succeeds
    · rw [set_copied digest supported keyFits fits long temp copied]
      have written : Function.update files (tempName key middle) (some buffer)
          (encode digest key) = files (encode digest key) :=
        Function.update_of_ne (Ne.symm apart) _ _
      have finished := deleteProp_finished operations (encode digest key)
        (Function.update files (tempName key middle) (some buffer))
      have others := fun other => @deleteProp_of_ne operations (encode digest key)
        (Function.update files (tempName key middle) (some buffer)) other
      rw [written] at finished
      by_cases deletes : files (encode digest key) ≠ none → operations.delete ≠ .throws
      · rw [if_pos (finished.mpr deletes), renameTemp_actsAsMap_iff apart fresh others]
        constructor
        · intro renamed
          exact ⟨supported, long, by rw [temp]; exact Option.some_ne_none middle, copied, deletes,
            renamed⟩
        · exact fun stores => stores.rename
      · rw [if_neg (deletes ∘ finished.mp)]
        constructor
        · intro acts
          have left : (deleteProp operations (encode digest key)
              (Function.update files (tempName key middle) (some buffer))).1
                (tempName key middle) ≠ none := by
            rw [others _ apart, Function.update_self]
            exact Option.some_ne_none buffer
          exact absurd acts (not_actsAsMap_of_left apart fresh left)
        · exact fun stores => absurd stores.delete deletes
    · have left : operations.copyLeft ≠ none := fun removed => early (.noCopy copied removed)
      rw [set_notCopied digest supported keyFits fits long temp copied]
      constructor
      · intro acts
        have leftInTemp : Function.update files (tempName key middle) operations.copyLeft
            (tempName key middle) ≠ none := by
          rwa [Function.update_self]
        exact absurd acts (not_actsAsMap_of_left apart fresh leftInTemp)
      · exact fun stores => absurd stores.copy copied

theorem set_none_iff (keyFits : key.length ≤ maxKeyLen) :
    ActsAsMap (encode digest key) none files (set digest operations key none files) ↔
      SetRight operations key (encode digest key) files none := by
  rw [SetRight, set]
  cases supported : operations.supported with
  | false =>
      rw [if_pos (.inl rfl), if_neg Bool.false_ne_true, ActsAsMap, if_neg Bool.false_ne_true]
      exact and_iff_right rfl
  | true =>
      have inDomain : ¬ (true = false ∨ maxKeyLen < key.length ∨
          (none : Option Bytes).any (maxValueLen < ·.length)) := by
        simp [keyFits]
      rw [if_neg inDomain, if_pos rfl, deleteProp, ActsAsMap]
      cases content : files (encode digest key) with
      | none => simp [← content]
      | some buffer =>
          cases operations.delete with
          | succeeds => simp
          | fails =>
              have kept : files ≠ Function.update files (encode digest key) none := by
                intro same
                rw [same, Function.update_self] at content
                exact Option.some_ne_none buffer content.symm
              simp [kept]
          | throws => simp

/-- A call of `set` acts as on a map just in these cases. -/
theorem set_actsAsMap_iff {value : Option Bytes} (keyFits : key.length ≤ maxKeyLen)
    (fits : ∀ buffer ∈ value, buffer.length ≤ maxValueLen)
    (possible : operations.Possible key files) :
    ActsAsMap (encode digest key) value files (set digest operations key value files) ↔
      SetRight operations key (encode digest key) files value := by
  cases value with
  | none => exact set_none_iff digest keyFits
  | some buffer => exact set_some_iff digest keyFits (fits buffer rfl) possible

end Set

/-- The condition for `get` to return the value: an empty one reads as none. -/
structure GetRight (supported : Bool) (prop : Units) (files : Directory) : Prop where
  supported : files prop ≠ none → supported = true
  nonempty : files prop ≠ some []

theorem get_eq_iff (digest : List UInt8 → List UInt8) {supported : Bool} {key : Units}
    {files : Directory} (keyFits : key.length ≤ maxKeyLen)
    (fits : ∀ content ∈ files (encode digest key), content.length ≤ maxValueLen) :
    get digest supported key files = files (encode digest key) ↔
      GetRight supported (encode digest key) files := by
  cases content : files (encode digest key) with
  | none =>
      constructor
      · intro
        exact ⟨fun something => absurd content something,
          by rw [content]; exact (Option.some_ne_none []).symm⟩
      · intro
        rw [get, content, Option.bind_none, ite_self]
  | some buffer =>
      have whole : buffer.take maxValueLen = buffer := List.take_of_length_le (fits buffer content)
      cases supported with
      | false =>
          constructor
          · intro read
            rw [get, if_pos (.inl rfl)] at read
            cases read
          · intro right
            have isSupported := right.supported (by rw [content]; exact Option.some_ne_none buffer)
            cases isSupported
      | true =>
          rw [get, if_neg (by simp [keyFits]), content, Option.bind_some, readFile, whole]
          constructor
          · intro read
            refine ⟨fun _ => rfl, ?_⟩
            rw [content]
            rintro ⟨⟩
            cases read
          · intro right
            have nonempty : buffer ≠ [] := by
              rintro rfl
              exact right.nonempty content
            rw [if_neg nonempty]

/-! ## Runs -/

/-- A call with what its file operations do. -/
inductive StorageCall
  | get (key : Units) (supported : Bool)
  | set (key : Units) (buffer : Option Bytes) (operations : FileOperations)

namespace StorageCall

def call : StorageCall → MapCall Units Bytes
  | .get key _ => .get key
  | .set key buffer _ => .set key buffer

def key (call : StorageCall) : Units :=
  call.call.key

/-- A key of at most `MAX_KEY_LEN` characters and a value of at most `MAX_VALUE_LEN` bytes. -/
def InDomain : StorageCall → Prop
  | .get key _ => key.length ≤ maxKeyLen
  | .set key buffer _ =>
      key.length ≤ maxKeyLen ∧ ∀ content ∈ buffer, content.length ≤ maxValueLen

end StorageCall

/-- The storage under calls of `get` and `set`; the directory is empty at first. -/
def storageSystem (digest : List UInt8 → List UInt8) :
    System Directory StorageCall (MapAnswer Bytes) where
  Init files := files = fun _ => none
  step files
    | .get key supported => some (files, [.found (get digest supported key files)])
    | .set key buffer operations =>
        if operations.Possible key files then
          some ((set digest operations key buffer files).1,
            [.done (set digest operations key buffer files).2])
        else none

theorem step_set {digest : List UInt8 → List UInt8} {operations : FileOperations} {key : Units}
    {files : Directory} (possible : operations.Possible key files) (buffer : Option Bytes) :
    (storageSystem digest).step files (.set key buffer operations) =
      some ((set digest operations key buffer files).1,
        [.done (set digest operations key buffer files).2]) := by
  rw [storageSystem]
  dsimp only
  rw [if_pos possible]

/-- The calls with their answers. -/
def answered (history : History StorageCall (MapAnswer Bytes)) :
    List (MapCall Units Bytes × MapAnswer Bytes) :=
  history.flatMap fun step => step.2.map fun answer => (step.1.call, answer)

def keysUsed (history : History StorageCall (MapAnswer Bytes)) : List Units :=
  history.events.map StorageCall.key

/-- Every call is answered as by a map, whose values are in the files of their keys, and no
other file is left. -/
def RefinesMap (digest : List UInt8 → List UInt8) (history : History StorageCall (MapAnswer Bytes))
    (files : Directory) : Prop :=
  ∃ values, replay (answered history) = some values ∧
    (∀ key ∈ keysUsed history, files (encode digest key) = values key) ∧
      ∀ name, files name ≠ none → ∃ key, name = encode digest key

/-- No key that was used before has the UTF-8 text of another one, and the call is right in the
state of the files. -/
structure CallRight (digest : List UInt8 → List UInt8)
    (history : History StorageCall (MapAnswer Bytes)) (files : Directory) (call : StorageCall) :
    Prop where
  apart : ∀ other ∈ keysUsed history, utf8Bytes other = utf8Bytes call.key → other = call.key
  right : match call with
    | .get key supported => GetRight supported (encode digest key) files
    | .set key buffer operations => SetRight operations key (encode digest key) files buffer

/-- Keys of whole characters never share a text. -/
theorem apart_of_wellFormed {history : History StorageCall (MapAnswer Bytes)} {call : StorageCall}
    (earlier : ∀ other ∈ keysUsed history, WellFormed other) (wellFormed : WellFormed call.key) :
    ∀ other ∈ keysUsed history, utf8Bytes other = utf8Bytes call.key → other = call.key :=
  fun other used => utf8Bytes_injOn (earlier other used) wellFormed

theorem answered_snoc (history : History StorageCall (MapAnswer Bytes)) (call : StorageCall)
    (answer : MapAnswer Bytes) :
    answered (history ++ [(call, [answer])]) = answered history ++ [(call.call, answer)] := by
  simp [answered]

theorem keysUsed_snoc (history : History StorageCall (MapAnswer Bytes)) (call : StorageCall)
    (out : List (MapAnswer Bytes)) :
    keysUsed (history ++ [(call, out)]) = keysUsed history ++ [call.key] := by
  simp [keysUsed]

/-- What a run keeps. -/
structure KeepsMap (digest : List UInt8 → List UInt8)
    (history : History StorageCall (MapAnswer Bytes)) (files : Directory)
    (values : Units → Option Bytes) : Prop where
  replayed : replay (answered history) = some values
  holds : HoldsMap (encode digest) (keysUsed history) values files
  fits : ∀ name, ∀ content ∈ files name, content.length ≤ maxValueLen

section Step

variable {digest : List UInt8 → List UInt8} (injective : Function.Injective digest)
  {history : History StorageCall (MapAnswer Bytes)} {files : Directory}
  {values : Units → Option Bytes} (keeps : KeepsMap digest history files values) {key : Units}

include injective keeps

theorem KeepsMap.get {supported : Bool} (inDomain : key.length ≤ maxKeyLen)
    (right : CallRight digest history files (.get key supported)) :
    KeepsMap digest
      (history ++ [(.get key supported, [.found (Storage.get digest supported key files)])]) files
      values := by
  have apart : ∀ other ∈ keysUsed history, encode digest other = encode digest key → other = key :=
    fun other used shared => right.apart other used ((encode_eq_iff injective).mp shared)
  have read := (get_eq_iff digest inDomain (keeps.fits _)).mpr right.right
  rw [keeps.holds.slots_name apart] at read
  constructor
  · rw [answered_snoc, Registry.replay_snoc, keeps.replayed, Option.bind_some, read]
    exact if_pos rfl
  · rw [keysUsed_snoc]
    exact keeps.holds.use apart
  · exact keeps.fits

theorem KeepsMap.set {buffer : Option Bytes} {operations : FileOperations}
    (inDomain : (StorageCall.set key buffer operations).InDomain)
    (possible : operations.Possible key files)
    (right : CallRight digest history files (.set key buffer operations)) :
    ∃ after, KeepsMap digest
      (history ++ [(.set key buffer operations,
        [.done (Storage.set digest operations key buffer files).2])])
      (Storage.set digest operations key buffer files).1 after := by
  have apart : ∀ other ∈ keysUsed history, encode digest other = encode digest key → other = key :=
    fun other used shared => right.apart other used ((encode_eq_iff injective).mp shared)
  have acts := (set_actsAsMap_iff digest inDomain.1 inDomain.2 possible).mpr right.right
  rw [ActsAsMap] at acts
  cases done : (Storage.set digest operations key buffer files).2 with
  | true =>
      rw [done, if_pos rfl] at acts
      refine ⟨Function.update values key buffer, ?_, ?_, ?_⟩
      · rw [answered_snoc, Registry.replay_snoc, keeps.replayed]
        rfl
      · rw [keysUsed_snoc, acts]
        exact keeps.holds.set apart buffer
      · rw [acts]
        intro name content inFile
        by_cases isName : name = encode digest key
        · rw [isName, Function.update_self] at inFile
          exact inDomain.2 content inFile
        · rw [Function.update_of_ne isName] at inFile
          exact keeps.fits name content inFile
  | false =>
      rw [done, if_neg Bool.false_ne_true] at acts
      refine ⟨values, ?_, ?_, ?_⟩
      · rw [answered_snoc, Registry.replay_snoc, keeps.replayed, Option.bind_some]
        rw [keeps.holds.slots_name apart] at acts
        exact if_neg acts.2
      · rw [keysUsed_snoc, acts.1]
        exact keeps.holds.use apart
      · rw [acts.1]
        exact keeps.fits

end Step

/-- While the calls are right in the state of the files, the storage is a map. -/
theorem storage_refines_map {digest : List UInt8 → List UInt8}
    (injective : Function.Injective digest) {history : History StorageCall (MapAnswer Bytes)}
    {files : Directory}
    (run : (storageSystem digest).Run
      (fun history files call => call.InDomain ∧ CallRight digest history files call)
      history files) :
    RefinesMap digest history files := by
  have keeps : ∃ values, KeepsMap digest history files values := by
    apply run.invariant fun history files => ∃ values, KeepsMap digest history files values
    · rintro files rfl
      exact ⟨fun _ => none, rfl, HoldsMap.empty _,
        fun _ content inFile => absurd inFile (Option.not_mem_none content)⟩
    · rintro history files call after out ⟨values, keeps⟩ ⟨inDomain, right⟩ stepped
      cases call with
      | get key supported =>
          cases stepped
          exact ⟨values, keeps.get injective inDomain right⟩
      | set key buffer operations =>
          by_cases possible : operations.Possible key files
          · rw [step_set possible, Option.some.injEq, Prod.mk.injEq] at stepped
            rcases stepped with ⟨rfl, rfl⟩
            exact keeps.set injective inDomain possible right
          · simp [storageSystem, possible] at stepped
  rcases keeps with ⟨values, keeps⟩
  refine ⟨values, keeps.replayed, keeps.holds.value, ?_⟩
  intro name something
  rcases keeps.holds.named name something with ⟨key, -, isName⟩
  exact ⟨key, isName.symm⟩

/-! ## An empty value -/

/-- All file operations succeed. -/
def succeeding : FileOperations where
  supported := true
  tempMiddle := some [49]
  copy := .succeeds
  copyLeft := none
  delete := .succeeds
  rename := .succeeds

/-- The key `"key"` -/
def sampleKey : Units :=
  [107, 101, 121]

/-- SHA-256 of the key's text -/
def sampleHash : Bytes :=
  [0x2c, 0x70, 0xe1, 0x2b, 0x7a, 0x06, 0x46, 0xf9, 0x22, 0x79, 0xf4, 0x27, 0xc7, 0xb3, 0x8e, 0x73,
    0x34, 0xd8, 0xe5, 0x38, 0x9c, 0xff, 0x16, 0x7a, 0x1d, 0xc3, 0x0e, 0x73, 0xf8, 0x26, 0xb6, 0x83]

/-- An injective digest with SHA-256's value at the key -/
def sampleDigest : List UInt8 → List UInt8 :=
  Equiv.swap (utf8Bytes sampleKey) sampleHash

theorem run_set {digest : List UInt8 → List UInt8}
    {guard : System.Guard Directory StorageCall (MapAnswer Bytes)} (key : Units)
    (buffer : Option Bytes)
    (guarded : guard [] (fun _ => none) (.set key buffer succeeding)) :
    (storageSystem digest).Run guard
      ([] ++ [(.set key buffer succeeding,
        [.done (set digest succeeding key buffer fun _ => none).2])])
      (set digest succeeding key buffer fun _ => none).1 := by
  have possible : succeeding.Possible key fun _ => none := fun _ _ => rfl
  exact .next (.start rfl) guarded (step_set possible buffer)

theorem run_get {digest : List UInt8 → List UInt8}
    {guard : System.Guard Directory StorageCall (MapAnswer Bytes)}
    {history : History StorageCall (MapAnswer Bytes)} {files : Directory}
    (run : (storageSystem digest).Run guard history files) (key : Units)
    (guarded : guard history files (.get key true)) :
    (storageSystem digest).Run guard
      (history ++ [(.get key true, [.found (get digest true key files)])]) files :=
  run.next guarded rfl

theorem storage_refines_map_oneByte :
    ∃ history files, (storageSystem sampleDigest).Run
          (fun history files call => call.InDomain ∧ CallRight sampleDigest history files call)
          history files ∧
      RefinesMap sampleDigest history files := by
  have stored : (storageSystem sampleDigest).Run
      (fun history files call => call.InDomain ∧ CallRight sampleDigest history files call) _ _ :=
    run_set sampleKey (some [1])
      ⟨⟨by decide, by decide⟩, ⟨fun _ used => absurd used List.not_mem_nil,
        .inl ⟨rfl, by decide, by decide, rfl, by decide, rfl⟩⟩⟩
  have short : sampleKey.length ≤ maxKeyLen := by decide
  have read := run_get stored sampleKey ⟨short, ⟨by decide, ⟨fun _ => rfl, by decide⟩⟩⟩
  exact ⟨_, _, read, storage_refines_map (Equiv.injective _) read⟩

/-- A key with the empty value reads as a key without a value. -/
theorem storage_not_map :
    ¬ ∀ digest : List UInt8 → List UInt8, Function.Injective digest →
      ∀ history files, (storageSystem digest).Run (fun _ _ call => call.InDomain) history files →
        RefinesMap digest history files := by
  intro refines
  have stored : (storageSystem sampleDigest).Run (fun _ _ call => call.InDomain) _ _ :=
    run_set sampleKey (some []) ⟨by decide, by decide⟩
  have short : sampleKey.length ≤ maxKeyLen := by decide
  have read := run_get stored sampleKey short
  rcases refines sampleDigest (Equiv.injective _) _ _ read with ⟨values, replayed, -⟩
  cases replayed

end X3Hal.Storage
