import X3Hal.Storage.KeyNames

/-!
# Persistent storage

`get` and `set` on a directory with one file for each key.  A value is written to a temporary
file, the old file is deleted and the temporary one takes its name.  How the file operations
end is chosen by the environment.
-/

namespace X3Hal.Storage

abbrev Bytes := List UInt8

def maxKeyLen : Nat := 64

def maxValueLen : Nat := 4096

/-- The files of the directory. -/
abbrev Directory := Units → Option Bytes

/-- How a file operation ends. -/
inductive Outcome
  | succeeds
  | fails
  | throws
  deriving DecidableEq, Repr

/-- What the file operations of one call of `set` do. -/
structure FileOperations where
  /-- `isSupported` -/
  supported : Bool
  /-- What `createTempFile` puts behind the key; it may throw. -/
  tempMiddle : Option Units
  copy : Outcome
  /-- What is left in the temporary file by a copy that does not succeed. -/
  copyLeft : Option Bytes
  delete : Outcome
  rename : Outcome
  deriving DecidableEq

variable (digest : List UInt8 → List UInt8)

/-- Reading an empty file gives -1 for its length, with which the write to the stream throws. -/
def readFile (content : Bytes) : Option Bytes :=
  if content = [] then none else some (content.take maxValueLen)

/-- `get` of a key that is not null -/
def get (supported : Bool) (key : Units) (files : Directory) : Option Bytes :=
  if supported = false ∨ maxKeyLen < key.length then none
  else (files (encode digest key)).bind readFile

/-- The temporary file of a value, with its name; the prefix of its name has three characters
at least.  Without a name the call returns false. -/
def writeTemp (operations : FileOperations) (key : Units) (buffer : Bytes) (files : Directory) :
    Directory × Option Units :=
  if key.length < 3 then (files, none)
  else
    match operations.tempMiddle with
    | none => (files, none)
    | some middle =>
        match operations.copy with
        | .succeeds =>
            (Function.update files (tempName key middle) (some buffer), some (tempName key middle))
        | .fails | .throws =>
            (Function.update files (tempName key middle) operations.copyLeft, none)

/-- The old file is deleted; `false` is an exception. -/
def deleteProp (operations : FileOperations) (prop : Units) (files : Directory) :
    Directory × Bool :=
  match files prop, operations.delete with
  | none, _ => (files, true)
  | some _, .succeeds => (Function.update files prop none, true)
  | some _, .fails => (files, true)
  | some _, .throws => (files, false)

/-- The temporary file takes the name; `false` is an exception. -/
def renameTemp (operations : FileOperations) (tmp prop : Units) (files : Directory) :
    Directory × Bool :=
  match operations.rename with
  | .succeeds => (Function.update (Function.update files tmp none) prop (files tmp), true)
  | .fails => (files, true)
  | .throws => (files, false)

/-- `set` of a key that is not null: neither the result of `delete` nor that of `renameTo` is
looked at. -/
def set (operations : FileOperations) (key : Units) (buffer : Option Bytes) (files : Directory) :
    Directory × Bool :=
  if operations.supported = false ∨ maxKeyLen < key.length ∨
      buffer.any (maxValueLen < ·.length) then (files, false)
  else
    match buffer with
    | none => deleteProp operations (encode digest key) files
    | some buffer =>
        let (written, tmp?) := writeTemp operations key buffer files
        match tmp? with
        | none => (written, false)
        | some tmp =>
            let (deleted, finished) := deleteProp operations (encode digest key) written
            if finished then renameTemp operations tmp (encode digest key) deleted
            else (deleted, false)

/-- `createTempFile` makes a file that did not exist. -/
def FileOperations.Possible (operations : FileOperations) (key : Units) (files : Directory) :
    Prop :=
  ∀ middle ∈ operations.tempMiddle, files (tempName key middle) = none

instance (operations : FileOperations) (key : Units) (files : Directory) :
    Decidable (operations.Possible key files) :=
  inferInstanceAs (Decidable (∀ middle ∈ operations.tempMiddle, _))

section DeleteProp

variable (operations : FileOperations) (prop : Units) (files : Directory)

/-- Only the file itself is deleted. -/
theorem deleteProp_of_ne {other : Units} (apart : other ≠ prop) :
    (deleteProp operations prop files).1 other = files other := by
  unfold deleteProp
  cases files prop with
  | none => rfl
  | some content =>
      cases operations.delete with
      | succeeds => exact Function.update_of_ne apart _ _
      | fails => rfl
      | throws => rfl

theorem deleteProp_finished :
    (deleteProp operations prop files).2 = true ↔
      (files prop ≠ none → operations.delete ≠ .throws) := by
  unfold deleteProp
  cases files prop with
  | none => simp
  | some content => cases operations.delete <;> simp

end DeleteProp

end X3Hal.Storage
