import Mathlib.Data.List.Induction
import Mathlib.Tactic.Common

/-!
# Parcels

A parcel is written value by value and read from its start; each value has a kind.  What a program
reads from a parcel that holds given values is derived by one rule for each read.
-/

namespace X3Hal.Remote

variable {Kind : Type} {Value : Kind → Type} {absent : (kind : Kind) → Value kind}

/-- A value with its kind. -/
abbrev Item (Value : Kind → Type) : Type :=
  (kind : Kind) × Value kind

/-- A library of parcels.  A read behind the end gives the absent value of its kind. -/
structure ParcelLib (Value : Kind → Type) (absent : (kind : Kind) → Value kind) where
  Parcel : Type
  empty : Parcel
  write : (kind : Kind) → Value kind → Parcel → Parcel
  read : (kind : Kind) → Parcel → Value kind × Parcel
  /-- The values that are written and not read yet. -/
  Holds : Parcel → List (Item Value) → Prop
  holds_empty : Holds empty []
  holds_write {parcel : Parcel} {items : List (Item Value)} (kind : Kind) (value : Value kind) :
    Holds parcel items → Holds (write kind value parcel) (items ++ [⟨kind, value⟩])
  read_value {parcel : Parcel} {kind : Kind} {value : Value kind} {items : List (Item Value)} :
    Holds parcel (⟨kind, value⟩ :: items) →
      (read kind parcel).1 = value ∧ Holds (read kind parcel).2 items
  read_absent {parcel : Parcel} (kind : Kind) :
    Holds parcel [] → (read kind parcel).1 = absent kind

namespace ParcelLib

variable {lib : ParcelLib Value absent} {α β : Type}

/-- Values written one after another. -/
def writeAll (lib : ParcelLib Value absent) (items : List (Item Value)) : lib.Parcel :=
  items.foldl (fun parcel item => lib.write item.1 item.2 parcel) lib.empty

theorem holds_writeAll (items : List (Item Value)) : lib.Holds (lib.writeAll items) items := by
  induction items using List.reverseRecOn with
  | nil => exact lib.holds_empty
  | append_singleton items item ih =>
      rw [writeAll, List.foldl_append]
      exact lib.holds_write item.1 item.2 ih

/-- A program that reads a parcel. -/
abbrev Reading (lib : ParcelLib Value absent) (α : Type) : Type :=
  StateM lib.Parcel α

/-- Read the next value. -/
def next (lib : ParcelLib Value absent) (kind : Kind) : lib.Reading (Value kind) :=
  lib.read kind

/-- What a program reads. -/
def readBy (program : lib.Reading α) (parcel : lib.Parcel) : α :=
  (program.run parcel).1

/-- A program reads its result from every parcel that holds the values. -/
def Reads (program : lib.Reading α) (items : List (Item Value)) (result : α) : Prop :=
  ∀ parcel, lib.Holds parcel items → readBy program parcel = result

theorem reads_pure (items : List (Item Value)) (result : α) :
    lib.Reads (pure result) items result := by
  intro parcel holds
  rfl

/-- The first read takes the first value. -/
theorem reads_next {rest : Value kind → lib.Reading α} {value : Value kind}
    {items : List (Item Value)} {result : α} (later : Reads (rest value) items result) :
    Reads (lib.next kind >>= rest) (⟨kind, value⟩ :: items) result := by
  intro parcel holds
  obtain ⟨taken, left⟩ := lib.read_value holds
  have reads := later _ left
  rw [← taken] at reads
  exact reads

/-- The last read of a program. -/
theorem reads_last (kind : Kind) (value : Value kind) (items : List (Item Value)) :
    Reads (lib.next kind) (⟨kind, value⟩ :: items) value := by
  intro parcel holds
  exact (lib.read_value holds).1

/-- A read behind the end takes the absent value. -/
theorem reads_absent (kind : Kind) : Reads (lib.next kind) [] (absent kind) := by
  intro parcel holds
  exact lib.read_absent kind holds

/-- What a program reads from the values that were written. -/
theorem Reads.writeAll {program : lib.Reading α} {items : List (Item Value)} {result : α}
    (reads : Reads program items result) : readBy program (lib.writeAll items) = result :=
  reads _ (holds_writeAll items)

/-- What a program reads from an empty parcel. -/
theorem Reads.empty {program : lib.Reading α} {result : α} (reads : Reads program [] result) :
    readBy program lib.empty = result :=
  reads _ lib.holds_empty

end ParcelLib

/-- Parcels that are the lists of their values; a value of another kind stops the reads. -/
def listParcels [DecidableEq Kind] (Value : Kind → Type) (absent : (kind : Kind) → Value kind) :
    ParcelLib Value absent where
  Parcel := List (Item Value)
  empty := []
  write := fun kind value parcel => parcel ++ [⟨kind, value⟩]
  read := fun kind parcel =>
    match parcel with
    | [] => (absent kind, [])
    | item :: rest =>
        if same : item.1 = kind then (same ▸ item.2, rest) else (absent kind, item :: rest)
  Holds := fun parcel items => parcel = items
  holds_empty := rfl
  holds_write := by
    rintro parcel items kind value rfl
    rfl
  read_value := by
    rintro parcel kind value items rfl
    simp
  read_absent := by
    rintro parcel kind rfl
    rfl

end X3Hal.Remote
