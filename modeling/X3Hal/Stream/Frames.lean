import Mathlib.Data.List.Basic

/-!
# Frames that end themselves

When a frame tells where it ends, whatever follows it, a reader splits any row of frames again.
-/

namespace X3Hal.Stream

universe u v

/-- A code of frames, with a reader that gives one frame and what is behind it. -/
structure Framing (Item : Type u) (Frame : Type v) where
  encode : Frame → List Item
  decode : List Item → Option (Frame × List Item)
  decode_encode : ∀ frame rest, decode (encode frame ++ rest) = some (frame, rest)
  encode_ne_nil : ∀ frame, encode frame ≠ []

namespace Framing

variable {Item : Type u} {Frame : Type v} (framing : Framing Item Frame)

def encodeAll (frames : List Frame) : List Item :=
  frames.flatMap framing.encode

/-- Read frames to the end, at most as many as the fuel allows. -/
def decodeFrom : Nat → List Item → Option (List Frame)
  | _, [] => some []
  | 0, _ :: _ => none
  | fuel + 1, item :: items =>
      match framing.decode (item :: items) with
      | some (frame, rest) => (decodeFrom fuel rest).map (frame :: ·)
      | none => none

/-- Read all of a stream; a frame has at least one item. -/
def decodeAll (items : List Item) : Option (List Frame) :=
  framing.decodeFrom items.length items

@[simp]
theorem encodeAll_nil : framing.encodeAll [] = [] :=
  rfl

@[simp]
theorem encodeAll_cons (frame : Frame) (frames : List Frame) :
    framing.encodeAll (frame :: frames) = framing.encode frame ++ framing.encodeAll frames :=
  rfl

variable {framing}

theorem decodeFrom_encodeAll {fuel : Nat} {frames : List Frame}
    (enough : (framing.encodeAll frames).length ≤ fuel) :
    framing.decodeFrom fuel (framing.encodeAll frames) = some frames := by
  induction frames generalizing fuel with
  | nil => cases fuel <;> rfl
  | cons frame frames ih =>
      rw [encodeAll_cons] at enough ⊢
      have decoded := framing.decode_encode frame (framing.encodeAll frames)
      cases code : framing.encode frame with
      | nil => exact absurd code (framing.encode_ne_nil frame)
      | cons item items =>
          rw [code, List.cons_append] at decoded enough
          rw [List.length_cons] at enough
          cases fuel with
          | zero => exact absurd enough (Nat.not_succ_le_zero _)
          | succ fuel =>
              have room : (framing.encodeAll frames).length ≤ fuel := by
                rw [List.length_append] at enough
                omega
              rw [List.cons_append, decodeFrom, decoded]
              dsimp only
              rw [ih room, Option.map_some]

/-- The reader gives back the frames that were written. -/
theorem decodeAll_encodeAll (frames : List Frame) :
    framing.decodeAll (framing.encodeAll frames) = some frames :=
  decodeFrom_encodeAll (Nat.le_refl _)

end Framing

end X3Hal.Stream
