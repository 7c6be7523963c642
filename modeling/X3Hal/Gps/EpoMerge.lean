import X3Hal.Gps.Epo
import X3Hal.Transition.Justified

/-!
# The merged EPO file

As long as every piece that arrives is at least one satellite's record long and
is copied whole, and no other thread starts the download over while a piece is
under way, the merged file holds the pieces before the count, in order, whenever a
download begins and when the last one ends.
-/

namespace X3Hal.Gps

open X3Hal.Transition

/-- The bytes of the last download of a piece. -/
def lastPiece (outputs : List EpoOutput) (index : Nat) : Option (List UInt8) :=
  outputs.foldl (fun last output =>
    match output with
    | .downloaded other bytes => if other = index then some bytes else last
    | _ => last) none

/-- The first `count` pieces, concatenated. -/
def piecesMerged (outputs : List EpoOutput) (count : Nat) : List UInt8 :=
  (List.range count).flatMap fun index => (lastPiece outputs index).getD []

/-- The file consists of the first `count` pieces, each downloaded before. -/
def Merges (outputs : List EpoOutput) (count : Nat) (merged : Option (List UInt8)) : Prop :=
  (∀ index < count, (lastPiece outputs index).isSome) ∧
    merged.getD [] = piecesMerged outputs count

/-- At every head of the download loop and at every success, the merged file
consists of the pieces before the count. -/
def MergedInOrder : List EpoOutput → Prop :=
  Justified fun before output =>
    match output with
    | .head count merged | .completed count merged => Merges before count merged
    | .downloaded _ _ => True

/-- A piece that arrives is empty, or at least one satellite's record long and
copied whole. -/
def Attempt.Whole (attempt : Attempt) : Prop :=
  ∀ bytes, attempt.download = .ok bytes →
    bytes = [] ∧ attempt.openStart = true ∨
      mtkEpoOneSvSize ≤ bytes.length ∧ attempt.openMerged = true ∧ attempt.openPiece = true ∧
        ∀ chunk, copyBufSize ≤ attempt.accepted chunk

/-- Whether the EPO part of `mtk_gps_start` requests a download. -/
def StartRequest.asks (env : StartRequest) (s : Epo) : Bool :=
  let s := downloadEpoEnable env.config s
  s.enable &&
    if s.merged = none then !env.epoFile || env.expired
    else ((env.nwData && env.nwConnected && s.downloadFailed ||
      (!env.nwConnected && s.downloadFailed)) || !s.downloadFailed) && env.expired

/-- A request for a download would mix up the pieces: one after the first is on its
way, or a piece is merged and not counted yet. -/
def EpoThread.PieceUnderWay (t : EpoThread) : Prop :=
  match t.phase with
  | .downloading _ => 0 < t.epo.fileCount
  | .merged _ _ => True
  | _ => False

/-- The first piece is merged and not counted yet, in a download that did not fail. -/
def EpoThread.FirstPieceMerged (t : EpoThread) : Prop :=
  match t.phase with
  | .merged _ _ => t.epo.fileCount = 0 ∧ t.epo.downloadFailed = false
  | _ => False

/-- Every piece that arrives is whole, no start requests a download while a piece is
under way, and the message that the daemon took the file does not come between the
merge of the first piece and its count. -/
def wholePieces : System.Guard EpoThread EpoEvent EpoOutput :=
  fun _ t event =>
    match event with
    | .downloadEnds attempt => attempt.Whole
    | .start env => t.PieceUnderWay → env.asks t.epo = false
    | .updateFileDone => ¬t.FirstPieceMerged
    | _ => True

/-! ## Outputs that grow -/

@[simp]
theorem lastPiece_append_head (outputs : List EpoOutput) (index count : Nat)
    (merged : Option (List UInt8)) :
    lastPiece (outputs ++ [.head count merged]) index = lastPiece outputs index := by
  simp [lastPiece]

@[simp]
theorem lastPiece_append_completed (outputs : List EpoOutput) (index count : Nat)
    (merged : Option (List UInt8)) :
    lastPiece (outputs ++ [.completed count merged]) index = lastPiece outputs index := by
  simp [lastPiece]

@[simp]
theorem lastPiece_append_downloaded (outputs : List EpoOutput) (index other : Nat)
    (bytes : List UInt8) :
    lastPiece (outputs ++ [.downloaded other bytes]) index =
      if other = index then some bytes else lastPiece outputs index := by
  simp [lastPiece]

theorem piecesMerged_succ (outputs : List EpoOutput) (count : Nat) :
    piecesMerged outputs (count + 1) =
      piecesMerged outputs count ++ (lastPiece outputs count).getD [] := by
  simp [piecesMerged, List.range_succ]

theorem piecesMerged_congr {first second : List EpoOutput} {count : Nat}
    (same : ∀ index < count, lastPiece first index = lastPiece second index) :
    piecesMerged first count = piecesMerged second count := by
  induction count with
  | zero => rfl
  | succ count ih =>
      rw [piecesMerged_succ, piecesMerged_succ, same count (Nat.lt_succ_self count),
        ih fun index below => same index (Nat.lt_succ_of_lt below)]

theorem Merges.congr {first second : List EpoOutput} {count : Nat} {merged : Option (List UInt8)}
    (merges : Merges first count merged)
    (same : ∀ index < count, lastPiece second index = lastPiece first index) :
    Merges second count merged := by
  constructor
  · intro index below
    rw [same index below]
    exact merges.1 index below
  · rw [merges.2]
    exact piecesMerged_congr fun index below => (same index below).symm

theorem merges_zero_none (outputs : List EpoOutput) : Merges outputs 0 none :=
  ⟨fun _ below => absurd below (Nat.not_lt_zero _), rfl⟩

/-- Downloading the next piece and appending it merges one more. -/
theorem Merges.snoc {outputs : List EpoOutput} {count : Nat} {merged : Option (List UInt8)}
    (merges : Merges outputs count merged) (bytes : List UInt8) :
    Merges (outputs ++ [.downloaded count bytes]) (count + 1)
      (some (merged.getD [] ++ bytes)) := by
  constructor
  · intro index below
    rw [lastPiece_append_downloaded]
    split
    · rfl
    · exact merges.1 index (by omega)
  · rw [piecesMerged_succ, Option.getD_some, merges.2, lastPiece_append_downloaded, if_pos rfl,
      Option.getD_some]
    congr 1
    refine piecesMerged_congr fun index below => ?_
    rw [lastPiece_append_downloaded, if_neg (by omega)]

/-- An empty last piece adds nothing. -/
theorem Merges.of_empty {outputs : List EpoOutput} {count : Nat} {merged : Option (List UInt8)}
    (merges : Merges outputs (count + 1) merged) (empty : lastPiece outputs count = some []) :
    Merges outputs count merged := by
  constructor
  · intro index below
    exact merges.1 index (Nat.lt_succ_of_lt below)
  · have content := merges.2
    rw [piecesMerged_succ, empty, Option.getD_some, List.append_nil] at content
    exact content

/-! ## One download -/

/-- The thread works on a round of pieces: the merged file holds the pieces before
the count, and the piece before the count is on disk for its end time. -/
structure InRoundOf (outputs : List EpoOutput) (s : Epo) : Prop where
  bound : s.fileCount ≤ 9
  merges : Merges outputs s.fileCount s.merged
  previous : 0 < s.fileCount →
    ∃ bytes, s.piece (s.fileCount - 1) = some bytes ∧ mtkEpoOneSvSize ≤ bytes.length

/-- A piece is stored and merged behind the pieces before the count; it is empty or
long enough for its time. -/
structure StoredPiece (outputs : List EpoOutput) (attempt : Attempt) (s : Epo) : Prop where
  bound : s.fileCount ≤ 9
  named : s.fileName = some s.fileCount
  merges : Merges outputs (s.fileCount + 1) s.merged
  previous : 0 < s.fileCount →
    ∃ bytes, s.piece (s.fileCount - 1) = some bytes ∧ mtkEpoOneSvSize ≤ bytes.length
  piece : ∃ bytes, s.piece s.fileCount = some bytes ∧
    lastPiece outputs s.fileCount = some bytes ∧
    (bytes = [] ∧ attempt.openStart = true ∨ mtkEpoOneSvSize ≤ bytes.length)

/-- A round is under way or will be resumed. -/
def Epo.Active (s : Epo) : Prop :=
  s.dataUpdated = true ∨ s.downloadFailed = true

theorem copyChunks_eq {accepted : Nat → Nat} (whole : ∀ chunk, copyBufSize ≤ accepted chunk)
    {fuel chunk : Nat} {bytes : List UInt8} (enough : bytes.length ≤ fuel) :
    copyChunks accepted fuel chunk bytes = bytes := by
  induction fuel generalizing chunk bytes with
  | zero =>
      have empty : bytes = [] := List.length_eq_zero_iff.mp (by omega)
      rw [empty]
      rfl
  | succ fuel ih =>
      unfold copyChunks
      split
      · rename_i empty
        exact empty.symm
      · rename_i nonempty
        have positive : 0 < bytes.length := List.length_pos_iff.mpr nonempty
        have accept := whole chunk
        rw [ih (by rw [List.length_drop, copyBufSize]; omega),
          List.take_of_length_le (by rw [List.length_take]; omega), List.take_append_drop]

section Update

variable {libc : LibcTime} {attempt : Attempt} {s : Epo} {outputs : List EpoOutput}

/-- A whole piece is stored under its index and appended to the merged file. -/
theorem curlEasyDownloadEpo_ok {bytes : List UInt8} (round : InRoundOf outputs s)
    (named : s.fileName = some s.fileCount) (whole : attempt.Whole)
    (ok : attempt.download = .ok bytes) :
    ∃ merged, merged.getD [] = s.merged.getD [] ++ bytes ∧
      curlEasyDownloadEpo attempt s =
        (true,
          { s with piece := Function.update s.piece s.fileCount (some bytes), merged := merged },
          [.downloaded s.fileCount bytes]) := by
  have cleared : (if s.fileCount = 0 then none else s.merged).getD [] = s.merged.getD [] := by
    split
    · rename_i zero
      rw [round.merges.2, zero]
      rfl
    · rfl
  have copied :
      (if attempt.openPiece then copyChunks attempt.accepted bytes.length 0 bytes else []) =
        bytes ∧ (attempt.openMerged = false → bytes = []) := by
    rcases whole bytes ok with ⟨rfl, _⟩ | ⟨_, openMerged, openPiece, accepted⟩
    · simp [copyChunks]
    · rw [openPiece, openMerged, if_pos rfl, copyChunks_eq accepted le_rfl]
      simp
  cases opens : attempt.openMerged with
  | true =>
      refine ⟨some ((if s.fileCount = 0 then none else s.merged).getD [] ++ bytes), ?_, ?_⟩
      · rw [Option.getD_some, cleared]
      · simp only [curlEasyDownloadEpo, ok, named, opens, if_pos, copied.1]
        split <;> rfl
  | false =>
      refine ⟨if s.fileCount = 0 then none else s.merged, ?_, ?_⟩
      · rw [cleared, copied.2 opens, List.append_nil]
      · simp only [curlEasyDownloadEpo, ok, named, opens]
        by_cases zero : s.fileCount = 0 <;> simp [zero]

theorem pieceTime_failed_iff (read : List UInt8 → Option Int) (file : Option (List UInt8))
    (short : ∀ bytes, read bytes = none ↔ bytes.length < mtkEpoOneSvSize) :
    (pieceTime read file).2 = true ↔
      ∃ bytes, file = some bytes ∧ bytes.length < mtkEpoOneSvSize := by
  cases file with
  | none => simp [pieceTime]
  | some bytes =>
      cases found : read bytes with
      | none => simp [pieceTime, found, ← short]
      | some time =>
          have long := (short bytes).not.mp (by simp [found])
          simpa [pieceTime, found] using long

theorem pieceDataStart_eq_none_iff (bytes : List UInt8) :
    pieceDataStart libc bytes = none ↔ bytes.length < mtkEpoOneSvSize := by
  simp [pieceDataStart]

theorem pieceDataEnd_eq_none_iff (bytes : List UInt8) :
    pieceDataEnd libc bytes = none ↔ bytes.length < mtkEpoOneSvSize := by
  simp [pieceDataEnd]

/-- The check of the server's data either drops the merged file and the count, or
keeps them and reports a piece that is too short to read. -/
theorem epoServerDataIsChanged_cases (libc : LibcTime) (attempt : Attempt) (s : Epo) :
    ∃ after, (epoServerDataIsChanged libc attempt s = (true, after) ∧
        after.merged = none ∧ after.fileCount = 0) ∨
      (∃ failed, epoServerDataIsChanged libc attempt s = (failed, after) ∧
        after.merged = s.merged ∧ after.fileCount = s.fileCount ∧ after.piece = s.piece ∧
        (failed = true ↔
          (pieceTime (pieceDataStart libc) (openFile attempt.openStart s)).2 = true ∨
          0 < s.fileCount ∧ (pieceTime (pieceDataEnd libc) (openFile attempt.openEnd
            (downloadEpoFileName (s.fileCount - 1) s))).2 = true)) := by
  unfold epoServerDataIsChanged
  by_cases positive : 0 < s.fileCount
  · simp only [if_pos positive]
    split
    · exact ⟨_, .inl ⟨rfl, rfl, rfl⟩⟩
    · exact ⟨_, .inr ⟨_, rfl, rfl, rfl, rfl, by simp [positive]⟩⟩
  · simp only [if_neg positive, sub_self]
    exact ⟨_, .inr ⟨_, if_neg (by decide), rfl, rfl, rfl, by simp [positive]⟩⟩

/-- A state with the same merged file and count, in which the piece before the
count is still on disk, is in the same round. -/
theorem InRoundOf.congr {after : Epo} (round : InRoundOf outputs s)
    (fileCount : after.fileCount = s.fileCount) (merged : after.merged = s.merged)
    (piece : 0 < s.fileCount → after.piece (s.fileCount - 1) = s.piece (s.fileCount - 1)) :
    InRoundOf outputs after where
  bound := fileCount ▸ round.bound
  merges := by
    rw [fileCount, merged]
    exact round.merges
  previous := by
    rw [fileCount]
    intro positive
    rw [piece positive]
    exact round.previous positive

/-- A head changes no piece. -/
theorem InRoundOf.head (round : InRoundOf outputs s) (count : Nat) (merged : Option (List UInt8)) :
    InRoundOf (outputs ++ [.head count merged]) s where
  bound := round.bound
  merges := round.merges.congr fun index _ => lastPiece_append_head outputs index count merged
  previous := round.previous

/-- A state without a merged file and with no piece counted starts a round. -/
theorem inRoundOf_of_cleared (outputs : List EpoOutput) (merged : s.merged = none)
    (fileCount : s.fileCount = 0) : InRoundOf outputs s where
  bound := by omega
  merges := by
    rw [merged, fileCount]
    exact merges_zero_none outputs
  previous := by omega

/-- A piece that fails to arrive leaves the round as it was. -/
theorem epoFileUpdateHal_failed (round : InRoundOf outputs s)
    (named : s.fileName = some s.fileCount)
    (missed : ∀ bytes, attempt.download ≠ .ok bytes) :
    ∃ after, epoFileUpdateHal attempt s = (-1, after, []) ∧ InRoundOf outputs after := by
  cases ends : attempt.download with
  | noUrl =>
      refine ⟨_, by rw [epoFileUpdateHal, curlEasyDownloadEpo, ends]; rfl, ?_⟩
      exact round.congr rfl rfl fun _ => rfl
  | failed =>
      refine ⟨_, by rw [epoFileUpdateHal, curlEasyDownloadEpo, ends]; rfl, ?_⟩
      rw [named, unlinkPiece]
      exact round.congr rfl rfl fun positive => Function.update_of_ne (by omega) _ _
  | ok bytes => exact absurd ends (missed bytes)

/-- A whole piece that arrives is stored and merged. -/
theorem epoFileUpdateHal_ok {bytes : List UInt8} (round : InRoundOf outputs s)
    (named : s.fileName = some s.fileCount) (whole : attempt.Whole)
    (ok : attempt.download = .ok bytes) :
    ∃ after, epoFileUpdateHal attempt s = (0, after, [.downloaded s.fileCount bytes]) ∧
      StoredPiece (outputs ++ [.downloaded s.fileCount bytes]) attempt after := by
  obtain ⟨merged, content, curl⟩ := curlEasyDownloadEpo_ok round named whole ok
  refine ⟨{ s with piece := Function.update s.piece s.fileCount (some bytes), merged := merged },
    by rw [epoFileUpdateHal, curl]; rfl, ?_⟩
  have grown := round.merges.snoc bytes
  constructor
  · exact round.bound
  · exact named
  · exact ⟨grown.1, content.trans grown.2⟩
  · intro positive
    have earlier : s.fileCount - 1 ≠ s.fileCount := Nat.ne_of_lt (Nat.sub_one_lt_of_lt positive)
    have other : Function.update s.piece s.fileCount (some bytes) (s.fileCount - 1) =
        s.piece (s.fileCount - 1) := Function.update_of_ne earlier _ _
    show ∃ before, Function.update s.piece s.fileCount (some bytes) (s.fileCount - 1) =
      some before ∧ _
    rw [other]
    exact round.previous positive
  · refine ⟨bytes, Function.update_self _ _ _, ?_, ?_⟩
    · rw [lastPiece_append_downloaded, if_pos rfl]
    · rcases whole bytes ok with empty | ⟨long, _⟩
      · exact .inl empty
      · exact .inr long

/-- What the check of a merged piece comes to: the merged file is dropped, or the
piece was empty and is not counted, or it is to be counted. -/
theorem epoServerDataIsChanged_stored (libc : LibcTime) (stored : StoredPiece outputs attempt s) :
    ∃ after, (epoServerDataIsChanged libc attempt s = (true, after) ∧ InRoundOf outputs after) ∨
      (epoServerDataIsChanged libc attempt s = (false, after) ∧
        after.merged = s.merged ∧ after.fileCount = s.fileCount ∧
        ∃ bytes, after.piece s.fileCount = some bytes ∧ mtkEpoOneSvSize ≤ bytes.length) := by
  obtain ⟨bytes, onDisk, last, sized⟩ := stored.piece
  have startFile : openFile attempt.openStart s =
      if attempt.openStart then some bytes else none := by
    rw [openFile, stored.named, Option.bind_some, onDisk]
  obtain ⟨after, ⟨eq, noMerged, noCount⟩ | ⟨failed, eq, keepsMerged, keepsCount, keepsPiece,
    short⟩⟩ := epoServerDataIsChanged_cases libc attempt s
  · exact ⟨after, .inl ⟨eq, inRoundOf_of_cleared _ noMerged noCount⟩⟩
  rw [pieceTime_failed_iff _ _ pieceDataStart_eq_none_iff,
    pieceTime_failed_iff _ _ pieceDataEnd_eq_none_iff, startFile] at short
  -- the piece before the count was counted, so it is long enough
  have endLong : ¬(0 < s.fileCount ∧ ∃ other, openFile attempt.openEnd
      (downloadEpoFileName (s.fileCount - 1) s) = some other ∧
      other.length < mtkEpoOneSvSize) := by
    rintro ⟨positive, other, opened, tooShort⟩
    obtain ⟨previous, before, long⟩ := stored.previous positive
    have bound := stored.bound
    unfold openFile at opened
    split at opened
    · have same : other = previous := by
        have small : s.fileCount - 1 ≤ 9 := by omega
        simp only [downloadEpoFileName, if_pos small, Option.bind_some, before,
          Option.some.injEq] at opened
        exact opened.symm
      rw [same] at tooShort
      omega
    · cases opened
  cases failed with
  | true =>
      have empty : bytes = [] := by
        obtain ⟨found, opened, tooShort⟩ := (short.mp rfl).resolve_right endLong
        split at opened
        · rcases sized with ⟨empty, _⟩ | long
          · exact empty
          · rw [Option.some.injEq] at opened
            rw [← opened] at tooShort
            omega
        · cases opened
      refine ⟨after, .inl ⟨eq, ?_, ?_, ?_⟩⟩
      · rw [keepsCount]
        exact stored.bound
      · rw [keepsMerged, keepsCount]
        exact stored.merges.of_empty (empty ▸ last)
      · rw [keepsCount, keepsPiece]
        exact stored.previous
  | false =>
      refine ⟨after, .inr ⟨eq, keepsMerged, keepsCount, bytes, ?_, ?_⟩⟩
      · rw [keepsPiece]
        exact onDisk
      · rcases sized with ⟨empty, opens⟩ | long
        · have tooShort : mtkEpoOneSvSize > ([] : List UInt8).length := by decide
          have failed := short.mpr (.inl ⟨bytes, by rw [opens]; rfl, empty ▸ tooShort⟩)
          cases failed
        · exact long

/-- Counting a merged piece keeps the round: its success is in order, and if the round
goes on the merged file matches the new count. -/
theorem countPiece_round (libc : LibcTime) (stored : StoredPiece outputs attempt s)
    (ordered : MergedInOrder outputs) :
    MergedInOrder (outputs ++ (countPiece libc attempt s).2) ∧
      ((countPiece libc attempt s).1.Active →
        InRoundOf (outputs ++ (countPiece libc attempt s).2) (countPiece libc attempt s).1) := by
  obtain ⟨after, ⟨changed, roundAfter⟩ | ⟨unchanged, keepsMerged, keepsCount, onDisk⟩⟩ :=
    epoServerDataIsChanged_stored libc stored
  · simp only [countPiece, changed, if_true, List.append_nil]
    exact ⟨ordered, fun _ => roundAfter⟩
  · simp only [countPiece, unchanged, Bool.false_eq_true, if_false]
    split
    · rename_i more
      rw [List.append_nil]
      refine ⟨ordered, fun _ => ⟨?_, ?_, fun _ => ?_⟩⟩
      · exact Nat.le_of_lt_succ more.1
      · simpa only [keepsCount, keepsMerged] using stored.merges
      · simpa only [keepsCount, Nat.add_sub_cancel] using onDisk
    · refine ⟨?_, fun active => ?_⟩
      · rw [keepsCount, keepsMerged]
        exact justified_snoc_iff.mpr ⟨ordered, stored.merges⟩
      · simp [Epo.Active] at active

end Update

/-! ## The thread and the requests -/

/-- Heads and successes so far were in order, and a round that goes on is sound. -/
structure EpoInv (outputs : List EpoOutput) (s : Epo) : Prop where
  ordered : MergedInOrder outputs
  round : s.Active → InRoundOf outputs s

/-- What the thread relies on where it is. -/
def EpoThread.Sound (outputs : List EpoOutput) (t : EpoThread) : Prop :=
  match t.phase with
  | .downloading _ => InRoundOf outputs t.epo ∧ t.epo.fileName = some t.epo.fileCount
  | .merged _ attempt => StoredPiece outputs attempt t.epo
  | _ => t.epo.Active → InRoundOf outputs t.epo

/-- Heads and successes so far were in order, and the thread is sound. -/
structure ThreadInv (outputs : List EpoOutput) (t : EpoThread) : Prop where
  ordered : MergedInOrder outputs
  sound : t.Sound outputs

section Steps

variable (libc : LibcTime) {s after : Epo} {outputs : List EpoOutput}

/-- A step that keeps the files and the count and starts no round keeps the invariant. -/
theorem EpoInv.keep (inv : EpoInv outputs s) (merged : after.merged = s.merged)
    (fileCount : after.fileCount = s.fileCount) (piece : after.piece = s.piece)
    (active : after.Active → s.Active) : EpoInv outputs after where
  ordered := inv.ordered
  round isActive := (inv.round (active isActive)).congr fileCount merged fun _ => by rw [piece]

/-- A step that drops the merged file and the count keeps the invariant. -/
theorem EpoInv.clear (inv : EpoInv outputs s) (merged : after.merged = none)
    (fileCount : after.fileCount = 0) : EpoInv outputs after where
  ordered := inv.ordered
  round _ := inRoundOf_of_cleared outputs merged fileCount

/-- The next piece is named and its download begins. -/
theorem EpoInv.enterUpdate (inv : EpoInv outputs s) (active : s.Active) (caller : UpdateCaller) :
    ThreadInv (outputs ++ (enterUpdate caller s).2.2)
      ⟨(enterUpdate caller s).1, (enterUpdate caller s).2.1⟩ where
  ordered := justified_snoc_iff.mpr ⟨inv.ordered, (inv.round active).merges⟩
  sound := by
    have round := inv.round active
    refine ⟨(round.head s.fileCount s.merged).congr rfl rfl fun _ => rfl, ?_⟩
    show (if s.fileCount ≤ 9 then some s.fileCount else s.fileName) = some s.fileCount
    rw [if_pos round.bound]

theorem countRetries_inv (inv : EpoInv outputs s) (before : Nat) :
    EpoInv outputs (countRetries before s) := by
  unfold countRetries
  dsimp only
  generalize (if s.fileRetrying = s.fileCount then s.retryTime + 1 else 0) = times
  split
  · split
    · exact inv.keep rfl rfl rfl id
    · exact inv.keep rfl rfl rfl fun active => .inl (active.resolve_right (by simp))
  · exact inv

/-- The caller of an update goes on. -/
theorem updateReturns_inv (inv : EpoInv outputs s) (caller : UpdateCaller) :
    ThreadInv outputs ⟨(updateReturns caller s).1, (updateReturns caller s).2⟩ := by
  cases caller with
  | requested =>
      have returned : EpoInv outputs (if s.downloadFailed then { s with dataUpdated := false }
          else s) := by
        split
        · rename_i failed
          exact inv.keep rfl rfl rfl fun _ => .inr failed
        · exact inv
      exact ⟨returned.ordered, returned.round⟩
  | resumed before =>
      have counted := countRetries_inv inv before
      exact ⟨counted.ordered, counted.round⟩

theorem wakeUp_inv (inv : EpoInv outputs s) (config : EpoConfig) :
    ThreadInv (outputs ++ (wakeUp config s).2.2) ⟨(wakeUp config s).1, (wakeUp config s).2.1⟩ := by
  have configured : EpoInv outputs (downloadEpoEnable config s) := inv.keep rfl rfl rfl id
  unfold wakeUp
  dsimp only
  split
  · rename_i updated
    have begun : EpoInv outputs { downloadEpoEnable config s with downloadFailed := false } :=
      configured.keep rfl rfl rfl fun _ => .inl updated
    exact begun.enterUpdate (.inl updated) .requested
  · rw [List.append_nil]
    exact ⟨configured.ordered, configured.round⟩

theorem downloadEnds_inv {attempt : Attempt} (ordered : MergedInOrder outputs)
    (round : InRoundOf outputs s) (named : s.fileName = some s.fileCount) (whole : attempt.Whole)
    (caller : UpdateCaller) :
    ThreadInv (outputs ++ (downloadEnds caller attempt s).2.2)
      ⟨(downloadEnds caller attempt s).1, (downloadEnds caller attempt s).2.1⟩ := by
  by_cases arrived : ∃ bytes, attempt.download = .ok bytes
  · obtain ⟨bytes, ok⟩ := arrived
    obtain ⟨stored, eq, sound⟩ := epoFileUpdateHal_ok round named whole ok
    simp only [downloadEnds, eq, lt_self_iff_false, if_false]
    exact ⟨justified_snoc_iff.mpr ⟨ordered, trivial⟩, sound⟩
  · obtain ⟨failed, eq, kept⟩ :=
      epoFileUpdateHal_failed round named fun bytes ok => arrived ⟨bytes, ok⟩
    simp only [downloadEnds, eq, Int.reduceNeg, Int.reduceLT, if_true, List.append_nil]
    exact updateReturns_inv ⟨ordered, fun _ => kept⟩ caller

theorem countMerged_inv {attempt : Attempt} (ordered : MergedInOrder outputs)
    (stored : StoredPiece outputs attempt s) (caller : UpdateCaller) :
    ThreadInv (outputs ++ (countMerged libc caller attempt s).2.2)
      ⟨(countMerged libc caller attempt s).1, (countMerged libc caller attempt s).2.1⟩ := by
  have counted := countPiece_round libc stored ordered
  exact updateReturns_inv ⟨counted.1, counted.2⟩ caller

theorem downloadResume_inv (inv : EpoInv outputs s) (view : ResumeView) :
    ThreadInv (outputs ++ (downloadResume view s).2.2)
      ⟨(downloadResume view s).1, (downloadResume view s).2.1⟩ := by
  unfold downloadResume
  split
  · rename_i resumes
    have failed : s.downloadFailed = true := by
      simp only [Bool.and_eq_true] at resumes
      exact resumes.2.1.2
    set start := if s.fileRetrying = 50 then { s with fileRetrying := s.fileCount } else s
      with startEq
    have same : start.merged = s.merged ∧ start.fileCount = s.fileCount ∧
        start.piece = s.piece ∧ start.downloadFailed = s.downloadFailed := by
      rw [startEq]
      split <;> exact ⟨rfl, rfl, rfl, rfl⟩
    have begun : EpoInv outputs start :=
      inv.keep same.1 same.2.1 same.2.2.1 fun _ => .inr failed
    dsimp only
    split
    · rw [List.append_nil]
      have cleared : EpoInv outputs { start with
          downloadFailed := false, fileCount := 0, dataUpdated := true, merged := none } :=
        begun.clear rfl rfl
      have counted := countRetries_inv cleared start.fileCount
      exact ⟨counted.ordered, counted.round⟩
    · exact begun.enterUpdate (.inr (same.2.2.2.trans failed)) (.resumed start.fileCount)
  · rw [List.append_nil]
    exact ⟨inv.ordered, inv.round⟩

theorem downloadOverWifi_inv (inv : EpoInv outputs s) (view : WifiView) :
    EpoInv outputs (downloadOverWifi view s) := by
  unfold downloadOverWifi
  split
  · exact inv.clear rfl rfl
  · exact inv

/-- A start requests a download, which drops the merged file and the count, or it
changes no more than the settings. -/
theorem startRequest_cases (env : StartRequest) (s : Epo) :
    (env.asks s = true ∧ (startRequest env s).merged = none ∧
        (startRequest env s).fileCount = 0) ∨
      (env.asks s = false ∧ startRequest env s = downloadEpoEnable env.config s) := by
  unfold StartRequest.asks startRequest
  dsimp only
  generalize downloadEpoEnable env.config s = configured
  cases configured.enable with
  | false => exact .inr ⟨rfl, rfl⟩
  | true =>
      by_cases absent : configured.merged = none
      · rw [if_pos absent, if_pos absent, if_pos rfl]
        cases env.epoFile <;> cases env.expired <;> simp [downloadEpo, absent]
      · rw [if_neg absent, if_neg absent, if_pos rfl]
        generalize (env.nwData && env.nwConnected && configured.downloadFailed ||
          (!env.nwConnected && configured.downloadFailed) || !configured.downloadFailed) = online
        cases online <;> cases env.expired <;> simp [downloadEpo]

theorem startRequest_fileName (env : StartRequest) (s : Epo) :
    (startRequest env s).fileName = s.fileName := by
  unfold startRequest
  dsimp only
  split_ifs <;> rfl

end Steps

section Events

variable (libc : LibcTime) {t : EpoThread} {outputs : List EpoOutput}

/-- A step of another thread that keeps the files, the count and what is under way. -/
theorem ThreadInv.keep {after : Epo} (inv : ThreadInv outputs t)
    (merged : after.merged = t.epo.merged) (fileCount : after.fileCount = t.epo.fileCount)
    (piece : after.piece = t.epo.piece) (fileName : after.fileName = t.epo.fileName)
    (active : after.Active → t.epo.Active) : ThreadInv outputs ⟨after, t.phase⟩ where
  ordered := inv.ordered
  sound := by
    have sound := inv.sound
    unfold EpoThread.Sound at sound ⊢
    cases phase : t.phase with
    | downloading caller =>
        rw [phase] at sound
        refine ⟨sound.1.congr fileCount merged fun _ => by rw [piece], ?_⟩
        show after.fileName = some after.fileCount
        rw [fileName, fileCount]
        exact sound.2
    | merged caller attempt =>
        rw [phase] at sound
        show StoredPiece outputs attempt after
        obtain ⟨bound, named, merges, previous, onDisk⟩ := sound
        rw [← fileCount] at bound named merges previous onDisk
        exact ⟨bound, fileName.trans named, merged ▸ merges, piece ▸ previous, piece ▸ onDisk⟩
    | asleep | resuming | overWifi =>
        rw [phase] at sound
        exact fun isActive =>
          (sound (active isActive)).congr fileCount merged fun _ => by rw [piece]

/-- A step of another thread that drops the merged file and the count while no piece is
under way. -/
theorem ThreadInv.clear {after : Epo} (inv : ThreadInv outputs t) (merged : after.merged = none)
    (fileCount : after.fileCount = 0) (fileName : after.fileName = t.epo.fileName)
    (idle : ¬t.PieceUnderWay) : ThreadInv outputs ⟨after, t.phase⟩ where
  ordered := inv.ordered
  sound := by
    have sound := inv.sound
    have cleared := inRoundOf_of_cleared outputs merged fileCount
    unfold EpoThread.Sound at sound ⊢
    unfold EpoThread.PieceUnderWay at idle
    cases phase : t.phase with
    | downloading caller =>
        rw [phase] at sound idle
        have first : t.epo.fileCount = 0 := Nat.eq_zero_of_not_pos idle
        refine ⟨cleared, ?_⟩
        show after.fileName = some after.fileCount
        rw [fileName, fileCount, ← first]
        exact sound.2
    | merged caller attempt =>
        rw [phase] at idle
        exact absurd trivial idle
    | asleep | resuming | overWifi => exact fun _ => cleared

/-- Every step with whole pieces and undisturbed downloads keeps the invariant. -/
theorem epoStep_inv {history : History EpoEvent EpoOutput} {event : EpoEvent} {after : EpoThread}
    {out : List EpoOutput} (inv : ThreadInv outputs t) (whole : wholePieces history t event)
    (stepped : epoStep libc t event = some (after, out)) : ThreadInv (outputs ++ out) after := by
  obtain ⟨s, phase⟩ := t
  cases event with
  | wakeUp config =>
      cases phase <;> simp only [epoStep, Option.map_some, Option.map_none, Option.some.injEq,
        Prod.mk.injEq, reduceCtorEq] at stepped
      obtain ⟨rfl, rfl⟩ := stepped
      exact wakeUp_inv ⟨inv.ordered, inv.sound⟩ config
  | downloadEnds attempt =>
      cases phase <;> simp only [epoStep, Option.map_some, Option.map_none, Option.some.injEq,
        Prod.mk.injEq, reduceCtorEq] at stepped
      obtain ⟨rfl, rfl⟩ := stepped
      exact downloadEnds_inv inv.ordered inv.sound.1 inv.sound.2 whole _
  | countMerged =>
      cases phase <;> simp only [epoStep, Option.map_some, Option.map_none, Option.some.injEq,
        Prod.mk.injEq, reduceCtorEq] at stepped
      obtain ⟨rfl, rfl⟩ := stepped
      exact countMerged_inv libc inv.ordered inv.sound _
  | resume view =>
      cases phase <;> simp only [epoStep, Option.map_some, Option.map_none, Option.some.injEq,
        Prod.mk.injEq, reduceCtorEq] at stepped
      obtain ⟨rfl, rfl⟩ := stepped
      exact downloadResume_inv ⟨inv.ordered, inv.sound⟩ view
  | overWifi view =>
      cases phase <;> simp only [epoStep, Option.map_some, Option.map_none, Option.some.injEq,
        Prod.mk.injEq, reduceCtorEq] at stepped
      obtain ⟨rfl, rfl⟩ := stepped
      rw [List.append_nil]
      have kept := downloadOverWifi_inv ⟨inv.ordered, inv.sound⟩ view
      exact ⟨kept.ordered, kept.round⟩
  | start env =>
      simp only [epoStep, Option.map_some, Option.some.injEq, Prod.mk.injEq] at stepped
      obtain ⟨rfl, rfl⟩ := stepped
      rw [List.append_nil]
      rcases startRequest_cases env s with ⟨asks, merged, fileCount⟩ | ⟨_, configured⟩
      · have idle : ¬EpoThread.PieceUnderWay ⟨s, phase⟩ := by
          intro underWay
          exact Bool.false_ne_true ((whole underWay).symm.trans asks)
        exact inv.clear merged fileCount (startRequest_fileName env s) idle
      · rw [configured]
        exact inv.keep rfl rfl rfl rfl id
  | updateFileDone =>
      simp only [epoStep, Option.map_some, Option.some.injEq, Prod.mk.injEq] at stepped
      obtain ⟨rfl, rfl⟩ := stepped
      rw [List.append_nil]
      split
      · rename_i done
        simp only [Bool.and_eq_true, Bool.not_eq_true', decide_eq_true_eq] at done
        refine inv.clear rfl done.2 rfl ?_
        intro underWay
        cases phase with
        | downloading caller =>
            have positive : 0 < s.fileCount := underWay
            exact absurd done.2 (Nat.ne_of_gt positive)
        | merged caller attempt => exact whole ⟨done.2, done.1⟩
        | asleep | resuming | overWifi => exact underWay
      · exact inv
  | retryAlarm =>
      simp only [epoStep, Option.map_some, Option.some.injEq, Prod.mk.injEq] at stepped
      obtain ⟨rfl, rfl⟩ := stepped
      rw [List.append_nil]
      exact inv.keep rfl rfl rfl rfl id

end Events

/-! ## Runs -/

/-- In every run whose pieces arrive whole and whose downloads are not started over
while a piece is under way, the merged file consists of the pieces before the count at
every head of the download loop and at every success. -/
theorem merged_in_order (libc : LibcTime) {history : History EpoEvent EpoOutput} {t : EpoThread}
    (run : (epoDownloads libc).Run wholePieces history t) : MergedInOrder history.outputs := by
  have inv : ThreadInv history.outputs t := by
    refine System.Run.invariant (fun history t => ThreadInv history.outputs t) ?_ ?_ run
    · rintro _ ⟨merged, piece, rfl⟩
      exact ⟨justified_nil, fun active => by simp [Epo.Active, Epo.fresh] at active⟩
    · intro history t event after out inv whole stepped
      rw [History.outputs_snoc]
      exact epoStep_inv libc inv whole stepped
  exact inv.ordered

/-! ## Runs on fixed pieces -/

/-- A piece that consists of one record of the first GPS hour. -/
def recordPiece (byte : UInt8) : List UInt8 :=
  List.replicate 4 0 ++ List.replicate (mtkEpoOneSvSize - 4) byte

/-- A download after which every file opens and every chunk is copied. -/
def attemptOf (download : Download) : Attempt where
  download := download
  openMerged := true
  openPiece := true
  openStart := true
  openEnd := true
  accepted _ := copyBufSize

theorem whole_attemptOf_recordPiece (byte : UInt8) :
    (attemptOf (.ok (recordPiece byte))).Whole := by
  intro bytes ok
  obtain rfl : recordPiece byte = bytes := by simpa [attemptOf] using ok
  exact .inr ⟨by simp [recordPiece, mtkEpoOneSvSize], rfl, rfl, fun _ => le_rfl⟩

/-- The EPO control file for `days` days of data. -/
def configOf (days : Int) : EpoConfig where
  epoEnable := some 1
  dwDays := some days
  epoWifiTrigger := some 0

/-- The view of a thread over mobile data with the session started. -/
def mobileData : ResumeView :=
  ⟨true, true, false, false⟩

/-- The view of a thread without wifi. -/
def noWifi : WifiView :=
  ⟨true, false, false⟩

/-- The request of a start that finds no EPO file at all. -/
def firstRequest : StartRequest where
  config := { epoEnable := some 1, dwDays := none, epoWifiTrigger := none }
  nwConnected := true
  nwData := true
  epoFile := false
  expired := false

/-- Two whole pieces for six days of data; a start finds the merged file in between. -/
theorem merged_in_order_two_pieces :
    ∃ history t, (epoDownloads .utc).Run wholePieces history t ∧
      .completed 2 (some (recordPiece 1 ++ recordPiece 2)) ∈ history.outputs ∧
      MergedInOrder history.outputs := by
  have run : (epoDownloads .utc).Run wholePieces [] ⟨Epo.fresh none fun _ => none, .asleep⟩ :=
    .start ⟨_, _, rfl⟩
  have run := run.fire (.start firstRequest) False.elim rfl
  have run := run.fire (.wakeUp (configOf 6)) trivial rfl
  have run := run.fire (.downloadEnds (attemptOf (.ok (recordPiece 1))))
    (whole_attemptOf_recordPiece 1) rfl
  have run := run.fire .countMerged trivial rfl
  have run := run.fire (.resume mobileData) trivial rfl
  have run := run.fire (.overWifi noWifi) trivial rfl
  have run := run.fire (.wakeUp (configOf 6)) trivial rfl
  have run := run.fire (.start firstRequest) (fun _ => by decide +kernel) rfl
  have run := run.fire (.downloadEnds (attemptOf (.ok (recordPiece 2))))
    (whole_attemptOf_recordPiece 2) rfl
  have run := run.fire .countMerged trivial rfl
  exact ⟨_, _, run, by decide +kernel, merged_in_order .utc run⟩

/-- Three pieces are wanted; the second one arrives with one byte first. -/
def shortPiece : List EpoEvent :=
  [.start firstRequest, .wakeUp (configOf 9), .downloadEnds (attemptOf (.ok (recordPiece 1))),
    .countMerged, .resume mobileData, .overWifi noWifi, .wakeUp (configOf 9),
    .downloadEnds (attemptOf (.ok [1])), .countMerged, .resume mobileData]

/-- A piece of one byte is merged, not counted and downloaded again: the merged file
holds it besides the piece counted. -/
theorem short_piece_stays_merged :
    ∃ history t, (epoDownloads .utc).Run System.free history t ∧
      ¬MergedInOrder history.outputs := by
  obtain ⟨history, t, run, shown⟩ :=
    System.exists_run_of_exec (epoDownloads .utc) System.free shortPiece
      (fun result => result.1.outputs) ⟨none, fun _ => none, rfl⟩ (by decide +kernel)
      (by decide +kernel : _ = some [.head 0 none, .downloaded 0 (recordPiece 1),
        .head 1 (some (recordPiece 1)), .downloaded 1 [1],
        .head 1 (some (recordPiece 1 ++ [1]))])
  refine ⟨history, t, run, fun ordered => ?_⟩
  rw [show history.outputs = _ from shown] at ordered
  have atHead := ordered.getElem 4 (by decide)
  exact absurd (congrArg List.length atHead.2) (by decide +kernel)

end X3Hal.Gps
