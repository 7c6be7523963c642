import X3Hal.Gps.Time
import X3Hal.Transition.Core

/-!
# Downloading EPO data in pieces

The thread of `thread_epo_file_update` downloads the EPO data piece by piece,
appends each piece to the merged file `EPO_FILE_HAL`, and starts over when the
server's data changed.  A pass of the thread's loop is cut at its downloads and
before a piece is counted; other threads' requests may come at each cut.  Piece
files are known by their index: the series of names (`gps_epo_type`) is chosen
once, before the thread runs.
-/

namespace X3Hal.Gps

open X3Hal.Transition

/-- `MTK_EPO_ONE_SV_SIZE` -/
def mtkEpoOneSvSize : Nat := 72

/-- `buf_size` of the copy loop. -/
def copyBufSize : Nat := 256

/-- The seconds of a day, the gap at which the server's data counts as changed. -/
def daySeconds : Int := 24 * 60 * 60

/-- The files and variables of the download. -/
structure Epo where
  /-- `EPO_FILE_HAL` -/
  merged : Option (List UInt8)
  piece : Nat → Option (List UInt8)
  /-- the piece that `gps_epo_file_name` names -/
  fileName : Option Nat
  /-- `gps_epo_file_count` -/
  fileCount : Nat
  downloadFailed : Bool
  downloadRetry : Bool
  dataUpdated : Bool
  downloadDays : Nat
  enable : Bool
  wifiTrigger : Bool
  fileRetrying : Nat
  retryTime : Nat

/-- The variables' initial values; `merged` and `piece` are what the disk holds. -/
def Epo.fresh (merged : Option (List UInt8)) (piece : Nat → Option (List UInt8)) : Epo where
  merged := merged
  piece := piece
  fileName := none
  fileCount := 0
  downloadFailed := false
  downloadRetry := true
  dataUpdated := false
  downloadDays := 30
  enable := true
  wifiTrigger := false
  fileRetrying := 50
  retryTime := 0

/-- How the download of a piece ends. -/
inductive Download
  /-- `getEpoUrl` returned no address -/
  | noUrl
  | failed
  | ok (bytes : List UInt8)

/-- One call of `mtk_gps_epo_file_update` as the outside decides it. -/
structure Attempt where
  download : Download
  /-- `fopen(EPO_FILE_HAL, "at")` succeeds -/
  openMerged : Bool
  /-- `fopen` of the piece to copy succeeds -/
  openPiece : Bool
  /-- `open` of the new piece for its start time succeeds -/
  openStart : Bool
  /-- `open` of the piece before it for its end time succeeds -/
  openEnd : Bool
  /-- the bytes that `fwrite` takes of each chunk copied -/
  accepted : Nat → Nat

/-- What a run of the download shows. -/
inductive EpoOutput
  /-- `mtk_gps_epo_file_update` is entered -/
  | head (fileCount : Nat) (merged : Option (List UInt8))
  | downloaded (index : Nat) (bytes : List UInt8)
  /-- the last piece was merged as piece `fileCount - 1` -/
  | completed (fileCount : Nat) (merged : Option (List UInt8))
  deriving DecidableEq, Repr

/-- `gps_download_epo_file_name` -/
def downloadEpoFileName (count : Nat) (s : Epo) : Epo :=
  { s with fileName := if count ≤ 9 then some count else s.fileName }

def unlinkPiece (name : Option Nat) (s : Epo) : Epo :=
  match name with
  | none => s
  | some index => { s with piece := Function.update s.piece index none }

/-- The loops that name and unlink pieces. -/
def removePieces (indices : List Nat) (s : Epo) : Epo :=
  indices.foldl
    (fun s i => unlinkPiece (downloadEpoFileName i s).fileName (downloadEpoFileName i s))
    s

/-- The copy loop: each chunk goes through one `fwrite`. -/
def copyChunks (accepted : Nat → Nat) : Nat → Nat → List UInt8 → List UInt8
  | 0, _, _ => []
  | fuel + 1, chunk, bytes =>
      if bytes = [] then []
      else (bytes.take copyBufSize).take (accepted chunk) ++
        copyChunks accepted fuel (chunk + 1) (bytes.drop copyBufSize)

/-- `curl_easy_download_epo`: whether the download succeeded, and the state after it. -/
def curlEasyDownloadEpo (attempt : Attempt) (s : Epo) : Bool × Epo × List EpoOutput :=
  match attempt.download with
  | .noUrl => (false, s, [])
  | .failed => (false, unlinkPiece s.fileName s, [])
  | .ok bytes =>
      match s.fileName with
      | none => (false, s, [])
      | some index =>
          let stored := { s with piece := Function.update s.piece index (some bytes) }
          let cleared := if s.fileCount = 0 then { stored with merged := none } else stored
          let after :=
            if attempt.openMerged then
              let copied :=
                if attempt.openPiece then copyChunks attempt.accepted bytes.length 0 bytes else []
              { cleared with merged := some (cleared.merged.getD [] ++ copied) }
            else cleared
          (true, after, [.downloaded index bytes])

/-- `mtk_gps_epo_file_update_hal` -/
def epoFileUpdateHal (attempt : Attempt) (s : Epo) : Int × Epo × List EpoOutput :=
  let (done, after, out) := curlEasyDownloadEpo attempt s
  if done then (0, after, out) else (-1, { after with downloadFailed := true }, out)

/-- The GPS seconds in the first word of a record, an `unsigned int`. -/
def recordGpsSecs (record : List UInt8) : Nat :=
  ((record.getD 0 0).toNat + (record.getD 1 0).toNat * 2 ^ 8 + (record.getD 2 0).toNat * 2 ^ 16) *
    3600 % 2 ^ 32

/-- `GpsToUtcTime` of a number of GPS seconds. -/
def gpsSecsToUtc (libc : LibcTime) (secs : Nat) : Int :=
  gpsToUtcTime libc (secs / 604800 : Nat) (secs % 604800)

/-- `mtk_gps_epo_piece_data_start` -/
def pieceDataStart (libc : LibcTime) (bytes : List UInt8) : Option Int :=
  if bytes.length < mtkEpoOneSvSize then none
  else some (gpsSecsToUtc libc (recordGpsSecs bytes))

/-- `mtk_gps_epo_piece_data_end` -/
def pieceDataEnd (libc : LibcTime) (bytes : List UInt8) : Option Int :=
  if bytes.length < mtkEpoOneSvSize then none
  else some (gpsSecsToUtc libc
    ((recordGpsSecs (bytes.drop (bytes.length - mtkEpoOneSvSize)) + 21600) % 2 ^ 32))

/-- A time read from a piece: the value, and whether the read failed. -/
def pieceTime (read : List UInt8 → Option Int) (file : Option (List UInt8)) : Int × Bool :=
  match file with
  | none => (0, false)
  | some bytes =>
      match read bytes with
      | none => (0, true)
      | some time => (time, false)

/-- The file that a name names, when it can be opened. -/
def openFile (canOpen : Bool) (s : Epo) : Option (List UInt8) :=
  if canOpen then s.fileName.bind s.piece else none

/-- `mtk_gps_epo_server_data_is_changed`: whether the piece is not to be counted, and
the state after the check.  A piece too short for its time marks the download as failed. -/
def epoServerDataIsChanged (libc : LibcTime) (attempt : Attempt) (s : Epo) : Bool × Epo :=
  let start := pieceTime (pieceDataStart libc) (openFile attempt.openStart s)
  let named := if 0 < s.fileCount then downloadEpoFileName (s.fileCount - 1) s else s
  let finish :=
    if 0 < s.fileCount then pieceTime (pieceDataEnd libc) (openFile attempt.openEnd named)
    else (start.1, false)
  let checked := { named with downloadFailed := named.downloadFailed || start.2 || finish.2 }
  if daySeconds ≤ start.1 - finish.1 then
    let removed := removePieces (List.range (s.fileCount + 1)).reverse checked
    (true, { removed with merged := none, fileCount := 0 })
  else (start.2 || finish.2, checked)

/-- The number of pieces the configured days take. -/
def pieceTarget (days : Nat) : Nat :=
  if 0 < days % 3 then days / 3 + 1 else days / 3

/-- `mtk_gps_epo_file_update` after its download and without its message to the daemon:
the piece is counted, unless the server's data changed or the piece is too short. -/
def countPiece (libc : LibcTime) (attempt : Attempt) (s : Epo) : Epo × List EpoOutput :=
  let (isChanged, s') := epoServerDataIsChanged libc attempt s
  if isChanged then (s', [])
  else
    let s' := { s' with fileCount := s'.fileCount + 1 }
    let countTemp := pieceTarget s'.downloadDays
    if s'.fileCount < 10 ∧ s'.fileCount < countTemp then (s', [])
    else
      let removed := removePieces (List.range countTemp) s'
      ({ removed with dataUpdated := false, fileCount := 0, downloadFailed := false },
        [.completed s'.fileCount s'.merged])

/-- The values of the EPO control file, where it has them. -/
structure EpoConfig where
  epoEnable : Option Int
  dwDays : Option Int
  epoWifiTrigger : Option Int

/-- `gps_download_epo_enable`: values out of range are replaced. -/
def downloadEpoEnable (config : EpoConfig) (s : Epo) : Epo :=
  { s with
    enable := config.epoEnable.elim s.enable (· ≠ 0)
    downloadDays := config.dwDays.elim s.downloadDays fun days =>
      if 30 < days ∨ days < 0 then 30 else days.toNat
    wifiTrigger := config.epoWifiTrigger.elim s.wifiTrigger (· ≠ 0) }

/-- `gps_download_epo` -/
def downloadEpo (s : Epo) : Epo :=
  { s with dataUpdated := true, fileCount := 0 }

/-- Which branch of the loop of `thread_epo_file_update` called
`mtk_gps_epo_file_update`. -/
inductive UpdateCaller
  /-- the branch for `s->epo_data_updated == 1` -/
  | requested
  /-- the branch that completes a download that failed before, at `file_count_temp` -/
  | resumed (before : Nat)

/-- Where the thread of `thread_epo_file_update` is. -/
inductive EpoPhase
  | asleep
  /-- in the network download of `curl_easy_download_epo` -/
  | downloading (caller : UpdateCaller)
  /-- the piece is merged; the server's data is not checked yet -/
  | merged (caller : UpdateCaller) (attempt : Attempt)
  /-- before the branch that completes a download that failed -/
  | resuming
  /-- before the branch that requests a download over wifi -/
  | overWifi

/-- `gps_download_epo_file_name` and the entry of `mtk_gps_epo_file_update`. -/
def enterUpdate (caller : UpdateCaller) (s : Epo) : Epo × EpoPhase × List EpoOutput :=
  (downloadEpoFileName s.fileCount s, .downloading caller, [.head s.fileCount s.merged])

/-- The thread wakes up: the branch for `s->epo_data_updated == 1` up to the download. -/
def wakeUp (config : EpoConfig) (s : Epo) : Epo × EpoPhase × List EpoOutput :=
  let s := downloadEpoEnable config s
  if s.dataUpdated then enterUpdate .requested { s with downloadFailed := false }
  else (s, .resuming, [])

/-- The bookkeeping of retries, after a resumed download that was at piece `before`. -/
def countRetries (before : Nat) (s : Epo) : Epo :=
  if before = s.fileCount then
    let times := if s.fileRetrying = s.fileCount then s.retryTime + 1 else 0
    if times < 10 then
      { s with fileRetrying := s.fileCount, retryTime := times, downloadRetry := false }
    else { s with downloadFailed := false, retryTime := 0, fileRetrying := 50 }
  else s

/-- What the caller does after `mtk_gps_epo_file_update`, and where it is then. -/
def updateReturns (caller : UpdateCaller) (s : Epo) : Epo × EpoPhase :=
  match caller with
  | .requested => (if s.downloadFailed then { s with dataUpdated := false } else s, .resuming)
  | .resumed before => (countRetries before s, .overWifi)

/-- The download of a piece ends; a piece that arrived is merged. -/
def downloadEnds (caller : UpdateCaller) (attempt : Attempt) (s : Epo) :
    Epo × EpoPhase × List EpoOutput :=
  let (ret, s', out) := epoFileUpdateHal attempt s
  if ret < 0 then
    let (after, phase) := updateReturns caller s'
    (after, phase, out)
  else (s', .merged caller attempt, out)

/-- The merged piece is counted, and `mtk_gps_epo_file_update` returns. -/
def countMerged (libc : LibcTime) (caller : UpdateCaller) (attempt : Attempt) (s : Epo) :
    Epo × EpoPhase × List EpoOutput :=
  let (counted, out) := countPiece libc attempt s
  let (after, phase) := updateReturns caller counted
  (after, phase, out)

/-- What the branch that completes a download finds. -/
structure ResumeView where
  started : Bool
  nwConnected : Bool
  /-- `nw_type == nw_wifi` -/
  nwWifi : Bool
  /-- the data's start time is a day or more ago -/
  dayOld : Bool

/-- The branch that completes a download that failed before, up to the download. -/
def downloadResume (view : ResumeView) (s : Epo) : Epo × EpoPhase × List EpoOutput :=
  if (view.started || view.nwWifi) &&
      (view.nwConnected && s.downloadFailed && s.downloadRetry) then
    let s := if s.fileRetrying = 50 then { s with fileRetrying := s.fileCount } else s
    if view.dayOld then
      (countRetries s.fileCount
        { s with downloadFailed := false, fileCount := 0, dataUpdated := true, merged := none },
        .overWifi, [])
    else enterUpdate (.resumed s.fileCount) s
  else (s, .overWifi, [])

/-- What the branch that requests a download over wifi finds. -/
structure WifiView where
  nwConnected : Bool
  /-- `nw_type == nw_wifi` -/
  nwWifi : Bool
  /-- what `mtk_epo_is_expired(1)` finds -/
  expired : Bool

/-- The branch that requests a download over wifi; `mtk_epo_is_expired` clears the
count when it finds the data expired. -/
def downloadOverWifi (view : WifiView) (s : Epo) : Epo :=
  if !s.dataUpdated && s.wifiTrigger && s.enable &&
      (!s.downloadFailed && view.nwConnected && view.nwWifi) && view.expired then
    { downloadEpo s with merged := none }
  else s

/-- The EPO part of `mtk_gps_start` as the outside decides it. -/
structure StartRequest where
  config : EpoConfig
  nwConnected : Bool
  /-- `nw_type == nw_data` -/
  nwData : Bool
  /-- `EPO_FILE` exists -/
  epoFile : Bool
  /-- what `mtk_epo_is_expired(0)` finds -/
  expired : Bool

/-- The EPO part of `mtk_gps_start` without its message to the daemon. -/
def startRequest (env : StartRequest) (s : Epo) : Epo :=
  let s := downloadEpoEnable env.config s
  if s.enable then
    if s.merged = none then
      if !env.epoFile then downloadEpo s
      else if env.expired then downloadEpo { s with fileCount := 0 }
      else s
    else if env.nwData && env.nwConnected && s.downloadFailed ||
        (!env.nwConnected && s.downloadFailed) || !s.downloadFailed then
      if env.expired then downloadEpo { s with fileCount := 0, merged := none } else s
    else s
  else s

/-- What can happen next. -/
inductive EpoEvent
  | wakeUp (config : EpoConfig)
  | downloadEnds (attempt : Attempt)
  | countMerged
  | resume (view : ResumeView)
  | overWifi (view : WifiView)
  | start (env : StartRequest)
  /-- the HAL thread receives `HAL_CMD_UPDATE_EPO_FILE_DONE` -/
  | updateFileDone
  /-- `retry_alarm_handler` runs -/
  | retryAlarm

/-- The files and variables, and where the thread is. -/
structure EpoThread where
  epo : Epo
  phase : EpoPhase

/-- One step of the download: of the thread where it is, or of another thread. -/
def epoStep (libc : LibcTime) (t : EpoThread) (event : EpoEvent) :
    Option (EpoThread × List EpoOutput) :=
  let stepped : Option (Epo × EpoPhase × List EpoOutput) :=
    match event, t.phase with
    | .wakeUp config, .asleep => some (wakeUp config t.epo)
    | .downloadEnds attempt, .downloading caller => some (downloadEnds caller attempt t.epo)
    | .countMerged, .merged caller attempt => some (countMerged libc caller attempt t.epo)
    | .resume view, .resuming => some (downloadResume view t.epo)
    | .overWifi view, .overWifi => some (downloadOverWifi view t.epo, .asleep, [])
    | .start env, phase => some (startRequest env t.epo, phase, [])
    | .updateFileDone, phase =>
        some (if !t.epo.downloadFailed && t.epo.fileCount = 0 then { t.epo with merged := none }
          else t.epo, phase, [])
    | .retryAlarm, phase => some ({ t.epo with downloadRetry := true }, phase, [])
    | _, _ => none
  stepped.map fun (epo, phase, out) => (⟨epo, phase⟩, out)

/-- The download system. -/
def epoDownloads (libc : LibcTime) : System EpoThread EpoEvent EpoOutput where
  Init t := ∃ merged piece, t = ⟨Epo.fresh merged piece, .asleep⟩
  step t event := epoStep libc t event

end X3Hal.Gps
