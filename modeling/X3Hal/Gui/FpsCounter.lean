import Mathlib.Algebra.BigOperators.Group.List.Basic
import Mathlib.Algebra.Order.BigOperators.Group.List
import Mathlib.Data.List.Forall2
import Mathlib.Tactic.Common
import Mathlib.Tactic.Linarith

/-!
# Frames per second

`FpsCounter` counts updates until an interval is over, and then gives the rate, the longest and
the shortest time between two of them.  A time that is not later than the last one restarts the
interval, but not the counts.
-/

namespace X3Hal.Gui

/-- A difference of two `nsecs_t`, which is undefined out of 64 bits -/
def subNsecs (later earlier : Int) : Option Int :=
  if -2 ^ 63 ≤ later - earlier ∧ later - earlier < 2 ^ 63 then some (later - earlier) else none

structure FpsCounter where
  fps : Float32
  maxDuration : Int
  minDuration : Int
  maxDurationCounting : Int
  minDurationCounting : Int
  /-- of 32 bits -/
  frames : Nat
  lastLogTime : Int
  lastLogDuration : Int
  lastTime : Int
  lastDuration : Int
  countInterval : Int

/-- The rate of some frames in a time, computed as a `double` and kept as a `float` -/
def fpsOf (frames : Nat) (duration : Int) : Float32 :=
  ((UInt32.ofNat frames).toFloat * 1e9 / Float.ofInt duration).toFloat32

namespace FpsCounter

/-- `reset`, with the interval that the property gives, in nanoseconds -/
def reset (countInterval : Int) : FpsCounter :=
  ⟨0, -1, -1, -1, -1, 0, -1, -1, -1, -1, countInterval⟩

/-- `update` up to the check of the interval -/
def count (timestamp : Int) (counter : FpsCounter) : Option FpsCounter := do
  let lastDuration ← subNsecs timestamp counter.lastTime
  return { counter with
    frames := (counter.frames + 1) % 2 ^ 32
    lastDuration := lastDuration
    lastTime := timestamp
    maxDurationCounting :=
      if counter.maxDurationCounting = -1 ∨ lastDuration > counter.maxDurationCounting then
        lastDuration
      else counter.maxDurationCounting
    minDurationCounting :=
      if counter.minDurationCounting = -1 ∨ lastDuration < counter.minDurationCounting then
        lastDuration
      else counter.minDurationCounting }

/-- What `update` does when the interval is over. -/
def log (timestamp duration : Int) (counter : FpsCounter) : FpsCounter :=
  { counter with
    fps := fpsOf counter.frames duration
    lastLogDuration := duration
    maxDuration := counter.maxDurationCounting
    minDuration := counter.minDurationCounting
    frames := 0
    lastLogTime := timestamp
    maxDurationCounting := -1
    minDurationCounting := -1 }

def update (timestamp : Int) (counter : FpsCounter) : Option (FpsCounter × Bool) :=
  if counter.lastLogTime = -1 ∨ counter.lastTime = -1 ∨ counter.lastTime ≥ timestamp then
    some ({ counter with lastLogTime := timestamp, lastTime := timestamp }, false)
  else do
    let counted ← counter.count timestamp
    let duration ← subNsecs timestamp counted.lastLogTime
    if duration > counted.countInterval then return (counted.log timestamp duration, true)
    else return (counted, false)

/-- The counter after each update that reports. -/
def reports (counter : FpsCounter) : List Int → Option (List FpsCounter)
  | [] => some []
  | timestamp :: rest => do
      let (after, reported) ← counter.update timestamp
      let later ← after.reports rest
      return if reported then after :: later else later

end FpsCounter

/-! ## Windows of updates -/

/-- What an update is, by the time before it. -/
inductive FpsStep
  | restart
  | gap (duration : Int)
  deriving DecidableEq

def FpsStep.duration? : FpsStep → Option Int
  | .restart => none
  | .gap duration => some duration

/-- The updates with the given times, after the last one. -/
def stepsOf : Int → List Int → List FpsStep
  | _, [] => []
  | last, timestamp :: rest =>
      (if last = -1 ∨ last ≥ timestamp then .restart else .gap (timestamp - last)) ::
        stepsOf timestamp rest

/-- The times between updates. -/
def gaps (steps : List FpsStep) : List Int :=
  steps.filterMap FpsStep.duration?

/-- The time since the last restart. -/
def span (steps : List FpsStep) : Int :=
  steps.foldl (fun time step =>
    match step with
    | .restart => 0
    | .gap duration => time + duration) 0

/-- The last update makes the time longer than the interval. -/
def Full (interval : Int) (steps : List FpsStep) : Prop :=
  ∃ before duration, steps = before ++ [.gap duration] ∧ interval < span steps

/-- A report gives the updates of a window that it ends: the rate of their number, of 32 bits, in
the time since the last restart, the longest and the shortest time between two. -/
structure WindowReported (interval : Int) (window : List FpsStep) (report : FpsCounter) :
    Prop where
  full : Full interval window
  first : ∀ before after, window = before ++ after → after ≠ [] → ¬ Full interval before
  fps : report.fps = fpsOf ((gaps window).length % 2 ^ 32) (span window)
  duration : report.lastLogDuration = span window
  longest : report.maxDuration ∈ gaps window ∧ ∀ gap ∈ gaps window, gap ≤ report.maxDuration
  shortest : report.minDuration ∈ gaps window ∧ ∀ gap ∈ gaps window, report.minDuration ≤ gap

section Windows

variable {steps : List FpsStep} {duration interval : Int}

@[simp]
theorem gaps_restart : gaps (steps ++ [.restart]) = gaps steps := by
  simp [gaps, FpsStep.duration?]

@[simp]
theorem gaps_gap : gaps (steps ++ [.gap duration]) = gaps steps ++ [duration] := by
  simp [gaps, FpsStep.duration?]

@[simp]
theorem span_restart : span (steps ++ [.restart]) = 0 := by
  simp [span]

@[simp]
theorem span_gap : span (steps ++ [.gap duration]) = span steps + duration := by
  simp [span]

theorem not_full_restart : ¬ Full interval (steps ++ [.restart]) := by
  rintro ⟨before, duration, same, -⟩
  have last := congrArg List.getLast? same
  simp at last

theorem full_gap_iff : Full interval (steps ++ [.gap duration]) ↔
    interval < span steps + duration := by
  rw [Full, span_gap]
  constructor
  · rintro ⟨_, _, -, longer⟩
    exact longer
  · intro longer
    exact ⟨steps, duration, rfl, longer⟩

/-- No beginning of the updates is full. -/
def NoneFull (interval : Int) (steps : List FpsStep) : Prop :=
  ∀ before after, steps = before ++ after → ¬ Full interval before

theorem noneFull_nil : NoneFull interval [] := by
  intro before after split
  rw [List.nil_eq_append_iff] at split
  rintro ⟨earlier, duration, same, -⟩
  rw [split.1] at same
  exact absurd same.symm (by simp)

theorem NoneFull.snoc (none : NoneFull interval steps) {step : FpsStep}
    (last : ¬ Full interval (steps ++ [step])) : NoneFull interval (steps ++ [step]) := by
  intro before after split
  rcases List.eq_nil_or_concat after with rfl | ⟨front, final, rfl⟩
  · rw [List.append_nil] at split
    exact split ▸ last
  · rw [List.concat_eq_append, ← List.append_assoc] at split
    exact none before front (List.append_inj_left' split rfl)

end Windows

/-! ## What the counter knows of its window -/

/-- The longest of some times, or the start of the count. -/
structure Extreme (holds : Int → Int → Prop) (times : List Int) (counting : Int) : Prop where
  empty : times = [] → counting = -1
  least : times ≠ [] → counting ∈ times ∧ ∀ time ∈ times, holds counting time

/-- The counter has counted the updates of a window, of which none has filled it. -/
structure Tracks (interval : Int) (current : List FpsStep) (counter : FpsCounter) : Prop where
  countInterval : counter.countInterval = interval
  logTime : counter.lastTime ≠ -1 → counter.lastLogTime = counter.lastTime - span current
  unset : counter.lastLogTime = -1 → counter.lastTime = -1
  forward : 0 ≤ span current
  frames : counter.frames = (gaps current).length % 2 ^ 32
  positive : ∀ time ∈ gaps current, 0 < time
  longest : Extreme (fun most time => time ≤ most) (gaps current) counter.maxDurationCounting
  shortest : Extreme (fun least time => least ≤ time) (gaps current) counter.minDurationCounting
  open_ : NoneFull interval current

/-- What `count` makes of the counts, whether the window is full or not. -/
structure Counted (current : List FpsStep) (timestamp : Int) (counter counted : FpsCounter) :
    Prop where
  countInterval : counted.countInterval = counter.countInterval
  logTime : counted.lastLogTime = counter.lastLogTime
  lastTime : counted.lastTime = timestamp
  frames : counted.frames =
    (gaps (current ++ [.gap (timestamp - counter.lastTime)])).length % 2 ^ 32
  longest : Extreme (fun most time => time ≤ most)
    (gaps (current ++ [.gap (timestamp - counter.lastTime)])) counted.maxDurationCounting
  shortest : Extreme (fun least time => least ≤ time)
    (gaps (current ++ [.gap (timestamp - counter.lastTime)])) counted.minDurationCounting

section Tracks

variable {interval duration counting timestamp : Int} {times : List Int} {current : List FpsStep}
  {counter counted : FpsCounter} {holds : Int → Int → Prop}

theorem subNsecs_eq_some {later earlier : Int} (forward : earlier ≤ later)
    (near : later - earlier < 2 ^ 63) : subNsecs later earlier = some (later - earlier) := by
  rw [subNsecs, if_pos]
  constructor
  · omega
  · exact near

/-- One more time, which takes the place of the extreme if it is beyond. -/
theorem Extreme.snoc (refl : ∀ time, holds time time)
    (trans : ∀ first second third, holds first second → holds second third → holds first third)
    {beyond : Prop} [Decidable beyond] (extreme : Extreme holds times counting)
    (positive : ∀ time ∈ times, 0 < time)
    (isBeyond : beyond → holds duration counting)
    (notBeyond : ¬ beyond → holds counting duration) :
    Extreme holds (times ++ [duration])
      (if counting = -1 ∨ beyond then duration else counting) := by
  constructor
  · intro isEmpty
    simp at isEmpty
  · intro _
    by_cases isEmpty : times = []
    · rw [if_pos (Or.inl (extreme.empty isEmpty)), isEmpty]
      refine ⟨List.mem_singleton_self duration, ?_⟩
      intro time occurs
      rw [List.nil_append, List.mem_singleton] at occurs
      exact occurs ▸ refl duration
    · obtain ⟨among, bound⟩ := extreme.least isEmpty
      have counted : counting ≠ -1 := by
        have := positive counting among
        omega
      by_cases isTrue : beyond
      · rw [if_pos (Or.inr isTrue)]
        refine ⟨by simp, ?_⟩
        intro time occurs
        rcases List.mem_append.mp occurs with earlier | last
        · exact trans _ _ _ (isBeyond isTrue) (bound time earlier)
        · exact List.mem_singleton.mp last ▸ refl duration
      · rw [if_neg (not_or.mpr ⟨counted, isTrue⟩)]
        refine ⟨List.mem_append_left _ among, ?_⟩
        intro time occurs
        rcases List.mem_append.mp occurs with earlier | last
        · exact bound time earlier
        · exact List.mem_singleton.mp last ▸ notBeyond isTrue

theorem extreme_nil : Extreme holds [] (-1) :=
  ⟨fun _ => rfl, fun nonempty => absurd rfl nonempty⟩

theorem tracks_reset (interval : Int) : Tracks interval [] (FpsCounter.reset interval) :=
  ⟨rfl, fun set => absurd rfl set, fun _ => rfl, le_rfl, rfl, List.forall_mem_nil _, extreme_nil,
    extreme_nil, noneFull_nil⟩

/-- An update that restarts the interval. -/
theorem Tracks.restart (tracks : Tracks interval current counter) (timestamp : Int) :
    Tracks interval (current ++ [.restart])
      { counter with lastLogTime := timestamp, lastTime := timestamp } := by
  constructor
  · exact tracks.countInterval
  · simp
  · exact id
  · rw [span_restart]
  · rw [gaps_restart]
    exact tracks.frames
  · rw [gaps_restart]
    exact tracks.positive
  · rw [gaps_restart]
    exact tracks.longest
  · rw [gaps_restart]
    exact tracks.shortest
  · exact tracks.open_.snoc not_full_restart

/-- Times less than 2 ^ 63 apart are counted. -/
theorem Tracks.count (tracks : Tracks interval current counter)
    (started : counter.lastTime ≠ -1) (later : counter.lastTime < timestamp)
    (near : timestamp - counter.lastLogTime < 2 ^ 63) :
    ∃ counted, counter.count timestamp = some counted ∧
      Counted current timestamp counter counted := by
  have logTime := tracks.logTime started
  have forward := tracks.forward
  have isGap : subNsecs timestamp counter.lastTime = some (timestamp - counter.lastTime) := by
    apply subNsecs_eq_some
    · omega
    · omega
  rw [FpsCounter.count, isGap]
  refine ⟨_, rfl, ⟨rfl, rfl, rfl, ?_, ?_, ?_⟩⟩
  · rw [gaps_gap, tracks.frames, List.length_append, List.length_singleton, Nat.mod_add_mod]
  · rw [gaps_gap]
    apply tracks.longest.snoc _ _ tracks.positive le_of_lt not_lt.mp
    · exact fun time => le_refl time
    · exact fun _ _ _ first second => le_trans second first
  · rw [gaps_gap]
    apply tracks.shortest.snoc le_refl _ tracks.positive le_of_lt not_lt.mp
    exact fun _ _ _ first second => le_trans first second

/-- An update in an interval that is not over. -/
theorem Tracks.within (tracks : Tracks interval current counter)
    (isCounted : Counted current timestamp counter counted)
    (set : counter.lastLogTime ≠ -1) (later : counter.lastTime < timestamp)
    (inside : timestamp - counter.lastLogTime ≤ interval) (started : counter.lastTime ≠ -1) :
    Tracks interval (current ++ [.gap (timestamp - counter.lastTime)]) counted := by
  have logTime := tracks.logTime started
  constructor
  · rw [isCounted.countInterval]
    exact tracks.countInterval
  · intro _
    rw [span_gap, isCounted.logTime, isCounted.lastTime]
    omega
  · intro unset
    rw [isCounted.logTime] at unset
    exact absurd unset set
  · have forward := tracks.forward
    rw [span_gap]
    omega
  · exact isCounted.frames
  · intro time occurs
    rw [gaps_gap] at occurs
    rcases List.mem_append.mp occurs with earlier | last
    · exact tracks.positive time earlier
    · rw [List.mem_singleton.mp last]
      omega
  · exact isCounted.longest
  · exact isCounted.shortest
  · apply tracks.open_.snoc
    rw [full_gap_iff]
    omega

/-- An update that ends the interval reports its window. -/
theorem Tracks.logged (tracks : Tracks interval current counter)
    (isCounted : Counted current timestamp counter counted)
    (due : interval < timestamp - counter.lastLogTime) (started : counter.lastTime ≠ -1) :
    WindowReported interval (current ++ [.gap (timestamp - counter.lastTime)])
        (counted.log timestamp (timestamp - counter.lastLogTime)) ∧
      Tracks interval [] (counted.log timestamp (timestamp - counter.lastLogTime)) := by
  have logTime := tracks.logTime started
  have total : span (current ++ [.gap (timestamp - counter.lastTime)]) =
      timestamp - counter.lastLogTime := by
    rw [span_gap]
    omega
  have nonempty : gaps (current ++ [.gap (timestamp - counter.lastTime)]) ≠ [] := by
    rw [gaps_gap]
    simp
  constructor
  · constructor
    · rw [full_gap_iff]
      omega
    · intro before after split notLast
      rcases List.eq_nil_or_concat after with rfl | ⟨front, final, rfl⟩
      · exact absurd rfl notLast
      · rw [List.concat_eq_append, ← List.append_assoc] at split
        exact tracks.open_ before front (List.append_inj_left' split rfl)
    · rw [total, ← isCounted.frames]
      rfl
    · rw [total]
      rfl
    · exact isCounted.longest.least nonempty
    · exact isCounted.shortest.least nonempty
  · constructor
    · change counted.countInterval = interval
      rw [isCounted.countInterval, tracks.countInterval]
    · intro _
      change timestamp = counted.lastTime - 0
      rw [isCounted.lastTime]
      omega
    · intro unset
      change counted.lastTime = -1
      rw [isCounted.lastTime]
      exact unset
    · rfl
    · rfl
    · exact List.forall_mem_nil _
    · exact extreme_nil
    · exact extreme_nil
    · exact noneFull_nil

end Tracks

/-! ## Every run -/

/-- The updates fall into windows, each with its own report, and a rest that no report is due
for. -/
def ReportsFollow (interval : Int) (steps : List FpsStep) (reports : List FpsCounter) : Prop :=
  ∃ windows rest, steps = windows.flatten ++ rest ∧
    List.Forall₂ (WindowReported interval) windows reports ∧ NoneFull interval rest

/-- No time is `2 ^ 63` nanoseconds or more after an earlier one, so that no difference of two
overflows. -/
def TimesNear (times : List Int) : Prop :=
  times.Pairwise fun earlier later => later - earlier < 2 ^ 63

/-- The readings of a clock that is not negative are near. -/
theorem timesNear_of_clock {times : List Int} (clock : ∀ time ∈ times, 0 ≤ time ∧ time < 2 ^ 63) :
    TimesNear times := by
  apply List.Pairwise.imp_of_mem (R := fun _ _ => True)
  · intro earlier later isEarlier isLater _
    have first := clock earlier isEarlier
    have second := clock later isLater
    omega
  · exact List.pairwise_of_forall fun _ _ => trivial

theorem reportsFollow_of_tracks {interval : Int} (times : List Int) (current : List FpsStep)
    (counter : FpsCounter) (tracks : Tracks interval current counter) (near : TimesNear times)
    (nearLog : counter.lastLogTime ≠ -1 → ∀ time ∈ times, time - counter.lastLogTime < 2 ^ 63) :
    ∃ reports, counter.reports times = some reports ∧
      ReportsFollow interval (current ++ stepsOf counter.lastTime times) reports := by
  induction times generalizing current counter with
  | nil => exact ⟨[], rfl, [], current, by simp [stepsOf], List.Forall₂.nil, tracks.open_⟩
  | cons timestamp rest ih =>
      obtain ⟨nearRest, near⟩ := List.pairwise_cons.mp near
      rw [FpsCounter.reports, FpsCounter.update, stepsOf, ← List.singleton_append,
        ← List.append_assoc]
      by_cases restarts : counter.lastTime = -1 ∨ counter.lastTime ≥ timestamp
      · obtain ⟨reports, ran, follow⟩ :=
          ih _ _ (tracks.restart timestamp) near fun _ => nearRest
        rw [if_pos (Or.inr restarts), if_pos restarts]
        simp only [Option.bind_eq_bind, Option.bind_some, ran]
        exact ⟨reports, rfl, follow⟩
      · have set : counter.lastLogTime ≠ -1 := fun unset => restarts (Or.inl (tracks.unset unset))
        obtain ⟨started, later⟩ := not_or.mp restarts
        rw [ge_iff_le, not_le] at later
        have within := nearLog set
        rw [List.forall_mem_cons] at within
        obtain ⟨counted, ran, isCounted⟩ := tracks.count started later within.1
        have isDuration : subNsecs timestamp counted.lastLogTime =
            some (timestamp - counter.lastLogTime) := by
          have logTime := tracks.logTime started
          have forward := tracks.forward
          rw [isCounted.logTime]
          apply subNsecs_eq_some
          · omega
          · exact within.1
        rw [if_neg (not_or.mpr ⟨set, restarts⟩), if_neg restarts, ran]
        simp only [Option.bind_eq_bind, Option.bind_some, isDuration, isCounted.countInterval,
          tracks.countInterval, gt_iff_lt]
        by_cases due : interval < timestamp - counter.lastLogTime
        · obtain ⟨reported, fresh⟩ := tracks.logged isCounted due started
          obtain ⟨reports, later, windows, left, split, follow, open_⟩ :=
            ih [] _ fresh near fun _ => nearRest
          rw [if_pos due]
          simp only [Option.pure_def, Option.bind_some, later]
          refine ⟨_, rfl, _ :: windows, left, ?_, List.Forall₂.cons reported follow, open_⟩
          have isLast : (counted.log timestamp (timestamp - counter.lastLogTime)).lastTime =
            timestamp := isCounted.lastTime
          rw [List.nil_append, isLast] at split
          rw [List.flatten_cons, List.append_assoc _ windows.flatten, ← split]
        · obtain ⟨reports, ran, follow⟩ :=
            ih _ _ (tracks.within isCounted set later (not_lt.mp due) started) near
              (by rw [isCounted.logTime]; exact fun _ => within.2)
          rw [isCounted.lastTime] at follow
          rw [if_neg due]
          simp only [Option.pure_def, Option.bind_some, ran]
          exact ⟨reports, rfl, follow⟩

/-- From a reset on, the reports are those of the windows that the updates fall into, one after
the other: no update is counted twice, and none is left out before the last report. -/
theorem reports_of_windows (interval : Int) {times : List Int} (near : TimesNear times) :
    ∃ reports, (FpsCounter.reset interval).reports times = some reports ∧
      ReportsFollow interval (stepsOf (-1) times) reports :=
  reportsFollow_of_tracks times [] _ (tracks_reset interval) near fun set => absurd rfl set

/-- Two updates, 600 milliseconds apart each, fill the window of a second. -/
theorem reports_of_windows_second : ∃ reports,
    (FpsCounter.reset 1000000000).reports [1, 600000001, 1200000001] = some reports ∧
      ReportsFollow 1000000000 [.restart, .gap 600000000, .gap 600000000] reports :=
  reports_of_windows 1000000000 (timesNear_of_clock (by decide))

end X3Hal.Gui
