import X3Hal.Gps.TestMode
import Mathlib.Algebra.Order.BigOperators.Group.List
import Mathlib.Tactic.Ring

/-!
# What a receiver test is for

A test collects levels, one look at its counters after the other.  It is over when it has been
looked at as often as was asked for since its first level, or too often without one; and then it is
reported, with the average of the levels and their deviation from it.
-/

namespace X3Hal.Gps

/-- What a test has seen -/
structure Tally where
  /-- how many measurements were asked for -/
  testNum : Int
  /-- how often the test was looked at before its first level -/
  waits : Nat
  levels : List Int
  /-- how often the test was looked at since its first level -/
  checks : Nat
  deriving DecidableEq, Repr

def mean (levels : List Int) : Int :=
  levels.sum / levels.length

def squaresFrom (average : Int) (levels : List Int) : Int :=
  (levels.map fun level => (level - average) * (level - average)).sum

def deviation (levels : List Int) : Int :=
  (squaresFrom (mean levels) levels / levels.length).toNat.sqrt

namespace Tally

def start : Tally :=
  ⟨0, 0, [], 0⟩

/-- Nothing was seen. -/
def empty (tally : Tally) : Tally :=
  ⟨tally.testNum, 0, [], 0⟩

def after (tally : Tally) : TestOutput → Tally
  | .mtkStart testNum => { tally with testNum }
  | .mtkStop | .report _ => tally.empty
  | .measured level => { tally with levels := tally.levels ++ [level] }
  | .checked =>
      if tally.levels = [] then { tally with waits := tally.waits + 1 }
      else { tally with checks := tally.checks + 1 }
  | .ack _ _ => tally

def Ended (tally : Tally) : Prop :=
  if tally.levels = [] then tally.waits = 20 else tally.checks = tally.testNum

instance (tally : Tally) : Decidable tally.Ended :=
  inferInstanceAs (Decidable (if tally.levels = [] then _ else _))

/-- The report of a test that is over -/
def report (tally : Tally) : TestReport :=
  if tally.levels = [] then ⟨32, 0, 1, 0, 0⟩
  else ⟨0, tally.levels.length, tally.checks, mean tally.levels, deviation tally.levels⟩

/-- A test that is over is reported, and nothing else happens before. -/
def Allows (tally : Tally) : TestOutput → Prop
  | .report report => tally.Ended ∧ report = tally.report
  | .mtkStart _ | .mtkStop | .measured _ | .checked | .ack _ _ => ¬ tally.Ended

end Tally

def tallyMonitor : Monitor Tally TestOutput where
  after := Tally.after
  Allows := Tally.Allows

/-! ## Averages and deviations of levels -/

/-- Levels of signals between 0 and 99 -/
def Levels (levels : List Int) : Prop :=
  ∀ level ∈ levels, 0 ≤ level ∧ level ≤ 990

section Levels

variable {levels : List Int}

theorem sum_bounds {bound : Int} (inside : ∀ level ∈ levels, 0 ≤ level ∧ level ≤ bound) :
    0 ≤ levels.sum ∧ levels.sum ≤ bound * levels.length := by
  constructor
  · exact List.sum_nonneg fun level among => (inside level among).1
  · have above := List.sum_le_card_nsmul levels bound fun level among => (inside level among).2
    rw [nsmul_eq_mul, mul_comm] at above
    exact above

theorem Levels.append (first : Levels levels) {level : Int} (low : 0 ≤ level)
    (high : level ≤ 990) :
    Levels (levels ++ [level]) := by
  intro other among
  rcases List.mem_append.mp among with before | last
  · exact first other before
  · rw [List.mem_singleton.mp last]
    exact ⟨low, high⟩

theorem quotient_bounds {sum bound : Int} {length : Nat} (low : 0 ≤ sum)
    (high : sum ≤ bound * length) (bounded : 0 ≤ bound) :
    0 ≤ sum / length ∧ sum / length ≤ bound := by
  constructor
  · exact Int.ediv_nonneg low (Int.natCast_nonneg length)
  · cases length with
    | zero => simpa using bounded
    | succ length => exact Int.ediv_le_of_le_mul (by omega) high

theorem Levels.mean_bounds (inside : Levels levels) : 0 ≤ mean levels ∧ mean levels ≤ 990 := by
  have sums := sum_bounds inside
  exact quotient_bounds sums.1 sums.2 (by decide)

theorem square_bounds {level average : Int} (level_inside : 0 ≤ level ∧ level ≤ 990)
    (average_inside : 0 ≤ average ∧ average ≤ 990) :
    0 ≤ (level - average) * (level - average) ∧
      (level - average) * (level - average) ≤ 980100 := by
  constructor
  · exact mul_self_nonneg _
  · rw [← sq]
    exact sq_le_sq' (by omega : -(990 : Int) ≤ level - average) (by omega)

theorem squaresFrom_bounds (inside : Levels levels) {average : Int}
    (average_inside : 0 ≤ average ∧ average ≤ 990) :
    0 ≤ squaresFrom average levels ∧ squaresFrom average levels ≤ 980100 * levels.length := by
  unfold squaresFrom
  rw [← List.length_map (fun level => (level - average) * (level - average))]
  apply sum_bounds
  intro square among
  obtain ⟨level, level_among, rfl⟩ := List.mem_map.mp among
  exact square_bounds (inside level level_among) average_inside

theorem Levels.deviation_bounds (inside : Levels levels) :
    0 ≤ deviation levels ∧ deviation levels ≤ 990 := by
  have squares := squaresFrom_bounds inside inside.mean_bounds
  have quotient := quotient_bounds squares.1 squares.2 (by decide)
  constructor
  · exact Int.natCast_nonneg _
  · have small : (squaresFrom (mean levels) levels / levels.length).toNat ≤ 990 * 990 := by omega
    unfold deviation
    have root := Nat.sqrt_le_sqrt small
    rw [Nat.sqrt_eq] at root
    exact_mod_cast root

end Levels

/-! ## What the monitor says of outputs -/

section Outputs

variable {tally : Tally}

@[simp]
theorem empty_levels (tally : Tally) : tally.empty.levels = [] :=
  rfl

theorem not_ended_empty (tally : Tally) : ¬ tally.empty.Ended := by
  simp [Tally.Ended, Tally.empty]

theorem checked_of_nil (none : tally.levels = []) :
    tally.after .checked = { tally with waits := tally.waits + 1 } :=
  if_pos none

theorem checked_of_levels (some : tally.levels ≠ []) :
    tally.after .checked = { tally with checks := tally.checks + 1 } :=
  if_neg some

theorem ended_iff_of_nil (none : tally.levels = []) : tally.Ended ↔ tally.waits = 20 := by
  rw [Tally.Ended, if_pos none]

theorem ended_iff_of_levels (some : tally.levels ≠ []) :
    tally.Ended ↔ tally.checks = tally.testNum := by
  rw [Tally.Ended, if_neg some]

theorem allows_report {report : TestReport} (ended : tally.Ended) (shown : report = tally.report) :
    tallyMonitor.Allows tally (.report report) :=
  ⟨ended, shown⟩

end Outputs

end X3Hal.Gps
