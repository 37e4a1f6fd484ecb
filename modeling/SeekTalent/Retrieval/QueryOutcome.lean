import Mathlib.Data.Rat.Floor
import SeekTalent.Models

/-!
# Query outcomes

`classify_query_outcome` (`runtime/runtime_diagnostics.py`) and the refill rule that reads
its labels. Rates and averages are binary64 numbers in the program. Here their type is a
parameter with the few operations the program applies to them: nothing proved about a
round depends on how they round.
-/

namespace SeekTalent

/-- The floating-point operations a round search uses. -/
class PyFloat (F : Type) where
  ofNat : Nat → F
  div : F → F → F
  sub : F → F → F
  le : F → F → Bool
  lt : F → F → Bool
  /-- `math.ceil(n * 0.7)` -/
  ceilSeventyPercent : Int → Int

/-- Exact arithmetic, in which examples are evaluated. -/
instance : PyFloat Rat where
  ofNat n := n
  div a b := a / b
  sub a b := a - b
  le a b := decide (a ≤ b)
  lt a b := decide (a < b)
  ceilSeventyPercent n := (7 * n + 9) / 10

structure QueryOutcomeThresholds (F : Type) where
  lowRecallThreshold : Int := 2
  highPrecisionThreshold : F
  noiseThreshold : F
  mustHaveNoiseThreshold : F
  driftMustHaveDrop : F
  driftOffIntentMinCount : Int := 2

/-- The thresholds `QueryOutcomeThresholds()` has. -/
def QueryOutcomeThresholds.default : QueryOutcomeThresholds Rat where
  highPrecisionThreshold := 7 / 10
  noiseThreshold := 1 / 10
  mustHaveNoiseThreshold := 30
  driftMustHaveDrop := 15

structure OutcomeFigures (F : Type) where
  providerReturnedCount : Nat
  newUniqueResumeCount : Nat
  newFitOrNearFitCount : Nat
  fitRate : F
  mustHaveMatchAvg : F
  exploitBaselineMustHaveMatchAvg : F
  offIntentReasonCount : Nat

variable {F : Type} [PyFloat F]

def OutcomeFigures.applies (x : OutcomeFigures F) (t : QueryOutcomeThresholds F) :
    OutcomeLabel → Bool
  | .zeroRecall => x.providerReturnedCount = 0
  | .duplicateOnly => 0 < x.providerReturnedCount ∧ x.newUniqueResumeCount = 0
  | .marginalGain => 1 ≤ x.newFitOrNearFitCount
  | .broadNoise =>
    decide (1 ≤ x.newUniqueResumeCount) && PyFloat.le x.fitRate t.noiseThreshold &&
      PyFloat.le x.mustHaveMatchAvg t.mustHaveNoiseThreshold
  | .driftSuspected =>
    decide (1 ≤ x.newUniqueResumeCount) &&
      PyFloat.lt x.mustHaveMatchAvg
        (PyFloat.sub x.exploitBaselineMustHaveMatchAvg t.driftMustHaveDrop) &&
      decide (t.driftOffIntentMinCount ≤ x.offIntentReasonCount)
  | .lowRecallHighPrecision =>
    decide ((x.newUniqueResumeCount : Int) ≤ t.lowRecallThreshold) &&
      PyFloat.le t.highPrecisionThreshold x.fitRate

/-- `classify_query_outcome`: the labels in the order `sorted` gives them, and the first
    that applies in order of priority. -/
def classifyQueryOutcome (x : OutcomeFigures F) (t : QueryOutcomeThresholds F) :
    QueryOutcomeClassification :=
  { labels := [.broadNoise, .driftSuspected, .duplicateOnly, .lowRecallHighPrecision,
      .marginalGain, .zeroRecall].filter (x.applies t)
    primaryLabel := ([.zeroRecall, .duplicateOnly, .driftSuspected, .broadNoise,
      .marginalGain, .lowRecallHighPrecision].find? (x.applies t)).getD
        .lowRecallHighPrecision }

def allowLaneRefill (laneType : LaneType) (outcome : Option QueryOutcomeClassification) :
    Bool :=
  match outcome with
  | none => true
  | some outcome =>
    decide (laneType = .exploit) ||
      !([.zeroRecall, .duplicateOnly, .broadNoise, .driftSuspected].any
        fun label => decide (label ∈ outcome.labels))

end SeekTalent
