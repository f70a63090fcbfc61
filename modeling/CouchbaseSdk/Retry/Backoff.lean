import CouchbaseSdk.Foundation.Duration
import CouchbaseSdk.Foundation.Exec
import Mathlib.Algebra.Group.Nat.Defs
import Mathlib.Data.Nat.Init

/-!
# Exponential backoff

The time to wait grows with the attempts, between a least and a largest time.  The power of the
factor is any number of 128 bits.
-/

namespace CouchbaseSdk
namespace Retry

open Foundation

structure ExponentialBackoffCalculator where
  min : Duration
  max : Duration

namespace ExponentialBackoffCalculator

/-- The time for a power of the factor that is a number of 128 bits. -/
def backoffFor (calculator : ExponentialBackoffCalculator) (factor : Fin (2 ^ 128)) :
    Exec Empty Duration :=
  if calculator.min.asMillis = 0 then .panic
  else if (2 ^ 128 - 1) / calculator.min.asMillis < factor.val then .ok calculator.max
  else
    let val := calculator.min.asMillis * factor.val
    if 2 ^ 128 ≤ val then .panic
    else if 2 ^ 64 - 1 < val then .ok calculator.max
    else
      let backoff := Duration.fromMillis (UInt64.ofNat val)
      let backoff := if calculator.max.asNanos < backoff.asNanos then calculator.max else backoff
      .ok (if backoff.asNanos < calculator.min.asNanos then calculator.min else backoff)

/-- The power of the factor, converted to 128 bits, for so many attempts. -/
def backoff (calculator : ExponentialBackoffCalculator) (power : UInt32 -> Fin (2 ^ 128))
    (retryAttempts : UInt32) : Exec Empty Duration :=
  calculator.backoffFor (power retryAttempts)

/-- Every backoff is a time between the bounds, and a larger power gives no shorter one. -/
structure Bounded (calculator : ExponentialBackoffCalculator) : Prop where
  between : forall power retryAttempts, exists d, calculator.backoff power retryAttempts = .ok d ∧
    calculator.min.asNanos ≤ d.asNanos ∧ d.asNanos ≤ calculator.max.asNanos
  monotone : forall factor factor' d d', factor ≤ factor' ->
    calculator.backoffFor factor = .ok d -> calculator.backoffFor factor' = .ok d' ->
    d.asNanos ≤ d'.asNanos

/-- The nanoseconds for a product of milliseconds. -/
def nanosFor (calculator : ExponentialBackoffCalculator) (val : Nat) : Nat :=
  if 2 ^ 64 ≤ val then calculator.max.asNanos
  else Nat.max calculator.min.asNanos (Nat.min calculator.max.asNanos (val * 10 ^ 6))

variable {calculator : ExponentialBackoffCalculator}

theorem asNanos_atMost (d max : Duration) :
    (if max.asNanos < d.asNanos then max else d).asNanos = Nat.min max.asNanos d.asNanos := by
  split_ifs with hless
  · exact (Nat.min_eq_left (Nat.le_of_lt hless)).symm
  · exact (Nat.min_eq_right (Nat.le_of_not_lt hless)).symm

theorem asNanos_atLeast (d min : Duration) :
    (if d.asNanos < min.asNanos then min else d).asNanos = Nat.max min.asNanos d.asNanos := by
  split_ifs with hless
  · exact (Nat.max_eq_left (Nat.le_of_lt hless)).symm
  · exact (Nat.max_eq_right (Nat.le_of_not_lt hless)).symm

theorem asNanos_fromMillis {val : Nat} (h : val < 2 ^ 64) :
    (Duration.fromMillis (UInt64.ofNat val)).asNanos = val * 10 ^ 6 :=
  congrArg (fun millis => millis * 10 ^ 6) (UInt64.toNat_ofNat_of_lt h)

/-- What is capped by one of the two checks is more than 64 bits of milliseconds. -/
theorem backoffFor_nanos (hmin : calculator.min.asMillis ≠ 0) (factor : Fin (2 ^ 128)) :
    exists d, calculator.backoffFor factor = .ok d ∧
      d.asNanos = calculator.nanosFor (calculator.min.asMillis * factor.val) := by
  unfold backoffFor nanosFor
  rw [if_neg hmin]
  by_cases hcap : (2 ^ 128 - 1) / calculator.min.asMillis < factor.val
  · have hlarge : 2 ^ 128 - 1 < factor.val * calculator.min.asMillis :=
      (Nat.div_lt_iff_lt_mul (Nat.pos_of_ne_zero hmin)).mp hcap
    rw [Nat.mul_comm] at hlarge
    rw [if_pos hcap, if_pos (by omega)]
    exact ⟨calculator.max, rfl, rfl⟩
  · have hfits : ¬ 2 ^ 128 - 1 < factor.val * calculator.min.asMillis := fun h =>
      hcap ((Nat.div_lt_iff_lt_mul (Nat.pos_of_ne_zero hmin)).mpr h)
    rw [Nat.mul_comm] at hfits
    rw [if_neg hcap]
    generalize calculator.min.asMillis * factor.val = val at hfits
    dsimp only
    rw [if_neg (by omega)]
    by_cases hover : 2 ^ 64 - 1 < val
    · rw [if_pos hover, if_pos (by omega)]
      exact ⟨calculator.max, rfl, rfl⟩
    · have hless : ¬ 2 ^ 64 ≤ val := by omega
      rw [if_neg hover, if_neg hless]
      refine ⟨_, rfl, ?_⟩
      rw [asNanos_atLeast, asNanos_atMost, asNanos_fromMillis (Nat.lt_of_not_le hless)]

theorem nanosFor_between (hle : calculator.min.asNanos ≤ calculator.max.asNanos) (val : Nat) :
    calculator.min.asNanos ≤ calculator.nanosFor val ∧
      calculator.nanosFor val ≤ calculator.max.asNanos := by
  unfold nanosFor
  split_ifs
  · exact ⟨hle, le_rfl⟩
  · exact ⟨Nat.le_max_left _ _, Nat.max_le.mpr ⟨hle, Nat.min_le_left _ _⟩⟩

theorem nanosFor_mono (hle : calculator.min.asNanos ≤ calculator.max.asNanos) {val val' : Nat}
    (h : val ≤ val') : calculator.nanosFor val ≤ calculator.nanosFor val' := by
  by_cases hcap : 2 ^ 64 ≤ val'
  · have hmax : calculator.nanosFor val' = calculator.max.asNanos := if_pos hcap
    rw [hmax]
    exact (nanosFor_between hle val).2
  · have hless : ¬ 2 ^ 64 ≤ val := fun hval => hcap (le_trans hval h)
    unfold nanosFor
    rw [if_neg hcap, if_neg hless]
    exact max_le_max le_rfl (min_le_min le_rfl (Nat.mul_le_mul_right _ h))

theorem bounded_of_millis (hle : calculator.min.asNanos ≤ calculator.max.asNanos)
    (hmin : calculator.min.asMillis ≠ 0) : calculator.Bounded := by
  constructor
  · intro power retryAttempts
    rcases backoffFor_nanos hmin (power retryAttempts) with ⟨d, hbackoff, hnanos⟩
    have hbetween := nanosFor_between hle
      (calculator.min.asMillis * (power retryAttempts).val)
    rw [← hnanos] at hbetween
    exact ⟨d, hbackoff, hbetween⟩
  · intro factor factor' d d' hfactor hd hd'
    rcases backoffFor_nanos hmin factor with ⟨d₁, hbackoff, hnanos⟩
    rcases backoffFor_nanos hmin factor' with ⟨d₁', hbackoff', hnanos'⟩
    rw [hd] at hbackoff
    rw [hd'] at hbackoff'
    injection hbackoff with heq
    injection hbackoff' with heq'
    rw [heq, heq', hnanos, hnanos']
    exact nanosFor_mono hle (Nat.mul_le_mul_left _ hfactor)

/-- A least time of less than a millisecond is a division by zero. -/
theorem backoff_bounded_iff (calculator : ExponentialBackoffCalculator)
    (hle : calculator.min.asNanos ≤ calculator.max.asNanos) :
    calculator.Bounded <-> 10 ^ 6 ≤ calculator.min.asNanos := by
  have hmillis : 10 ^ 6 ≤ calculator.min.asNanos <-> calculator.min.asMillis ≠ 0 := by
    unfold Duration.asMillis Duration.asNanos
    omega
  rw [hmillis]
  constructor
  · intro h hzero
    rcases h.between (fun _ => 0) 0 with ⟨d, hbackoff, _⟩
    have hpanic : calculator.backoff (fun _ => 0) 0 = .panic := if_pos hzero
    rw [hpanic] at hbackoff
    cases hbackoff
  · exact bounded_of_millis hle

/-- From ten milliseconds to a second. -/
theorem backoff_bounded_iff_milliseconds :
    (⟨Duration.fromMillis 10, Duration.fromMillis 1000⟩ :
        ExponentialBackoffCalculator).Bounded <->
      10 ^ 6 ≤ (Duration.fromMillis 10).asNanos :=
  backoff_bounded_iff ⟨Duration.fromMillis 10, Duration.fromMillis 1000⟩ (by decide)

/-- From half a millisecond to a second. -/
theorem not_backoff_bounded :
    ¬ forall calculator : ExponentialBackoffCalculator,
      calculator.min.asNanos ≤ calculator.max.asNanos -> calculator.Bounded := by
  intro h
  have hbounded := h ⟨⟨500000, by decide⟩, Duration.fromMillis 1000⟩ (by decide)
  rcases hbounded.between (fun _ => 0) 0 with ⟨d, hbackoff, _⟩
  cases hbackoff

end ExponentialBackoffCalculator
end Retry
end CouchbaseSdk
