import Workflow.Proofs.Json.Readback
import Workflow.Proofs.Wire.Gives
import Workflow.Retry

/-!
# Waits between attempts

A wait is computed in 64 bits: the power of two is cut off at the greatest
number of that width, and so is the product with it.  Nothing of this shows in
the result.  Whatever is cut off is at least as great as any ceiling that a
policy can have, so the wait is the doubled first wait, or the ceiling if that
is less, as if the numbers had no bounds (`backoff_eq`).
-/

namespace Workflow.RetryPolicy

open Wire (Decoder Fields)

variable {policy other : RetryPolicy} {attempt later : Nat}

/-! ## Policies in their widths -/

/-- The numbers of a policy have the widths that they are kept in. -/
structure Fits (policy : RetryPolicy) : Prop where
  maxRetries : policy.maxRetries < Width.span 32
  initialBackoff : policy.initialBackoff < Width.span 64
  maxBackoff : policy.maxBackoff < Width.span 64
  attemptTimeout : policy.attemptTimeout < Width.span 64

theorem fits_standard : standard.Fits := by
  constructor <;> decide

/-- Every policy that is read off a document fits. -/
theorem decoder_gives_fits : decoder.Gives Fits := by
  apply Decoder.gives_record
  have hretries := Decoder.gives_natBelow (Width.span 32) "u32"
  have hmillis := Decoder.gives_natBelow (Width.span 64) "u64"
  refine .seq (.seq (.seq (.map
    (Fields.gives_withDefault hretries fits_standard.maxRetries) ?_)
    (Fields.gives_withDefault hmillis fits_standard.initialBackoff))
    (Fields.gives_withDefault hmillis fits_standard.maxBackoff))
    (Fields.gives_withDefault hmillis fits_standard.attemptTimeout)
  intro maxRetries hretries initialBackoff hinitial maxBackoff hmax
    attemptTimeout htimeout
  exact ⟨hretries, hinitial, hmax, htimeout⟩

theorem Fits.le_ceiling (hfits : policy.Fits) : policy.maxBackoff ≤ ceiling :=
  Nat.le_sub_one_of_lt hfits.maxBackoff

/-! ## Powers and products that are cut off -/

theorem cappedPower_eq (n : Nat) : cappedPower n = min (2 ^ n) ceiling := by
  have hpos : 0 < 2 ^ 64 := Nat.two_pow_pos 64
  have hceiling : ceiling = 2 ^ 64 - 1 := rfl
  unfold cappedPower
  by_cases hlarge : 64 ≤ n
  · have hpower : 2 ^ 64 ≤ 2 ^ n := Nat.pow_le_pow_right Nat.two_pos hlarge
    rw [if_pos hlarge]
    omega
  · have hpower : 2 ^ n < 2 ^ 64 :=
      Nat.pow_lt_pow_right Nat.one_lt_two (Nat.lt_of_not_le hlarge)
    have hspan : Width.span n = 2 ^ n := rfl
    rw [if_neg hlarge, hspan]
    omega

/-- It makes no difference whether the power of two has been cut off before. -/
theorem cappedProduct_cappedPower (n attempt : Nat) :
    cappedProduct n (cappedPower attempt) = min (n * 2 ^ attempt) ceiling := by
  rw [cappedPower_eq, cappedProduct]
  rcases Nat.eq_zero_or_pos n with rfl | hpos
  · rw [Nat.zero_mul, Nat.zero_mul]
  · by_cases hpower : 2 ^ attempt ≤ ceiling
    · rw [Nat.min_eq_left hpower]
    -- Both products reach the ceiling, as the first factor is one at least.
    · have hceiling : ceiling ≤ 2 ^ attempt := Nat.le_of_not_le hpower
      have hcut : ceiling ≤ n * ceiling := Nat.le_mul_of_pos_left ceiling hpos
      have hwhole : ceiling ≤ n * 2 ^ attempt :=
        Nat.le_trans hcut (Nat.mul_le_mul_left n hceiling)
      rw [Nat.min_eq_right hceiling, Nat.min_eq_right hcut,
        Nat.min_eq_right hwhole]

/-! ## The wait -/

/-- The wait is what it would be if numbers had no bounds. -/
theorem backoff_eq (hfits : policy.Fits) (attempt : Nat) :
    policy.backoff attempt =
      min (policy.initialBackoff * 2 ^ attempt) policy.maxBackoff := by
  rw [backoff, cappedProduct_cappedPower, Nat.min_assoc,
    Nat.min_eq_right hfits.le_ceiling]

theorem backoff_le_maxBackoff (policy : RetryPolicy) (attempt : Nat) :
    policy.backoff attempt ≤ policy.maxBackoff :=
  Nat.min_le_right _ _

/-- Later attempts, and greater waits in the policy, do not make a wait
shorter. -/
theorem backoff_le_backoff (hpolicy : policy.Fits) (hother : other.Fits)
    (hattempt : attempt ≤ later)
    (hinitial : policy.initialBackoff ≤ other.initialBackoff)
    (hmax : policy.maxBackoff ≤ other.maxBackoff) :
    policy.backoff attempt ≤ other.backoff later := by
  rw [backoff_eq hpolicy, backoff_eq hother]
  have hpower : 2 ^ attempt ≤ 2 ^ later :=
    Nat.pow_le_pow_right Nat.two_pos hattempt
  exact min_le_min (Nat.mul_le_mul hinitial hpower) hmax

/-- The wait is exact and never longer than the policy allows, and it grows with
the attempts and with both waits of the policy. -/
theorem backoff_exact (hpolicy : policy.Fits) (attempt : Nat) :
    policy.backoff attempt =
        min (policy.initialBackoff * 2 ^ attempt) policy.maxBackoff ∧
      policy.backoff attempt ≤ policy.maxBackoff ∧
      ∀ (other : RetryPolicy) (later : Nat), other.Fits → attempt ≤ later →
        policy.initialBackoff ≤ other.initialBackoff →
        policy.maxBackoff ≤ other.maxBackoff →
        policy.backoff attempt ≤ other.backoff later := by
  refine ⟨backoff_eq hpolicy attempt, backoff_le_maxBackoff policy attempt, ?_⟩
  intro other later hother hattempt hinitial hmax
  exact backoff_le_backoff hpolicy hother hattempt hinitial hmax

/-- Here both the power and the product are cut off. -/
theorem backoff_exact_vast :
    let policy : RetryPolicy := ⟨100, 3, 2 ^ 64 - 1, 60⟩
    policy.Fits ∧ policy.backoff 70 = min (3 * 2 ^ 70) (2 ^ 64 - 1) ∧
      policy.backoff 62 ≤ policy.backoff 70 := by
  intro policy
  have hfits : policy.Fits := by
    constructor <;> decide
  obtain ⟨hexact, -, -⟩ := backoff_exact hfits 70
  obtain ⟨-, -, hgrows⟩ := backoff_exact hfits 62
  have hlater : policy.backoff 62 ≤ policy.backoff 70 :=
    hgrows policy 70 hfits (by decide) le_rfl le_rfl
  exact ⟨hfits, hexact, hlater⟩

end Workflow.RetryPolicy
