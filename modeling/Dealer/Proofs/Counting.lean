-- Counts. A double has a value, which is exact, and the double is a count where this
-- value is a whole number from zero to the largest count.
import Dealer.Eval.Count
import Mathlib.Algebra.Order.Field.Power
import Mathlib.Data.Rat.Cast.Order
import Mathlib.Tactic.Positivity
import Mathlib.Tactic.Ring

namespace Dealer

/-! ## Values -/

/-- The value of a magnitude. -/
def Dyadic.value (d : Dyadic) : ℚ := d.mant * 2 ^ d.exp

/-- The value of a finite double. -/
def valueOf (x : Float) : ℚ :=
  if isSigned x then -(Dyadic.ofFloat x).value else (Dyadic.ofFloat x).value

namespace Dyadic

variable {d : Dyadic} {n : Nat}

theorem value_nonneg (d : Dyadic) : 0 ≤ d.value := by
  unfold value
  positivity

theorem value_eq_zero_iff : d.value = 0 ↔ d.mant = 0 := by
  unfold value
  simp [zpow_ne_zero]

/-- The value of a magnitude is a whole number if the lowest bits, those behind the point, are
zeros. -/
theorem value_eq_iff : d.value = n ↔ d.isWhole = true ∧ d.floor = n := by
  obtain ⟨mant, exp⟩ := d
  cases exp with
  | ofNat k =>
    have whole : (⟨mant, .ofNat k⟩ : Dyadic).value = (mant <<< k : Nat) := by
      rw [Nat.shiftLeft_eq]
      simp [value]
    rw [whole, Nat.cast_inj]
    simp [isWhole, floor]
  | negSucc k =>
    have parts : (⟨mant, .negSucc k⟩ : Dyadic).value = mant / (2 ^ (k + 1) : Nat) := by
      simp [value, zpow_negSucc, div_eq_mul_inv]
    have unit : (0 : ℚ) < (2 ^ (k + 1) : Nat) := by positivity
    rw [parts, div_eq_iff unit.ne', ← Nat.cast_mul, Nat.cast_inj]
    simp only [isWhole, floor, beq_iff_eq, Nat.one_shiftLeft, Nat.shiftRight_eq_div_pow]
    constructor
    · rintro rfl
      exact ⟨Nat.mul_mod_left n _, Nat.mul_div_cancel n (by positivity)⟩
    · rintro ⟨hrest, rfl⟩
      exact (Nat.div_mul_cancel (Nat.dvd_of_mod_eq_zero hrest)).symm

end Dyadic

variable {x : Float} {n : Nat}

theorem valueOf_neg (hsigned : isSigned x = true) (hmant : (Dyadic.ofFloat x).mant ≠ 0) :
    valueOf x < 0 := by
  have pos : 0 < (Dyadic.ofFloat x).value :=
    lt_of_le_of_ne (Dyadic.value_nonneg _) fun heq => hmant (Dyadic.value_eq_zero_iff.mp heq.symm)
  rw [valueOf, if_pos hsigned]
  exact neg_neg_of_pos pos

/-- The sign of a zero does not count. -/
theorem valueOf_of_nonneg (h : ¬ (isSigned x = true ∧ (Dyadic.ofFloat x).mant ≠ 0)) :
    valueOf x = (Dyadic.ofFloat x).value := by
  unfold valueOf
  split
  · rename_i hsigned
    have zero : (Dyadic.ofFloat x).mant = 0 := by
      by_contra hmant
      exact h ⟨hsigned, hmant⟩
    rw [Dyadic.value_eq_zero_iff.mpr zero, neg_zero]
  · rfl

/-! ## Counts -/

/-- A double is a count: it is finite, and its value is a whole number from zero to the largest
count. -/
def IsCount (x : Float) (n : Nat) : Prop := x.isFinite = true ∧ valueOf x = n ∧ n ≤ maxCount

theorem toCount_eq_ok_iff {what : Counted} : toCount what x = .ok n ↔ IsCount x n := by
  unfold toCount IsCount
  by_cases hfinite : x.isFinite = true
  · by_cases hneg : isSigned x = true ∧ (Dyadic.ofFloat x).mant ≠ 0
    · have below := valueOf_neg hneg.1 hneg.2
      have refused : valueOf x ≠ n := fun heq => by
        rw [heq] at below
        exact absurd below (not_lt.mpr (Nat.cast_nonneg n))
      simp [hfinite, hneg, refused]
    · rw [valueOf_of_nonneg hneg, Dyadic.value_eq_iff]
      by_cases hwhole : (Dyadic.ofFloat x).isWhole = true
      · have passes : ¬ ((isSigned x && decide ((Dyadic.ofFloat x).mant ≠ 0) ||
            !(Dyadic.ofFloat x).isWhole) = true) := by
          simpa [hwhole] using hneg
        rw [if_neg (by simp [hfinite]), if_neg passes]
        by_cases hlarge : maxCount < (Dyadic.ofFloat x).floor
        · rw [if_pos hlarge]
          refine ⟨fun h => (by cases h), ?_⟩
          rintro ⟨-, ⟨-, rfl⟩, hle⟩
          exact absurd hle (Nat.not_le.mpr hlarge)
        · rw [if_neg hlarge, Except.ok.injEq]
          refine ⟨?_, fun h => h.2.1.2⟩
          rintro rfl
          exact ⟨hfinite, ⟨hwhole, rfl⟩, Nat.le_of_not_lt hlarge⟩
      · simp [hfinite, hwhole]
  · simp [hfinite]

end Dealer
