-- The double that digits and an exponent are read as is that of a literal with the same digits
-- and exponent. The reader works out no power of ten that the answer does not need, so this is
-- to be seen where the number is so small that it is rounded to zero.
import Dealer.Proofs.Rounding

namespace Dealer

open Float.Model Float.Model.UnpackedFloat

namespace Rounding

/-! ## Numbers that are rounded to zero -/

/-- Less than half a place is rounded down. -/
theorem rounded_eq_zero {em : ExtendedMantissa} {x : ℚ} (h : Holds em x) (hx : x < 1 / 2) :
    em.roundedMantissa = 0 := by
  have hmantissa : em.mantissa = 0 := by
    have : (em.mantissa : ℚ) < 1 := by linarith [h.mantissa_le]
    exact_mod_cast Nat.lt_one_iff.mp (by exact_mod_cast this)
  have hround : em.roundBit = false := by
    by_contra hne
    have hbit : em.roundBit = true := by simpa using hne
    have hle := h.least
    rw [hmantissa, hbit] at hle
    norm_num [half] at hle
    linarith
  obtain ⟨m, round, sticky⟩ := em
  dsimp only at hmantissa hround
  rw [hmantissa, hround]
  cases sticky <;> rfl

/-- A number below half of the last place that there is becomes zero. -/
theorem round_eq_zero {m : Nat} {acc : Accuracy} {x : ℚ}
    (h : Holds (.ofMantissaAndAccuracy m acc) x) (hx : 0 ≤ x) {e : Int}
    (hsmall : x * 2 ^ e < 2 ^ (-1075 : Int)) (s : Sign) :
    roundWithAccuracy .binary64 s m e acc = .zero s := by
  have stands : Holds (shifted m e acc) (x / 2 ^ shiftOf m e) := h.shiftRight (shiftOf m e)
  have hplace : -1074 ≤ e + shiftOf m e := by unfold shiftOf; omega
  have hhalf : x / 2 ^ shiftOf m e < 1 / 2 := by
    have hpos : (0 : ℚ) < 2 ^ (-1074 : Int) := by positivity
    rw [← mul_lt_mul_iff_of_pos_right hpos]
    calc x / 2 ^ shiftOf m e * 2 ^ (-1074 : Int)
        ≤ x / 2 ^ shiftOf m e * 2 ^ (e + shiftOf m e) := by
          gcongr
          exact one_le_two
      _ = x * 2 ^ e := by
          rw [zpow_add₀ two_ne_zero, zpow_natCast]
          field_simp
      _ < 2 ^ (-1075 : Int) := hsmall
      _ = 1 / 2 * 2 ^ (-1074 : Int) := by
          rw [show (-1075 : Int) = -1 + -1074 from rfl, zpow_add₀ two_ne_zero]
          norm_num
  have hzero : roundedOf m e acc = 0 := rounded_eq_zero stands hhalf
  rcases roundWithAccuracy_cases s m e acc with ⟨_, heq⟩ | ⟨hr, _⟩
  · exact heq
  · exact absurd hzero hr

theorem div_eq_zero (s s' : Sign) {m n : Nat} {e e' : Int} (hm : 0 < m) (hn : 0 < n)
    (hsmall : (m / n : ℚ) * 2 ^ (e - e') < 2 ^ (-1075 : Int)) :
    UnpackedFloat.div .binary64 (.finite s m e hm) (.finite s' n e' hn) = .zero (s / s') := by
  obtain ⟨shift, hround⟩ := @div_eq_round s s' m n e e' hm hn
  rw [hround]
  refine round_eq_zero (Holds.fraction (m * 2 ^ shift) hn) (by positivity) ?_ _
  rwa [shifted_quotient m hn]

/-- Where a number is so small, its double is zero. -/
theorem model_ofScientific_eq_zero {m : Nat} (hm : m ≠ 0) {e : Int} (he : e < 0)
    (hsmall : (m.log2 : Int) + 1 + 3 * e ≤ -1075) :
    Float.Model.ofScientific m e = Float.Model.pack (.zero .positive) := by
  have hlt : (m : ℚ) * 10 ^ e < 2 ^ (-1075 : Int) :=
    lt_of_lt_of_le (lt_two_zpow m he.le) (zpow_le_zpow_right₀ one_le_two hsmall)
  have hbits : (0 : Int) ≤ 2 ^ Format.binary64.exponentBits := by positivity
  unfold Float.Model.ofScientific UnpackedFloat.ofScientific
  rw [dif_neg hm, if_neg (by omega)]
  split
  · rfl
  · rw [if_neg (by omega), div_eq_zero]
    · rfl
    · rw [quotient_of_negative m he]
      exact hlt

/-- The digits of zero are zero with whatever exponent. -/
theorem ofScientific_zero (negative : Bool) (e : Nat) : Float.ofScientific 0 negative e = 0.0 := by
  have few : ∀ negative : Bool, ∀ e : Fin 23, Float.ofScientific 0 negative e = 0.0 := by
    decide +kernel
  by_cases he : e ≤ 22
  · exact few negative ⟨e, by omega⟩
  · unfold Float.ofScientific
    rw [dif_neg (by omega)]
    have zero (k : Int) : Float.Model.ofScientific 0 k = Float.Model.pack (.zero .positive) := rfl
    dsimp only
    rw [zero]
    rfl

/-! ## Finite doubles -/

/-- Of the doubles only those that are no numbers are not equal to themselves. -/
theorem beq_self_of_isFinite {x : Float} (h : x.isFinite = true) : (x == x) = true := by
  show UnpackedFloat.beq x.toModel.unpack x.toModel.unpack = true
  rcases cases_of_isFinite h with ⟨s, hx⟩ | ⟨s, m, e, hm, hx⟩
  · rw [hx]
    rfl
  · rw [hx]
    cases s <;> simp [UnpackedFloat.beq, UnpackedFloat.compare]

/-- The largest exponent of all is kept for what is not finite. -/
theorem exponent_le_of_unpack {b : BitVec 64} {s : Sign} {m : Nat} {e : Int}
    {hm : 0 < m} (h : UnpackedFloat.unpack .binary64 b = .finite s m e hm) : e ≤ 971 := by
  have hbound := (bounds_of_unpack h).2
  have hlast : @unpackExponent .binary64 b ≠ -1#11 := by
    intro hlast
    unfold UnpackedFloat.unpack at h
    dsimp only at h
    rw [if_pos hlast] at h
    split at h <;> cases h
  have hlt := (@unpackExponent .binary64 b).isLt
  have hne : (@unpackExponent .binary64 b).toNat ≠ 2047 :=
    fun heq => hlast (BitVec.eq_of_toNat_eq heq)
  change _ < 2048 at hlt
  omega

theorem isFinite_neg {x : Float} (h : x.isFinite = true) : (-x).isFinite = true := by
  show (Float.Model.pack x.toModel.unpack.neg).isFinite = true
  rcases cases_of_isFinite h with ⟨s, hx⟩ | ⟨s, m, e, hm, hx⟩
  · rw [hx]
    exact isFinite_pack_zero _
  · rw [hx]
    exact (isFinite_pack_finite _ hm).mpr (exponent_le_of_unpack hx)

end Rounding

/-- The double of a literal with these digits and this exponent. -/
def Decimal.double (d : Decimal) : Float :=
  match d.exp with
  | .ofNat e => Float.ofScientific d.digits false e
  | .negSucc e => Float.ofScientific d.digits true (e + 1)

open Rounding

theorem Decimal.isFinite_double (d : Decimal) :
    d.double.isFinite = true ↔ d.value < infiniteFrom := by
  obtain ⟨m, e⟩ := d
  cases e with
  | ofNat e => exact isFinite_ofScientific m false e
  | negSucc e => exact isFinite_ofScientific m true (e + 1)

/-- A number that is a finite double is read as the double of its literal. -/
theorem Decimal.toFloat_eq_double {d : Decimal} (h : d.double.isFinite = true) :
    d.toFloat = d.double := by
  rw [d.isFinite_double] at h
  obtain ⟨m, e⟩ := d
  unfold Decimal.toFloat Decimal.double
  dsimp only
  by_cases hm : m = 0
  · subst hm
    rw [if_pos rfl]
    cases e with
    | ofNat e => exact (ofScientific_zero false e).symm
    | negSucc e => exact (ofScientific_zero true (e + 1)).symm
  · rw [if_neg hm]
    cases e with
    | ofNat e =>
      dsimp only
      rw [if_neg fun hlarge => ?_]
      exact not_lt.mpr (infiniteFrom_le_of_large hm (Int.ofNat_le.mpr hlarge)) h
    | negSucc e =>
      dsimp only
      split
      · rename_i hsmall
        unfold Float.ofScientific
        rw [dif_neg (by omega)]
        have hexp : Int.negOfNat (e + 1) = -((e + 1 : Nat) : Int) := Int.negOfNat_eq
        dsimp only
        rw [if_pos rfl, model_ofScientific_eq_zero hm (by omega) (by omega)]
        rfl
      · rfl

end Dealer
