-- Which decimal numbers are finite doubles. A number is rounded to the nearest double, so
-- it is infinite from the middle between the largest double and the next power of two on.
-- On the way a mantissa keeps two bits of what is shifted out of it, and these are enough.
import Dealer.Decimal.Reading
import Mathlib

namespace Dealer

open Float.Model Float.Model.UnpackedFloat

/-- The middle between the largest double and the next power of two. -/
def infiniteFrom : ℚ := 2 ^ 1024 - 2 ^ 970

/-- The number that a decimal number is. -/
def Decimal.value (d : Decimal) : ℚ := d.digits * 10 ^ d.exp

namespace Rounding

/-! ## A mantissa and the bits behind it -/

/-- The weight of a round bit. -/
def half (b : Bool) : ℚ := if b then 1 / 2 else 0

theorem half_nonneg (b : Bool) : 0 ≤ half b := by cases b <;> norm_num [half]

theorem half_le (b : Bool) : half b ≤ 1 / 2 := by cases b <;> norm_num [half]

/-- A mantissa and its bits stand for `x`. The round bit is worth a half, and the sticky bit tells
whether anything less than a half comes on top. -/
structure Holds (em : ExtendedMantissa) (x : ℚ) : Prop where
  least : em.mantissa + half em.roundBit ≤ x
  most : x < em.mantissa + half em.roundBit + 1 / 2
  sticky : em.stickyBit = true ↔ em.mantissa + half em.roundBit < x

namespace Holds

variable {em : ExtendedMantissa} {x : ℚ}

theorem mantissa_le (h : Holds em x) : (em.mantissa : ℚ) ≤ x := by
  linarith [h.least, half_nonneg em.roundBit]

theorem lt_mantissa (h : Holds em x) : x < em.mantissa + 1 := by
  linarith [h.most, half_le em.roundBit]

/-- The remainder of a division tells the bits behind the quotient. -/
theorem fraction (a : Nat) {b : Nat} (hb : 0 < b) :
    Holds (.ofMantissaAndAccuracy (a / b) (accuracyOfFraction (a % b) b)) (a / b) := by
  have hb' : (0 : ℚ) < b := by exact_mod_cast hb
  have hr : a % b < b := Nat.mod_lt a hb
  have hx : (a : ℚ) / b = (a / b : Nat) + (a % b : Nat) / b := by
    rw [div_eq_iff hb'.ne', add_mul, div_mul_cancel₀ _ hb'.ne']
    exact_mod_cast (by rw [Nat.mul_comm]; exact (Nat.div_add_mod a b).symm :
      a = a / b * b + a % b)
  rw [hx]
  generalize a % b = r at *
  generalize a / b = q at *
  have hone : (r : ℚ) / b < 1 := (div_lt_one hb').mpr (by exact_mod_cast hr)
  have hhalf : (r : ℚ) / b < 1 / 2 ↔ 2 * r < b := by
    rw [div_lt_div_iff₀ hb' two_pos]
    exact_mod_cast (by omega : r * 2 < 1 * b ↔ 2 * r < b)
  have hhalf' : 1 / 2 < (r : ℚ) / b ↔ b < 2 * r := by
    rw [div_lt_div_iff₀ two_pos hb']
    exact_mod_cast (by omega : 1 * b < r * 2 ↔ b < 2 * r)
  unfold accuracyOfFraction
  by_cases hzero : r = 0
  · subst hzero
    constructor <;> simp [ExtendedMantissa.ofMantissaAndAccuracy, half]
  · have hpos : 0 < (r : ℚ) / b := by positivity
    rw [if_neg hzero]
    cases hcompare : compare (2 * r) b with
    | lt =>
      have := hhalf.mpr (Nat.compare_eq_lt.mp hcompare)
      constructor <;> simp [ExtendedMantissa.ofMantissaAndAccuracy, half] <;> linarith
    | eq =>
      have heq := Nat.compare_eq_eq.mp hcompare
      have hle := mt hhalf.mp (by omega)
      have hge := mt hhalf'.mp (by omega)
      constructor <;> simp [ExtendedMantissa.ofMantissaAndAccuracy, half] <;> linarith
    | gt =>
      have := hhalf'.mpr (Nat.compare_eq_gt.mp hcompare)
      constructor <;> simp [ExtendedMantissa.ofMantissaAndAccuracy, half] <;> linarith

theorem exact (m : Nat) : Holds (.ofMantissaAndAccuracy m .exact) m := by
  constructor <;> simp [ExtendedMantissa.ofMantissaAndAccuracy, half]

/-- Shifting by one place puts the last bit of the mantissa in the place of the round bit. -/
theorem shiftRightOne (h : Holds em x) : Holds em.shiftRightOne (x / 2) := by
  obtain ⟨m, round, sticky⟩ := em
  obtain ⟨least, most, hsticky⟩ := h
  dsimp only at least most hsticky
  have hm : (m : ℚ) = 2 * (m / 2 : Nat) + (m % 2 : Nat) := by
    exact_mod_cast (Nat.div_add_mod m 2).symm
  have hbit : half (m % 2 != 0) = (m % 2 : Nat) / 2 := by
    rcases Nat.mod_two_eq_zero_or_one m with h | h <;> simp [half, h]
  constructor <;> simp only [ExtendedMantissa.shiftRightOne, hbit]
  case least => linarith [half_nonneg round]
  case most => linarith [half_le round]
  case sticky =>
    cases round with
    | false =>
      simp only [half] at hsticky
      rw [Bool.false_or, hsticky]
      constructor <;> intro h <;> norm_num at * <;> linarith
    | true =>
      simp only [half] at least
      norm_num at *
      linarith

theorem shiftRight (h : Holds em x) (k : Nat) : Holds (em >>> k) (x / 2 ^ k) := by
  induction k with
  | zero => simpa [HShiftRight.hShiftRight, Nat.repeat] using h
  | succ k ih =>
    rw [pow_succ, ← div_div]
    exact ih.shiftRightOne

theorem le_rounded (em : ExtendedMantissa) : em.mantissa ≤ em.roundedMantissa := by
  obtain ⟨m, round, sticky⟩ := em
  cases round <;> cases sticky <;>
    simp [ExtendedMantissa.roundedMantissa, ExtendedMantissa.accuracy,
      Accuracy.roundToNearestEven]

theorem rounded_le (em : ExtendedMantissa) : em.roundedMantissa ≤ em.mantissa + 1 := by
  obtain ⟨m, round, sticky⟩ := em
  cases round <;> cases sticky <;>
    simp [ExtendedMantissa.roundedMantissa, ExtendedMantissa.accuracy,
      Accuracy.roundToNearestEven]
  omega

/-- An odd mantissa is rounded up where its round bit is set, for a tie goes to the even number. -/
theorem rounded_of_odd (em : ExtendedMantissa) (h : em.mantissa % 2 = 1) :
    em.roundedMantissa = em.mantissa + if em.roundBit then 1 else 0 := by
  obtain ⟨m, round, sticky⟩ := em
  cases round <;> cases sticky <;>
    simp [ExtendedMantissa.roundedMantissa, ExtendedMantissa.accuracy,
      Accuracy.roundToNearestEven]
  exact h

/-- An even number is reached from the middle in front of it on. -/
theorem even_le_rounded (h : Holds em x) (n : Nat) :
    2 * n ≤ em.roundedMantissa ↔ (2 * n : ℚ) - 1 / 2 ≤ x := by
  have least := h.mantissa_le
  have most := h.lt_mantissa
  rcases Nat.lt_trichotomy (2 * n) (em.mantissa + 1) with hle | heq | hgt
  · have hn : (2 * n : ℚ) ≤ em.mantissa := by exact_mod_cast Nat.lt_succ_iff.mp hle
    have := le_rounded em
    exact iff_of_true (by omega) (by linarith)
  · have hn : (2 * n : ℚ) = em.mantissa + 1 := by exact_mod_cast heq
    have hodd := rounded_of_odd em (by omega)
    have hleast := h.least
    have hmost := h.most
    cases hround : em.roundBit with
    | false =>
      rw [hround] at hodd hmost
      norm_num [half] at hodd hmost
      exact iff_of_false (by omega) (by linarith)
    | true =>
      rw [hround] at hodd hleast
      norm_num [half] at hodd hleast
      exact iff_of_true (by omega) (by linarith)
  · have hn : (em.mantissa + 2 : ℚ) ≤ 2 * n := by exact_mod_cast hgt
    have := rounded_le em
    exact iff_of_false (by omega) (by linarith)

end Holds

/-! ## Packed doubles -/

theorem isFinite_pack_iff (u : UnpackedFloat) :
    (Float.Model.pack u).isFinite = true ↔
      unpackExponent (UnpackedFloat.pack .binary64 u) ≠ -1#11 := by
  show (UnpackedFloat.unpack .binary64 (UnpackedFloat.pack .binary64 u)).isFinite = true ↔ _
  generalize UnpackedFloat.pack .binary64 u = b
  unfold UnpackedFloat.unpack
  dsimp only
  split
  · rename_i h
    refine iff_of_false ?_ (not_not_intro h)
    split <;> simp [UnpackedFloat.isFinite]
  · rename_i h
    refine iff_of_true ?_ h
    split
    · split <;> rfl
    · rfl

theorem isFinite_pack_zero (s : Sign) : (Float.Model.pack (.zero s)).isFinite = true := by
  cases s <;> decide

theorem isFinite_pack_infinity (s : Sign) : (Float.Model.pack (.infinity s)).isFinite = false := by
  cases s <;> decide

theorem biased_exponent (e : Int) :
    e + Format.binary64.exponentBias + Format.binary64.mantissaBitsWithoutImplicit = e + 1075 :=
  Int.add_assoc e 1023 52

/-- A double whose exponent is not too large is packed with it, or with none if it is too small. -/
theorem unpackExponent_pack_finite (s : Sign) {m : Nat} {e : Int} (hm : 0 < m) (he : e ≤ 971) :
    (unpackExponent (UnpackedFloat.pack .binary64 (.finite s m e hm))).toNat ≤
      (e + 1075).toNat := by
  rw [UnpackedFloat.pack]
  dsimp only
  rw [biased_exponent, if_neg (show ¬2 ^ 11 ≤ (e + 1075).toNat + 1 by omega)]
  split
  · rw [unpackExponent_packComponents, BitVec.toNat_ofNat]
    exact Nat.mod_le _ _
  · rw [unpackExponent_packComponents]
    exact Nat.zero_le _

theorem isFinite_pack_finite (s : Sign) {m : Nat} {e : Int} (hm : 0 < m) :
    (Float.Model.pack (.finite s m e hm)).isFinite = true ↔ e ≤ 971 := by
  rw [isFinite_pack_iff]
  by_cases he : e ≤ 971
  · have hle := unpackExponent_pack_finite s hm he
    refine iff_of_true ?_ he
    intro heq
    rw [heq] at hle
    change 2047 ≤ _ at hle
    omega
  · refine iff_of_false (not_not_intro ?_) he
    rw [UnpackedFloat.pack]
    dsimp only
    rw [biased_exponent, if_pos (show 2 ^ 11 ≤ (e + 1075).toNat + 1 by omega)]
    exact unpackExponent_packComponents

/-! ## Rounding a mantissa -/

theorem binary64_targetExponent (e : Int) :
    Format.binary64.targetExponent e = max (e - 53) (-1074) := by
  unfold Format.targetExponent
  rfl

/-- The places that a mantissa with this exponent is shifted by. -/
def shiftOf (m : Nat) (e : Int) : Nat := (max (m.log2 + 1 + e - 53) (-1074) - e).toNat

theorem shiftToTargetExponent_eq (m : Nat) (e : Int) (acc : Accuracy) :
    shiftToTargetExponent .binary64 m e acc =
      (ExtendedMantissa.ofMantissaAndAccuracy m acc >>> shiftOf m e, e + shiftOf m e) := by
  unfold shiftToTargetExponent shiftToExponent
  rw [binary64_targetExponent]
  rfl

theorem shiftRight_mantissa (em : ExtendedMantissa) (k : Nat) :
    (em >>> k).mantissa = em.mantissa / 2 ^ k := by
  induction k with
  | zero => simp [HShiftRight.hShiftRight, Nat.repeat]
  | succ k ih =>
    show (em >>> k).mantissa / 2 = _
    rw [ih, Nat.div_div_eq_div_mul, Nat.pow_succ]

/-- A mantissa, shifted to its places. -/
def shifted (m : Nat) (e : Int) (acc : Accuracy) : ExtendedMantissa :=
  ExtendedMantissa.ofMantissaAndAccuracy m acc >>> shiftOf m e

theorem shifted_mantissa (m : Nat) (e : Int) (acc : Accuracy) :
    (shifted m e acc).mantissa = m / 2 ^ shiftOf m e := by
  have whole : (ExtendedMantissa.ofMantissaAndAccuracy m acc).mantissa = m := by
    cases acc with
    | exact => rfl
    | inexact o => cases o <;> rfl
  rw [shifted, shiftRight_mantissa, whole]

/-- A shifted mantissa is not longer than its places. -/
theorem shifted_lt (m : Nat) (e : Int) (acc : Accuracy) :
    (shifted m e acc).mantissa < 2 ^ 53 := by
  have hshift : m.log2 + 1 ≤ 53 + shiftOf m e := by unfold shiftOf; omega
  rw [shifted_mantissa, Nat.div_lt_iff_lt_mul (by positivity), ← Nat.pow_add]
  exact Nat.lt_of_lt_of_le Nat.lt_log2_self (Nat.pow_le_pow_right (by decide) hshift)

/-- A mantissa that is shifted to a last place above that of the largest double was too long, so it
fills all its places. -/
theorem le_shifted {m : Nat} {e : Int} (acc : Accuracy) (he : e ≤ 971)
    (h : 971 < e + shiftOf m e) : 2 ^ 52 ≤ (shifted m e acc).mantissa := by
  have hshift : m.log2 = 52 + shiftOf m e := by unfold shiftOf at *; omega
  have hm : m ≠ 0 := by
    rintro rfl
    rw [Nat.log2_zero] at hshift
    omega
  rw [shifted_mantissa, Nat.le_div_iff_mul_le (by positivity), ← Nat.pow_add, ← hshift]
  exact Nat.log2_self_le hm

/-- The mantissa that is left when one is shifted to its places and rounded. -/
def roundedOf (m : Nat) (e : Int) (acc : Accuracy) : Nat := (shifted m e acc).roundedMantissa

theorem log2_roundedOf_le (m : Nat) (e : Int) (acc : Accuracy) :
    (roundedOf m e acc).log2 ≤ 53 := by
  have hle : roundedOf m e acc ≤ 2 ^ 53 := Nat.le_trans (Holds.rounded_le _) (shifted_lt m e acc)
  by_cases hzero : roundedOf m e acc = 0
  · simp [hzero]
  · exact Nat.lt_succ_iff.mp ((Nat.log2_lt hzero).mpr (by omega))

/-- A mantissa is shifted and rounded, and shifted once more where rounding made it too long. -/
theorem roundWithAccuracy_cases (s : Sign) (m : Nat) (e : Int) (acc : Accuracy) :
    let r := roundedOf m e acc
    (r = 0 ∧ roundWithAccuracy .binary64 s m e acc = .zero s) ∨
      (r ≠ 0 ∧ ∃ n hn, roundWithAccuracy .binary64 s m e acc =
        .finite s n (e + shiftOf m e + (r.log2 - 52 : Nat)) hn) := by
  unfold roundWithAccuracy
  rw [shiftToTargetExponent_eq]
  dsimp only
  rw [← shifted, ← roundedOf]
  generalize roundedOf m e acc = r
  have hle : -1074 ≤ e + shiftOf m e := by unfold shiftOf; omega
  generalize e + (shiftOf m e : Int) = e' at *
  have hshift : shiftOf r e' = r.log2 - 52 := by unfold shiftOf; omega
  rw [shiftToTargetExponent_eq, hshift]
  have hmantissa : (ExtendedMantissa.ofMantissaAndAccuracy r .exact >>> (r.log2 - 52)).mantissa =
      r / 2 ^ (r.log2 - 52) := shiftRight_mantissa _ _
  split
  · rename_i hzero
    refine Or.inl ⟨?_, rfl⟩
    rw [hmantissa, Nat.div_eq_zero_iff_lt (by positivity)] at hzero
    by_contra hr
    have := Nat.log2_self_le hr
    have : 2 ^ (r.log2 - 52) ≤ 2 ^ r.log2 := Nat.pow_le_pow_right (by decide) (by omega)
    omega
  · rename_i hzero
    refine Or.inr ⟨?_, _, Nat.pos_of_ne_zero hzero, rfl⟩
    rintro rfl
    rw [hmantissa] at hzero
    exact hzero (by simp)

theorem isFinite_pack_round_iff (s : Sign) (m : Nat) (e : Int) (acc : Accuracy) :
    (Float.Model.pack (roundWithAccuracy .binary64 s m e acc)).isFinite = true ↔
      roundedOf m e acc = 0 ∨ e + shiftOf m e + ((roundedOf m e acc).log2 - 52 : Nat) ≤ 971 := by
  rcases roundWithAccuracy_cases s m e acc with ⟨hr, heq⟩ | ⟨hr, n, hn, heq⟩
  · rw [heq]
    exact iff_of_true (isFinite_pack_zero s) (Or.inl hr)
  · rw [heq, isFinite_pack_finite, or_iff_right hr]

/-! ## Where doubles end -/

/-- The middle behind the largest double is half a place above the largest mantissa. -/
theorem lt_infiniteFrom_iff (y : ℚ) :
    y * 2 ^ (971 : Int) < infiniteFrom ↔ y < 2 ^ 53 - 1 / 2 := by
  have hinfinite : infiniteFrom = (2 ^ 53 - 1 / 2) * 2 ^ (971 : Int) := by
    unfold infiniteFrom
    rw [show (971 : Int) = ((970 + 1 : Nat) : Int) from rfl, zpow_natCast,
      show 1024 = 970 + 54 from rfl, pow_add, pow_add]
    generalize (2 : ℚ) ^ 970 = p
    ring
  rw [hinfinite, mul_lt_mul_iff_of_pos_right (by positivity)]

theorem lt_infiniteFrom {y : ℚ} (hy : y < 2 ^ 53) {e : Int} (he : e < 971) :
    y * 2 ^ e < infiniteFrom := by
  have hpos : (0 : ℚ) < 2 ^ e := by positivity
  have hplace : (2 : ℚ) ^ e * 2 ≤ 2 ^ (971 : Int) := by
    rw [← zpow_add_one₀ two_ne_zero]
    exact zpow_le_zpow_right₀ one_le_two (by omega)
  have hlast := (lt_infiniteFrom_iff (2 ^ 52)).mpr (by norm_num)
  calc y * 2 ^ e < 2 ^ 53 * 2 ^ e := mul_lt_mul_of_pos_right hy hpos
    _ ≤ 2 ^ 52 * 2 ^ (971 : Int) := by linarith
    _ < infiniteFrom := hlast

theorem infiniteFrom_le {y : ℚ} (hy : 2 ^ 52 ≤ y) {e : Int} (he : 971 < e) :
    infiniteFrom ≤ y * 2 ^ e := by
  have hplace : (2 : ℚ) ^ (971 : Int) * 2 ≤ 2 ^ e := by
    rw [← zpow_add_one₀ two_ne_zero]
    exact zpow_le_zpow_right₀ one_le_two (by omega)
  have hlast := mt (lt_infiniteFrom_iff (2 ^ 53)).mp (by norm_num)
  calc infiniteFrom ≤ 2 ^ 53 * 2 ^ (971 : Int) := not_lt.mp hlast
    _ ≤ 2 ^ 52 * 2 ^ e := by linarith
    _ ≤ y * 2 ^ e := by gcongr

/-- At the last place of the largest double a mantissa must not be too long. -/
theorem fits_iff (r : Nat) :
    (r = 0 ∨ (971 : Int) + (r.log2 - 52 : Nat) ≤ 971) ↔ r < 2 ^ 53 := by
  by_cases hzero : r = 0
  · simp [hzero]
  · rw [← Nat.log2_lt hzero, or_iff_right hzero]
    omega

/-- A number that a mantissa and its bits stand for is rounded to a finite double exactly where it
is below the middle behind the largest. -/
theorem isFinite_pack_round {m : Nat} {acc : Accuracy} {x : ℚ}
    (h : Holds (.ofMantissaAndAccuracy m acc) x) {e : Int} (he : e ≤ 971) (s : Sign) :
    (Float.Model.pack (roundWithAccuracy .binary64 s m e acc)).isFinite = true ↔
      x * 2 ^ e < infiniteFrom := by
  have small := shifted_lt m e acc
  have full := le_shifted (m := m) acc he
  have short := log2_roundedOf_le m e acc
  have stands : Holds (shifted m e acc) (x / 2 ^ shiftOf m e) := h.shiftRight (shiftOf m e)
  have value : x * 2 ^ e = x / 2 ^ shiftOf m e * 2 ^ (e + shiftOf m e) := by
    rw [zpow_add₀ two_ne_zero, zpow_natCast]
    field_simp
  rw [isFinite_pack_round_iff, value]
  unfold roundedOf at *
  generalize shifted m e acc = em at *
  generalize shiftOf m e = k at *
  generalize x / 2 ^ k = y at *
  -- The last place is below that of the largest double, or the same, or above it.
  rcases Int.lt_trichotomy (e + k) 971 with hlt | heq | hgt
  · have hy : y < 2 ^ 53 := lt_of_lt_of_le stands.lt_mantissa (by exact_mod_cast small)
    exact iff_of_true (Or.inr (by omega)) (lt_infiniteFrom hy hlt)
  · have middle : 2 ^ 53 ≤ em.roundedMantissa ↔ (2 ^ 53 - 1 / 2 : ℚ) ≤ y := by
      have := stands.even_le_rounded (2 ^ 52)
      norm_num at this ⊢
      exact this
    rw [heq, lt_infiniteFrom_iff, fits_iff, ← Nat.not_le, ← not_le, ← middle]
  · have hmantissa := full hgt
    have hrounded := Holds.le_rounded em
    have hy : (2 : ℚ) ^ 52 ≤ y := le_trans (by exact_mod_cast hmantissa) stands.mantissa_le
    exact iff_of_false (by omega) (not_lt.mpr (infiniteFrom_le hy hgt))

/-! ## Decimal numbers -/

theorem isFinite_pack_mul (s s' : Sign) {m n : Nat} {e : Int} (hm : 0 < m) (hn : 0 < n) {e' : Int}
    (he : e + e' ≤ 971) :
    (Float.Model.pack (UnpackedFloat.mul .binary64 (.finite s m e hm)
      (.finite s' n e' hn))).isFinite = true ↔ (m * n : ℚ) * 2 ^ (e + e') < infiniteFrom := by
  have := isFinite_pack_round (Holds.exact (m * n)) he (s * s')
  rwa [Nat.cast_mul] at this

/-- The dividend is shifted first, so that the quotient has enough places. -/
theorem div_eq_round (s s' : Sign) {m n : Nat} {e e' : Int} (hm : 0 < m) (hn : 0 < n) :
    ∃ shift : Nat, UnpackedFloat.div .binary64 (.finite s m e hm) (.finite s' n e' hn) =
      roundWithAccuracy .binary64 (s / s') ((m * 2 ^ shift) / n) (e - e' - shift)
        (accuracyOfFraction ((m * 2 ^ shift) % n) n) := by
  generalize htarget : min (e - e')
    (Format.binary64.targetExponent (totalExponent m e - totalExponent n e')) = target
  have hle : target ≤ e - e' := by omega
  refine ⟨(e - e' - target).toNat, ?_⟩
  have hexp : e - e' - ((e - e' - target).toNat : Int) = target := by omega
  unfold UnpackedFloat.div divCore
  dsimp only
  rw [htarget, hexp, Nat.shiftLeft_eq]

/-- Shifting the dividend changes nothing of the quotient. -/
theorem shifted_quotient (m : Nat) {n : Nat} (hn : 0 < n) (e : Int) (shift : Nat) :
    ((m * 2 ^ shift : Nat) / n : ℚ) * 2 ^ (e - shift) = (m / n : ℚ) * 2 ^ e := by
  have hn' : (n : ℚ) ≠ 0 := by exact_mod_cast hn.ne'
  rw [zpow_sub₀ two_ne_zero, zpow_natCast]
  push_cast
  field_simp

theorem isFinite_pack_div (s s' : Sign) {m n : Nat} {e e' : Int} (hm : 0 < m) (hn : 0 < n)
    (he : e - e' ≤ 971) :
    (Float.Model.pack (UnpackedFloat.div .binary64 (.finite s m e hm)
      (.finite s' n e' hn))).isFinite = true ↔ (m / n : ℚ) * 2 ^ (e - e') < infiniteFrom := by
  obtain ⟨shift, hround⟩ := @div_eq_round s s' m n e e' hm hn
  rw [hround, isFinite_pack_round (Holds.fraction (m * 2 ^ shift) hn) (by omega),
    shifted_quotient m hn]

theorem lt_infiniteFrom_of_lt {x : ℚ} (h : x < 2 ^ 53) : x < infiniteFrom := by
  have := lt_infiniteFrom h (e := 0) (by omega)
  rwa [zpow_zero, mul_one] at this

theorem infiniteFrom_le_of_large {m : Nat} (hm : m ≠ 0) {e : Int} (he : 310 ≤ e) :
    infiniteFrom ≤ (m : ℚ) * 10 ^ e := by
  have hm' : (1 : ℚ) ≤ m := by exact_mod_cast Nat.pos_of_ne_zero hm
  have hpow : (2 : ℚ) ^ 1024 ≤ 10 ^ 310 := by
    calc (2 : ℚ) ^ 1024 = (2 ^ 256) ^ 4 := (pow_mul 2 256 4)
      _ ≤ (10 ^ 77 * 2) ^ 4 := by gcongr; norm_num
      _ ≤ (10 ^ 77) ^ 4 * 10 ^ 2 := by rw [mul_pow]; gcongr; norm_num
      _ = 10 ^ 310 := by rw [← pow_mul, ← pow_add]
  calc infiniteFrom ≤ 2 ^ 1024 := sub_le_self _ (by positivity)
    _ ≤ 10 ^ (310 : Int) := hpow
    _ ≤ 10 ^ e := zpow_le_zpow_right₀ (by norm_num) he
    _ ≤ m * 10 ^ e := le_mul_of_one_le_left (by positivity) hm'

/-- A power of ten takes off three bits and more for each place. -/
theorem lt_two_zpow (m : Nat) {e : Int} (he : e ≤ 0) :
    (m : ℚ) * 10 ^ e < 2 ^ ((m.log2 : Int) + 1 + 3 * e) := by
  have hlog : (m : ℚ) < 2 ^ ((m.log2 : Int) + 1) := by
    exact_mod_cast (Nat.lt_log2_self : m < 2 ^ (m.log2 + 1))
  have hpow : (10 : ℚ) ^ e ≤ 2 ^ (3 * e) := by
    have ten : (10 : ℚ) ^ e = (10 ^ (-e))⁻¹ := by rw [zpow_neg, inv_inv]
    have eight : (2 : ℚ) ^ (3 * e) = (8 ^ (-e))⁻¹ := by
      rw [zpow_neg, inv_inv, zpow_mul]
      norm_num
    rw [ten, eight]
    exact inv_anti₀ (by positivity) (zpow_le_zpow_left₀ (by omega) (by norm_num) (by norm_num))
  calc (m : ℚ) * 10 ^ e ≤ m * 2 ^ (3 * e) := by gcongr
    _ < 2 ^ ((m.log2 : Int) + 1) * 2 ^ (3 * e) := mul_lt_mul_of_pos_right hlog (by positivity)
    _ = 2 ^ ((m.log2 : Int) + 1 + 3 * e) := (zpow_add₀ two_ne_zero _ _).symm

theorem lt_infiniteFrom_of_small (m : Nat) {e : Int} (he : e ≤ 0)
    (hm : (m.log2 : Int) + 3 * e < 53) : (m : ℚ) * 10 ^ e < infiniteFrom := by
  apply lt_infiniteFrom_of_lt
  calc (m : ℚ) * 10 ^ e < 2 ^ ((m.log2 : Int) + 1 + 3 * e) := lt_two_zpow m he
    _ ≤ 2 ^ (53 : Int) := zpow_le_zpow_right₀ one_le_two (by omega)
    _ = 2 ^ 53 := zpow_natCast 2 53

/-- A negative power of ten is what the digits are divided by. -/
theorem quotient_of_negative (m : Nat) {e : Int} (he : e < 0) :
    (m : ℚ) / (10 ^ (-e).toNat : Nat) * 2 ^ (0 - 0 : Int) = m * 10 ^ e := by
  have hexp : e = -((-e).toNat : Int) := by omega
  generalize (-e).toNat = k at *
  rw [hexp, zpow_neg, zpow_natCast, sub_zero, zpow_zero, mul_one]
  push_cast
  rfl

/-- Digits and an exponent are a finite double exactly where the number is below the middle behind
the largest. -/
theorem isFinite_model_ofScientific (m : Nat) (e : Int) :
    (Float.Model.ofScientific m e).isFinite = true ↔ (m : ℚ) * 10 ^ e < infiniteFrom := by
  unfold Float.Model.ofScientific UnpackedFloat.ofScientific
  by_cases hm : m = 0
  · rw [dif_pos hm, hm]
    refine iff_of_true (isFinite_pack_zero _) (lt_infiniteFrom_of_lt ?_)
    norm_num
  · rw [dif_neg hm]
    split
    · rename_i hlarge
      norm_num at hlarge
      exact iff_of_false (by simp [isFinite_pack_infinity])
        (not_lt.mpr (infiniteFrom_le_of_large hm (by omega)))
    · split
      · rename_i hsmall
        norm_num at hsmall
        exact iff_of_true (isFinite_pack_zero _) (lt_infiniteFrom_of_small m (by omega) (by omega))
      · split
        · rename_i hnonneg
          obtain ⟨k, rfl⟩ := Int.eq_ofNat_of_zero_le hnonneg
          rw [isFinite_pack_mul _ _ _ _ (by decide), Nat.shiftLeft_eq]
          have value : ((m * 2 ^ Format.binary64.mantissaBits : Nat) * (10 ^ k : Nat) : ℚ) *
              2 ^ (-(Format.binary64.mantissaBits : Int) + 0) = m * 10 ^ (k : Int) := by
            rw [add_zero, zpow_neg, zpow_natCast, zpow_natCast]
            push_cast
            field_simp
          rw [Int.toNat_natCast, value]
        · rename_i hneg
          rw [isFinite_pack_div _ _ _ _ (by decide), quotient_of_negative m (by omega)]

/-! ## Few digits -/

/-- The last place of a double that is neither zero nor infinite. -/
def lastPlace? : UnpackedFloat → Option Int
  | .finite _ _ e _ => some e
  | _ => none

theorem cases_of_isFinite {u : UnpackedFloat} (h : u.isFinite = true) :
    (∃ s, u = .zero s) ∨ ∃ s m e hm, u = .finite s m e hm := by
  cases u with
  | notANumber => cases h
  | infinity s => cases h
  | zero s => exact Or.inl ⟨s, rfl⟩
  | finite s m e hm => exact Or.inr ⟨s, m, e, hm, rfl⟩

theorem finite_of_lastPlace {u : UnpackedFloat} {k : Int} (h : k ∈ lastPlace? u) :
    ∃ s m hm, u = .finite s m k hm := by
  cases u with
  | finite s m e hm =>
    cases h
    exact ⟨s, m, hm, rfl⟩
  | _ => cases h

/-- A mantissa is unpacked with fifty-three places at most, and with the exponent that it was packed
with. -/
theorem bounds_of_unpack {b : BitVec 64} {s : Sign} {m : Nat} {e : Int} {hm : 0 < m}
    (h : UnpackedFloat.unpack .binary64 b = .finite s m e hm) :
    m < 2 ^ 53 ∧ e ≤ max 1 (@unpackExponent .binary64 b).toNat - 1075 := by
  unfold UnpackedFloat.unpack at h
  dsimp only at h
  split at h
  · split at h <;> cases h
  · split at h
    · rename_i hzero
      split at h
      · cases h
      · cases h
        rw [hzero]
        exact ⟨Nat.lt_trans (BitVec.isLt _) (by decide), by decide⟩
    · cases h
      refine ⟨BitVec.isLt _, sub_le_sub ?_ (by decide)⟩
      omega

theorem lastPlace_pack_finite {s : Sign} {m : Nat} {e k : Int} (hm : 0 < m) (low : -1074 ≤ e)
    (high : e ≤ 971) (h : k ∈ lastPlace? (Float.Model.pack (.finite s m e hm)).unpack) : k ≤ e := by
  obtain ⟨_, _, _, hunpack⟩ := finite_of_lastPlace h
  have hexp := unpackExponent_pack_finite s hm high
  have hplace : k ≤ max 1 (unpackExponent
    (UnpackedFloat.pack .binary64 (.finite s m e hm))).toNat - 1075 := (bounds_of_unpack hunpack).2
  omega

/-- Fifty-three places hold a number without moving its last place above the ones, but for the place
that rounding may add. -/
theorem lastPlace_ofUInt64 {n : UInt64} (h : n.toNat < 2 ^ 53) :
    (Float.Model.ofUInt64 n).isFinite = true ∧
      ∀ k ∈ lastPlace? (Float.Model.ofUInt64 n).unpack, k ≤ 1 := by
  unfold Float.Model.ofUInt64 UnpackedFloat.ofUInt64 UnpackedFloat.ofNat UnpackedFloat.ofInt
    UnpackedFloat.normalize
  generalize n.toNat = m at *
  split
  · rename_i hlt
    exact absurd (Int.compare_eq_lt.mp hlt) (by omega)
  · refine ⟨isFinite_pack_zero _, ?_⟩
    decide
  · rename_i hgt
    have hm : 0 < m := by exact_mod_cast Int.compare_eq_gt.mp hgt
    unfold UnpackedFloat.round decreaseExponent
    dsimp only
    rw [Int.toNat_natCast, Nat.shiftLeft_eq]
    generalize (0 - Format.binary64.targetExponent (totalExponent m 0)).toNat = k
    have hpos : 0 < m * 2 ^ k := by positivity
    have hlog : (m * 2 ^ k).log2 < 53 + k := by
      rw [Nat.log2_lt hpos.ne', Nat.pow_add]
      exact Nat.mul_lt_mul_of_pos_right h (by positivity)
    have hplace : 0 - (k : Int) + shiftOf (m * 2 ^ k) (0 - k) ≤ 0 := by
      unfold shiftOf
      omega
    have hlow : -1074 ≤ 0 - (k : Int) + shiftOf (m * 2 ^ k) (0 - k) := by
      unfold shiftOf
      omega
    have hround := log2_roundedOf_le (m * 2 ^ k) (0 - k) .exact
    rcases roundWithAccuracy_cases .positive (m * 2 ^ k) (0 - k) .exact with
      ⟨_, heq⟩ | ⟨_, n, hn, heq⟩
    · rw [heq]
      refine ⟨isFinite_pack_zero _, ?_⟩
      decide
    · rw [heq, isFinite_pack_finite]
      refine ⟨by omega, ?_⟩
      intro place hk
      have := lastPlace_pack_finite hn (by omega) (by omega) hk
      omega

/-- The powers of ten up to 22. -/
theorem lastPlace_powerOfTen : ∀ e : Fin 23,
    ∃ k ∈ lastPlace? (getElem Float.exactlyRepresentablePowersOfTen e.val e.isLt).toModel.unpack,
      -52 ≤ k ∧ k ≤ 21 := by
  decide +kernel

section

variable {x y : Float.Model} {k : Int} (hx : x.isFinite = true)
  (hplace : ∀ j ∈ lastPlace? x.unpack, j ≤ 1) (hk : k ∈ lastPlace? y.unpack)

include hx hplace hk

theorem isFinite_mul_of_lastPlace (high : k ≤ 21) : (x * y).isFinite = true := by
  show (Float.Model.pack (UnpackedFloat.mul .binary64 x.unpack y.unpack)).isFinite = true
  obtain ⟨_, n, hn, hy⟩ := finite_of_lastPlace hk
  rw [hy]
  rcases cases_of_isFinite hx with ⟨_, hzero⟩ | ⟨_, m, e, hm, hfinite⟩
  · rw [hzero]
    exact isFinite_pack_zero _
  · have he : e ≤ 1 := hplace e (by rw [hfinite]; rfl)
    have hm' : (m : ℚ) < 2 ^ 53 := by exact_mod_cast (bounds_of_unpack hfinite).1
    have hn' : (n : ℚ) < 2 ^ 53 := by exact_mod_cast (bounds_of_unpack hy).1
    have value : (m * n : ℚ) * 2 ^ (e + k) = m * n / 2 ^ 53 * 2 ^ (53 + (e + k)) := by
      rw [zpow_add₀ two_ne_zero 53, show (2 : ℚ) ^ (53 : Int) = 2 ^ 53 from zpow_natCast 2 53]
      field_simp
    rw [hfinite, isFinite_pack_mul _ _ _ _ (by omega), value]
    refine lt_infiniteFrom ?_ (by omega)
    rw [div_lt_iff₀ (by positivity)]
    gcongr

theorem isFinite_div_of_lastPlace (low : -52 ≤ k) : (x / y).isFinite = true := by
  show (Float.Model.pack (UnpackedFloat.div .binary64 x.unpack y.unpack)).isFinite = true
  obtain ⟨_, n, hn, hy⟩ := finite_of_lastPlace hk
  rw [hy]
  rcases cases_of_isFinite hx with ⟨_, hzero⟩ | ⟨_, m, e, hm, hfinite⟩
  · rw [hzero]
    exact isFinite_pack_zero _
  · have he : e ≤ 1 := hplace e (by rw [hfinite]; rfl)
    have hm' : (m : ℚ) < 2 ^ 53 := by exact_mod_cast (bounds_of_unpack hfinite).1
    have hn' : (1 : ℚ) ≤ n := by exact_mod_cast hn
    rw [hfinite, isFinite_pack_div _ _ _ _ (by omega)]
    exact lt_infiniteFrom (lt_of_le_of_lt (div_le_self (by positivity) hn') hm') (by omega)

end

/-! ## Reading a decimal number -/

theorem lt_infiniteFrom_of_few {m : Nat} (hm : m < 2 ^ 53) {e : Int} (he : e ≤ 22) :
    (m : ℚ) * 10 ^ e < infiniteFrom := by
  have hm' : (m : ℚ) < 2 ^ 53 := by exact_mod_cast hm
  have hpow : (10 : ℚ) ^ e ≤ 2 ^ (88 : Int) := by
    calc (10 : ℚ) ^ e ≤ 10 ^ (22 : Int) := zpow_le_zpow_right₀ (by norm_num) he
      _ ≤ 2 ^ (88 : Int) := by norm_num
  calc (m : ℚ) * 10 ^ e ≤ m * 2 ^ (88 : Int) := by gcongr
    _ < infiniteFrom := lt_infiniteFrom hm' (by omega)

/-- Digits with an exponent of ten are a finite double exactly where the number is below the middle
behind the largest double. -/
theorem isFinite_ofScientific (m : Nat) (negative : Bool) (e : Nat) :
    (Float.ofScientific m negative e).isFinite = true ↔
      (m : ℚ) * 10 ^ (if negative then -(e : Int) else e) < infiniteFrom := by
  unfold Float.ofScientific
  split
  · rename_i hfew
    obtain ⟨hm, he⟩ := hfew
    have hword : m.toUInt64.toNat = m := Nat.mod_eq_of_lt (Nat.lt_trans hm (by decide))
    obtain ⟨hfinite, hplace⟩ := lastPlace_ofUInt64 (n := m.toUInt64) (by rwa [hword])
    obtain ⟨k, hk, low, high⟩ := lastPlace_powerOfTen ⟨e, by omega⟩
    have hvalue := lt_infiniteFrom_of_few hm (e := if negative then -(e : Int) else e)
      (by split <;> omega)
    cases negative with
    | false => exact iff_of_true (isFinite_mul_of_lastPlace hfinite hplace hk high) hvalue
    | true => exact iff_of_true (isFinite_div_of_lastPlace hfinite hplace hk low) hvalue
  · cases negative with
    | false => exact isFinite_model_ofScientific m e
    | true =>
      have := isFinite_model_ofScientific m (Int.negOfNat e)
      rwa [Int.negOfNat_eq] at this

end Rounding

open Rounding in
/-- A decimal number is read as a finite double exactly where it is below the middle behind the
largest. -/
theorem Decimal.isFinite_toFloat (d : Decimal) :
    d.toFloat.isFinite = true ↔ d.value < infiniteFrom := by
  obtain ⟨m, e⟩ := d
  unfold Decimal.toFloat Decimal.value
  dsimp only
  split
  · rename_i hm
    subst hm
    refine iff_of_true (by decide) (lt_infiniteFrom_of_lt ?_)
    norm_num
  · rename_i hm
    cases e with
    | ofNat e =>
      dsimp only
      split
      · rename_i hlarge
        exact iff_of_false (by decide)
          (not_lt.mpr (infiniteFrom_le_of_large hm (Int.ofNat_le.mpr hlarge)))
      · exact isFinite_ofScientific m false e
    | negSucc e =>
      dsimp only
      split
      · rename_i hsmall
        exact iff_of_true (by decide) (lt_infiniteFrom_of_small m (by omega) (by omega))
      · exact isFinite_ofScientific m true (e + 1)

end Dealer
