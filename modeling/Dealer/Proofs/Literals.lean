-- Which characters write a number, and which number. A literal is a sign, then digits to the
-- base sixteen behind `0x`, or digits with a point and an exponent. The reader takes these and
-- one thing more: behind `0x` it takes a second sign.
import Dealer.Proofs.Rounding
import Dealer.Proofs.Tokens

namespace Dealer

namespace Grammar

/-! ## The grammar of numbers -/

/-- Digits to a base, the highest first, with the number that they stand for. -/
inductive Numeral (base : Nat) : List Char → Nat → Prop
  | digit {c : Char} {v : Nat} (hc : hexValue? c = some v) (hv : v < base) : Numeral base [c] v
  | more {cs : List Char} {n : Nat} {c : Char} {v : Nat} (h : Numeral base cs n)
      (hc : hexValue? c = some v) (hv : v < base) : Numeral base (cs ++ [c]) (base * n + v)

/-- Digits with at most one point among or around them: the number that all digits stand for
together, and how many of them stand behind the point. -/
inductive Mantissa : List Char → Nat → Nat → Prop
  | whole {digits : List Char} {n : Nat} (h : Numeral 10 digits n) : Mantissa digits n 0
  | point {whole fraction : List Char} {n : Nat} (h : Numeral 10 (whole ++ fraction) n) :
      Mantissa (whole ++ '.' :: fraction) n fraction.length

/-- A number with the sign in front of it. -/
def signed (negative : Bool) (n : Int) : Int := if negative then -n else n

@[simp] theorem signed_false (n : Int) : signed false n = n := rfl

@[simp] theorem signed_true (n : Int) : signed true n = -n := rfl

/-- The exponent behind the digits. There need not be one. -/
inductive Exponent : List Char → Int → Prop
  | none : Exponent [] 0
  | some {c : Char} {sign digits : List Char} {negative : Bool} {n : Nat} (hc : c = 'e' ∨ c = 'E')
      (hsign : Sign sign negative) (h : Numeral 10 digits n) :
      Exponent (c :: (sign ++ digits)) (signed negative n)

/-- A decimal literal without its sign. -/
inductive DecimalLiteral : List Char → Decimal → Prop
  | mk {mantissa exponent : List Char} {n places : Nat} {e : Int} (hm : Mantissa mantissa n places)
      (he : Exponent exponent e) : DecimalLiteral (mantissa ++ exponent) ⟨n, e - places⟩

/-- The whole numbers are those of plain digits that fit into 64 bits. -/
def Whole (digits : List Char) (n : Nat) : Prop := Numeral 10 digits n ∧ n ≤ maxInt64

/-- What a literal behind its sign writes. -/
inductive Literal (negative : Bool) : List Char → Document → Prop
  | hex {x : Char} {digits : List Char} {n : Nat} (hx : x = 'x' ∨ x = 'X')
      (h : Numeral 16 digits n) (hn : n ≤ maxInt64) :
      Literal negative ('0' :: x :: digits) (.int (signed negative n))
  | whole {digits : List Char} {n : Nat} (h : Whole digits n) :
      Literal negative digits (.int (signed negative n))
  | double {cs : List Char} {d : Decimal} (h : DecimalLiteral cs d) (hd : d.value < infiniteFrom)
      (hwhole : ∀ n, ¬Whole cs n) :
      Literal negative cs (.float (if negative then -d.toFloat else d.toFloat))

/-- What is no literal and is read as one: behind `0x` there is a sign once more. It counts, and
behind a minus there may stand one number more than fits into 64 bits without it. With both signs
the number must fit again. -/
inductive SecondSign (negative : Bool) : List Char → Document → Prop
  | hex {x : Char} {sign digits : List Char} {inner : Bool} {n : Nat} (hx : x = 'x' ∨ x = 'X')
      (hsign : Sign sign inner) (hne : sign ≠ []) (h : Numeral 16 digits n)
      (hn : n ≤ maxInt64 + if inner then 1 else 0)
      (hfits : signed negative (signed inner n) ≤ maxInt64) :
      SecondSign negative ('0' :: x :: (sign ++ digits))
        (.int (signed negative (signed inner n)))

/-- A token with the digits of the smallest whole number behind a minus of its own. -/
def Smallest (token : List Char) : Prop :=
  ∃ x digits, (x = 'x' ∨ x = 'X') ∧ token = '0' :: x :: '-' :: digits ∧
    Numeral 16 digits (maxInt64 + 1)

end Grammar

open Grammar

/-! ## Digits -/

theorem Grammar.Numeral.ne_nil {base : Nat} {digits : List Char} {n : Nat}
    (h : Numeral base digits n) : digits ≠ [] := by
  cases h with
  | digit hc hv => simp
  | more h hc hv => simp

/-- The last digit counts once, and what stands in front of it as often as the base says. -/
theorem numeral_snoc_iff {base : Nat} {cs : List Char} {c : Char} {n : Nat} :
    Numeral base (cs ++ [c]) n ↔
      ∃ v m, hexValue? c = some v ∧ v < base ∧ n = base * m + v ∧
        (cs = [] ∧ m = 0 ∨ Numeral base cs m) := by
  constructor
  · generalize htext : cs ++ [c] = text
    intro h
    cases h with
    | @digit d v hd hv =>
      obtain ⟨rfl, hc⟩ := List.append_inj' (show cs ++ [c] = [] ++ [d] from htext) rfl
      cases hc
      exact ⟨n, 0, hd, hv, by simp, Or.inl ⟨rfl, rfl⟩⟩
    | @more ds m d v h hd hv =>
      obtain ⟨rfl, hc⟩ := List.append_inj' htext rfl
      cases hc
      exact ⟨v, m, hd, hv, rfl, Or.inr h⟩
  · rintro ⟨v, m, hc, hv, rfl, ⟨rfl, rfl⟩ | h⟩
    · rw [Nat.mul_zero, Nat.zero_add]
      exact .digit hc hv
    · exact .more h hc hv

theorem lt_of_hexValue? {c : Char} {v : Nat} (h : hexValue? c = some v) : v < 16 := by
  unfold hexValue? at h
  split at h
  · rename_i hc
    have : c.toNat ≤ 57 := hc.2
    cases h
    simp
    omega
  · split at h
    · rename_i hc
      have : c.toNat ≤ 102 := hc.2
      cases h
      simp
      omega
    · split at h
      · rename_i hc
        have : c.toNat ≤ 70 := hc.2
        cases h
        simp
        omega
      · cases h

theorem hexNumber?_snoc (cs : List Char) (c : Char) :
    hexNumber? (cs ++ [c]) = (hexNumber? cs).bind fun n => (16 * n + ·) <$> hexValue? c := by
  unfold hexNumber?
  rw [List.foldlM_append]
  simp

theorem numeral_iff_hexNumber? {digits : List Char} {n : Nat} :
    Numeral 16 digits n ↔ digits ≠ [] ∧ hexNumber? digits = some n := by
  induction digits using List.reverseRecOn generalizing n with
  | nil => exact iff_of_false (fun h => h.ne_nil rfl) (fun h => h.1 rfl)
  | append_singleton cs c ih =>
    rw [numeral_snoc_iff, hexNumber?_snoc]
    have front (m : Nat) : (cs = [] ∧ m = 0 ∨ Numeral 16 cs m) ↔ hexNumber? cs = some m := by
      by_cases hcs : cs = []
      · subst hcs
        rw [or_iff_left (fun h => h.ne_nil rfl)]
        exact ⟨fun h => congrArg some h.2.symm, fun h => ⟨rfl, (Option.some.inj h).symm⟩⟩
      · rw [ih, or_iff_right (fun h => hcs h.1), and_iff_right hcs]
    simp only [front, Option.bind_eq_some_iff, Option.map_eq_map, Option.map_eq_some_iff]
    constructor
    · rintro ⟨v, m, hc, _, rfl, hm⟩
      exact ⟨by simp, m, hm, v, hc, rfl⟩
    · rintro ⟨_, m, hm, v, hc, rfl⟩
      exact ⟨v, m, hc, lt_of_hexValue? hc, rfl, hm⟩

theorem isDigit_iff {c : Char} : c.isDigit = true ↔ '0' ≤ c ∧ c ≤ '9' := by
  unfold Char.isDigit
  rw [Bool.and_eq_true, decide_eq_true_iff, decide_eq_true_iff]
  rfl

/-- A decimal digit is one to the base sixteen whose value is below ten. -/
theorem hexValue?_iff_isDigit {c : Char} {v : Nat} :
    hexValue? c = some v ∧ v < 10 ↔ c.isDigit = true ∧ c.toNat - '0'.toNat = v := by
  rw [isDigit_iff]
  unfold hexValue?
  split
  · rename_i hc
    have : c.toNat ≤ 57 := hc.2
    simp [hc]
    omega
  · rename_i hc
    refine iff_of_false ?_ (fun h => hc h.1)
    rintro ⟨h, hv⟩
    split at h
    · cases h
      omega
    · split at h
      · cases h
        omega
      · cases h

theorem digitsValue_snoc (cs : List Char) (c : Char) :
    digitsValue (cs ++ [c]) = 10 * digitsValue cs + (c.toNat - '0'.toNat) := by
  unfold digitsValue
  rw [List.foldl_append]
  rfl

theorem numeral_iff_digitsValue {digits : List Char} {n : Nat} :
    Numeral 10 digits n ↔
      digits ≠ [] ∧ (∀ c ∈ digits, c.isDigit = true) ∧ digitsValue digits = n := by
  induction digits using List.reverseRecOn generalizing n with
  | nil => exact iff_of_false (fun h => h.ne_nil rfl) (fun h => h.1 rfl)
  | append_singleton cs c ih =>
    rw [numeral_snoc_iff, digitsValue_snoc]
    have front (m : Nat) : (cs = [] ∧ m = 0 ∨ Numeral 10 cs m) ↔
        (∀ c ∈ cs, c.isDigit = true) ∧ digitsValue cs = m := by
      by_cases hcs : cs = []
      · subst hcs
        rw [or_iff_left (fun h => h.ne_nil rfl)]
        exact ⟨fun h => ⟨by simp, h.2.symm⟩, fun h => ⟨rfl, h.2.symm⟩⟩
      · rw [ih, or_iff_right (fun h => hcs h.1), and_iff_right hcs]
    simp only [front]
    constructor
    · rintro ⟨v, m, hc, hv, rfl, hdigits, rfl⟩
      obtain ⟨hdigit, rfl⟩ := hexValue?_iff_isDigit.mp ⟨hc, hv⟩
      refine ⟨by simp, ?_, rfl⟩
      intro x hx
      rcases List.mem_append.mp hx with hx | hx
      · exact hdigits x hx
      · rwa [List.mem_singleton.mp hx]
    · rintro ⟨_, hdigits, rfl⟩
      obtain ⟨hc, hv⟩ := hexValue?_iff_isDigit.mpr ⟨hdigits c (by simp), rfl⟩
      exact ⟨_, _, hc, hv, rfl, fun x hx => hdigits x (by simp [hx]), rfl⟩

theorem Grammar.Numeral.digit_of_mem {base : Nat} {digits : List Char} {n : Nat}
    (h : Numeral base digits n) : ∀ c ∈ digits, ∃ v, hexValue? c = some v := by
  induction h with
  | digit hc hv =>
    intro x hx
    rw [List.mem_singleton.mp hx]
    exact ⟨_, hc⟩
  | more h hc hv ih =>
    intro x hx
    rcases List.mem_append.mp hx with hx | hx
    · exact ih x hx
    · rw [List.mem_singleton.mp hx]
      exact ⟨_, hc⟩

/-- No sign is a digit, to whatever base. -/
theorem Grammar.Numeral.no_sign {base : Nat} {digits : List Char} {n : Nat}
    (h : Numeral base digits n) (cs : List Char) : digits ≠ '-' :: cs ∧ digits ≠ '+' :: cs := by
  constructor
  · rintro rfl
    obtain ⟨v, hv⟩ := h.digit_of_mem '-' (by simp)
    cases hv.symm.trans (by decide : hexValue? '-' = none)
  · rintro rfl
    obtain ⟨v, hv⟩ := h.digit_of_mem '+' (by simp)
    cases hv.symm.trans (by decide : hexValue? '+' = none)

/-! ## Decimal literals -/

theorem exponent_magnitude_iff {digits : List Char} {n : Nat} :
    exponent?.magnitude? digits = some n ↔ Numeral 10 digits n := by
  unfold exponent?.magnitude?
  rw [numeral_iff_digitsValue]
  simp [and_assoc]

theorem exponent_digits_iff {f : Int → Int} {digits : List Char} {e : Int} :
    (f <$> (do return (← exponent?.magnitude? digits : Int)) : Option Int) = some e ↔
      ∃ n : Nat, Numeral 10 digits n ∧ f n = e := by
  simp [Option.bind_eq_some_iff, exponent_magnitude_iff]

theorem exponent_iff {cs : List Char} {e : Int} : exponent? cs = some e ↔ Exponent cs e := by
  constructor
  · intro h
    unfold exponent? at h
    split at h
    · cases h
      exact .none
    · split at h
      · rename_i hc
        split at h
        · obtain ⟨n, hn, rfl⟩ := exponent_digits_iff.mp h
          exact .some hc .minus hn
        · obtain ⟨n, hn, rfl⟩ := exponent_digits_iff.mp h
          exact .some hc .plus hn
        · obtain ⟨n, hn, rfl⟩ := exponent_digits_iff.mp h
          exact .some hc .none hn
      · cases h
  · intro h
    cases h with
    | none => rfl
    | @some c sign digits negative n hc hsign hn =>
      unfold exponent?
      dsimp only
      rw [if_pos hc]
      cases hsign with
      | minus => exact exponent_digits_iff.mpr ⟨n, hn, rfl⟩
      | plus => exact exponent_digits_iff.mpr ⟨n, hn, rfl⟩
      | none =>
        rw [List.nil_append]
        split
        · exact absurd rfl (hn.no_sign _).1
        · exact absurd rfl (hn.no_sign _).2
        · exact exponent_digits_iff.mpr ⟨n, hn, rfl⟩

theorem Grammar.Exponent.head {cs : List Char} {e : Int} (h : Exponent cs e) :
    Stops Char.isDigit cs ∧ ∀ r, cs ≠ '.' :: r := by
  cases h with
  | none =>
    exact ⟨fun c hc => (by cases hc), fun r hr => (by cases hr)⟩
  | some hc hsign h =>
    rcases hc with rfl | rfl
    · exact ⟨Stops.cons (by decide) _, fun r hr => by cases hr⟩
    · exact ⟨Stops.cons (by decide) _, fun r hr => by cases hr⟩

theorem decimalLiteral_iff {cs : List Char} {d : Decimal} :
    decimalLiteral? cs = some d ↔ DecimalLiteral cs d := by
  constructor
  · intro h
    have hcs := List.takeWhile_append_dropWhile (p := Char.isDigit) (l := cs)
    have hwhole := @all_takeWhile Char.isDigit cs
    unfold decimalLiteral? at h
    dsimp only at h
    generalize cs.takeWhile Char.isDigit = whole at *
    generalize cs.dropWhile Char.isDigit = left at *
    subst hcs
    split at h
    · rename_i r
      have hr := List.takeWhile_append_dropWhile (p := Char.isDigit) (l := r)
      have hfraction := @all_takeWhile Char.isDigit r
      generalize r.takeWhile Char.isDigit = fraction at *
      generalize r.dropWhile Char.isDigit = tail at *
      subst hr
      split at h
      · cases h
      · rename_i hne
        obtain ⟨e, he, hd⟩ := Option.bind_eq_some_iff.mp h
        cases hd
        have hdigits : Numeral 10 (whole ++ fraction) (digitsValue (whole ++ fraction)) := by
          refine numeral_iff_digitsValue.mpr ⟨by simpa using hne, ?_, rfl⟩
          intro c hc
          rcases List.mem_append.mp hc with hc | hc
          · exact hwhole c hc
          · exact hfraction c hc
        have := DecimalLiteral.mk (.point hdigits) (exponent_iff.mp he)
        rwa [List.append_assoc, List.cons_append] at this
    · split at h
      · cases h
      · rename_i hne
        obtain ⟨e, he, hd⟩ := Option.bind_eq_some_iff.mp h
        cases hd
        rw [List.append_nil]
        have hdigits : Numeral 10 whole (digitsValue whole) :=
          numeral_iff_digitsValue.mpr ⟨fun h => hne ⟨h, rfl⟩, hwhole, rfl⟩
        exact .mk (.whole hdigits) (exponent_iff.mp he)
  · rintro ⟨hm, he⟩
    rename_i tail n places e
    obtain ⟨hstops, hpoint⟩ := he.head
    have he := exponent_iff.mpr he
    cases hm with
    | whole h =>
      obtain ⟨hne, hdigits, rfl⟩ := numeral_iff_digitsValue.mp h
      obtain ⟨htake, hdrop⟩ := takeWhile_of_stops hdigits hstops
      unfold decimalLiteral?
      dsimp only
      rw [htake, hdrop]
      split
      · exact absurd rfl (hpoint _)
      · rw [if_neg (fun h => hne h.1), he, List.append_nil]
        rfl
    | @point whole fraction n h =>
      obtain ⟨hne, hdigits, rfl⟩ := numeral_iff_digitsValue.mp h
      have hwhole : ∀ c ∈ whole, c.isDigit = true :=
        fun c hc => hdigits c (List.mem_append_left _ hc)
      have hfraction : ∀ c ∈ fraction, c.isDigit = true :=
        fun c hc => hdigits c (List.mem_append_right _ hc)
      have hdot : Stops Char.isDigit ('.' :: (fraction ++ tail)) := Stops.cons (by decide) _
      obtain ⟨htake, hdrop⟩ := takeWhile_of_stops hwhole hdot
      obtain ⟨htake', hdrop'⟩ := takeWhile_of_stops hfraction hstops
      unfold decimalLiteral?
      rw [List.append_assoc, List.cons_append]
      simp only [htake, hdrop, htake', hdrop']
      rw [if_neg (fun h => hne (by rw [h.1, h.2]; rfl)), he]
      rfl

/-- Plain digits are a decimal literal as well. -/
theorem Grammar.Whole.decimalLiteral {digits : List Char} {n : Nat} (h : Whole digits n) :
    DecimalLiteral digits ⟨n, 0⟩ := by
  have := DecimalLiteral.mk (.whole h.1) .none
  rwa [List.append_nil] at this

theorem whole_iff {token : List Char} {n : Nat} :
    Whole token n ↔ (token.all Char.isDigit ∧ token ≠ [] ∧ digitsValue token ≤ maxInt64) ∧
      digitsValue token = n := by
  unfold Whole
  rw [numeral_iff_digitsValue, List.all_eq_true]
  constructor
  · rintro ⟨⟨hne, hdigits, rfl⟩, hn⟩
    exact ⟨⟨hdigits, hne, hn⟩, rfl⟩
  · rintro ⟨⟨hdigits, hne, hn⟩, rfl⟩
    exact ⟨⟨hne, hdigits, rfl⟩, hn⟩

/-! ## Digits to the base sixteen -/

/-- The whole numbers of 64 bits. -/
def InInt64 (n : Int) : Prop := -(maxInt64 + 1) ≤ n ∧ n ≤ maxInt64

instance (n : Int) : Decidable (InInt64 n) := inferInstanceAs (Decidable (_ ∧ _))

theorem inInt64_signed {inner : Bool} {n : Nat} (hn : n ≤ maxInt64 + if inner then 1 else 0) :
    InInt64 (signed inner n) := by
  unfold InInt64
  cases inner with
  | false => simp at *; omega
  | true => simp at *; omega

/-- What fits into 64 bits without its sign fits with it. -/
theorem signed_le {n : Nat} (hn : n ≤ maxInt64) (negative : Bool) :
    signed negative n ≤ maxInt64 :=
  (inInt64_signed (Nat.le_add_right_of_le hn)).2

theorem hex_magnitude_iff {digits : List Char} {k : Int} :
    hexInteger?.magnitude? digits = some k ↔
      ∃ n : Nat, Numeral 16 digits n ∧ n ≤ maxInt64 ∧ k = n := by
  unfold hexInteger?.magnitude?
  simp only [numeral_iff_hexNumber?, Option.bind_eq_bind, Option.bind_eq_some_iff,
    Option.guard_eq_some', Option.pure_def, Option.some.injEq]
  constructor
  · rintro ⟨_, hne, n, hn, _, hle, rfl⟩
    exact ⟨n, ⟨hne, hn⟩, hle, rfl⟩
  · rintro ⟨n, ⟨hne, hn⟩, hle, rfl⟩
    exact ⟨(), hne, n, hn, (), hle, rfl⟩

/-- A sign counts behind `0x` as well, and a minus leaves room for one number more. -/
theorem hexInteger_iff {cs : List Char} {k : Int} :
    hexInteger? cs = some k ↔
      ∃ sign inner digits n, Sign sign inner ∧ cs = sign ++ digits ∧ Numeral 16 digits n ∧
        n ≤ maxInt64 + (if inner then 1 else 0) ∧ k = signed inner n := by
  constructor
  · intro h
    unfold hexInteger? at h
    split at h
    · rename_i digits
      simp [Option.bind_eq_some_iff] at h
      obtain ⟨hne, n, hn, hle, rfl⟩ := h
      exact ⟨['-'], true, digits, n, .minus, rfl, numeral_iff_hexNumber?.mpr ⟨hne, hn⟩, hle, rfl⟩
    · obtain ⟨n, hn, hle, rfl⟩ := hex_magnitude_iff.mp h
      exact ⟨_, _, _, n, .plus, rfl, hn, hle, rfl⟩
    · obtain ⟨n, hn, hle, rfl⟩ := hex_magnitude_iff.mp h
      exact ⟨_, _, _, n, .none, rfl, hn, hle, rfl⟩
  · rintro ⟨sign, inner, digits, n, hsign, rfl, hn, hle, rfl⟩
    cases hsign with
    | minus =>
      obtain ⟨hne, hvalue⟩ := numeral_iff_hexNumber?.mp hn
      simp at hle
      simp [hexInteger?, hne, hvalue, hle, signed]
    | plus => exact hex_magnitude_iff.mpr ⟨n, hn, hle, rfl⟩
    | none =>
      have hplain : hexInteger? digits = hexInteger?.magnitude? digits := by
        unfold hexInteger?
        split
        · exact absurd rfl (hn.no_sign _).1
        · exact absurd rfl (hn.no_sign _).2
        · rfl
      exact hplain.trans (hex_magnitude_iff.mpr ⟨n, hn, hle, rfl⟩)

/-! ## What a token says -/

theorem numberValue_signed_of_le {negative : Bool} {n : Int} (h : signed negative n ≤ maxInt64) :
    numberValue?.signed negative n = .ok (.int (signed negative n)) := by
  cases negative with
  | false => rfl
  | true =>
    unfold numberValue?.signed
    rw [if_pos rfl, Overflow.negate_of_le h]
    rfl

theorem numberValue_signed_of_lt {n : Int} (h : maxInt64 < -n) :
    numberValue?.signed true n = .error .negation := by
  unfold numberValue?.signed
  rw [if_pos rfl, Overflow.negate_of_lt h]
  rfl

/-- A number keeps or turns its sign where it fits into 64 bits with it. -/
theorem numberValue_signed_eq_ok {negative : Bool} {n : Int} (hn : InInt64 n) {d : Document} :
    numberValue?.signed negative n = .ok d ↔
      signed negative n ≤ maxInt64 ∧ d = .int (signed negative n) := by
  by_cases h : signed negative n ≤ maxInt64
  · rw [numberValue_signed_of_le h, Except.ok.injEq, and_iff_right h]
    exact eq_comm
  · have hlt := Int.not_le.mp h
    cases negative with
    | false => exact absurd hn.2 h
    | true =>
      rw [numberValue_signed_of_lt hlt]
      exact ⟨fun heq => (nomatch heq), fun heq => absurd heq.1 h⟩

theorem numberValue_signed_eq_error {negative : Bool} {n : Int} {cause : Overflow} :
    numberValue?.signed negative n = .error cause ↔
      cause = .negation ∧ negative = true ∧ maxInt64 < -n := by
  constructor
  · intro heq
    by_cases h : signed negative n ≤ maxInt64
    · rw [numberValue_signed_of_le h] at heq
      cases heq
    · cases negative with
      | false => cases heq
      | true =>
        have hlt := Int.not_le.mp h
        rw [numberValue_signed_of_lt hlt] at heq
        cases heq
        exact ⟨rfl, rfl, hlt⟩
  · rintro ⟨rfl, rfl, hlt⟩
    exact numberValue_signed_of_lt hlt

/-- A token to the base sixteen has its sign turned if there is a number behind `0x`. -/
theorem numberValue_hex {negative : Bool} {x : Char} (hx : x = 'x' ∨ x = 'X') (cs : List Char) :
    numberValue? negative ('0' :: x :: cs) =
      (hexInteger? cs).mapM (numberValue?.signed negative) := by
  rcases hx with rfl | rfl
  · rfl
  · rfl

/-- A token to the base sixteen, which a second sign may make negative once more. -/
theorem numberValue_hex_iff {negative : Bool} {x : Char} (hx : x = 'x' ∨ x = 'X') {cs : List Char}
    {d : Document} :
    numberValue? negative ('0' :: x :: cs) = .ok (some d) ↔
      ∃ sign inner digits n, Sign sign inner ∧ cs = sign ++ digits ∧ Numeral 16 digits n ∧
        n ≤ maxInt64 + (if inner then 1 else 0) ∧ signed negative (signed inner n) ≤ maxInt64 ∧
        d = .int (signed negative (signed inner n)) := by
  rw [numberValue_hex hx, mapM_eq_ok_some]
  constructor
  · rintro ⟨k, hk, hd⟩
    obtain ⟨sign, inner, digits, n, hsign, rfl, h, hn, rfl⟩ := hexInteger_iff.mp hk
    have hfits := (numberValue_signed_eq_ok (inInt64_signed hn)).mp hd
    exact ⟨sign, inner, digits, n, hsign, rfl, h, hn, hfits⟩
  · rintro ⟨sign, inner, digits, n, hsign, rfl, h, hn, hd⟩
    exact ⟨_, hexInteger_iff.mpr ⟨sign, inner, digits, n, hsign, rfl, h, hn, rfl⟩,
      (numberValue_signed_eq_ok (inInt64_signed hn)).mpr hd⟩

/-- Every other token is a whole number, or else a double. -/
theorem numberValue_decimal_iff {negative : Bool} {token : List Char} {d : Document}
    (h : ∀ x cs, x = 'x' ∨ x = 'X' → token ≠ '0' :: x :: cs) :
    numberValue? negative token = .ok (some d) ↔
      (∃ n, Whole token n ∧ d = .int (signed negative n)) ∨
        (∀ n, ¬Whole token n) ∧ ∃ value, DecimalLiteral token value ∧
          value.toFloat.isFinite = true ∧
          d = .float (if negative then -value.toFloat else value.toFloat) := by
  unfold numberValue?
  split
  · exact absurd rfl (h _ _ (Or.inl rfl))
  · exact absurd rfl (h _ _ (Or.inr rfl))
  · split
    · rename_i hplain
      have hwhole := whole_iff.mpr ⟨hplain, rfl⟩
      have hsigned : numberValue?.signed negative (digitsValue token) =
          .ok (.int (signed negative (digitsValue token))) :=
        numberValue_signed_of_le (signed_le hwhole.2 negative)
      rw [or_iff_left (fun h => h.1 _ hwhole), hsigned]
      constructor
      · intro heq
        cases heq
        exact ⟨_, hwhole, rfl⟩
      · rintro ⟨n, hn, rfl⟩
        rw [(whole_iff.mp hn).2]
        rfl
    · rename_i hplain
      have hwhole : ∀ n, ¬Whole token n := fun n hn => hplain (whole_iff.mp hn).1
      rw [or_iff_right (fun ⟨n, hn, _⟩ => hwhole n hn), and_iff_right hwhole]
      simp only [pure, Except.pure, Except.ok.injEq, Option.bind_eq_bind, Option.bind_eq_some_iff,
        Option.guard_eq_some', Option.some.injEq, decimalLiteral_iff]
      constructor
      · rintro ⟨value, hvalue, _, hfinite, rfl⟩
        exact ⟨value, hvalue, hfinite, rfl⟩
      · rintro ⟨value, hvalue, hfinite, rfl⟩
        exact ⟨value, hvalue, (), hfinite, rfl⟩

/-- The sign of a token cannot be turned where one more minus stands in front of the smallest whole
number. -/
theorem numberValue_error_iff {negative : Bool} {token : List Char} {cause : Overflow} :
    numberValue? negative token = .error cause ↔
      cause = .negation ∧ negative = true ∧ Smallest token := by
  by_cases hhex : ∃ x cs, (x = 'x' ∨ x = 'X') ∧ token = '0' :: x :: cs
  · obtain ⟨x, cs, hx, rfl⟩ := hhex
    rw [numberValue_hex hx, mapM_eq_error]
    constructor
    · rintro ⟨k, hk, herror⟩
      obtain ⟨rfl, rfl, hlt⟩ := numberValue_signed_eq_error.mp herror
      obtain ⟨sign, inner, digits, n, hsign, rfl, h, hn, rfl⟩ := hexInteger_iff.mp hk
      cases hsign with
      | none => simp at hlt; omega
      | plus => simp at hlt; omega
      | minus =>
        have hsmallest : n = maxInt64 + 1 := by
          simp at hlt hn
          omega
        exact ⟨rfl, rfl, x, digits, hx, rfl, hsmallest ▸ h⟩
    · rintro ⟨rfl, rfl, y, digits, hy, heq, h⟩
      cases heq
      refine ⟨signed true (maxInt64 + 1 : Nat), hexInteger_iff.mpr ?_,
        numberValue_signed_eq_error.mpr ?_⟩
      · exact ⟨['-'], true, digits, _, .minus, rfl, h, le_rfl, rfl⟩
      · exact ⟨rfl, rfl, by decide⟩
  · have hplain : ∀ x cs, x = 'x' ∨ x = 'X' → token ≠ '0' :: x :: cs :=
      fun x cs hx htoken => hhex ⟨x, cs, hx, htoken⟩
    have hsmallest : ¬Smallest token := by
      rintro ⟨x, digits, hx, htoken, -⟩
      exact hplain x _ hx htoken
    rw [iff_false_right fun h => hsmallest h.2.2]
    unfold numberValue?
    split
    · exact absurd rfl (hplain _ _ (Or.inl rfl))
    · exact absurd rfl (hplain _ _ (Or.inr rfl))
    · split
      · rename_i hdigits
        have hwhole := whole_iff.mpr ⟨hdigits, rfl⟩
        rw [numberValue_signed_of_le (signed_le hwhole.2 negative)]
        exact fun heq => (nomatch heq)
      · exact fun heq => (nomatch heq)

theorem Grammar.DecimalLiteral.ne_hex {token : List Char} {d : Decimal}
    (h : DecimalLiteral token d) (x : Char) (cs : List Char) (hx : x = 'x' ∨ x = 'X') :
    token ≠ '0' :: x :: cs := by
  rintro rfl
  rw [← decimalLiteral_iff] at h
  rcases hx with rfl | rfl
  · simp [decimalLiteral?, exponent?] at h
  · simp [decimalLiteral?, exponent?] at h

/-- A token says a number exactly where it is a literal, or has a second sign behind `0x`. -/
theorem numberValue_iff {negative : Bool} {token : List Char} {d : Document} :
    numberValue? negative token = .ok (some d) ↔
      Literal negative token d ∨ SecondSign negative token d := by
  constructor
  · intro h
    by_cases hhex : ∃ x cs, (x = 'x' ∨ x = 'X') ∧ token = '0' :: x :: cs
    · obtain ⟨x, cs, hx, rfl⟩ := hhex
      obtain ⟨sign, inner, digits, n, hsign, rfl, hn, hle, hfits, rfl⟩ :=
        (numberValue_hex_iff hx).mp h
      by_cases hne : sign = []
      · subst hne
        cases hsign
        exact Or.inl (.hex hx hn hle)
      · exact Or.inr (.hex hx hsign hne hn hle hfits)
    · left
      have hplain : ∀ x cs, x = 'x' ∨ x = 'X' → token ≠ '0' :: x :: cs :=
        fun x cs hx htoken => hhex ⟨x, cs, hx, htoken⟩
      rcases (numberValue_decimal_iff hplain).mp h with
        ⟨n, hn, rfl⟩ | ⟨hwhole, value, hvalue, hfinite, rfl⟩
      · exact .whole hn
      · exact .double hvalue (value.isFinite_toFloat.mp hfinite) hwhole
  · rintro (h | h)
    · cases h with
      | @hex x digits n hx hn hle =>
        have hfits := signed_le hle negative
        exact (numberValue_hex_iff hx).mpr
          ⟨_, _, digits, n, .none, (List.nil_append digits).symm, hn, hle, hfits, rfl⟩
      | @whole _ n hn =>
        exact (numberValue_decimal_iff hn.decimalLiteral.ne_hex).mpr (Or.inl ⟨n, hn, rfl⟩)
      | @double _ value hvalue hd hwhole =>
        exact (numberValue_decimal_iff hvalue.ne_hex).mpr
          (Or.inr ⟨hwhole, value, hvalue, value.isFinite_toFloat.mpr hd, rfl⟩)
    · cases h with
      | hex hx hsign hne hn hle hfits =>
        exact (numberValue_hex_iff hx).mpr ⟨_, _, _, _, hsign, rfl, hn, hle, hfits, rfl⟩

/-! ## Literals are tokens -/

/-- The characters that the reader takes for a number behind its sign. -/
def NumberToken (cs : List Char) : Prop :=
  ∃ c run, cs = c :: run ∧ startsNumber c = true ∧ ∀ x ∈ run, continuesNumber x = true

theorem continuesNumber_of_hexValue? {c : Char} {v : Nat} (h : hexValue? c = some v) :
    continuesNumber c = true := by
  have halpha : isAsciiAlphanumeric c = true := by
    unfold isAsciiAlphanumeric Char.isAlpha
    unfold hexValue? at h
    split at h
    · rename_i hc
      rw [isDigit_iff.mpr hc, Bool.true_or]
    · split at h
      · rename_i hc
        have hlower : c.isLower = true := by
          simp only [Char.isLower, Bool.and_eq_true, decide_eq_true_eq]
          exact ⟨hc.1, Char.le_trans hc.2 (by decide)⟩
        rw [hlower, Bool.or_true, Bool.or_true]
      · split at h
        · rename_i hc
          have hupper : c.isUpper = true := by
            simp only [Char.isUpper, decide_eq_true_eq]
            exact ⟨hc.1, Char.le_trans hc.2 (by decide)⟩
          rw [hupper, Bool.true_or, Bool.or_true]
        · cases h
  unfold continuesNumber
  rw [halpha, Bool.true_or, Bool.true_or, Bool.true_or]

namespace Grammar

theorem Numeral.continues {base : Nat} {digits : List Char} {n : Nat} (h : Numeral base digits n) :
    ∀ c ∈ digits, continuesNumber c = true := by
  intro c hc
  obtain ⟨v, hv⟩ := h.digit_of_mem c hc
  exact continuesNumber_of_hexValue? hv

theorem Sign.continues {sign : List Char} {negative : Bool} (h : Sign sign negative) :
    ∀ c ∈ sign, continuesNumber c = true := by
  cases h with
  | none => simp
  | plus => simp; decide
  | minus => simp; decide

theorem Exponent.continues {cs : List Char} {e : Int} (h : Exponent cs e) :
    ∀ c ∈ cs, continuesNumber c = true := by
  cases h with
  | none => simp
  | some hc hsign hn =>
    intro x hx
    rcases List.mem_cons.mp hx with rfl | hx
    · rcases hc with rfl | rfl <;> decide
    · rcases List.mem_append.mp hx with hx | hx
      · exact hsign.continues x hx
      · exact hn.continues x hx

theorem Mantissa.token {cs : List Char} {n places : Nat} (h : Mantissa cs n places) :
    NumberToken cs := by
  cases h with
  | whole hn =>
    obtain ⟨hne, hdigits, _⟩ := numeral_iff_digitsValue.mp hn
    obtain ⟨c, run, rfl⟩ := List.exists_cons_of_ne_nil hne
    refine ⟨c, run, rfl, ?_, fun x hx => hn.continues x (by simp [hx])⟩
    simp [startsNumber, hdigits c]
  | @point whole fraction _ hn =>
    obtain ⟨_, hdigits, _⟩ := numeral_iff_digitsValue.mp hn
    cases whole with
    | nil => exact ⟨'.', fraction, rfl, by decide, fun x hx => hn.continues x (by simpa using hx)⟩
    | cons c run =>
      refine ⟨c, run ++ '.' :: fraction, rfl, by simp [startsNumber, hdigits c], ?_⟩
      intro x hx
      by_cases hpoint : x = '.'
      · subst hpoint
        decide
      · simp [hpoint] at hx
        exact hn.continues x (by simp; tauto)

theorem DecimalLiteral.token {cs : List Char} {d : Decimal} (h : DecimalLiteral cs d) :
    NumberToken cs := by
  obtain ⟨hm, he⟩ := h
  obtain ⟨c, run, rfl, hc, hrun⟩ := hm.token
  refine ⟨c, run ++ _, rfl, hc, ?_⟩
  intro x hx
  rcases List.mem_append.mp hx with hx | hx
  · exact hrun x hx
  · exact he.continues x hx

theorem hex_token {x : Char} (hx : x = 'x' ∨ x = 'X') {cs : List Char}
    (h : ∀ c ∈ cs, continuesNumber c = true) : NumberToken ('0' :: x :: cs) := by
  refine ⟨'0', x :: cs, rfl, by decide, ?_⟩
  intro c hc
  rcases List.mem_cons.mp hc with rfl | hc
  · rcases hx with rfl | rfl <;> decide
  · exact h c hc

theorem Literal.token {negative : Bool} {cs : List Char} {d : Document}
    (h : Literal negative cs d) : NumberToken cs := by
  cases h with
  | hex hx hn hle => exact hex_token hx hn.continues
  | whole hn => exact hn.decimalLiteral.token
  | double hvalue hd hwhole => exact hvalue.token

theorem SecondSign.token {negative : Bool} {cs : List Char} {d : Document}
    (h : SecondSign negative cs d) : NumberToken cs := by
  cases h with
  | hex hx hsign hne hn hle hfits =>
    refine hex_token hx ?_
    intro c hc
    rcases List.mem_append.mp hc with hc | hc
    · exact hsign.continues c hc
    · exact hn.continues c hc

/-- What has a second sign is no literal. -/
theorem SecondSign.not_literal {negative : Bool} {cs : List Char} {d : Document}
    (h : SecondSign negative cs d) (other : Document) : ¬Literal negative cs other := by
  cases h with
  | hex hx hsign hne hn hle hfits =>
    intro h
    cases h with
    | hex hx' hn' hle' =>
      cases hsign with
      | none => exact hne rfl
      | plus => exact (hn'.no_sign _).2 rfl
      | minus => exact (hn'.no_sign _).1 rfl
    | whole hn' => exact hn'.decimalLiteral.ne_hex _ _ hx rfl
    | double hvalue hd hwhole => exact hvalue.ne_hex _ _ hx rfl

end Grammar

/-! ## Reading numbers -/

/-- The rule for numbers reads exactly the literals of the grammar as what they write, and besides
them only what has a second sign behind `0x`, which is no literal. -/
theorem only_a_second_sign_is_read_beside_the_literals (cs rest : List Char) (d : Document) :
    (readNumber cs).outcome = .ok (d, rest) ↔
      ∃ sign negative token, Sign sign negative ∧ cs = sign ++ (token ++ rest) ∧
        Stops continuesNumber rest ∧ (Literal negative token d ∨ SecondSign negative token d) := by
  rw [readNumber_iff]
  constructor
  · rintro ⟨sign, negative, c, run, hsign, rfl, hc, hrun, hrest, hvalue⟩
    exact ⟨sign, negative, c :: run, hsign, rfl, hrest, numberValue_iff.mp hvalue⟩
  · rintro ⟨sign, negative, token, hsign, rfl, hrest, hsays⟩
    have htoken : NumberToken token := hsays.elim Literal.token SecondSign.token
    obtain ⟨c, run, rfl, hc, hrun⟩ := htoken
    exact ⟨sign, negative, c, run, hsign, rfl, hc, hrun, hrest, numberValue_iff.mpr hsays⟩

/-- Behind `0x` stands a minus, which no literal has there, and it counts. -/
theorem a_minus_is_read_behind_the_base :
    (readNumber "0x-5".toList).outcome = .ok (.int (-5), []) ∧
      ¬∃ sign negative token d, Sign sign negative ∧ "0x-5".toList = sign ++ token ∧
        Literal negative token d := by
  have written : SecondSign false ['0', 'x', '-', '5'] (.int (-5)) :=
    @SecondSign.hex false 'x' ['-'] ['5'] true 5 (Or.inl rfl) .minus (by simp)
      (.digit (by decide) (by decide)) (by decide) (by decide)
  constructor
  · refine readNumber_iff.mpr ⟨[], false, '0', ['x', '-', '5'], .none, rfl, by decide,
      List.all_eq_true.mp (by decide), ?_, numberValue_iff.mpr (Or.inr written)⟩
    intro c hc
    cases hc
  · rintro ⟨sign, negative, token, d, hsign, htoken, h⟩
    cases hsign with
    | none =>
      cases htoken
      exact written.not_literal d h
    | plus => cases htoken
    | minus => cases htoken

end Dealer
