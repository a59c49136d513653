-- Arithmetic on whole numbers of 64 bits. A result that does not fit into them
-- breaks off whatever was going on. That is an outcome of its own, apart from
-- every error that a script or a table can be blamed for.

namespace Dealer

/-- What was worked out when a result did not fit. -/
inductive Overflow
  | product
  | difference
  | negation
  deriving DecidableEq, Repr

/-- The largest whole number of 64 bits, where one of the bits is a sign. -/
def maxInt64 : Nat := 9223372036854775807

/-! ## Operations -/

namespace Overflow

/-- Multiplies two sizes, which have no sign. -/
def multiply (a b : Nat) : Except Overflow Nat :=
  if a * b < UInt64.size then .ok (a * b) else .error .product

/-- Takes one size from another. There is nothing below zero. -/
def subtract (a b : Nat) : Except Overflow Nat :=
  if b ≤ a then .ok (a - b) else .error .difference

/-- Turns the sign of a number. The smallest number has no counterpart. -/
def negate (n : Int) : Except Overflow Int :=
  if -n ≤ maxInt64 then .ok (-n) else .error .negation

theorem subtract_of_le {a b : Nat} (h : b ≤ a) : subtract a b = .ok (a - b) := if_pos h

theorem negate_of_le {n : Int} (h : -n ≤ maxInt64) : negate n = .ok (-n) := if_pos h

theorem negate_of_lt {n : Int} (h : maxInt64 < -n) : negate n = .error .negation :=
  if_neg (Int.not_le.mpr h)

end Overflow

/-! ## Breaking off -/

/-- Why there is no result: something failed, or it was broken off by an overflow. -/
inductive Halt (ε : Type)
  | failed (error : ε)
  | overflow (cause : Overflow)
  deriving DecidableEq, Repr

/-- Tells more about a failure. -/
def Halt.map {ε ε' : Type} (f : ε → ε') : Halt ε → Halt ε'
  | .failed e => .failed (f e)
  | .overflow cause => .overflow cause

theorem Halt.map_eq_overflow {ε ε' : Type} {f : ε → ε'} {halt : Halt ε} {cause : Overflow} :
    halt.map f = .overflow cause ↔ halt = .overflow cause := by
  cases halt with
  | failed e => simp [Halt.map]
  | overflow other => simp [Halt.map]

/-! ## Results -/

section

variable {ε ε' α β : Type}

theorem ok_bind (a : α) (f : α → Except ε β) : (Except.ok a >>= f) = f a := rfl

theorem error_bind (e : ε) (f : α → Except ε β) : (Except.error e >>= f) = .error e := rfl

theorem bind_eq_ok {x : Except ε α} {f : α → Except ε β} {b : β} :
    (x >>= f) = .ok b ↔ ∃ a, x = .ok a ∧ f a = .ok b := by
  cases x with
  | ok a => simp [Bind.bind, Except.bind]
  | error e => simp [Bind.bind, Except.bind]

theorem bind_eq_error {x : Except ε α} {f : α → Except ε β} {e : ε} :
    (x >>= f) = .error e ↔ x = .error e ∨ ∃ a, x = .ok a ∧ f a = .error e := by
  cases x with
  | ok a => simp [Bind.bind, Except.bind]
  | error e => simp [Bind.bind, Except.bind]

/-- What cannot fail behind something fails exactly where that does. -/
theorem bind_ok_eq_error {x : Except ε α} {f : α → β} {e : ε} :
    (x >>= fun a => .ok (f a)) = .error e ↔ x = .error e := by
  cases x with
  | ok a => simp [Bind.bind, Except.bind]
  | error e' => simp [Bind.bind, Except.bind]

theorem mapError_eq_ok {x : Except ε α} {f : ε → ε'} {a : α} :
    x.mapError f = .ok a ↔ x = .ok a := by
  cases x with
  | ok b =>
    have kept : (Except.ok b : Except ε α).mapError f = .ok b := rfl
    simp [kept]
  | error e =>
    have changed : (Except.error e : Except ε α).mapError f = .error (f e) := rfl
    simp [changed]

theorem mapError_eq_error {x : Except ε α} {f : ε → ε'} {e' : ε'} :
    x.mapError f = .error e' ↔ ∃ e, x = .error e ∧ f e = e' := by
  cases x with
  | ok b =>
    have kept : (Except.ok b : Except ε α).mapError f = .ok b := rfl
    simp [kept]
  | error e =>
    have changed : (Except.error e : Except ε α).mapError f = .error (f e) := rfl
    simp [changed]

theorem mapM_eq_ok_some {o : Option α} {f : α → Except ε β} {b : β} :
    o.mapM f = .ok (some b) ↔ ∃ a, o = some a ∧ f a = .ok b := by
  cases o with
  | none => exact ⟨fun h => (nomatch h), fun ⟨a, h, _⟩ => (nomatch h)⟩
  | some a =>
    have step : (some a).mapM f = some <$> f a := rfl
    rw [step]
    cases hf : f a with
    | ok c => simp [Functor.map, Except.map, hf]
    | error e => simp [Functor.map, Except.map, hf]

theorem mapM_eq_error {o : Option α} {f : α → Except ε β} {e : ε} :
    o.mapM f = .error e ↔ ∃ a, o = some a ∧ f a = .error e := by
  cases o with
  | none => exact ⟨fun h => (nomatch h), fun ⟨a, h, _⟩ => (nomatch h)⟩
  | some a =>
    have step : (some a).mapM f = some <$> f a := rfl
    rw [step]
    cases hf : f a with
    | ok c => simp [Functor.map, Except.map, hf]
    | error e => simp [Functor.map, Except.map, hf]

end

end Dealer
