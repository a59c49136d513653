-- How a parameter is resolved, whatever its kind: known values first, then the
-- names on the way, then the setup. The look-ups of numbers, flags and decks are
-- shown to be this one look-up, so that what holds of it holds of all three.
import Dealer.Eval.Deck

namespace Dealer

/-! ## What a look-up finds -/

namespace Memo

variable {memo : Memo} {setup : Setup} {chain : Chain} {name : String}

theorem find_of_known {v : Resolved} (h : memo.get? name = some v) :
    memo.find setup chain name = .known v := by
  unfold find
  rw [h]

theorem known_of_find {v : Resolved} (h : memo.find setup chain name = .known v) :
    memo.get? name = some v := by
  unfold find at h
  split at h
  · rename_i w hw
    cases h
    exact hw
  · split at h
    · cases h
    · split at h <;> cases h

theorem circle_of_find {path : List String} (h : memo.find setup chain name = .circle path) :
    memo.get? name = none ∧ name ∈ chain ∧ path = chain.dropWhile (· ≠ name) ++ [name] := by
  unfold find at h
  split at h
  · cases h
  · rename_i hw
    split at h
    · rename_i hc
      cases h
      exact ⟨hw, hc, rfl⟩
    · split at h <;> cases h

theorem absent_of_find (h : memo.find setup chain name = .absent) :
    memo.get? name = none ∧ name ∉ chain ∧ setup.get? name = none := by
  unfold find at h
  split at h
  · cases h
  · rename_i hw
    split at h
    · cases h
    · rename_i hc
      split at h
      · rename_i hs
        exact ⟨hw, hc, hs⟩
      · cases h

theorem fresh_of_find {d : Document} {hf : Fresh setup chain name}
    (h : memo.find setup chain name = .fresh d hf) :
    memo.get? name = none ∧ setup.get? name = some d := by
  unfold find at h
  split at h
  · cases h
  · rename_i hw
    split at h
    · cases h
    · split at h
      · cases h
      · rename_i hs
        cases h
        exact ⟨hw, hs⟩

theorem find_absent (hw : memo.get? name = none) (hc : name ∉ chain)
    (hs : setup.get? name = none) : memo.find setup chain name = .absent := by
  unfold find
  rw [hw]
  simp only [hc, ↓reduceDIte]
  split
  · rfl
  · rename_i hs'
    rw [hs] at hs'
    cases hs'

theorem find_fresh {d : Document} (hw : memo.get? name = none) (hc : name ∉ chain)
    (hs : setup.get? name = some d) :
    memo.find setup chain name = .fresh d ⟨ByName.mem_names_of_get? hs, hc⟩ := by
  unfold find
  rw [hw]
  simp only [hc, ↓reduceDIte]
  split
  · rename_i hs'
    rw [hs] at hs'
    cases hs'
  · rename_i d' hs'
    rw [hs] at hs'
    cases hs'
    rfl

end Memo

/-! ## The one look-up -/

/-- A state that holds what is known of the parameters. -/
class Remembers (σ : Type) where
  memo : σ → Memo
  remember : σ → Memo → σ
  memo_remember : ∀ s m, memo (remember s m) = m

instance : Remembers Memo := ⟨id, fun _ m => m, fun _ _ => rfl⟩

instance : Remembers Run := ⟨Run.memo, fun run m => { run with memo := m }, fun _ _ => rfl⟩

export Remembers (memo remember memo_remember)

/-- Whether a value is one that a document can stand for: the document can be read in the kind of
the value. -/
def Resolved.Fits (d : Document) : Resolved → Prop
  | .number _ => (Quantity.ofDocument? d).isSome
  | .option _ => (Flag.ofDocument? d).isSome
  | .deck _ => (Deck.ofDocument? d).isSome

/-- How the parameters of one kind are read from a setup and kept in a memo. -/
structure Parameter (ε β : Type) where
  kind : Kind
  read : Document → Option ε
  keep : β → Resolved
  kept? : Resolved → Option β
  kept?_keep : ∀ b, kept? (keep b) = some b
  fits_keep : ∀ {d e} b, read d = some e → (keep b).Fits d
  read_isSome : ∀ {d v} b, v.Fits d → kept? v = some b → (read d).isSome

namespace Parameter

variable {σ ε β : Type} [Remembers σ]

/-- Looks a parameter up. One that is not known yet is resolved and known from then on. -/
def lookUp (p : Parameter ε β) (setup : Setup) (chain : Chain) (resolve : ε → Eval σ β)
    (name : String) : Eval σ (Option β) := fun s =>
  match (memo s).find setup chain name with
  | .known value =>
    match p.kept? value with
    | some b => .ok (some b) s
    | none => .error (.wrongKind name p.kind) s
  | .circle path => .error (.recursive path) s
  | .absent => .ok none s
  | .fresh d _ =>
    match p.read d with
    | none => .error (.wrongKind name p.kind) s
    | some e =>
      match resolve e s with
      | .ok b t => .ok (some b) (remember t ((memo t).put name (p.keep b)))
      | .error err t => .error err t

/-- The ways in which a look-up can end. -/
inductive LooksUp (p : Parameter ε β) (setup : Setup) (chain : Chain) (resolve : ε → Eval σ β)
    (name : String) (s : σ) : EStateM.Result EvalError σ (Option β) → Prop
  | known {v : Resolved} {b : β} (hv : (memo s).get? name = some v) (hb : p.kept? v = some b) :
      LooksUp p setup chain resolve name s (.ok (some b) s)
  | otherKind {v : Resolved} (hv : (memo s).get? name = some v) (hb : p.kept? v = none) :
      LooksUp p setup chain resolve name s (.error (.wrongKind name p.kind) s)
  | circle (hm : (memo s).get? name = none) (hc : name ∈ chain) :
      LooksUp p setup chain resolve name s
        (.error (.recursive (chain.dropWhile (· ≠ name) ++ [name])) s)
  | absent (hm : (memo s).get? name = none) (hc : name ∉ chain) (hs : setup.get? name = none) :
      LooksUp p setup chain resolve name s (.ok none s)
  | unread {d : Document} (hm : (memo s).get? name = none) (hf : Fresh setup chain name)
      (hs : setup.get? name = some d) (he : p.read d = none) :
      LooksUp p setup chain resolve name s (.error (.wrongKind name p.kind) s)
  | resolved {d : Document} {e : ε} {b : β} {t : σ} (hm : (memo s).get? name = none)
      (hf : Fresh setup chain name) (hs : setup.get? name = some d) (he : p.read d = some e)
      (hb : resolve e s = .ok b t) :
      LooksUp p setup chain resolve name s
        (.ok (some b) (remember t ((memo t).put name (p.keep b))))
  | failed {d : Document} {e : ε} {err : EvalError} {t : σ} (hm : (memo s).get? name = none)
      (hf : Fresh setup chain name) (hs : setup.get? name = some d) (he : p.read d = some e)
      (hb : resolve e s = .error err t) : LooksUp p setup chain resolve name s (.error err t)

section

variable {setup : Setup} {chain : Chain} {resolve : ε → Eval σ β} {name : String} {s : σ}

theorem looksUp {p : Parameter ε β} {result : EStateM.Result EvalError σ (Option β)}
    (h : p.lookUp setup chain resolve name s = result) :
    p.LooksUp setup chain resolve name s result := by
  rw [← h]
  unfold lookUp
  cases hf : (memo s).find setup chain name with
  | known v =>
    dsimp only
    split
    · rename_i b hb
      exact .known (Memo.known_of_find hf) hb
    · rename_i hb
      exact .otherKind (Memo.known_of_find hf) hb
  | circle path =>
    obtain ⟨hm, hc, rfl⟩ := Memo.circle_of_find hf
    exact .circle hm hc
  | absent =>
    obtain ⟨hm, hc, hs⟩ := Memo.absent_of_find hf
    exact .absent hm hc hs
  | fresh d hfresh =>
    obtain ⟨hm, hs⟩ := Memo.fresh_of_find hf
    dsimp only
    split
    · rename_i he
      exact .unread hm hfresh hs he
    · rename_i e he
      split
      · rename_i b t hb
        exact .resolved hm hfresh hs he hb
      · rename_i err t hb
        exact .failed hm hfresh hs he hb

theorem lookUp_of_known {p : Parameter ε β} {v : Resolved} {b : β}
    (hv : (memo s).get? name = some v) (hb : p.kept? v = some b) :
    p.lookUp setup chain resolve name s = .ok (some b) s := by
  unfold lookUp
  rw [Memo.find_of_known hv]
  simp only [hb]

theorem lookUp_of_otherKind {p : Parameter ε β} {v : Resolved}
    (hv : (memo s).get? name = some v) (hb : p.kept? v = none) :
    p.lookUp setup chain resolve name s = .error (.wrongKind name p.kind) s := by
  unfold lookUp
  rw [Memo.find_of_known hv]
  simp only [hb]

theorem lookUp_of_absent {p : Parameter ε β} (hm : (memo s).get? name = none) (hc : name ∉ chain)
    (hs : setup.get? name = none) : p.lookUp setup chain resolve name s = .ok none s := by
  unfold lookUp
  rw [Memo.find_absent hm hc hs]

theorem lookUp_of_unread {p : Parameter ε β} {d : Document} (hm : (memo s).get? name = none)
    (hc : name ∉ chain) (hs : setup.get? name = some d) (he : p.read d = none) :
    p.lookUp setup chain resolve name s = .error (.wrongKind name p.kind) s := by
  unfold lookUp
  rw [Memo.find_fresh hm hc hs]
  simp only [he]

theorem lookUp_of_resolved {p : Parameter ε β} {d : Document} {e : ε} {b : β} {t : σ}
    (hm : (memo s).get? name = none) (hc : name ∉ chain) (hs : setup.get? name = some d)
    (he : p.read d = some e) (hb : resolve e s = .ok b t) :
    p.lookUp setup chain resolve name s =
      .ok (some b) (remember t ((memo t).put name (p.keep b))) := by
  unfold lookUp
  rw [Memo.find_fresh hm hc hs]
  simp only [he, hb]

theorem lookUp_of_failed {p : Parameter ε β} {d : Document} {e : ε} {err : EvalError} {t : σ}
    (hm : (memo s).get? name = none) (hc : name ∉ chain) (hs : setup.get? name = some d)
    (he : p.read d = some e) (hb : resolve e s = .error err t) :
    p.lookUp setup chain resolve name s = .error err t := by
  unfold lookUp
  rw [Memo.find_fresh hm hc hs]
  simp only [he, hb]

end

/-- What a look-up gives where the parameter must be there. -/
def orUndefined (name : String) (found : Option β) : Eval σ β :=
  match found with
  | some b => pure b
  | none => throw (.undefined name)

/-- Parameters that are numbers. -/
def number : Parameter Quantity Float where
  kind := .number
  read := Quantity.ofDocument?
  keep := .number
  kept?
    | .number x => some x
    | _ => none
  kept?_keep _ := rfl
  fits_keep _ h := Option.isSome_of_eq_some h
  read_isSome := by
    intro d v b hv hb
    cases v with
    | number _ => exact hv
    | _ => cases hb

/-- Parameters that are truth values. -/
def flag : Parameter Flag Bool where
  kind := .option
  read := Flag.ofDocument?
  keep := .option
  kept?
    | .option b => some b
    | _ => none
  kept?_keep _ := rfl
  fits_keep _ h := Option.isSome_of_eq_some h
  read_isSome := by
    intro d v b hv hb
    cases v with
    | option _ => exact hv
    | _ => cases hb

/-- Parameters that are decks. -/
def deck : Parameter Deck (List String) where
  kind := .deck
  read := Deck.ofDocument?
  keep := .deck
  kept?
    | .deck cards => some cards
    | _ => none
  kept?_keep _ := rfl
  fits_keep _ h := Option.isSome_of_eq_some h
  read_isSome := by
    intro d v b hv hb
    cases v with
    | deck _ => exact hv
    | _ => cases hb

theorem number_of_kept? {v : Resolved} {x : Float} (h : number.kept? v = some x) :
    v = .number x := by
  cases v with
  | number y => cases h; rfl
  | _ => cases h

theorem flag_of_kept? {v : Resolved} {b : Bool} (h : flag.kept? v = some b) : v = .option b := by
  cases v with
  | option c => cases h; rfl
  | _ => cases h

theorem deck_of_kept? {v : Resolved} {cards : List String} (h : deck.kept? v = some cards) :
    v = .deck cards := by
  cases v with
  | deck cards => cases h; rfl
  | _ => cases h

end Parameter

theorem numberOf_eq (setup : Setup) (chain : Chain) (name : String) :
    numberOf setup chain name =
      Parameter.number.lookUp setup chain (fun q => q.eval (numberOf setup (chain ++ [name]))) name
        >>= Parameter.orUndefined name := by
  funext memo
  rw [numberOf]
  simp only [Bind.bind, EStateM.bind, Parameter.lookUp, Remembers.memo, id]
  cases memo.find setup chain name with
  | known value => cases value <;> rfl
  | circle path => rfl
  | absent => rfl
  | fresh d h =>
    simp only [Parameter.number]
    cases Quantity.ofDocument? d with
    | none => rfl
    | some q =>
      dsimp only
      cases q.eval (numberOf setup (chain ++ [name])) memo <;> rfl

theorem flagOf_eq (setup : Setup) (chain : Chain) (name : String) :
    flagOf setup chain name =
      Parameter.flag.lookUp setup chain (fun f => f.eval (flagOf setup (chain ++ [name]))) name
        >>= Parameter.orUndefined name := by
  funext memo
  rw [flagOf]
  simp only [Bind.bind, EStateM.bind, Parameter.lookUp, Remembers.memo, id]
  cases memo.find setup chain name with
  | known value => cases value <;> rfl
  | circle path => rfl
  | absent => rfl
  | fresh d h =>
    simp only [Parameter.flag]
    cases Flag.ofDocument? d with
    | none => rfl
    | some f =>
      dsimp only
      cases f.eval (flagOf setup (chain ++ [name])) memo <;> rfl

theorem deckOf_eq (setup : Setup) (chain : Chain) (name : String) :
    deckOf setup chain name =
      Parameter.deck.lookUp setup chain (Deck.build (.within setup (chain ++ [name]))) name := by
  funext run
  rw [deckOf]
  simp only [Parameter.lookUp, Remembers.memo]
  cases run.memo.find setup chain name with
  | known value => cases value <;> rfl
  | circle path => rfl
  | absent => rfl
  | fresh d h =>
    simp only [Parameter.deck]
    cases Deck.ofDocument? d with
    | none => rfl
    | some deck =>
      simp only [Names.within]
      cases deck.build _ run <;> rfl

/-- The look-up of decks behind a chain, one step unfolded for every name. -/
theorem deckOf_eq_lookUp (setup : Setup) (chain : Chain) :
    deckOf setup chain = fun name =>
      Parameter.deck.lookUp setup chain (Deck.build (.within setup (chain ++ [name]))) name :=
  funext (deckOf_eq setup chain)

/-! ## Induction on the names on the way -/

/-- What holds for a chain when it holds for the chain with any fresh name behind it holds for
every chain: fresh names run out. -/
theorem chain_induction (setup : Setup) {motive : Chain → Prop}
    (step : ∀ chain, (∀ name, Fresh setup chain name → motive (chain ++ [name])) → motive chain)
    (chain : Chain) : motive chain :=
  step chain fun name _h => chain_induction setup step (chain ++ [name])
termination_by untouched setup chain
decreasing_by exact untouched_lt _h

end Dealer
