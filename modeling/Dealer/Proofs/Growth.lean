-- What resolving does to the memo. It only grows: a known value stays, a new
-- value belongs to a parameter of the setup that can be read in its kind, and no
-- name on the way to the one that is resolved becomes known. This holds whether
-- the evaluation succeeds or fails.
import Dealer.Proofs.Compose
import Dealer.Proofs.Parameters

namespace Dealer

/-! ## Memos that grow -/

/-- Resolving behind a chain may lead from one memo to the other. -/
structure Grows (setup : Setup) (chain : Chain) (m m' : Memo) : Prop where
  keeps : ∀ name v, m.get? name = some v → m'.get? name = some v
  news : ∀ name v, m'.get? name = some v →
    m.get? name = some v ∨ (name ∉ chain ∧ ∃ d, setup.get? name = some d ∧ v.Fits d)

namespace Grows

variable {setup : Setup} {chain : Chain} {m m' m'' : Memo}

theorem refl (m : Memo) : Grows setup chain m m := ⟨fun _ _ h => h, fun _ _ h => Or.inl h⟩

theorem trans (h₁ : Grows setup chain m m') (h₂ : Grows setup chain m' m'') :
    Grows setup chain m m'' := by
  refine ⟨fun name v h => h₂.keeps name v (h₁.keeps name v h), fun name v h => ?_⟩
  rcases h₂.news name v h with h | h
  · exact h₁.news name v h
  · exact Or.inr h

/-- A shorter chain forbids less. -/
theorem weaken {more : Chain} (h : Grows setup (chain ++ more) m m') : Grows setup chain m m' := by
  refine ⟨h.keeps, fun name v hv => ?_⟩
  rcases h.news name v hv with hv | ⟨hn, hd⟩
  · exact Or.inl hv
  · exact Or.inr ⟨fun hc => hn (List.mem_append_left _ hc), hd⟩

/-- No name on the chain becomes known. -/
theorem unknown {name : String} (h : Grows setup chain m m') (hc : name ∈ chain)
    (hm : m.get? name = none) : m'.get? name = none := by
  cases hv : m'.get? name with
  | none => rfl
  | some v =>
    rcases h.news name v hv with hv | ⟨hn, _⟩
    · rw [hm] at hv
      cases hv
    · exact absurd hc hn

/-- A name whose document cannot be read in a kind does not become known in that kind. -/
theorem kept?_eq_none_of_unread {ε β : Type} {p : Parameter ε β} {name : String} {d : Document}
    {v : Resolved} (h : Grows setup chain m m') (hm : m.get? name = none)
    (hs : setup.get? name = some d) (he : p.read d = none) (hv : m'.get? name = some v) :
    p.kept? v = none := by
  cases hb : p.kept? v with
  | none => rfl
  | some b =>
    rcases h.news name v hv with hold | ⟨_, d', hd, hfits⟩
    · rw [hm] at hold
      cases hold
    · rw [hs] at hd
      cases hd
      have hread := p.read_isSome b hfits hb
      rw [he] at hread
      cases hread

/-- Names that no parameter has stay unknown. -/
theorem unknown_of_absent {name : String} (h : Grows setup chain m m')
    (hs : setup.get? name = none) (hm : m.get? name = none) : m'.get? name = none := by
  cases hv : m'.get? name with
  | none => rfl
  | some v =>
    rcases h.news name v hv with hv | ⟨_, d, hd, _⟩
    · rw [hm] at hv
      cases hv
    · rw [hs] at hd
      cases hd

/-- A value that was not known is written. -/
theorem put {name : String} {v : Resolved} {d : Document} (hm : m.get? name = none)
    (hc : name ∉ chain) (hs : setup.get? name = some d) (hv : v.Fits d) :
    Grows setup chain m (m.put name v) := by
  refine ⟨fun other w hw => ?_, fun other w hw => ?_⟩
  · rw [ByName.get?_put]
    split
    · rename_i h
      rw [h, hm] at hw
      cases hw
    · exact hw
  · rw [ByName.get?_put] at hw
    split at hw
    · rename_i h
      cases hw
      exact Or.inr ⟨h ▸ hc, d, h ▸ hs, hv⟩
    · exact Or.inl hw

end Grows

/-! ## Evaluations behind a chain -/

/-- No name on the chain is known. -/
def Clear (chain : Chain) (m : Memo) : Prop := ∀ name ∈ chain, m.get? name = none

theorem Grows.clear {setup : Setup} {chain : Chain} {m m' : Memo} (h : Grows setup chain m m')
    (hc : Clear chain m) : Clear chain m' := fun name hn => h.unknown hn (hc name hn)

theorem Clear.snoc {chain : Chain} {m : Memo} {name : String} (h : Clear chain m)
    (hm : m.get? name = none) : Clear (chain ++ [name]) m := by
  intro other ho
  rcases List.mem_append.mp ho with ho | ho
  · exact h other ho
  · rw [List.mem_singleton.mp ho]
    exact hm

/-- What an evaluation does behind a chain: the memo grows, and where no name on the chain is
known, no name on the chain is blamed for its kind. -/
structure Tidy (setup : Setup) (chain : Chain) {σ : Type} [Remembers σ] (α : Type)
    (x : Eval σ α) : Prop where
  grows : ∀ s, Grows setup chain (memo s) (memo (Eval.left (x s)))
  blames : ∀ s name kind t, Clear chain (memo s) → x s = .error (.wrongKind name kind) t →
    name ∉ chain

namespace Tidy

variable {setup : Setup} {chain : Chain} {σ : Type} [Remembers σ] {α β ε : Type}

theorem grows_ok {x : Eval σ α} (hx : Tidy setup chain α x) {s t : σ} {a : α}
    (h : x s = .ok a t) : Grows setup chain (memo s) (memo t) := by
  have := hx.grows s
  rwa [h] at this

theorem grows_error {x : Eval σ α} (hx : Tidy setup chain α x) {s t : σ} {e : EvalError}
    (h : x s = .error e t) : Grows setup chain (memo s) (memo t) := by
  have := hx.grows s
  rwa [h] at this

theorem composes : Eval.Composes (Tidy setup chain (σ := σ)) where
  pure a := ⟨fun s => Grows.refl _, fun s name kind t _ h => by cases h⟩
  throw he := by
    refine ⟨fun s => Grows.refl _, fun s name kind t _ h => ?_⟩
    cases h
    cases he
  bind := by
    intro α β x f hx hf
    refine ⟨fun s => ?_, fun s name kind u hc h => ?_⟩
    · cases h : x s with
      | ok a t =>
        rw [Eval.bind_ok h]
        exact (hx.grows_ok h).trans ((hf a).grows t)
      | error e t =>
        rw [Eval.bind_error h]
        exact hx.grows_error h
    · cases hxs : x s with
      | ok a t =>
        rw [Eval.bind_ok hxs] at h
        exact (hf a).blames t name kind u ((hx.grows_ok hxs).clear hc) h
      | error e t =>
        rw [Eval.bind_error hxs] at h
        cases h
        exact hx.blames s name kind u hc hxs

theorem orUndefined (name : String) (found : Option β) :
    Tidy setup chain β (Parameter.orUndefined name found : Eval σ β) := by
  cases found with
  | some b => exact composes.pure b
  | none => exact ⟨fun s => Grows.refl _, fun s name kind t _ h => by cases h⟩

/-- A look-up is tidy when resolving a fresh parameter is tidy behind the longer chain. -/
theorem lookUp {p : Parameter ε β} {resolve : ε → Eval σ β} {name : String}
    (h : Fresh setup chain name → ∀ e, Tidy setup (chain ++ [name]) β (resolve e)) :
    Tidy setup chain (Option β) (p.lookUp setup chain resolve name) := by
  refine ⟨fun s => ?_, fun s found kind t hc herr => ?_⟩
  · generalize hresult : p.lookUp setup chain resolve name s = result
    cases Parameter.looksUp hresult with
    | resolved hm hf hs he hb =>
      have hg := (h hf _).grows_ok hb
      have hn := hg.unknown (List.mem_append_right _ (List.mem_singleton_self name)) hm
      simp only [Eval.left, memo_remember]
      exact hg.weaken.trans (Grows.put hn hf.2 hs (p.fits_keep _ he))
    | failed hm hf hs he hb => exact ((h hf _).grows_error hb).weaken
    | _ => exact Grows.refl _
  · cases Parameter.looksUp herr with
    | otherKind hv hb =>
      intro hn
      have := hc name hn
      rw [hv] at this
      cases this
    | unread hm hf hs he => exact hf.2
    | failed hm hf hs he hb =>
      have hnot := (h hf _).blames s found kind t (hc.snoc hm) hb
      exact fun hn => hnot (List.mem_append_left _ hn)

theorem onMemo {x : Eval Memo α} (hx : Tidy setup chain α x) :
    Tidy setup chain α (Eval.onMemo x) := by
  refine ⟨fun run => ?_, fun run name kind t hc h => ?_⟩
  · have hg := hx.grows run.memo
    unfold Eval.onMemo
    split
    · rename_i a m h
      rw [h] at hg
      exact hg
    · rename_i e m h
      rw [h] at hg
      exact hg
  · unfold Eval.onMemo at h
    split at h
    · cases h
    · rename_i e m hxm
      cases h
      exact hx.blames run.memo name kind m hc hxm

theorem draw (x : Generator → α × Generator) :
    Tidy setup chain α (Eval.draw x) :=
  ⟨fun _ => Grows.refl _, fun _ _ _ _ _ h => by cases h⟩

end Tidy

/-! ## Every evaluation -/

theorem numberOf_tidy (setup : Setup) (chain : Chain) (name : String) :
    Tidy setup chain Float (numberOf setup chain name) := by
  induction chain using chain_induction setup generalizing name with
  | step chain ih =>
    rw [numberOf_eq]
    refine Tidy.composes.bind (Tidy.lookUp fun hf q => ?_) fun found => Tidy.orUndefined name found
    exact Quantity.eval_has Tidy.composes (fun n => ih name hf n) q

theorem flagOf_tidy (setup : Setup) (chain : Chain) (name : String) :
    Tidy setup chain Bool (flagOf setup chain name) := by
  induction chain using chain_induction setup generalizing name with
  | step chain ih =>
    rw [flagOf_eq]
    refine Tidy.composes.bind (Tidy.lookUp fun hf f => ?_) fun found => Tidy.orUndefined name found
    exact Flag.eval_has Tidy.composes (fun n => ih name hf n) f

theorem deckOf_tidy (setup : Setup) (chain : Chain) (name : String) :
    Tidy setup chain (Option (List String)) (deckOf setup chain name) := by
  induction chain using chain_induction setup generalizing name with
  | step chain ih =>
    rw [deckOf_eq]
    refine Tidy.lookUp fun hf d => ?_
    refine Deck.build_has Tidy.composes ⟨Tidy.draw, fun what q => ?_, fun f => ?_, fun n => ?_⟩ d
    · exact (Quantity.count_has Tidy.composes (numberOf_tidy setup _) what q).onMemo
    · exact (Flag.eval_has Tidy.composes (flagOf_tidy setup _) f).onMemo
    · exact ih name hf n

/-- What names stand for behind a chain is tidy. -/
theorem Names.within_tidy (setup : Setup) (chain : Chain) :
    (Names.within setup chain).Have (Tidy setup chain) where
  draw := Tidy.draw
  count what q := (Quantity.count_has Tidy.composes (numberOf_tidy setup chain) what q).onMemo
  flag f := (Flag.eval_has Tidy.composes (flagOf_tidy setup chain) f).onMemo
  deck := deckOf_tidy setup chain

/-! ## What is kept of the memo -/

/-- An evaluation that keeps a property of what is known, even where it fails. -/
def Keeps (I : Memo → Prop) {σ : Type} [Remembers σ] (α : Type) (x : Eval σ α) : Prop :=
  ∀ s, I (memo s) → I (memo (Eval.left (x s)))

namespace Keeps

variable {I : Memo → Prop} {setup : Setup} {chain : Chain} {σ : Type} [Remembers σ] {α β ε : Type}

theorem ok {x : Eval σ α} (hx : Keeps I α x) {s t : σ} {a : α} (hs : I (memo s))
    (h : x s = .ok a t) : I (memo t) := by
  have := hx s hs
  rwa [h] at this

theorem error {x : Eval σ α} (hx : Keeps I α x) {s t : σ} {e : EvalError} (hs : I (memo s))
    (h : x s = .error e t) : I (memo t) := by
  have := hx s hs
  rwa [h] at this

theorem composes : Eval.Composes (Keeps I (σ := σ)) where
  pure _ _ hs := hs
  throw _ _ hs := hs
  bind := by
    intro α β x f hx hf s hs
    cases h : x s with
    | ok a t =>
      rw [Eval.bind_ok h]
      exact hf a t (hx.ok hs h)
    | error e t =>
      rw [Eval.bind_error h]
      exact hx.error hs h

theorem orUndefined (name : String) (found : Option β) :
    Keeps I β (Parameter.orUndefined name found : Eval σ β) := by
  cases found with
  | some b => exact composes.pure b
  | none => exact fun _ hs => hs

theorem onMemo {x : Eval Memo α} (hx : Keeps I α x) : Keeps I α (Eval.onMemo x) := by
  intro run hrun
  have hleft := hx run.memo hrun
  unfold Eval.onMemo
  cases h : x run.memo <;> rw [h] at hleft <;> exact hleft

theorem draw (x : Generator → α × Generator) : Keeps I α (Eval.draw x) := fun _ hs => hs

/-- A look-up keeps what resolving a fresh parameter keeps, if it still holds when the value is
known. -/
theorem lookUp {p : Parameter ε β} {resolve : ε → Eval σ β} {name : String}
    (h : Fresh setup chain name → ∀ e, Keeps I β (resolve e))
    (hput : Fresh setup chain name → ∀ d e s b t, setup.get? name = some d → p.read d = some e →
      I (memo s) → resolve e s = .ok b t → I ((memo t).put name (p.keep b))) :
    Keeps I (Option β) (p.lookUp setup chain resolve name) := by
  intro s hs
  generalize hresult : p.lookUp setup chain resolve name s = result
  cases Parameter.looksUp hresult with
  | @resolved d e b t hm hf hd he hb =>
    simp only [Eval.left, memo_remember]
    exact hput hf d e s b t hd he hs hb
  | failed hm hf hd he hb => exact (h hf _).error hs hb
  | _ => exact hs

end Keeps

theorem numberOf_keeps {I : Memo → Prop} (hI : ∀ m name x, I m → I (m.put name (.number x)))
    (setup : Setup) (chain : Chain) (name : String) :
    Keeps I Float (numberOf setup chain name) := by
  induction chain using chain_induction setup generalizing name with
  | step chain ih =>
    have resolve (hf : Fresh setup chain name) (q : Quantity) :
        Keeps I Float (q.eval (numberOf setup (chain ++ [name]))) :=
      Quantity.eval_has Keeps.composes (fun n => ih name hf n) q
    rw [numberOf_eq]
    refine Keeps.composes.bind (Keeps.lookUp resolve ?_) fun found => Keeps.orUndefined name found
    exact fun hf d q s x t _ _ hs h => hI _ name x ((resolve hf q).ok hs h)

theorem flagOf_keeps {I : Memo → Prop} (hI : ∀ m name b, I m → I (m.put name (.option b)))
    (setup : Setup) (chain : Chain) (name : String) : Keeps I Bool (flagOf setup chain name) := by
  induction chain using chain_induction setup generalizing name with
  | step chain ih =>
    have resolve (hf : Fresh setup chain name) (f : Flag) :
        Keeps I Bool (f.eval (flagOf setup (chain ++ [name]))) :=
      Flag.eval_has Keeps.composes (fun n => ih name hf n) f
    rw [flagOf_eq]
    refine Keeps.composes.bind (Keeps.lookUp resolve ?_) fun found => Keeps.orUndefined name found
    exact fun hf d f s b t _ _ hs h => hI _ name b ((resolve hf f).ok hs h)

end Dealer
