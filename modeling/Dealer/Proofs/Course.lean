-- Metered evaluations that go as the free ones. As long as the names on the way
-- are on course, the meter changes nothing: the same result, and the same state
-- behind it. This is kept by sequences, look-ups and walks over lists.
import Dealer.Proofs.Metered

namespace Dealer

/-! ## Staying on course -/

namespace OnCourse

variable {setup : Setup} {chain : Chain} {m m' : Memo}

/-- Outside every chain there is nothing to check. -/
theorem start (setup : Setup) (m : Memo) : OnCourse setup [] m where
  nodup := List.nodup_nil
  named _ h := by cases h
  clear _ h := by cases h
  short := Nat.zero_le _

theorem grow (h : OnCourse setup chain m) (hg : Grows setup chain m m') :
    OnCourse setup chain m' :=
  ⟨h.nodup, h.named, hg.clear h.clear, h.short⟩

/-- A fresh name that is not known goes behind the chain. Names that are different and all in the
setup are no more than the setup has entries. -/
theorem snoc {name : String} (h : OnCourse setup chain m) (hf : Fresh setup chain name)
    (hm : m.get? name = none) : OnCourse setup (chain ++ [name]) m := by
  have nodup : (chain ++ [name]).Nodup := by
    rw [List.nodup_append]
    refine ⟨h.nodup, List.pairwise_singleton _ name, fun a ha b hb => ?_⟩
    rw [List.mem_singleton.mp hb]
    rintro rfl
    exact hf.2 ha
  have named : ∀ n ∈ chain ++ [name], n ∈ setup.names := by
    intro n hn
    rcases List.mem_append.mp hn with hn | hn
    · exact h.named n hn
    · rw [List.mem_singleton.mp hn]
      exact hf.1
  refine ⟨nodup, named, h.clear.snoc hm, ?_⟩
  have := nodup.length_le_of_subset named
  rwa [Setup.names, ByName.names, List.length_map] at this

end OnCourse

/-! ## Following -/

/-- A metered evaluation follows a tidy one: on course, both come to the same. -/
structure Follows (setup : Setup) (chain : Chain) {σ α : Type} [Remembers σ] (x : Metered σ α)
    (y : Eval σ α) : Prop where
  tidy : Tidy setup chain α y
  same : ∀ s, OnCourse setup chain (memo s) → x s = y.free s

namespace Follows

variable {setup : Setup} {chain : Chain} {σ : Type} [Remembers σ] {α β ε : Type}
  {x : Metered σ α} {y : Eval σ α}

theorem free (h : Tidy setup chain α y) : Follows setup chain y.free y := ⟨h, fun _ _ => rfl⟩

theorem pure (a : α) : Follows setup chain (pure a : Metered σ α) (Pure.pure a) :=
  ⟨Tidy.composes.pure a, fun _ _ => rfl⟩

theorem throw {e : EvalError} (he : e.isOfNames = false) :
    Follows setup chain (throw (.failed e) : Metered σ α) (MonadExcept.throw e) :=
  ⟨Tidy.composes.throw he, fun _ _ => rfl⟩

theorem bind {f : α → Metered σ β} {g : α → Eval σ β} (hx : Follows setup chain x y)
    (hf : ∀ a, Follows setup chain (f a) (g a)) :
    Follows setup chain (x >>= f) (y >>= g) := by
  refine ⟨Tidy.composes.bind hx.tidy fun a => (hf a).tidy, fun s hs => ?_⟩
  simp only [Bind.bind, EStateM.bind, hx.same s hs, Eval.free]
  cases hy : y s with
  | ok a t => exact (hf a).same t (hs.grow (hx.tidy.grows_ok hy))
  | error e t => rfl

theorem map (f : α → β) (hx : Follows setup chain x y) :
    Follows setup chain (f <$> x) (y >>= fun a => Pure.pure (f a)) := by
  rw [← bind_pure_comp]
  exact hx.bind fun a => pure (f a)

/-- Where the names are on course, the check lets the evaluation pass. -/
theorem watch (hx : Follows setup chain x y) :
    Follows setup chain (Metered.watch setup chain >>= fun _ => x) y := by
  refine ⟨hx.tidy, fun s hs => ?_⟩
  simp only [Bind.bind, EStateM.bind, Metered.watch, if_pos hs]
  exact hx.same s hs

theorem ite {p : Prop} [Decidable p] {x' : Metered σ α} {y' : Eval σ α}
    (hx : Follows setup chain x y) (hx' : Follows setup chain x' y') :
    Follows setup chain (if p then x else x') (if p then y else y') := by
  split
  · exact hx
  · exact hx'

theorem orUndefined (name : String) (found : Option β) :
    Follows setup chain (Evaluators.orUndefined name found : Metered σ β)
      (Parameter.orUndefined name found) :=
  free (Tidy.orUndefined name found)

theorem onMemo {x : Metered Memo α} {y : Eval Memo α} (hx : Follows setup chain x y) :
    Follows setup chain (Metered.onMemo x) (Eval.onMemo y) := by
  refine ⟨hx.tidy.onMemo, fun run hrun => ?_⟩
  have hx' := hx.same run.memo hrun
  simp only [Metered.onMemo, hx', Eval.free, Eval.onMemo]
  cases y run.memo <;> rfl

/-- A look-up follows when what a fresh parameter stands for follows behind the longer chain. -/
theorem lookUp {p : Parameter ε β} {x : ε → Metered σ β} {y : ε → Eval σ β} {name : String}
    (h : Fresh setup chain name → ∀ d, setup.get? name = some d → ∀ e, p.read d = some e →
      Follows setup (chain ++ [name]) (x e) (y e))
    (htidy : Fresh setup chain name → ∀ e, Tidy setup (chain ++ [name]) β (y e)) :
    Follows setup chain (Metered.lookUp p setup chain x name) (p.lookUp setup chain y name) := by
  refine ⟨Tidy.lookUp htidy, fun s hs => ?_⟩
  simp only [Metered.lookUp, Parameter.lookUp, Eval.free]
  cases hf : (memo s).find setup chain name with
  | known v =>
    dsimp only
    cases p.kept? v <;> rfl
  | circle path => rfl
  | absent => rfl
  | fresh d hfresh =>
    obtain ⟨hm, hd⟩ := Memo.fresh_of_find hf
    dsimp only
    cases he : p.read d with
    | none => rfl
    | some e =>
      simp only [(h hfresh d hd e he).same s (hs.snoc hfresh hm), Eval.free]
      cases y e s <;> rfl

theorem deckIfAny {calls : Evaluators} {look : DeckLook} {name : String}
    (h : Follows setup chain (calls.deck? name) (look name)) :
    Follows setup chain (calls.deckIfAny name) (Dealer.deckIfAny look name) := by
  refine ⟨h.tidy.deckIfAny, fun run hrun => ?_⟩
  simp only [Evaluators.deckIfAny, Dealer.deckIfAny, h.same run hrun, Eval.free]
  cases look name run with
  | ok found run => rfl
  | error e run =>
    cases e with
    | wrongKind found kind =>
      dsimp only
      by_cases hfound : found = name
      · simp only [if_pos hfound]
      · simp only [if_neg hfound]
    | _ => rfl

end Follows

/-! ## Walks over lists -/

section Walks

variable {setup : Setup} {chain : Chain}

theorem Quantity.evalFrom_follows {calls : Quantity → Metered Memo Float}
    {look : String → Eval Memo Float} (op : Arith) (x : Float) {qs : List Quantity}
    (h : ∀ q ∈ qs, Follows setup chain (calls q) (q.eval look)) :
    Follows setup chain (qs.foldlM (fun x q => op.apply x <$> calls q) x)
      (Quantity.evalFrom look op x qs) := by
  induction qs generalizing x with
  | nil => rw [Quantity.evalFrom]; exact Follows.pure x
  | cons q qs ih =>
    rw [List.foldlM_cons, Quantity.evalFrom, ← bind_pure_comp, bind_assoc]
    refine (h q (List.mem_cons_self ..)).bind fun y => ?_
    rw [pure_bind]
    exact ih _ fun q hq => h q (List.mem_cons_of_mem _ hq)

theorem LabelSet.evalFrom_follows {calls : LabelSet → Metered Run (List String)}
    {look : DeckLook} (op : SetOp) (labels : List String) {ss : List LabelSet}
    (h : ∀ s ∈ ss, Follows setup chain (calls s) (s.eval look)) :
    Follows setup chain (ss.foldlM (fun labels s => op.apply labels <$> calls s) labels)
      (LabelSet.evalFrom look op labels ss) := by
  induction ss generalizing labels with
  | nil => rw [LabelSet.evalFrom]; exact Follows.pure labels
  | cons s ss ih =>
    rw [List.foldlM_cons, LabelSet.evalFrom, ← bind_pure_comp, bind_assoc]
    refine (h s (List.mem_cons_self ..)).bind fun more => ?_
    rw [pure_bind]
    exact ih _ fun s hs => h s (List.mem_cons_of_mem _ hs)

theorem Flag.evalAll_follows {calls : Flag → Metered Memo Bool} {look : String → Eval Memo Bool}
    {fs : List Flag} (h : ∀ f ∈ fs, Follows setup chain (calls f) (f.eval look)) :
    Follows setup chain (fs.allM calls) (Flag.evalAll look fs) := by
  induction fs with
  | nil => rw [Flag.evalAll]; exact Follows.pure true
  | cons f fs ih =>
    rw [List.allM, Flag.evalAll]
    refine (h f (List.mem_cons_self ..)).bind fun b => ?_
    cases b with
    | true => exact ih fun f hf => h f (List.mem_cons_of_mem _ hf)
    | false => exact Follows.pure false

theorem Flag.evalAny_follows {calls : Flag → Metered Memo Bool} {look : String → Eval Memo Bool}
    {fs : List Flag} (h : ∀ f ∈ fs, Follows setup chain (calls f) (f.eval look)) :
    Follows setup chain (fs.anyM calls) (Flag.evalAny look fs) := by
  induction fs with
  | nil => rw [Flag.evalAny]; exact Follows.pure false
  | cons f fs ih =>
    rw [List.anyM, Flag.evalAny]
    refine (h f (List.mem_cons_self ..)).bind fun b => ?_
    cases b with
    | true => exact Follows.pure true
    | false => exact ih fun f hf => h f (List.mem_cons_of_mem _ hf)

theorem Matcher.someAccepts_follows {calls : Matcher → Metered Run Bool} {look : DeckLook}
    {label : String} {ms : List Matcher}
    (h : ∀ m ∈ ms, Follows setup chain (calls m) (m.accepts look label)) :
    Follows setup chain (ms.anyM calls) (Matcher.someAccepts look label ms) := by
  induction ms with
  | nil => rw [Matcher.someAccepts]; exact Follows.pure false
  | cons m ms ih =>
    rw [List.anyM, Matcher.someAccepts]
    refine (h m (List.mem_cons_self ..)).bind fun b => ?_
    cases b with
    | true => exact Follows.pure true
    | false => exact ih fun m hm => h m (List.mem_cons_of_mem _ hm)

/-- The size of a deck is checked without a look at names. -/
theorem checkSize_follows (size : Nat) :
    Follows setup chain (Eval.ofExcept (checkSize size) : Eval Run Unit).free
      (Eval.ofExcept (checkSize size)) :=
  Follows.free (Tidy.composes.ofExcept fun _ => checkSize_error)

theorem gather_follows {calls : Deck → Metered Run (List String)}
    {build : Deck → Eval Run (List String)} (size : Nat) {ds : List Deck}
    (h : ∀ d ∈ ds, Follows setup chain (calls d) (build d)) :
    Follows setup chain (Metered.gather calls size ds) (gather size (ds.map build)) := by
  induction ds generalizing size with
  | nil => exact Follows.pure []
  | cons d ds ih =>
    refine (h d (List.mem_cons_self ..)).bind fun cards => ?_
    refine (checkSize_follows _).bind fun _ => ?_
    exact (ih _ fun d hd => h d (List.mem_cons_of_mem _ hd)).bind fun others => Follows.pure _

theorem pickPlace_follows (what : Counted) (n : Nat) :
    Follows setup chain (pickPlace what n).free (pickPlace what n) :=
  Follows.free (pickPlace_has Tidy.composes Tidy.draw what n)

theorem gatherPicked_follows {calls : Deck → Metered Run (List String)}
    {build : Deck → Eval Run (List String)} {groups : Array Deck}
    (h : ∀ d ∈ groups, Follows setup chain (calls d) (build d)) (size n : Nat) :
    Follows setup chain (Metered.gatherPicked calls groups size n)
      (gatherPicked (groups.map build) size n) := by
  induction n generalizing size with
  | zero => exact Follows.pure []
  | succ n ih =>
    unfold Metered.gatherPicked gatherPicked
    rw [Array.size_map]
    refine (pickPlace_follows _ _).bind fun i => Follows.bind ?_ fun cards => ?_
    · rw [Array.getElem?_map]
      cases hi : groups[i]? with
      | none => exact Follows.pure []
      | some d => exact h d (Array.mem_of_getElem? hi)
    · refine (checkSize_follows _).bind fun _ => ?_
      exact (ih _).bind fun others => Follows.pure _

end Walks

end Dealer
