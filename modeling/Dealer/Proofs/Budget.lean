-- A budget that always suffices. It is the depth of what is asked for, and for
-- every entry of the setup the depth of what the entry can be read as. No entry
-- is resolved inside itself, so each is paid for once on the way down.
import Dealer.Proofs.Course

namespace Dealer

/-! ## What a setup costs -/

/-- How deep the evaluation of a stored document can go, in whichever kind it is read. -/
def weight (d : Document) : Nat :=
  max ((Quantity.ofDocument? d).elim 0 Quantity.depth)
    (max ((Flag.ofDocument? d).elim 0 Flag.depth) ((Deck.ofDocument? d).elim 0 Deck.depth))

/-- What the entries that are not on a chain cost together. Each also costs its own look-up. -/
def reserveOf (chain : Chain) : ByName Document → Nat
  | [] => 0
  | (name, d) :: rest =>
    (if name ∈ chain then 0 else 1 + weight d) + reserveOf chain rest

/-- What the parameters cost that are not on a chain. -/
def reserve (setup : Setup) (chain : Chain) : Nat := reserveOf chain setup.entries

theorem depth_le_weight_of_number {d : Document} {q : Quantity}
    (h : Parameter.number.read d = some q) : q.depth ≤ weight d := by
  unfold weight
  rw [show Quantity.ofDocument? d = some q from h]
  exact Nat.le_max_left _ _

theorem depth_le_weight_of_flag {d : Document} {f : Flag}
    (h : Parameter.flag.read d = some f) : f.depth ≤ weight d := by
  unfold weight
  rw [show Flag.ofDocument? d = some f from h]
  exact Nat.le_trans (Nat.le_max_left _ _) (Nat.le_max_right _ _)

theorem depth_le_weight_of_deck {d : Document} {deck : Deck}
    (h : Parameter.deck.read d = some deck) : deck.depth ≤ weight d := by
  unfold weight
  rw [show Deck.ofDocument? d = some deck from h]
  exact Nat.le_trans (Nat.le_max_right _ _) (Nat.le_max_right _ _)

theorem reserveOf_snoc_le (chain : Chain) (name : String) (entries : ByName Document) :
    reserveOf (chain ++ [name]) entries ≤ reserveOf chain entries := by
  induction entries with
  | nil => exact Nat.le_refl _
  | cons e rest ih =>
    obtain ⟨k, d⟩ := e
    unfold reserveOf
    by_cases hk : k ∈ chain
    · rw [if_pos hk, if_pos (List.mem_append_left _ hk)]
      omega
    · rw [if_neg hk]
      split <;> omega

/-- Resolving a fresh parameter takes its cost out of the reserve. -/
theorem weight_add_reserve_le {setup : Setup} {chain : Chain} {name : String} {d : Document}
    (hf : Fresh setup chain name) (hd : setup.get? name = some d) :
    1 + weight d + reserve setup (chain ++ [name]) ≤ reserve setup chain := by
  unfold reserve
  unfold Setup.get? at hd
  have hname := hf.2
  clear hf
  generalize setup.entries = entries at hd ⊢
  induction entries with
  | nil => cases hd
  | cons e rest ih =>
    obtain ⟨k, d'⟩ := e
    unfold reserveOf
    unfold ByName.get? at hd
    split at hd
    · rename_i hk
      cases hd
      have := reserveOf_snoc_le chain name rest
      rw [hk, if_pos (List.mem_append_right _ (List.mem_singleton_self name)), if_neg hname]
      omega
    · have := ih hd
      by_cases hk : k ∈ chain
      · rw [if_pos hk, if_pos (List.mem_append_left _ hk)]
        omega
      · rw [if_neg hk]
        split <;> omega

/-! ## Evaluators whose budget suffices -/

/-- Evaluators follow the free evaluation wherever depth and reserve are within the budget. -/
structure Suffices (setup : Setup) (budget : Nat) (chain : Chain) (calls : Evaluators) : Prop where
  quantity : ∀ q : Quantity, q.depth + reserve setup chain ≤ budget →
    Follows setup chain (calls.quantity q) (q.eval (numberOf setup chain))
  flag : ∀ f : Flag, f.depth + reserve setup chain ≤ budget →
    Follows setup chain (calls.flag f) (f.eval (flagOf setup chain))
  labels : ∀ s : LabelSet, s.depth + reserve setup chain ≤ budget →
    Follows setup chain (calls.labels s) (s.eval (deckOf setup chain))
  fold : ∀ op parts, 1 + LabelSet.depthAll parts + reserve setup chain ≤ budget →
    Follows setup chain (calls.fold op parts) (LabelSet.evalFold (deckOf setup chain) op parts)
  cards : ∀ d : Deck, d.depth + reserve setup chain ≤ budget →
    Follows setup chain (calls.cards d) (d.build (.within setup chain))
  accepts : ∀ label (m : Matcher), m.depth + reserve setup chain ≤ budget →
    Follows setup chain (calls.accepts label m) (m.accepts (deckOf setup chain) label)
  number? : ∀ name, 1 + reserve setup chain ≤ budget →
    Follows setup chain (calls.number? name)
      (Parameter.number.lookUp setup chain
        (fun q => q.eval (numberOf setup (chain ++ [name]))) name)
  flag? : ∀ name, 1 + reserve setup chain ≤ budget →
    Follows setup chain (calls.flag? name)
      (Parameter.flag.lookUp setup chain (fun f => f.eval (flagOf setup (chain ++ [name]))) name)
  deck? : ∀ name, 1 + reserve setup chain ≤ budget →
    Follows setup chain (calls.deck? name) (deckOf setup chain name)

namespace Suffices

variable {setup : Setup} {budget : Nat} {chain : Chain} {calls : Evaluators}

theorem quantityStep (h : Suffices setup budget chain calls) (q : Quantity)
    (hq : q.depth + reserve setup chain ≤ budget + 1) :
    Follows setup chain (calls.quantityStep q) (q.eval (numberOf setup chain)) := by
  rw [Evaluators.quantityStep.eq_def]
  cases q with
  | number x =>
    rw [Quantity.eval]
    exact Follows.pure x
  | param name =>
    rw [Quantity.depth] at hq
    rw [Quantity.eval, numberOf_eq]
    exact (h.number? _ (by omega)).bind fun found => Follows.orUndefined _ found
  | fold op operands =>
    rw [Quantity.depth] at hq
    cases operands with
    | nil =>
      rw [Quantity.eval]
      exact Follows.throw rfl
    | cons q qs =>
      have part (p : Quantity) (hp : p ∈ q :: qs) := h.quantity p (by
        have := Quantity.depth_le_depthAll hp
        omega)
      rw [Quantity.eval]
      refine (part q (List.mem_cons_self ..)).bind fun x => ?_
      exact Quantity.evalFrom_follows op x fun p hp => part p (List.mem_cons_of_mem _ hp)

theorem flagStep (h : Suffices setup budget chain calls) (f : Flag)
    (hf : f.depth + reserve setup chain ≤ budget + 1) :
    Follows setup chain (calls.flagStep f) (f.eval (flagOf setup chain)) := by
  have parts {fs : List Flag} (hfs : Flag.depthAll fs + reserve setup chain ≤ budget)
      (p : Flag) (hp : p ∈ fs) := h.flag p (by
    have := Flag.depth_le_depthAll hp
    omega)
  rw [Evaluators.flagStep.eq_def]
  cases f with
  | const b =>
    rw [Flag.eval]
    exact Follows.pure b
  | param name =>
    rw [Flag.depth] at hf
    rw [Flag.eval, flagOf_eq]
    exact (h.flag? _ (by omega)).bind fun found => Follows.orUndefined _ found
  | and fs =>
    rw [Flag.depth] at hf
    rw [Flag.eval]
    exact Flag.evalAll_follows (parts (by omega))
  | or fs =>
    rw [Flag.depth] at hf
    rw [Flag.eval]
    exact Flag.evalAny_follows (parts (by omega))
  | not part =>
    rw [Flag.depth] at hf
    rw [Flag.eval]
    exact (h.flag part (by omega)).map _

theorem cardsOf (h : Suffices setup budget chain calls) (label : String)
    (hb : 1 + reserve setup chain ≤ budget) :
    Follows setup chain (calls.cardsOf label) (Dealer.cardsOf (deckOf setup chain) label) := by
  refine (h.deck? _ hb).bind fun found => ?_
  cases found with
  | none => exact Follows.pure _
  | some cards => exact Follows.pure _

theorem labelsStep (h : Suffices setup budget chain calls) (s : LabelSet)
    (hs : s.depth + reserve setup chain ≤ budget + 1) :
    Follows setup chain (calls.labelsStep s) (s.eval (deckOf setup chain)) := by
  rw [Evaluators.labelsStep.eq_def]
  cases s with
  | label s =>
    rw [LabelSet.depth] at hs
    rw [LabelSet.eval]
    exact (h.cardsOf s (by omega)).map distinct
  | list parts =>
    rw [LabelSet.depth] at hs
    rw [LabelSet.eval]
    refine LabelSet.evalFrom_follows .union [] fun p hp => h.labels p ?_
    have := LabelSet.depth_le_depthAll hp
    omega
  | fold op parts =>
    rw [LabelSet.depth] at hs
    rw [LabelSet.eval]
    exact h.fold op parts (by omega)

theorem foldStep (h : Suffices setup budget chain calls) (op : SetOp) (parts : List LabelSet)
    (hp : 1 + LabelSet.depthAll parts + reserve setup chain ≤ budget + 1) :
    Follows setup chain (calls.foldStep op parts)
      (LabelSet.evalFold (deckOf setup chain) op parts) := by
  have part (s : LabelSet) (hs : s ∈ parts) := h.labels s (by
    have := LabelSet.depth_le_depthAll hs
    omega)
  cases parts with
  | nil =>
    rw [LabelSet.evalFold]
    exact Follows.pure _
  | cons s ss =>
    rw [LabelSet.evalFold]
    refine (part s (List.mem_cons_self ..)).bind fun labels => ?_
    exact LabelSet.evalFrom_follows op labels fun s hs => part s (List.mem_cons_of_mem _ hs)

theorem count (h : Suffices setup budget chain calls) (what : Counted) (q : Quantity)
    (hq : q.depth + reserve setup chain ≤ budget) :
    Follows setup chain (calls.count what q) (Deck.count (.within setup chain) what q) := by
  refine Follows.onMemo ((h.quantity q hq).bind fun x => Follows.free ?_)
  exact Tidy.composes.ofExcept fun _ => toCount_error

/-- The groups of a deck follow, whichever of them are built. -/
theorem groups (h : Suffices setup budget chain calls) {ds : List Deck}
    (hds : Deck.depthAll ds + reserve setup chain ≤ budget) (d : Deck) (hd : d ∈ ds) :
    Follows setup chain (calls.cards d) (d.build (.within setup chain)) := by
  have := Deck.depth_le_depthAll hd
  exact h.cards d (by omega)

theorem cardsStep (h : Suffices setup budget chain calls) (d : Deck)
    (hd : d.depth + reserve setup chain ≤ budget + 1) :
    Follows setup chain (calls.cardsStep d) (d.build (.within setup chain)) := by
  have draw {α : Type} (x : Generator → α × Generator) :
      Follows setup chain (Eval.draw x).free (Eval.draw x) := Follows.free (Tidy.draw x)
  have refuse (p : Prop) [Decidable p] {e : EvalError} (he : e.isOfNames = false) :
      Follows setup chain (Eval.refuse p e : Eval Run Unit).free (Eval.refuse p e) :=
    Follows.free (Tidy.composes.refuse p he)
  rw [Evaluators.cardsStep.eq_def]
  cases d with
  | label s =>
    rw [Deck.depth] at hd
    rw [Deck.build]
    exact h.cardsOf s (by omega)
  | concat parts =>
    rw [Deck.depth] at hd
    rw [Deck.build, Deck.builders_eq_map]
    exact gather_follows 0 (h.groups (by omega))
  | choose n source =>
    rw [Deck.depth] at hd
    rw [Deck.build]
    refine (h.count _ n (by omega)).bind fun n => (h.cards source (by omega)).bind fun cards => ?_
    exact Follows.free (chooseExactly_has Tidy.composes Tidy.draw _ cards n)
  | chooseGroups n groups =>
    rw [Deck.depth] at hd
    rw [Deck.build_chooseGroups, Deck.builders_eq_map]
    refine (h.count _ n (by omega)).bind fun n => (refuse _ rfl).bind fun _ => ?_
    refine (draw _).bind fun places => ?_
    rw [itemsAt_map]
    exact gather_follows 0 fun d hd => h.groups (by omega) d (mem_itemsAt hd)
  | draw n source =>
    rw [Deck.depth] at hd
    rw [Deck.build]
    refine (h.count _ n (by omega)).bind fun n => (h.cards source (by omega)).bind fun cards => ?_
    exact Follows.free (drawCards_has Tidy.composes Tidy.draw _ _ n)
  | drawGroups n groups =>
    rw [Deck.depth] at hd
    rw [Deck.build, Deck.builders_eq_map, ← List.map_toArray]
    refine (h.count _ n (by omega)).bind fun n => gatherPicked_follows (fun d hd => ?_) 0 n
    exact h.groups (by omega) d (List.mem_toArray.mp hd)
  | duplicate n kinds source =>
    rw [Deck.depth] at hd
    rw [Deck.build_duplicate]
    refine (h.count _ n (by omega)).bind fun n => Follows.bind (?_ : Follows setup chain
      (kinds.elim (pure 1) (calls.count .kinds)) (Deck.kindCount _ kinds)) fun k => ?_
    · cases kinds with
      | none => exact Follows.pure 1
      | some k =>
        rw [Option.elim] at hd
        exact h.count _ k (by omega)
    · refine (h.cards source (by omega)).bind fun cards => Follows.free ?_
      refine Tidy.composes.bind (chooseExactly_has Tidy.composes Tidy.draw _ cards k) fun _ => ?_
      exact drawCards_has Tidy.composes Tidy.draw _ _ n
  | first n source =>
    rw [Deck.depth] at hd
    rw [Deck.build_first]
    refine (h.count _ n (by omega)).bind fun n => (h.cards source (by omega)).bind fun cards => ?_
    exact (refuse _ rfl).bind fun _ => Follows.pure _
  | last n source =>
    rw [Deck.depth] at hd
    rw [Deck.build_last]
    refine (h.count _ n (by omega)).bind fun n => (h.cards source (by omega)).bind fun cards => ?_
    exact (refuse _ rfl).bind fun _ => Follows.pure _
  | cross left right separator =>
    rw [Deck.depth] at hd
    rw [Deck.build_cross]
    refine (h.cards left (by omega)).bind fun left => ?_
    refine (h.cards right (by omega)).bind fun right => ?_
    exact (refuse _ rfl).bind fun _ => draw _
  | zip left right separator =>
    rw [Deck.depth] at hd
    rw [Deck.build]
    refine (h.cards left (by omega)).bind fun left => ?_
    refine (h.cards right (by omega)).bind fun right => ?_
    exact (draw _).bind fun left => (draw _).bind fun right => Follows.pure _
  | cond test yes no =>
    rw [Deck.depth] at hd
    rw [Deck.build]
    refine (h.flag test (by omega)).onMemo.bind fun b => Follows.ite (h.cards yes (by omega)) ?_
    cases no with
    | none =>
      rw [Deck.buildOr]
      exact Follows.pure []
    | some d =>
      rw [Deck.depthOr] at hd
      rw [Deck.buildOr]
      exact h.cards d (by omega)
  | set op parts =>
    rw [Deck.depth] at hd
    rw [Deck.build]
    exact h.fold op parts (by omega)

theorem acceptsStep (h : Suffices setup budget chain calls) (label : String) (m : Matcher)
    (hm : m.depth + reserve setup chain ≤ budget + 1) :
    Follows setup chain (calls.acceptsStep label m) (m.accepts (deckOf setup chain) label) := by
  rw [Evaluators.acceptsStep.eq_def]
  cases m with
  | text s =>
    rw [Matcher.depth] at hm
    rw [Matcher.accepts]
    refine (h.deck? _ (by omega)).deckIfAny.bind fun found => ?_
    cases found with
    | none => exact Follows.pure _
    | some cards => exact Follows.pure _
  | any parts =>
    rw [Matcher.depth] at hm
    rw [Matcher.accepts]
    refine Matcher.someAccepts_follows fun p hp => h.accepts label p ?_
    have := Matcher.depth_le_depthAll hp
    omega
  | test t s =>
    rw [Matcher.accepts]
    exact Follows.pure _
  | pattern p =>
    rw [Matcher.accepts]
    dsimp only
    cases p.pattern? with
    | none => exact Follows.throw rfl
    | some sought => exact Follows.pure _
  | all _ =>
    rw [Matcher.accepts]
    exact Follows.pure _
  | not part =>
    rw [Matcher.depth] at hm
    rw [Matcher.accepts]
    exact (h.accepts label part (by omega)).map _
  | set op parts =>
    rw [Matcher.depth] at hm
    rw [Matcher.accepts]
    exact (h.fold op parts (by omega)).map _

/-! ### One layer more -/

/-- No call is within a budget of nothing. -/
theorem broke : Suffices setup 0 chain .broke where
  quantity q h := by
    have : 0 < q.depth := by cases q <;> rw [Quantity.depth] <;> omega
    omega
  flag f h := by
    have : 0 < f.depth := by cases f <;> rw [Flag.depth] <;> omega
    omega
  labels s h := by
    have : 0 < s.depth := by cases s <;> rw [LabelSet.depth] <;> omega
    omega
  fold op parts h := by omega
  cards d h := by
    have : 0 < d.depth := by cases d <;> rw [Deck.depth] <;> omega
    omega
  accepts label m h := by
    have : 0 < m.depth := by cases m <;> rw [Matcher.depth] <;> omega
    omega
  number? name h := by omega
  flag? name h := by omega
  deck? name h := by omega

/-- A layer spends one unit, and a look-up hands what its parameter costs to the longer chain. -/
theorem layer {deeper : Chain → Evaluators}
    (h : ∀ chain, Suffices setup budget chain (deeper chain)) (chain : Chain) :
    Suffices setup (budget + 1) chain (.layer setup deeper chain) where
  quantity q hq := ((h chain).quantityStep q hq).watch
  flag f hf := ((h chain).flagStep f hf).watch
  labels s hs := ((h chain).labelsStep s hs).watch
  fold op parts hp := ((h chain).foldStep op parts hp).watch
  cards d hd := ((h chain).cardsStep d hd).watch
  accepts label m hm := ((h chain).acceptsStep label m hm).watch
  number? name hn := by
    refine Follows.watch (Follows.lookUp (fun hf d hd q hq => (h _).quantity q ?_) fun _ q => ?_)
    · have := weight_add_reserve_le hf hd
      have := depth_le_weight_of_number hq
      omega
    · exact Quantity.eval_has Tidy.composes (numberOf_tidy setup _) q
  flag? name hn := by
    refine Follows.watch (Follows.lookUp (fun hf d hd f hread => (h _).flag f ?_) fun _ f => ?_)
    · have := weight_add_reserve_le hf hd
      have := depth_le_weight_of_flag hread
      omega
    · exact Flag.eval_has Tidy.composes (flagOf_tidy setup _) f
  deck? name hn := by
    rw [deckOf_eq]
    refine Follows.watch (Follows.lookUp (fun hf d hd e he => (h _).cards e ?_) fun _ e => ?_)
    · have := weight_add_reserve_le hf hd
      have := depth_le_weight_of_deck he
      omega
    · exact Deck.build_has Tidy.composes (Names.within_tidy setup _) e

end Suffices

/-- Whatever the budget, it suffices for what is within it. -/
theorem metered_suffices (setup : Setup) (budget : Nat) (chain : Chain) :
    Suffices setup budget chain (metered setup budget chain) := by
  induction budget generalizing chain with
  | zero => exact Suffices.broke
  | succ budget ih => exact Suffices.layer ih chain

/-! ## Requests -/

/-- Does what is asked for by calls of evaluators. -/
def Evaluators.fulfil (calls : Evaluators) : Request → Metered Run Answer
  | .ask (.quantity q) => Answer.number <$> Metered.onMemo (calls.quantity q)
  | .ask (.flag f) => Answer.truth <$> Metered.onMemo (calls.flag f)
  | .ask (.set s) => Answer.labels <$> calls.labels s
  | .ask (.accepts m label) => Answer.truth <$> calls.accepts label m
  | .build d => Answer.labels <$> calls.cards d

/-- How deep calls go for a request. -/
def Request.depth : Request → Nat
  | .ask (.quantity q) => q.depth
  | .ask (.flag f) => f.depth
  | .ask (.set s) => s.depth
  | .ask (.accepts m _) => m.depth
  | .build d => d.depth

/-- A budget for a request. It depends on the request and the setup and on nothing else. -/
def budgetFor (setup : Setup) (request : Request) : Nat := request.depth + reserve setup []

theorem Suffices.fulfil {setup : Setup} {budget : Nat} {chain : Chain} {calls : Evaluators}
    (h : Suffices setup budget chain calls) (request : Request)
    (hr : request.depth + reserve setup chain ≤ budget) :
    Follows setup chain (calls.fulfil request) (request.fulfil (.within setup chain)) := by
  cases request with
  | build d => exact (h.cards d hr).map _
  | ask q =>
    cases q with
    | quantity q => exact (h.quantity q hr).onMemo.map _
    | flag f => exact (h.flag f hr).onMemo.map _
    | set s => exact (h.labels s hr).map _
    | accepts m label => exact (h.accepts label m hr).map _

/-- A free evaluation is stopped by its own failure only. -/
theorem Eval.free_stop {σ α : Type} {x : Eval σ α} {s t : σ} {stop : Stop}
    (h : x.free s = .error stop t) : ∃ e, stop = .failed e := by
  unfold Eval.free at h
  split at h
  · cases h
  · rename_i e u he
    cases h
    exact ⟨e, rfl⟩

/-- Every evaluation ends within a budget that the setup and the request alone give, on setups
that lead in circles as well. Under the meter, with that budget or any larger one, a request comes
to the same result and the same state as without it: the budget is never spent, and at every call
the names on the way are different parameters of the setup, none of them known, and no more than
the setup has entries. -/
theorem every_evaluation_ends_within_its_budget (setup : Setup) (request : Request) (run : Run)
    (extra : Nat) :
    (metered setup (budgetFor setup request + extra) []).fulfil request run =
        (request.fulfil (.of setup)).free run ∧
      ∀ left, (metered setup (budgetFor setup request + extra) []).fulfil request run ∉
        [.error .spent left, .error .astray left] := by
  have follows := (metered_suffices setup (budgetFor setup request + extra) []).fulfil request
    (Nat.le_add_right _ _)
  have same : (metered setup (budgetFor setup request + extra) []).fulfil request run =
      (request.fulfil (.of setup)).free run :=
    follows.same run (OnCourse.start setup run.memo)
  refine ⟨same, fun left hstop => ?_⟩
  rw [same] at hstop
  rcases List.mem_cons.mp hstop with h | h
  · obtain ⟨e, he⟩ := Eval.free_stop h
    cases he
  · obtain ⟨e, he⟩ := Eval.free_stop (List.mem_singleton.mp h)
    cases he

end Dealer
