-- What an evaluation has when its parts have it. Each evaluator is gone through
-- once here, with two ways of looking parameters up side by side: a relation that
-- holds of the look-ups of what an expression mentions, and is kept by sequences,
-- holds of the expression. A property of one evaluation is such a relation that
-- looks at one side only.
import Dealer.Eval.Matcher
import Dealer.Proofs.References

namespace Dealer

/-- Whether an error tells of names. Only looking names up gives such errors. -/
def EvalError.isOfNames : EvalError → Bool
  | .undefined _ => true
  | .recursive _ => true
  | .wrongKind .. => true
  | _ => false

namespace Eval

variable {σ α β : Type}

/-- The state that a result leaves. A failure leaves one as well. -/
def left : EStateM.Result EvalError σ α → σ
  | .ok _ s => s
  | .error _ s => s

instance decEqResult [DecidableEq σ] [DecidableEq α] : DecidableEq (EStateM.Result EvalError σ α)
  | .ok a s, .ok b t => decidable_of_iff (a = b ∧ s = t) (by simp)
  | .error e s, .error e' t => decidable_of_iff (e = e' ∧ s = t) (by simp)
  | .ok .., .error .. => isFalse (by simp)
  | .error .., .ok .. => isFalse (by simp)

/-- A relation between evaluations in which two sequences are when their parts are. Errors that
tell of names are left to the look-ups. -/
structure Relates (R : (α : Type) → Eval σ α → Eval σ α → Prop) : Prop where
  pure : ∀ {α : Type} (a : α), R α (pure a) (pure a)
  throw : ∀ {α : Type} {e : EvalError}, e.isOfNames = false → R α (throw e) (throw e)
  bind : ∀ {α β : Type} {x y : Eval σ α} {f g : α → Eval σ β},
    R α x y → (∀ a, R β (f a) (g a)) → R β (x >>= f) (y >>= g)

/-- A property of evaluations that a sequence has when its parts have it. -/
structure Composes (P : (α : Type) → Eval σ α → Prop) : Prop where
  pure : ∀ {α : Type} (a : α), P α (pure a)
  throw : ∀ {α : Type} {e : EvalError}, e.isOfNames = false → P α (throw e)
  bind : ∀ {α β : Type} {x : Eval σ α} {f : α → Eval σ β},
    P α x → (∀ a, P β (f a)) → P β (x >>= f)

theorem Composes.relates {P : (α : Type) → Eval σ α → Prop} (hP : Composes P) :
    Relates fun α x _ => P α x :=
  ⟨hP.pure, hP.throw, hP.bind⟩

/-- Fails where a condition holds. -/
def refuse (p : Prop) [Decidable p] (e : EvalError) : Eval σ Unit :=
  if p then throw e else pure ()

/-! ## Sequences -/

theorem bind_ok {x : Eval σ α} {f : α → Eval σ β} {s t : σ} {a : α} (h : x s = .ok a t) :
    (x >>= f) s = f a t := by
  simp only [Bind.bind, EStateM.bind, h]

theorem bind_error {x : Eval σ α} {f : α → Eval σ β} {s t : σ} {e : EvalError}
    (h : x s = .error e t) : (x >>= f) s = .error e t := by
  simp only [Bind.bind, EStateM.bind, h]

/-- A sequence that gives a result is made of parts that do. -/
theorem exists_of_bind_ok {x : Eval σ α} {f : α → Eval σ β} {s u : σ} {b : β}
    (h : (x >>= f) s = .ok b u) : ∃ a t, x s = .ok a t ∧ f a t = .ok b u := by
  cases hx : x s with
  | ok a t => exact ⟨a, t, rfl, by rw [bind_ok hx] at h; exact h⟩
  | error e t => rw [bind_error hx] at h; cases h

theorem Relates.ofExcept {R : (α : Type) → Eval σ α → Eval σ α → Prop} (hR : Relates R)
    {x : Except EvalError α} (h : ∀ e, x = .error e → e.isOfNames = false) :
    R α (Eval.ofExcept x) (Eval.ofExcept x) := by
  cases x with
  | ok a => exact hR.pure a
  | error e => exact hR.throw (h e rfl)

theorem Relates.ite {R : (α : Type) → Eval σ α → Eval σ α → Prop} {p : Prop} [Decidable p]
    {x y x' y' : Eval σ α} (hx : R α x x') (hy : R α y y') :
    R α (if p then x else y) (if p then x' else y') := by
  split
  · exact hx
  · exact hy

theorem Relates.refuse {R : (α : Type) → Eval σ α → Eval σ α → Prop} (hR : Relates R) (p : Prop)
    [Decidable p] {e : EvalError} (h : e.isOfNames = false) :
    R Unit (refuse p e) (refuse p e) :=
  ite (hR.throw h) (hR.pure ())

theorem Composes.ofExcept {P : (α : Type) → Eval σ α → Prop} (hP : Composes P)
    {x : Except EvalError α} (h : ∀ e, x = .error e → e.isOfNames = false) :
    P α (Eval.ofExcept x) :=
  hP.relates.ofExcept h

theorem Composes.ite {P : (α : Type) → Eval σ α → Prop} {p : Prop} [Decidable p]
    {x y : Eval σ α} (hx : P α x) (hy : P α y) : P α (if p then x else y) := by
  split
  · exact hx
  · exact hy

theorem Composes.refuse {P : (α : Type) → Eval σ α → Prop} (hP : Composes P) (p : Prop)
    [Decidable p] {e : EvalError} (h : e.isOfNames = false) : P Unit (refuse p e) :=
  hP.relates.refuse p h

end Eval

theorem toCount_error {what : Counted} {x : Float} {e : EvalError}
    (h : toCount what x = .error e) : e.isOfNames = false := by
  unfold toCount at h
  dsimp only at h
  split at h
  · cases h; rfl
  · split at h
    · cases h; rfl
    · split at h
      · cases h; rfl
      · cases h

theorem checkSize_error {size : Nat} {e : EvalError} (h : checkSize size = .error e) :
    e.isOfNames = false := by
  unfold checkSize at h
  split at h
  · cases h; rfl
  · cases h

/-! ## Quantities and flags -/

namespace Quantity

section

variable {R : (α : Type) → Eval Memo α → Eval Memo α → Prop} {look look' : String → Eval Memo Float}
  {refs : List Reference}

mutual

theorem eval_related (hR : Eval.Relates R)
    (h : ∀ s, ⟨.number, normalize s⟩ ∈ refs → R Float (look (normalize s)) (look' (normalize s))) :
    ∀ q : Quantity, q.references ⊆ refs → R Float (q.eval look) (q.eval look')
  | .number x, _ => by rw [eval, eval]; exact hR.pure x
  | .param name, hq => by
    rw [references] at hq
    rw [eval, eval]
    exact h name (hq (List.mem_singleton_self _))
  | .fold op [], _ => by rw [eval, eval]; exact hR.throw rfl
  | .fold op (q :: qs), hq => by
    rw [references, referencesOfAll] at hq
    obtain ⟨hfirst, hrest⟩ := List.append_subset.mp hq
    rw [eval, eval]
    exact hR.bind (eval_related hR h q hfirst) fun x => evalFrom_related hR h op x qs hrest

theorem evalFrom_related (hR : Eval.Relates R)
    (h : ∀ s, ⟨.number, normalize s⟩ ∈ refs → R Float (look (normalize s)) (look' (normalize s)))
    (op : Arith) : ∀ (x : Float) (qs : List Quantity), referencesOfAll qs ⊆ refs →
      R Float (evalFrom look op x qs) (evalFrom look' op x qs)
  | x, [], _ => by rw [evalFrom, evalFrom]; exact hR.pure x
  | x, q :: qs, hqs => by
    rw [referencesOfAll] at hqs
    obtain ⟨hfirst, hrest⟩ := List.append_subset.mp hqs
    rw [evalFrom, evalFrom]
    exact hR.bind (eval_related hR h q hfirst) fun y =>
      evalFrom_related hR h op (op.apply x y) qs hrest

end

theorem count_related (hR : Eval.Relates R)
    (h : ∀ s, ⟨.number, normalize s⟩ ∈ refs → R Float (look (normalize s)) (look' (normalize s)))
    (what : Counted) (q : Quantity) (hq : q.references ⊆ refs) :
    R Nat (q.count look what) (q.count look' what) :=
  hR.bind (eval_related hR h q hq) fun _ => hR.ofExcept fun _ => toCount_error

end

variable {P : (α : Type) → Eval Memo α → Prop} {look : String → Eval Memo Float}

theorem eval_has (hP : Eval.Composes P) (h : ∀ name, P Float (look name)) (q : Quantity) :
    P Float (q.eval look) :=
  @eval_related _ look look _ hP.relates (fun s _ => h (normalize s)) q (List.Subset.refl _)

theorem count_has (hP : Eval.Composes P) (h : ∀ name, P Float (look name)) (what : Counted)
    (q : Quantity) : P Nat (q.count look what) :=
  @count_related _ look look _ hP.relates (fun s _ => h (normalize s)) what q (List.Subset.refl _)

end Quantity

namespace Flag

section

variable {R : (α : Type) → Eval Memo α → Eval Memo α → Prop} {look look' : String → Eval Memo Bool}
  {refs : List Reference}

mutual

theorem eval_related (hR : Eval.Relates R)
    (h : ∀ s, ⟨.option, normalize s⟩ ∈ refs → R Bool (look (normalize s)) (look' (normalize s))) :
    ∀ f : Flag, f.references ⊆ refs → R Bool (f.eval look) (f.eval look')
  | .const b, _ => by rw [eval, eval]; exact hR.pure b
  | .param name, hf => by
    rw [references] at hf
    rw [eval, eval]
    exact h name (hf (List.mem_singleton_self _))
  | .and parts, hf => by
    rw [references] at hf
    rw [eval, eval]
    exact evalAll_related hR h parts hf
  | .or parts, hf => by
    rw [references] at hf
    rw [eval, eval]
    exact evalAny_related hR h parts hf
  | .not part, hf => by
    rw [references] at hf
    rw [eval, eval]
    exact hR.bind (eval_related hR h part hf) fun b => hR.pure _

theorem evalAll_related (hR : Eval.Relates R)
    (h : ∀ s, ⟨.option, normalize s⟩ ∈ refs → R Bool (look (normalize s)) (look' (normalize s))) :
    ∀ fs : List Flag, referencesOfAll fs ⊆ refs → R Bool (evalAll look fs) (evalAll look' fs)
  | [], _ => by rw [evalAll, evalAll]; exact hR.pure _
  | f :: fs, hfs => by
    rw [referencesOfAll] at hfs
    obtain ⟨hfirst, hrest⟩ := List.append_subset.mp hfs
    rw [evalAll, evalAll]
    exact hR.bind (eval_related hR h f hfirst) fun b =>
      Eval.Relates.ite (evalAll_related hR h fs hrest) (hR.pure _)

theorem evalAny_related (hR : Eval.Relates R)
    (h : ∀ s, ⟨.option, normalize s⟩ ∈ refs → R Bool (look (normalize s)) (look' (normalize s))) :
    ∀ fs : List Flag, referencesOfAll fs ⊆ refs → R Bool (evalAny look fs) (evalAny look' fs)
  | [], _ => by rw [evalAny, evalAny]; exact hR.pure _
  | f :: fs, hfs => by
    rw [referencesOfAll] at hfs
    obtain ⟨hfirst, hrest⟩ := List.append_subset.mp hfs
    rw [evalAny, evalAny]
    exact hR.bind (eval_related hR h f hfirst) fun b =>
      Eval.Relates.ite (hR.pure _) (evalAny_related hR h fs hrest)

end

end

theorem eval_has {P : (α : Type) → Eval Memo α → Prop} {look : String → Eval Memo Bool}
    (hP : Eval.Composes P) (h : ∀ name, P Bool (look name)) (f : Flag) : P Bool (f.eval look) :=
  @eval_related _ look look _ hP.relates (fun s _ => h (normalize s)) f (List.Subset.refl _)

end Flag

/-! ## Sets and matchers -/

section Sets

variable {R : (α : Type) → Eval Run α → Eval Run α → Prop} {look look' : DeckLook}
  {refs : List Reference}

theorem cardsOf_related (hR : Eval.Relates R) {label : String}
    (h : R (Option (List String)) (look (normalize label)) (look' (normalize label))) :
    R (List String) (cardsOf look label) (cardsOf look' label) := by
  unfold cardsOf
  refine hR.bind h fun deck => ?_
  cases deck with
  | none => exact hR.pure _
  | some cards => exact hR.pure _

namespace LabelSet

mutual

theorem eval_related (hR : Eval.Relates R)
    (h : ∀ s, ⟨.deck, normalize s⟩ ∈ refs →
      R (Option (List String)) (look (normalize s)) (look' (normalize s))) :
    ∀ s : LabelSet, s.references ⊆ refs → R (List String) (s.eval look) (s.eval look')
  | .label s, hs => by
    rw [references] at hs
    rw [eval, eval]
    have related := cardsOf_related hR (h s (hs (List.mem_singleton_self _)))
    exact hR.bind related fun cards => hR.pure _
  | .list parts, hs => by
    rw [references] at hs
    rw [eval, eval]
    exact evalFrom_related hR h .union [] parts hs
  | .fold op parts, hs => by
    rw [references] at hs
    rw [eval, eval]
    exact evalFold_related hR h op parts hs

theorem evalFold_related (hR : Eval.Relates R)
    (h : ∀ s, ⟨.deck, normalize s⟩ ∈ refs →
      R (Option (List String)) (look (normalize s)) (look' (normalize s)))
    (op : SetOp) : ∀ parts : List LabelSet, referencesOfAll parts ⊆ refs →
      R (List String) (evalFold look op parts) (evalFold look' op parts)
  | [], _ => by rw [evalFold, evalFold]; exact hR.pure _
  | s :: ss, hparts => by
    rw [referencesOfAll] at hparts
    obtain ⟨hfirst, hrest⟩ := List.append_subset.mp hparts
    rw [evalFold, evalFold]
    exact hR.bind (eval_related hR h s hfirst) fun labels =>
      evalFrom_related hR h op labels ss hrest

theorem evalFrom_related (hR : Eval.Relates R)
    (h : ∀ s, ⟨.deck, normalize s⟩ ∈ refs →
      R (Option (List String)) (look (normalize s)) (look' (normalize s)))
    (op : SetOp) : ∀ (labels : List String) (parts : List LabelSet), referencesOfAll parts ⊆ refs →
      R (List String) (evalFrom look op labels parts) (evalFrom look' op labels parts)
  | labels, [], _ => by rw [evalFrom, evalFrom]; exact hR.pure _
  | labels, s :: ss, hparts => by
    rw [referencesOfAll] at hparts
    obtain ⟨hfirst, hrest⟩ := List.append_subset.mp hparts
    rw [evalFrom, evalFrom]
    exact hR.bind (eval_related hR h s hfirst) fun more =>
      evalFrom_related hR h op (op.apply labels more) ss hrest

end

theorem eval_has {P : (α : Type) → Eval Run α → Prop} (hP : Eval.Composes P)
    (h : ∀ name, P (Option (List String)) (look name)) (s : LabelSet) :
    P (List String) (s.eval look) :=
  @eval_related _ look look _ hP.relates (fun s _ => h (normalize s)) s (List.Subset.refl _)

end LabelSet

/-- A text finds what the look-up of its name finds. It finds no deck where the look-up blames the
name itself for its kind. -/
theorem deckIfAny_eq_ok {name : String} {s t : Run} {found : Option (List String)} :
    deckIfAny look name s = .ok found t ↔
      look name s = .ok found t ∨
        found = none ∧ ∃ kind, look name s = .error (.wrongKind name kind) t := by
  unfold deckIfAny
  cases look name s with
  | ok a r => simp
  | error e r =>
    cases e with
    | wrongKind blamed kind =>
      by_cases hblamed : blamed = name
      · subst hblamed
        simp only [↓reduceIte]
        constructor
        · intro h
          cases h
          exact Or.inr ⟨rfl, kind, rfl⟩
        · rintro (h | ⟨rfl, _, h⟩) <;> cases h
          rfl
      · simp only [if_neg hblamed]
        constructor
        · intro h
          cases h
        · rintro (h | ⟨-, _, h⟩) <;> cases h
          exact absurd rfl hblamed
    | _ => simp

namespace Matcher

mutual

/-- The texts of a matcher that may name a deck. -/
def texts : Matcher → List String
  | .text s => [s]
  | .any parts => textsOfAll parts
  | .not part => texts part
  | .test .. => []
  | .pattern _ => []
  | .all _ => []
  | .set .. => []

def textsOfAll : List Matcher → List String
  | [] => []
  | m :: ms => texts m ++ textsOfAll ms

end

mutual

/-- A text is the one matcher that catches an error, so the look-ups of the texts with the error
caught must be related too. -/
theorem accepts_related (hR : Eval.Relates R)
    (h : ∀ s, ⟨.deck, normalize s⟩ ∈ refs →
      R (Option (List String)) (look (normalize s)) (look' (normalize s)))
    (label : String) : ∀ m : Matcher, m.references ⊆ refs →
      (∀ s ∈ m.texts, ⟨.deck, normalize s⟩ ∈ refs →
        R (Option (List String)) (deckIfAny look (normalize s)) (deckIfAny look' (normalize s))) →
      R Bool (m.accepts look label) (m.accepts look' label)
  | .text s, hm, hAny => by
    rw [references] at hm
    rw [texts] at hAny
    rw [accepts, accepts]
    have related := hAny s (List.mem_singleton_self s) (hm (List.mem_singleton_self _))
    refine hR.bind related fun deck => ?_
    cases deck with
    | none => exact hR.pure _
    | some cards => exact hR.pure _
  | .any parts, hm, hAny => by
    rw [references] at hm
    rw [texts] at hAny
    rw [accepts, accepts]
    exact someAccepts_related hR h label parts hm hAny
  | .test t s, _, _ => by rw [accepts, accepts]; exact hR.pure _
  | .pattern p, _, _ => by
    rw [accepts, accepts]
    cases p.pattern? with
    | none => exact hR.throw rfl
    | some sought => exact hR.pure _
  | .all _, _, _ => by rw [accepts, accepts]; exact hR.pure _
  | .not part, hm, hAny => by
    rw [references] at hm
    rw [texts] at hAny
    rw [accepts, accepts]
    exact hR.bind (accepts_related hR h label part hm hAny) fun b => hR.pure _
  | .set op parts, hm, _ => by
    rw [references] at hm
    rw [accepts, accepts]
    exact hR.bind (LabelSet.evalFold_related hR h op parts hm) fun labels => hR.pure _

theorem someAccepts_related (hR : Eval.Relates R)
    (h : ∀ s, ⟨.deck, normalize s⟩ ∈ refs →
      R (Option (List String)) (look (normalize s)) (look' (normalize s)))
    (label : String) : ∀ ms : List Matcher, referencesOfAll ms ⊆ refs →
      (∀ s ∈ textsOfAll ms, ⟨.deck, normalize s⟩ ∈ refs →
        R (Option (List String)) (deckIfAny look (normalize s)) (deckIfAny look' (normalize s))) →
      R Bool (someAccepts look label ms) (someAccepts look' label ms)
  | [], _, _ => by rw [someAccepts, someAccepts]; exact hR.pure _
  | m :: ms, hms, hAny => by
    rw [referencesOfAll] at hms
    obtain ⟨hfirst, hrest⟩ := List.append_subset.mp hms
    rw [textsOfAll] at hAny
    rw [someAccepts, someAccepts]
    refine hR.bind (accepts_related hR h label m hfirst fun s hs => ?_) fun b =>
      Eval.Relates.ite (hR.pure _) (someAccepts_related hR h label ms hrest fun s hs => ?_)
    · exact hAny s (List.mem_append_left _ hs)
    · exact hAny s (List.mem_append_right _ hs)

end

theorem accepts_has {P : (α : Type) → Eval Run α → Prop} (hP : Eval.Composes P)
    (h : ∀ name, P (Option (List String)) (look name))
    (hAny : ∀ name, P (Option (List String)) (deckIfAny look name)) (label : String)
    (m : Matcher) : P Bool (m.accepts look label) :=
  @accepts_related _ look look _ hP.relates (fun s _ => h (normalize s)) label m
    (List.Subset.refl _) fun s _ _ => hAny (normalize s)

end Matcher

end Sets

/-! ## Decks -/

section Decks

variable {R : (α : Type) → Eval Run α → Eval Run α → Prop}

/-- What is drawn is related to itself. -/
abbrev DrawsAlike (R : (α : Type) → Eval Run α → Eval Run α → Prop) : Prop :=
  ∀ {α : Type} (x : Generator → α × Generator), R α (Eval.draw x) (Eval.draw x)

/-- The parts of a deck that are no decks and are not drawn are related: counts, flags and
parameters, as far as they mention nothing else than some references. -/
structure Names.Related (names names' : Names) (refs : List Reference)
    (R : (α : Type) → Eval Run α → Eval Run α → Prop) : Prop where
  count : ∀ (what : Counted) (q : Quantity), q.references ⊆ refs →
    R Nat (Deck.count names what q) (Deck.count names' what q)
  flag : ∀ f : Flag, f.references ⊆ refs →
    R Bool (Eval.onMemo (f.eval names.flag)) (Eval.onMemo (f.eval names'.flag))
  deck : ∀ s : String, ⟨.deck, normalize s⟩ ∈ refs →
    R (Option (List String)) (names.deck (normalize s)) (names'.deck (normalize s))

theorem chooseExactly_related (hR : Eval.Relates R) (hdraw : DrawsAlike R) (what : Counted)
    (source : List String) (n : Nat) :
    R (List String) (chooseExactly what source n) (chooseExactly what source n) :=
  Eval.Relates.ite (hR.throw rfl) (hdraw _)

theorem pickPlace_related (hR : Eval.Relates R) (hdraw : DrawsAlike R) (what : Counted)
    (n : Nat) : R Nat (pickPlace what n) (pickPlace what n) := by
  unfold pickPlace
  refine hR.bind (hdraw _) fun place => ?_
  cases place with
  | none => exact hR.throw rfl
  | some i => exact hR.pure i

theorem drawCards_related (hR : Eval.Relates R) (hdraw : DrawsAlike R) (what : Counted)
    (source : Array String) (n : Nat) :
    R (List String) (drawCards what source n) (drawCards what source n) := by
  induction n with
  | zero => exact hR.pure _
  | succ n ih =>
    exact hR.bind (pickPlace_related hR hdraw what _) fun i =>
      hR.bind ih fun others => hR.pure _

theorem gather_related (hR : Eval.Relates R) {build build' : Deck → Eval Run (List String)}
    {ds : List Deck} (h : ∀ d ∈ ds, R (List String) (build d) (build' d)) (size : Nat) :
    R (List String) (gather size (ds.map build)) (gather size (ds.map build')) := by
  induction ds generalizing size with
  | nil => exact hR.pure _
  | cons d ds ih =>
    refine hR.bind (h d (List.mem_cons_self ..)) fun cards => ?_
    refine hR.bind (hR.ofExcept fun _ => checkSize_error) fun _ => ?_
    exact hR.bind (ih (fun p hp => h p (List.mem_cons_of_mem _ hp)) _) fun others => hR.pure _

theorem gatherPicked_related (hR : Eval.Relates R) (hdraw : DrawsAlike R)
    {build build' : Deck → Eval Run (List String)} {groups : List Deck}
    (h : ∀ d ∈ groups, R (List String) (build d) (build' d)) (size n : Nat) :
    R (List String) (gatherPicked (groups.map build).toArray size n)
      (gatherPicked (groups.map build').toArray size n) := by
  induction n generalizing size with
  | zero => exact hR.pure _
  | succ n ih =>
    unfold gatherPicked
    simp only [List.size_toArray, List.length_map, List.getElem?_toArray, List.getElem?_map]
    refine hR.bind (pickPlace_related hR hdraw .draw _) fun i => ?_
    refine hR.bind ?_ fun cards => ?_
    · cases hi : groups[i]? with
      | none => exact hR.pure _
      | some d => exact h d (List.mem_of_getElem? hi)
    · refine hR.bind (hR.ofExcept fun _ => checkSize_error) fun _ => ?_
      exact hR.bind (ih _) fun others => hR.pure _

theorem mem_itemsAt {α : Type} {items : List α} {places : List Nat} {a : α}
    (h : a ∈ Generator.itemsAt items places) : a ∈ items := by
  obtain ⟨i, _, hi⟩ := List.mem_filterMap.mp h
  exact List.mem_of_getElem? (by simpa using hi)

/-- The items of a list that was gone through with a function are those of the list, gone through
with it. -/
theorem itemsAt_map {α β : Type} (f : α → β) (items : List α) (places : List Nat) :
    Generator.itemsAt (items.map f) places = (Generator.itemsAt items places).map f := by
  unfold Generator.itemsAt
  simp only [List.getElem?_toArray, List.getElem?_map, List.map_filterMap]

namespace Deck

variable {names : Names}

/-! ### The steps of a deck, one after the other -/

/-- The number of kinds to choose. It is one where none is given. -/
def kindCount (names : Names) : Option Quantity → Eval Run Nat
  | none => pure 1
  | some k => count names .kinds k

/-- What builds some decks is what builds each of them. -/
theorem builders_eq_map (ds : List Deck) : builders names ds = ds.map (build names) := by
  induction ds with
  | nil => rw [builders]; rfl
  | cons d ds ih => rw [builders, ih]; rfl

theorem build_chooseGroups (n : Quantity) (groups : List Deck) :
    (chooseGroups n groups).build names = (do
      let n ← count names .choose n
      Eval.refuse (groups.length < n) (.tooFew .groups n groups.length)
      let places ← Eval.draw (Generator.choosePlaces groups.length n)
      gather 0 (Generator.itemsAt (builders names groups) places)) := by
  rw [build]
  refine bind_congr fun n => ?_
  unfold Eval.refuse
  split <;> rfl

theorem build_duplicate (n : Quantity) (kinds : Option Quantity) (source : Deck) :
    (duplicate n kinds source).build names = (do
      let n ← count names .duplicate n
      let k ← kindCount names kinds
      let cards ← source.build names
      let chosen ← chooseExactly .items cards k
      drawCards .duplicate chosen.toArray n) := by
  rw [build]
  refine bind_congr fun n => ?_
  cases kinds <;> rfl

theorem build_first (n : Quantity) (source : Deck) :
    (first n source).build names = (do
      let n ← count names .first n
      let cards ← source.build names
      Eval.refuse (cards.length < n) (.tooFew .items n cards.length)
      return cards.take n) := by
  rw [build]
  refine bind_congr fun n => bind_congr fun cards => ?_
  unfold Eval.refuse
  split <;> rfl

theorem build_last (n : Quantity) (source : Deck) :
    (last n source).build names = (do
      let n ← count names .last n
      let cards ← source.build names
      Eval.refuse (cards.length < n) (.tooFew .items n cards.length)
      return cards.drop (cards.length - n)) := by
  rw [build]
  refine bind_congr fun n => bind_congr fun cards => ?_
  unfold Eval.refuse
  split <;> rfl

theorem build_cross (left right : Deck) (separator : Option String) :
    (cross left right separator).build names = (do
      let left ← left.build names
      let right ← right.build names
      let size := left.length * right.length
      Eval.refuse (maxCount < size) (.tooLarge .cross (Float.ofNat size))
      shuffled (crossPairs (separator.getD defaultSeparator) left right)) := by
  rw [build]
  refine bind_congr fun left => bind_congr fun right => ?_
  unfold Eval.refuse
  dsimp only
  split <;> rfl

/-! ### Every deck -/

mutual

/-- Whether something is drawn when a deck is built, apart from what its parameters draw. -/
def draws : Deck → Bool
  | .label _ => false
  | .concat parts => someDraws parts
  | .choose .. => true
  | .chooseGroups .. => true
  | .draw .. => true
  | .drawGroups .. => true
  | .duplicate .. => true
  | .first _ source => draws source
  | .last _ source => draws source
  | .cross .. => true
  | .zip .. => true
  | .cond _ yes no => draws yes || orDraws no
  | .set .. => false

def someDraws : List Deck → Bool
  | [] => false
  | d :: ds => draws d || someDraws ds

def orDraws : Option Deck → Bool
  | none => false
  | some d => draws d

end

theorem someDraws_of_mem {d : Deck} {ds : List Deck} (hd : d ∈ ds) (h : d.draws = true) :
    someDraws ds = true := by
  induction ds with
  | nil => cases hd
  | cons first ds ih =>
    rw [someDraws, Bool.or_eq_true]
    rcases List.mem_cons.mp hd with rfl | hd
    · exact Or.inl h
    · exact Or.inr (ih hd)

variable {names' : Names}

/-- Decks are related when the counts, flags and parameters that they mention are, and what they
draw, if they draw. -/
theorem build_related (hR : Eval.Relates R) {refs : List Reference}
    (h : names.Related names' refs R) : ∀ d : Deck, d.references ⊆ refs →
      (d.draws = true → DrawsAlike R) → R (List String) (d.build names) (d.build names')
  | .label s, hd, _ => by
    rw [references] at hd
    rw [build, build]
    exact cardsOf_related hR (h.deck s (hd (List.mem_singleton_self _)))
  | .concat parts, hd, hdraw => by
    rw [references] at hd
    rw [build, build, builders_eq_map, builders_eq_map]
    refine gather_related hR (fun d hmem => ?_) 0
    refine build_related hR h d (List.Subset.trans (references_subset_of_mem hmem) hd)
      fun hdraws => hdraw ?_
    rw [draws]
    exact someDraws_of_mem hmem hdraws
  | .choose n source, hd, hdraw => by
    have hdraw : DrawsAlike R := hdraw (by rw [draws])
    rw [references] at hd
    obtain ⟨hn, hsource⟩ := List.append_subset.mp hd
    rw [build, build]
    refine hR.bind (h.count _ n hn) fun n => ?_
    refine hR.bind (build_related hR h source hsource fun _ => hdraw) fun cards => ?_
    exact chooseExactly_related hR hdraw _ cards n
  | .chooseGroups n groups, hd, hdraw => by
    have hdraw : DrawsAlike R := hdraw (by rw [draws])
    rw [references] at hd
    obtain ⟨hn, hgroups⟩ := List.append_subset.mp hd
    rw [build_chooseGroups, build_chooseGroups, builders_eq_map, builders_eq_map]
    refine hR.bind (h.count _ n hn) fun n => ?_
    refine hR.bind (hR.refuse _ rfl) fun _ => ?_
    refine hR.bind (hdraw _) fun places => ?_
    rw [itemsAt_map, itemsAt_map]
    have related (d : Deck) (hd : d ∈ groups) :=
      build_related hR h d (List.Subset.trans (references_subset_of_mem hd) hgroups) fun _ => hdraw
    exact gather_related hR (fun d hd => related d (mem_itemsAt hd)) 0
  | .draw n source, hd, hdraw => by
    have hdraw : DrawsAlike R := hdraw (by rw [draws])
    rw [references] at hd
    obtain ⟨hn, hsource⟩ := List.append_subset.mp hd
    rw [build, build]
    refine hR.bind (h.count _ n hn) fun n => ?_
    refine hR.bind (build_related hR h source hsource fun _ => hdraw) fun cards => ?_
    exact drawCards_related hR hdraw _ _ n
  | .drawGroups n groups, hd, hdraw => by
    have hdraw : DrawsAlike R := hdraw (by rw [draws])
    rw [references] at hd
    obtain ⟨hn, hgroups⟩ := List.append_subset.mp hd
    rw [build, build, builders_eq_map, builders_eq_map]
    refine hR.bind (h.count _ n hn) fun n => ?_
    refine gatherPicked_related hR hdraw (fun d hd => ?_) 0 n
    exact build_related hR h d (List.Subset.trans (references_subset_of_mem hd) hgroups)
      fun _ => hdraw
  | .duplicate n kinds source, hd, hdraw => by
    have hdraw : DrawsAlike R := hdraw (by rw [draws])
    rw [references] at hd
    obtain ⟨hn, hd⟩ := List.append_subset.mp hd
    obtain ⟨hkinds, hsource⟩ := List.append_subset.mp hd
    rw [build_duplicate, build_duplicate]
    refine hR.bind (h.count _ n hn) fun n => hR.bind ?_ fun k => ?_
    · cases kinds with
      | none => exact hR.pure _
      | some k => exact h.count _ k hkinds
    · refine hR.bind (build_related hR h source hsource fun _ => hdraw) fun cards => ?_
      refine hR.bind (chooseExactly_related hR hdraw _ cards k) fun chosen => ?_
      exact drawCards_related hR hdraw _ _ n
  | .first n source, hd, hdraw => by
    rw [references] at hd
    obtain ⟨hn, hsource⟩ := List.append_subset.mp hd
    rw [build_first, build_first]
    refine hR.bind (h.count _ n hn) fun n => ?_
    refine hR.bind (build_related hR h source hsource fun hs => hdraw (by rwa [draws]))
      fun cards => ?_
    exact hR.bind (hR.refuse _ rfl) fun _ => hR.pure _
  | .last n source, hd, hdraw => by
    rw [references] at hd
    obtain ⟨hn, hsource⟩ := List.append_subset.mp hd
    rw [build_last, build_last]
    refine hR.bind (h.count _ n hn) fun n => ?_
    refine hR.bind (build_related hR h source hsource fun hs => hdraw (by rwa [draws]))
      fun cards => ?_
    exact hR.bind (hR.refuse _ rfl) fun _ => hR.pure _
  | .cross left right separator, hd, hdraw => by
    have hdraw : DrawsAlike R := hdraw (by rw [draws])
    rw [references] at hd
    obtain ⟨hleft, hright⟩ := List.append_subset.mp hd
    rw [build_cross, build_cross]
    refine hR.bind (build_related hR h left hleft fun _ => hdraw) fun left => ?_
    refine hR.bind (build_related hR h right hright fun _ => hdraw) fun right => ?_
    exact hR.bind (hR.refuse _ rfl) fun _ => hdraw _
  | .zip left right separator, hd, hdraw => by
    have hdraw : DrawsAlike R := hdraw (by rw [draws])
    rw [references] at hd
    obtain ⟨hleft, hright⟩ := List.append_subset.mp hd
    rw [build, build]
    refine hR.bind (build_related hR h left hleft fun _ => hdraw) fun left => ?_
    refine hR.bind (build_related hR h right hright fun _ => hdraw) fun right => ?_
    exact hR.bind (hdraw _) fun left => hR.bind (hdraw _) fun right => hR.pure _
  | .cond test yes no, hd, hdraw => by
    rw [draws, Bool.or_eq_true] at hdraw
    rw [references] at hd
    obtain ⟨htest, hd⟩ := List.append_subset.mp hd
    obtain ⟨hyes, hno⟩ := List.append_subset.mp hd
    rw [build, build]
    refine hR.bind (h.flag test htest) fun b => Eval.Relates.ite ?_ ?_
    · exact build_related hR h yes hyes fun hs => hdraw (Or.inl hs)
    · cases no with
      | none => rw [buildOr, buildOr]; exact hR.pure _
      | some d =>
        rw [referencesOr] at hno
        rw [buildOr, buildOr]
        exact build_related hR h d hno fun hs => hdraw (Or.inr (by rwa [orDraws]))
  | .set op parts, hd, _ => by
    rw [references] at hd
    rw [build, build]
    exact LabelSet.evalFold_related hR h.deck op parts hd

end Deck

section

variable {P : (α : Type) → Eval Run α → Prop}

/-- The parts of a deck that are not decks have a property: what is drawn, counts, flags and
parameters. -/
structure Names.Have (names : Names) (P : (α : Type) → Eval Run α → Prop) : Prop where
  draw : ∀ {α : Type} (x : Generator → α × Generator), P α (Eval.draw x)
  count : ∀ (what : Counted) (q : Quantity), P Nat (Deck.count names what q)
  flag : ∀ f : Flag, P Bool (Eval.onMemo (f.eval names.flag))
  deck : ∀ name : String, P (Option (List String)) (names.deck name)

theorem chooseExactly_has (hP : Eval.Composes P)
    (hdraw : ∀ {α : Type} (x : Generator → α × Generator), P α (Eval.draw x)) (what : Counted)
    (source : List String) (n : Nat) : P (List String) (chooseExactly what source n) :=
  chooseExactly_related hP.relates hdraw what source n

theorem pickPlace_has (hP : Eval.Composes P)
    (hdraw : ∀ {α : Type} (x : Generator → α × Generator), P α (Eval.draw x)) (what : Counted)
    (n : Nat) : P Nat (pickPlace what n) :=
  pickPlace_related hP.relates hdraw what n

theorem drawCards_has (hP : Eval.Composes P)
    (hdraw : ∀ {α : Type} (x : Generator → α × Generator), P α (Eval.draw x)) (what : Counted)
    (source : Array String) (n : Nat) : P (List String) (drawCards what source n) :=
  drawCards_related hP.relates hdraw what source n

theorem Deck.build_has {names : Names} (hP : Eval.Composes P) (h : names.Have P) (d : Deck) :
    P (List String) (d.build names) :=
  @build_related _ names names hP.relates _
    ⟨fun what q _ => h.count what q, fun f _ => h.flag f, fun s _ => h.deck (normalize s)⟩ d
    (List.Subset.refl _) fun _ => h.draw

end

end Decks

end Dealer
