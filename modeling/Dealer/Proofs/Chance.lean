-- What chance decides. Where there are no groups and no operations on sets, the
-- generator decides which cards come out, and never how many, nor whether a deck can
-- be built at all: every check and every count looks at sizes only. Two runs are gone
-- through side by side here, whose generators have nothing to do with each other.
import Dealer.Proofs.Sizes

namespace Dealer

/-! ## Decks without groups and sets -/

namespace Deck

mutual

/-- Whether there are no groups and no operations on sets in a deck, apart from those in its
parameters. -/
def isPlain : Deck → Bool
  | .label _ => true
  | .concat parts => allPlain parts
  | .choose _ source => isPlain source
  | .chooseGroups .. => false
  | .draw _ source => isPlain source
  | .drawGroups .. => false
  | .duplicate _ _ source => isPlain source
  | .first _ source => isPlain source
  | .last _ source => isPlain source
  | .cross left right _ => isPlain left && isPlain right
  | .zip left right _ => isPlain left && isPlain right
  | .cond _ yes no => isPlain yes && orPlain no
  | .set .. => false

def allPlain : List Deck → Bool
  | [] => true
  | d :: ds => isPlain d && allPlain ds

def orPlain : Option Deck → Bool
  | none => true
  | some d => isPlain d

end

end Deck

/-- No parameter has groups or operations on sets: what can be read as a deck is plain. -/
def Setup.IsPlain (setup : Setup) : Prop :=
  ∀ name d deck, setup.get? name = some d → Deck.ofDocument? d = some deck → deck.isPlain = true

/-! ## The same sizes -/

/-- As many cards. -/
def AsMany (cards cards' : List String) : Prop := cards.length = cards'.length

/-- The same number, the same truth value, or decks of as many cards. -/
inductive Resolved.AsLarge : Resolved → Resolved → Prop
  | number (x : Float) : AsLarge (.number x) (.number x)
  | option (b : Bool) : AsLarge (.option b) (.option b)
  | deck {cards cards' : List String} (h : AsMany cards cards') :
      AsLarge (.deck cards) (.deck cards')

/-- The same names are known, and their values differ in the cards of decks at most. -/
def Memo.AsLarge (m m' : Memo) : Prop :=
  ∀ name, Option.Rel Resolved.AsLarge (m.get? name) (m'.get? name)

theorem Memo.AsLarge.nil : Memo.AsLarge [] [] := fun _ => .none

theorem Memo.AsLarge.put {m m' : Memo} (h : m.AsLarge m') (name : String) {v v' : Resolved}
    (hv : v.AsLarge v') : Memo.AsLarge (m.put name v) (m'.put name v') := by
  intro other
  rw [ByName.get?_put, ByName.get?_put]
  split
  · exact .some hv
  · exact h other

/-- A name that is not known leads to the same, whatever else is known. -/
theorem Memo.find_of_unknown {m m' : Memo} {setup : Setup} {chain : Chain} {name : String}
    (h : m.get? name = none) (h' : m'.get? name = none) :
    m.find setup chain name = m'.find setup chain name := by
  unfold find
  rw [h, h']

/-! ## Two runs side by side -/

variable {σ α β γ δ ε : Type} [Remembers σ]

/-- Both evaluations fail in the same way, or both give something, in a relation to each other. What
is known after them differs in the cards of decks at most. -/
inductive LikeResults (R : α → β → Prop) :
    EStateM.Result EvalError σ α → EStateM.Result EvalError σ β → Prop
  | ok {a : α} {b : β} {s t : σ} (h : R a b) (hst : (memo s).AsLarge (memo t)) :
      LikeResults R (.ok a s) (.ok b t)
  | error {e : EvalError} {s t : σ} (hst : (memo s).AsLarge (memo t)) :
      LikeResults R (.error e s) (.error e t)

/-- Two evaluations have like results wherever what is known differs in the cards of decks at
most. -/
def SideBySide (R : α → β → Prop) (x : Eval σ α) (y : Eval σ β) : Prop :=
  ∀ s t, (memo s).AsLarge (memo t) → LikeResults R (x s) (y t)

namespace SideBySide

variable {R : α → β → Prop} {S : γ → δ → Prop}

theorem pure {a : α} {b : β} (h : R a b) :
    SideBySide R (Pure.pure a : Eval σ α) (Pure.pure b : Eval σ β) :=
  fun _ _ hst => .ok h hst

theorem throw (e : EvalError) :
    SideBySide R (MonadExcept.throw e : Eval σ α) (MonadExcept.throw e : Eval σ β) :=
  fun _ _ hst => .error hst

theorem bind {x : Eval σ α} {y : Eval σ β} {f : α → Eval σ γ} {g : β → Eval σ δ}
    (h : SideBySide R x y) (hfg : ∀ a b, R a b → SideBySide S (f a) (g b)) :
    SideBySide S (x >>= f) (y >>= g) := by
  intro s t hst
  have first := h s t hst
  generalize hx : x s = r at first
  generalize hy : y t = r' at first
  cases first with
  | ok hab hst =>
    rw [Eval.bind_ok hx, Eval.bind_ok hy]
    exact hfg _ _ hab _ _ hst
  | error hst =>
    rw [Eval.bind_error hx, Eval.bind_error hy]
    exact .error hst

/-- Evaluations with the same results are closed under sequences. -/
theorem relates : Eval.Relates (σ := σ) fun _ x y => SideBySide Eq x y where
  pure _ := pure rfl
  throw _ := throw _
  bind h hfg := h.bind fun a _ heq => heq ▸ hfg a

theorem onMemo {x : Eval Memo α} {y : Eval Memo β} (h : SideBySide R x y) :
    SideBySide R (Eval.onMemo x) (Eval.onMemo y) := by
  intro run run' hrun
  have first := h run.memo run'.memo hrun
  unfold Eval.onMemo
  generalize x run.memo = r at first ⊢
  generalize y run'.memo = r' at first ⊢
  cases first with
  | ok hab hst => exact .ok hab hst
  | error hst => exact .error hst

/-- Whatever two generators are, what is drawn from them is in the relation. -/
theorem draw {x : Generator → α × Generator} {y : Generator → β × Generator}
    (h : ∀ g g', R (x g).1 (y g').1) : SideBySide R (Eval.draw x) (Eval.draw y) :=
  fun _ _ hst => .ok (h _ _) hst

theorem orUndefined (name : String) {found found' : Option β} (h : Option.Rel Eq found found') :
    SideBySide Eq (Parameter.orUndefined name found : Eval σ β)
      (Parameter.orUndefined name found') := by
  cases h with
  | some heq => exact pure heq
  | none => exact throw _

/-- Values of one kind that are in a relation are values that are as large. -/
structure Respects (p : Parameter ε β) (R : β → β → Prop) : Prop where
  keep : ∀ {b b'}, R b b' → (p.keep b).AsLarge (p.keep b')
  kept? : ∀ {v v'}, v.AsLarge v' → Option.Rel R (p.kept? v) (p.kept? v')

/-- A look-up finds known values that are as large, or resolves the same document in both runs. -/
theorem lookUp {p : Parameter ε β} {R : β → β → Prop} (hp : Respects p R) {setup : Setup}
    {chain : Chain} {resolve : ε → Eval σ β} {name : String}
    (h : Fresh setup chain name → ∀ d e, setup.get? name = some d → p.read d = some e →
      SideBySide R (resolve e) (resolve e)) :
    SideBySide (Option.Rel R) (p.lookUp setup chain resolve name)
      (p.lookUp setup chain resolve name) := by
  intro s t hst
  unfold Parameter.lookUp
  have known := hst name
  generalize hs : (memo s).get? name = found at known
  generalize ht : (memo t).get? name = found' at known
  cases known with
  | some hv =>
    have kept := hp.kept? hv
    rw [Memo.find_of_known hs, Memo.find_of_known ht]
    dsimp only
    generalize p.kept? _ = b at kept ⊢
    generalize p.kept? _ = b' at kept ⊢
    cases kept with
    | some hb => exact .ok (.some hb) hst
    | none => exact .error hst
  | none =>
    rw [Memo.find_of_unknown hs ht]
    cases hfind : (memo t).find setup chain name with
    | known v =>
      have := Memo.known_of_find hfind
      rw [ht] at this
      cases this
    | circle path => exact .error hst
    | absent => exact .ok .none hst
    | fresh d hfresh =>
      obtain ⟨-, hd⟩ := Memo.fresh_of_find hfind
      dsimp only
      cases he : p.read d with
      | none => exact .error hst
      | some e =>
        have resolved := h hfresh d e hd he s t hst
        dsimp only
        generalize resolve e s = r at resolved ⊢
        generalize resolve e t = r' at resolved ⊢
        cases resolved with
        | ok hb hst =>
          refine .ok (.some hb) ?_
          rw [memo_remember, memo_remember]
          exact hst.put name (hp.keep hb)
        | error hst => exact .error hst

theorem respects_number : Respects Parameter.number Eq where
  keep h := h ▸ .number _
  kept? h := by
    cases h with
    | number x => exact .some rfl
    | _ => exact .none

theorem respects_flag : Respects Parameter.flag Eq where
  keep h := h ▸ .option _
  kept? h := by
    cases h with
    | option b => exact .some rfl
    | _ => exact .none

theorem respects_deck : Respects Parameter.deck AsMany where
  keep h := .deck h
  kept? h := by
    cases h with
    | deck h => exact .some h
    | _ => exact .none

end SideBySide

/-! ## Numbers and flags -/

theorem numberOf_sideBySide (setup : Setup) (chain : Chain) (name : String) :
    SideBySide Eq (numberOf setup chain name) (numberOf setup chain name) := by
  induction chain using chain_induction setup generalizing name with
  | step chain ih =>
    rw [numberOf_eq]
    refine (SideBySide.lookUp SideBySide.respects_number fun hf d q _ _ => ?_).bind fun _ _ =>
      SideBySide.orUndefined name
    exact Quantity.eval_related SideBySide.relates (fun s _ => ih name hf (normalize s)) q
      (List.Subset.refl _)

theorem flagOf_sideBySide (setup : Setup) (chain : Chain) (name : String) :
    SideBySide Eq (flagOf setup chain name) (flagOf setup chain name) := by
  induction chain using chain_induction setup generalizing name with
  | step chain ih =>
    rw [flagOf_eq]
    refine (SideBySide.lookUp SideBySide.respects_flag fun hf d f _ _ => ?_).bind fun _ _ =>
      SideBySide.orUndefined name
    exact Flag.eval_related SideBySide.relates (fun s _ => ih name hf (normalize s)) f
      (List.Subset.refl _)

/-! ## What is drawn -/

section

variable {cards cards' : List String}

theorem chooseExactly_sideBySide (what : Counted) (h : AsMany cards cards') (n : Nat) :
    SideBySide AsMany (chooseExactly what cards n) (chooseExactly what cards' n) := by
  unfold chooseExactly
  rw [h]
  split
  · exact SideBySide.throw _
  · apply SideBySide.draw
    intro g g'
    rw [AsMany, (Generator.sample_chosen cards n g).length,
      (Generator.sample_chosen cards' n g').length, h]

theorem shuffled_sideBySide (h : AsMany cards cards') :
    SideBySide AsMany (shuffled cards) (shuffled cards') := by
  apply SideBySide.draw
  intro g g'
  rw [AsMany, (Generator.shuffle_perm cards g).length_eq,
    (Generator.shuffle_perm cards' g').length_eq, h]

/-- Whether there is a place to pick depends on the number of places, and any place will do. -/
theorem pickPlace_sideBySide (what : Counted) (n : Nat) :
    SideBySide (fun i j => i < n ∧ j < n) (pickPlace what n) (pickPlace what n) := by
  have places : SideBySide (Option.Rel fun i j => i < n ∧ j < n) (Eval.draw (Generator.pick n))
      (Eval.draw (Generator.pick n)) := by
    apply SideBySide.draw
    intro g g'
    have below {i : Nat} {g : Generator} (hi : (Generator.pick n g).1 = some i) : i < n :=
      Generator.pick_lt hi
    by_cases hn : n = 0
    · have none (g : Generator) : (Generator.pick n g).1 = none := by
        rw [Generator.pick, if_pos hn]
      rw [none g, none g']
      exact .none
    · have some (g : Generator) : ∃ i, (Generator.pick n g).1 = some i := by
        rw [Generator.pick, if_neg hn]
        exact ⟨_, rfl⟩
      obtain ⟨i, hi⟩ := some g
      obtain ⟨j, hj⟩ := some g'
      rw [hi, hj]
      exact .some ⟨below hi, below hj⟩
  apply places.bind
  rintro _ _ (h | _)
  · exact SideBySide.pure h
  · exact SideBySide.throw _

theorem drawCards_sideBySide (what : Counted) (h : AsMany cards cards') (n : Nat) :
    SideBySide AsMany (drawCards what cards.toArray n) (drawCards what cards'.toArray n) := by
  induction n with
  | zero => exact SideBySide.pure rfl
  | succ n ih =>
    unfold drawCards
    have size : cards.toArray.size = cards'.toArray.size := h
    rw [size]
    apply (pickPlace_sideBySide what _).bind
    rintro i j ⟨hi, hj⟩
    apply ih.bind
    intro others others' hothers
    apply SideBySide.pure
    rw [← size, List.size_toArray] at hi
    rw [List.size_toArray] at hj
    simp only [List.getElem?_toArray, List.getElem?_eq_getElem hi, List.getElem?_eq_getElem hj]
    exact congrArg Nat.succ hothers

end

/-! ## Every plain deck -/

namespace Deck

variable {names : Names}

theorem gather_sideBySide {ds : List Deck}
    (h : ∀ d ∈ ds, SideBySide AsMany (d.build names) (d.build names)) (size : Nat) :
    SideBySide AsMany (gather size (ds.map (build names)))
      (gather size (ds.map (build names))) := by
  induction ds generalizing size with
  | nil => exact SideBySide.pure rfl
  | cons d ds ih =>
    apply (h d List.mem_cons_self).bind
    intro cards cards' hcards
    rw [hcards]
    apply (SideBySide.relates.ofExcept fun _ => checkSize_error).bind
    rintro _ _ -
    apply (ih (fun d hd => h d (List.mem_cons_of_mem _ hd)) _).bind
    intro others others' hothers
    apply SideBySide.pure
    rw [AsMany, List.length_append, List.length_append, hcards, hothers]

theorem isPlain_of_mem {d : Deck} {ds : List Deck} (hd : d ∈ ds) (h : allPlain ds = true) :
    d.isPlain = true := by
  induction ds with
  | nil => cases hd
  | cons first ds ih =>
    rw [allPlain, Bool.and_eq_true] at h
    rcases List.mem_cons.mp hd with rfl | hd
    · exact h.1
    · exact ih hd h.2

/-- A plain deck goes in step when what it takes from names does. Every step but the last of each
form looks at sizes only. -/
theorem build_sideBySide
    (hcount : ∀ what q, SideBySide Eq (count names what q) (count names what q))
    (hflag : ∀ f : Flag, SideBySide Eq (Eval.onMemo (f.eval names.flag))
      (Eval.onMemo (f.eval names.flag)))
    (hdeck : ∀ name, SideBySide (Option.Rel AsMany) (names.deck name) (names.deck name)) :
    ∀ d : Deck, d.isPlain = true → SideBySide AsMany (d.build names) (d.build names)
  | .label s, _ => by
    rw [build]
    apply (hdeck (normalize s)).bind
    rintro _ _ (h | _)
    · exact SideBySide.pure h
    · exact SideBySide.pure rfl
  | .concat parts, hd => by
    rw [isPlain] at hd
    rw [build, builders_eq_map]
    apply gather_sideBySide
    intro d hmem
    exact build_sideBySide hcount hflag hdeck d (isPlain_of_mem hmem hd)
  | .choose n source, hd => by
    rw [isPlain] at hd
    rw [build]
    apply (hcount .choose n).bind
    rintro n _ rfl
    apply (build_sideBySide hcount hflag hdeck source hd).bind
    intro cards cards' hcards
    exact chooseExactly_sideBySide .items hcards n
  | .draw n source, hd => by
    rw [isPlain] at hd
    rw [build]
    apply (hcount .draw n).bind
    rintro n _ rfl
    apply (build_sideBySide hcount hflag hdeck source hd).bind
    intro cards cards' hcards
    exact drawCards_sideBySide .draw hcards n
  | .duplicate n kinds source, hd => by
    rw [isPlain] at hd
    rw [build_duplicate]
    have hkinds : SideBySide Eq (kindCount names kinds) (kindCount names kinds) := by
      cases kinds with
      | none => exact SideBySide.pure rfl
      | some k => exact hcount .kinds k
    apply (hcount .duplicate n).bind
    rintro n _ rfl
    apply hkinds.bind
    rintro k _ rfl
    apply (build_sideBySide hcount hflag hdeck source hd).bind
    intro cards cards' hcards
    apply (chooseExactly_sideBySide .items hcards k).bind
    intro chosen chosen' hchosen
    exact drawCards_sideBySide .duplicate hchosen n
  | .first n source, hd => by
    rw [isPlain] at hd
    rw [build_first]
    apply (hcount .first n).bind
    rintro n _ rfl
    apply (build_sideBySide hcount hflag hdeck source hd).bind
    intro cards cards' hcards
    rw [hcards]
    apply (SideBySide.relates.refuse _ rfl).bind
    rintro _ _ -
    apply SideBySide.pure
    rw [AsMany, List.length_take, List.length_take, hcards]
  | .last n source, hd => by
    rw [isPlain] at hd
    rw [build_last]
    apply (hcount .last n).bind
    rintro n _ rfl
    apply (build_sideBySide hcount hflag hdeck source hd).bind
    intro cards cards' hcards
    rw [hcards]
    apply (SideBySide.relates.refuse _ rfl).bind
    rintro _ _ -
    apply SideBySide.pure
    rw [AsMany, List.length_drop, List.length_drop, hcards]
  | .cross left right separator, hd => by
    rw [isPlain, Bool.and_eq_true] at hd
    rw [build_cross]
    apply (build_sideBySide hcount hflag hdeck left hd.1).bind
    intro a a' ha
    apply (build_sideBySide hcount hflag hdeck right hd.2).bind
    intro b b' hb
    dsimp only
    rw [ha, hb]
    apply (SideBySide.relates.refuse _ rfl).bind
    rintro _ _ -
    apply shuffled_sideBySide
    rw [AsMany, length_crossPairs, length_crossPairs, ha, hb]
  | .zip left right separator, hd => by
    rw [isPlain, Bool.and_eq_true] at hd
    rw [build]
    apply (build_sideBySide hcount hflag hdeck left hd.1).bind
    intro a a' ha
    apply (build_sideBySide hcount hflag hdeck right hd.2).bind
    intro b b' hb
    apply (shuffled_sideBySide ha).bind
    intro a a' ha
    apply (shuffled_sideBySide hb).bind
    intro b b' hb
    apply SideBySide.pure
    rw [AsMany, length_zipPairs, length_zipPairs, ha, hb]
  | .cond test yes no, hd => by
    rw [isPlain, Bool.and_eq_true] at hd
    rw [build]
    apply (hflag test).bind
    rintro b _ rfl
    cases b with
    | true => exact build_sideBySide hcount hflag hdeck yes hd.1
    | false =>
      cases no with
      | none =>
        rw [buildOr]
        exact SideBySide.pure rfl
      | some d =>
        rw [orPlain] at hd
        rw [buildOr]
        exact build_sideBySide hcount hflag hdeck d hd.2

end Deck

section

variable {setup : Setup}

/-- A plain deck goes in step when its parameters do. -/
theorem Deck.build_within_sideBySide {chain : Chain}
    (h : ∀ name, SideBySide (Option.Rel AsMany) (deckOf setup chain name) (deckOf setup chain name))
    {d : Deck} (hd : d.isPlain = true) :
    SideBySide AsMany (d.build (.within setup chain)) (d.build (.within setup chain)) := by
  refine build_sideBySide (fun what q => ?_) (fun f => ?_) h d hd
  · exact (Quantity.count_related SideBySide.relates
      (fun s _ => numberOf_sideBySide setup chain (normalize s)) what q (List.Subset.refl _)).onMemo
  · exact (Flag.eval_related SideBySide.relates
      (fun s _ => flagOf_sideBySide setup chain (normalize s)) f (List.Subset.refl _)).onMemo

theorem deckOf_sideBySide (hsetup : setup.IsPlain) (chain : Chain) (name : String) :
    SideBySide (Option.Rel AsMany) (deckOf setup chain name) (deckOf setup chain name) := by
  induction chain using chain_induction setup generalizing name with
  | step chain ih =>
    rw [deckOf_eq]
    refine SideBySide.lookUp SideBySide.respects_deck fun hf d deck hd hread => ?_
    exact Deck.build_within_sideBySide (ih name hf) (hsetup name d deck hd hread)

end

/-- Without groups and operations on sets, chance decides which cards come out, but never how many,
nor whether it works: from the start of a game, whatever the two generators are, a deck either
fails with one and the same error, or can be built with both, and has as many cards. -/
theorem chance_decides_over_no_size (setup : Setup) (hsetup : setup.IsPlain) (d : Deck)
    (hd : d.isPlain = true) (g g' : Generator) :
    (∃ e left left', d.build (.of setup) (.start g) = .error e left ∧
      d.build (.of setup) (.start g') = .error e left') ∨
    (∃ cards cards' left left', d.build (.of setup) (.start g) = .ok cards left ∧
      d.build (.of setup) (.start g') = .ok cards' left' ∧ cards.length = cards'.length) := by
  have like := Deck.build_within_sideBySide (deckOf_sideBySide hsetup []) hd (.start g) (.start g')
    Memo.AsLarge.nil
  generalize hx : d.build (.within setup []) (.start g) = r at like
  generalize hy : d.build (.within setup []) (.start g') = r' at like
  cases like with
  | ok hcards _ => exact Or.inr ⟨_, _, _, _, hx, hy, hcards⟩
  | error _ => exact Or.inl ⟨_, _, _, hx, hy⟩

theorem oneOfTwo_isPlain : oneOfTwo.IsPlain := by
  intro name d deck hd hdeck
  simp only [oneOfTwo, Setup.get?, ByName.get?] at hd
  split at hd
  · cases hd
    cases hdeck
    rfl
  · cases hd

/-- With two words at hand the card that is chosen is `b`. Whatever the seed gives, one card comes
out. -/
theorem one_card_is_chosen_with_any_seed :
    oneOfTwo.IsPlain ∧ (Deck.zip (.label "pick") (.label "x") none).isPlain = true ∧
      (Deck.zip (.label "pick") (.label "x") none).build (.of oneOfTwo) (.start twoWords) =
        .ok ["b • x"] ⟨[("pick", .deck ["b"])], { twoWords with pending := [5] }⟩ ∧
      ∃ cards left, (Deck.zip (.label "pick") (.label "x") none).build (.of oneOfTwo)
        (.start (.ofSeed 2026)) = .ok cards left ∧ cards.length = 1 := by
  have built : (Deck.zip (.label "pick") (.label "x") none).build (.of oneOfTwo)
      (.start twoWords) =
        .ok ["b • x"] ⟨[("pick", .deck ["b"])], { twoWords with pending := [5] }⟩ := by
    simp only [Names.of, Names.within, deckOf_eq_lookUp oneOfTwo []]
    decide +kernel
  refine ⟨oneOfTwo_isPlain, rfl, built, ?_⟩
  rcases chance_decides_over_no_size oneOfTwo oneOfTwo_isPlain
      (.zip (.label "pick") (.label "x") none) rfl twoWords (.ofSeed 2026) with
    ⟨e, left, _, failed, -⟩ | ⟨cards, cards', _, left', same, other, hlength⟩
  · rw [built] at failed
    cases failed
  · rw [built] at same
    cases same
    exact ⟨cards', left', other, hlength.symm⟩

end Dealer
