-- Answers stand. Once a question about numbers, flags, sets or labels has an
-- answer, it keeps that answer for the rest of the game, whatever is evaluated in
-- between: the answer is known, so nothing is resolved and nothing is drawn.
import Dealer.Proofs.Growth

namespace Dealer

/-! ## Questions and requests -/

/-- What a script can ask for without building a deck of its own. -/
inductive Question
  | quantity (q : Quantity)
  | flag (f : Flag)
  | set (s : LabelSet)
  /-- Whether a matcher accepts a label. -/
  | accepts (m : Matcher) (label : String)

/-- What an evaluation gives. -/
inductive Answer
  | number (x : Float)
  | truth (b : Bool)
  | labels (labels : List String)
  deriving DecidableEq

/-- Works a question out. -/
def Question.answer (names : Names) : Question → Eval Run Answer
  | .quantity q => do return .number (← Eval.onMemo (q.eval names.number))
  | .flag f => do return .truth (← Eval.onMemo (f.eval names.flag))
  | .set s => do return .labels (← s.eval names.deck)
  | .accepts m label => do return .truth (← m.accepts names.deck label)

/-- What a game can ask of the evaluator: a question, or a deck. -/
inductive Request
  | ask (q : Question)
  | build (d : Deck)

/-- Does what is asked for. -/
def Request.fulfil (names : Names) : Request → Eval Run Answer
  | .ask q => q.answer names
  | .build d => do return .labels (← d.build names)

/-- Requests one after the other, each with the generator that it draws from. -/
abbrev History := List (Request × Generator)

/-- What is known after some requests, failed ones included. -/
def Memo.after (setup : Setup) (m : Memo) : History → Memo
  | [] => m
  | (request, g) :: rest =>
    Memo.after setup (Eval.left (request.fulfil (.of setup) ⟨m, g⟩)).memo rest

/-- A memo that a game can reach: the empty one after some requests. -/
def Reached (setup : Setup) (m : Memo) : Prop := ∃ history, m = Memo.after setup [] history

/-! ## Requests let the memo grow -/

theorem Tidy.deckIfAny {setup : Setup} {chain : Chain} {look : DeckLook} {name : String}
    (h : Tidy setup chain (Option (List String)) (look name)) :
    Tidy setup chain (Option (List String)) (deckIfAny look name) := by
  refine ⟨fun run => ?_, fun run found kind t hc herr => ?_⟩
  · have hg := h.grows run
    unfold Dealer.deckIfAny
    split
    · rename_i hr
      rw [hr] at hg
      split <;> exact hg
    · exact hg
  · unfold Dealer.deckIfAny at herr
    split at herr
    · rename_i hr
      split at herr
      · cases herr
      · cases herr
        exact h.blames run _ _ _ hc hr
    · exact h.blames run _ _ _ hc herr

theorem Question.answer_tidy (setup : Setup) (chain : Chain) (q : Question) :
    Tidy setup chain Answer (q.answer (.within setup chain)) := by
  have hdeck := deckOf_tidy setup chain
  cases q with
  | quantity q =>
    exact Tidy.composes.bind (Quantity.eval_has Tidy.composes (numberOf_tidy setup chain) q).onMemo
      fun x => Tidy.composes.pure _
  | flag f =>
    exact Tidy.composes.bind (Flag.eval_has Tidy.composes (flagOf_tidy setup chain) f).onMemo
      fun b => Tidy.composes.pure _
  | set s =>
    exact Tidy.composes.bind (LabelSet.eval_has Tidy.composes hdeck s)
      fun labels => Tidy.composes.pure _
  | accepts m label =>
    exact Tidy.composes.bind
      (Matcher.accepts_has Tidy.composes hdeck (fun name => (hdeck name).deckIfAny) label m)
      fun b => Tidy.composes.pure _

theorem Request.fulfil_tidy (setup : Setup) (chain : Chain) (request : Request) :
    Tidy setup chain Answer (request.fulfil (.within setup chain)) := by
  cases request with
  | ask q => exact q.answer_tidy setup chain
  | build d =>
    exact Tidy.composes.bind (Deck.build_has Tidy.composes (Names.within_tidy setup chain) d)
      fun cards => Tidy.composes.pure _

theorem Memo.after_grows (setup : Setup) (m : Memo) (history : History) :
    Grows setup [] m (m.after setup history) := by
  induction history generalizing m with
  | nil => exact Grows.refl m
  | cons e rest ih =>
    obtain ⟨request, g⟩ := e
    exact ((request.fulfil_tidy setup []).grows ⟨m, g⟩).trans (ih _)

/-! ## What holds in every game -/

theorem Keeps.deckIfAny {I : Memo → Prop} {look : DeckLook} {name : String}
    (h : Keeps I (Option (List String)) (look name)) :
    Keeps I (Option (List String)) (deckIfAny look name) := by
  intro s hs
  have hleft := h s hs
  unfold Dealer.deckIfAny
  split
  · rename_i hlook
    rw [hlook] at hleft
    split <;> exact hleft
  · exact hleft

/-- Names whose look-ups keep a property of what is known. -/
structure Names.Keep (names : Names) (I : Memo → Prop) : Prop where
  number : ∀ name, Keeps I Float (names.number name)
  flag : ∀ name, Keeps I Bool (names.flag name)
  deck : ∀ name, Keeps I (Option (List String)) (names.deck name)

section

variable {I : Memo → Prop} {names : Names}

theorem Names.Keep.have (h : names.Keep I) : names.Have (Keeps I) where
  draw := Keeps.draw
  count what q := (Quantity.count_has Keeps.composes h.number what q).onMemo
  flag f := (Flag.eval_has Keeps.composes h.flag f).onMemo
  deck := h.deck

/-- A deck keeps what the names behind it keep. -/
theorem Names.Keep.build (h : names.Keep I) (d : Deck) : Keeps I (List String) (d.build names) :=
  Deck.build_has Keeps.composes h.have d

/-- A request keeps what the look-ups keep. -/
theorem Request.fulfil_keeps (h : names.Keep I) (request : Request) :
    Keeps I Answer (request.fulfil names) := by
  have ends {α : Type} {x : Eval Run α} (hx : Keeps I α x) (f : α → Answer) :
      Keeps I Answer (do return f (← x)) :=
    Keeps.composes.bind hx fun a => Keeps.composes.pure (f a)
  cases request with
  | build d => exact ends (h.build d) _
  | ask q =>
    cases q with
    | quantity q => exact ends (Quantity.eval_has Keeps.composes h.number q).onMemo _
    | flag f => exact ends (Flag.eval_has Keeps.composes h.flag f).onMemo _
    | set s => exact ends (LabelSet.eval_has Keeps.composes h.deck s) _
    | accepts m label =>
      have hany (name : String) := (h.deck name).deckIfAny
      exact ends (Matcher.accepts_has Keeps.composes h.deck hany label m) _

/-- What holds where nothing is known, and is kept by the look-ups, holds of what is known in every
game. -/
theorem Reached.holds {setup : Setup} {m : Memo} (hm : Reached setup m) (hstart : I [])
    (h : (Names.of setup).Keep I) : I m := by
  have run (history : History) : ∀ m, I m → I (m.after setup history) := by
    induction history with
    | nil => exact fun m hm => hm
    | cons e rest ih =>
      intro m hm
      obtain ⟨request, g⟩ := e
      exact ih _ (request.fulfil_keeps h ⟨m, g⟩ hm)
  obtain ⟨history, rfl⟩ := hm
  exact run history [] hstart

end

/-! ## What stands -/

/-- An evaluation behind a chain whose results stand: on any memo that has grown from the one that a
result left, it gives the same result and changes nothing. -/
structure Stands (setup : Setup) (chain : Chain) {σ : Type} [Remembers σ] (α : Type)
    (x : Eval σ α) : Prop where
  tidy : Tidy setup chain α x
  again : ∀ s a t, x s = .ok a t → ∀ u, Grows setup chain (memo t) (memo u) → x u = .ok a u

namespace Stands

variable {setup : Setup} {chain : Chain} {σ : Type} [Remembers σ] {α β ε : Type}

theorem composes : Eval.Composes (Stands setup chain (σ := σ)) where
  pure a := ⟨Tidy.composes.pure a, fun s b t h u _ => by cases h; rfl⟩
  throw he := ⟨Tidy.composes.throw he, fun s b t h => by cases h⟩
  bind := by
    intro α β x f hx hf
    refine ⟨Tidy.composes.bind hx.tidy fun a => (hf a).tidy, fun s b u h v hv => ?_⟩
    obtain ⟨a, t, hxs, hft⟩ := Eval.exists_of_bind_ok h
    have hx' := hx.again s a t hxs v (((hf a).tidy.grows_ok hft).trans hv)
    rw [Eval.bind_ok hx']
    exact (hf a).again t b u hft v hv

theorem onMemo {x : Eval Memo α} (hx : Stands setup chain α x) :
    Stands setup chain α (Eval.onMemo x) := by
  refine ⟨hx.tidy.onMemo, fun run a run' h u hu => ?_⟩
  unfold Eval.onMemo at h ⊢
  split at h
  · rename_i b m hm
    cases h
    rw [hx.again run.memo a m hm u.memo hu]
  · cases h

theorem orUndefined (name : String) (found : Option β) :
    Stands setup chain β (Parameter.orUndefined name found : Eval σ β) := by
  cases found with
  | some b => exact composes.pure b
  | none => exact ⟨Tidy.orUndefined name none, fun s b t h => by cases h⟩

/-- A look-up that gives a value has made it known, and one that finds no parameter never will
find one. -/
theorem lookUp {p : Parameter ε β} {resolve : ε → Eval σ β} {name : String}
    (ht : Tidy setup chain (Option β) (p.lookUp setup chain resolve name)) :
    Stands setup chain (Option β) (p.lookUp setup chain resolve name) := by
  refine ⟨ht, fun s found t h u hu => ?_⟩
  cases Parameter.looksUp h with
  | known hv hb => exact Parameter.lookUp_of_known (hu.keeps name _ hv) hb
  | absent hm hc hs => exact Parameter.lookUp_of_absent (hu.unknown_of_absent hs hm) hc hs
  | @resolved d e b t hm hf hs he hb =>
    have hv : (memo (remember t ((memo t).put name (p.keep b)))).get? name = some (p.keep b) := by
      rw [memo_remember, ByName.get?_put_self]
    exact Parameter.lookUp_of_known (hu.keeps name _ hv) (p.kept?_keep b)

end Stands

theorem numberOf_stands (setup : Setup) (chain : Chain) (name : String) :
    Stands setup chain Float (numberOf setup chain name) := by
  rw [numberOf_eq]
  refine Stands.composes.bind (Stands.lookUp (Tidy.lookUp fun _ q => ?_))
    fun found => Stands.orUndefined name found
  exact Quantity.eval_has Tidy.composes (numberOf_tidy setup _) q

theorem flagOf_stands (setup : Setup) (chain : Chain) (name : String) :
    Stands setup chain Bool (flagOf setup chain name) := by
  rw [flagOf_eq]
  refine Stands.composes.bind (Stands.lookUp (Tidy.lookUp fun _ f => ?_))
    fun found => Stands.orUndefined name found
  exact Flag.eval_has Tidy.composes (flagOf_tidy setup _) f

theorem deckOf_stands (setup : Setup) (chain : Chain) (name : String) :
    Stands setup chain (Option (List String)) (deckOf setup chain name) := by
  rw [deckOf_eq]
  exact Stands.lookUp (Tidy.lookUp fun _ d =>
    Deck.build_has Tidy.composes (Names.within_tidy setup _) d)

/-- A parameter that is blamed for its kind when it is asked for as a deck is known as something
else, or it cannot be read as a deck. That it is blamed from the inside is impossible: it stands on
the chain there. -/
theorem deckOf_wrongKind {setup : Setup} {name : String} {kind : Kind} {s t : Run}
    (h : deckOf setup [] name s = .error (.wrongKind name kind) t) :
    t = s ∧ ((∃ v, s.memo.get? name = some v ∧ Parameter.deck.kept? v = none) ∨
      (s.memo.get? name = none ∧ ∃ d, setup.get? name = some d ∧ Deck.ofDocument? d = none)) := by
  rw [deckOf_eq] at h
  cases Parameter.looksUp h with
  | otherKind hv hb => exact ⟨rfl, Or.inl ⟨_, hv, hb⟩⟩
  | unread hm hf hs he => exact ⟨rfl, Or.inr ⟨hm, _, hs, he⟩⟩
  | @failed d e err t hm hf hs he hb =>
    have tidy := Deck.build_has Tidy.composes (Names.within_tidy setup ([] ++ [name])) e
    have clear : Clear ([] ++ [name]) s.memo := by
      intro n hn
      rw [List.mem_singleton.mp hn]
      exact hm
    exact absurd (List.mem_singleton_self name) (tidy.blames s name kind t clear hb)

/-- A parameter that was no deck when it was asked for as a text never becomes one. -/
theorem deckOf_wrongKind_again {setup : Setup} {name : String} {kind : Kind} {s t : Run}
    (h : deckOf setup [] name s = .error (.wrongKind name kind) t) {u : Run}
    (hu : Grows setup [] t.memo u.memo) :
    deckOf setup [] name u = .error (.wrongKind name .deck) u := by
  obtain ⟨rfl, ⟨v, hv, hb⟩ | ⟨hm, d, hs, he⟩⟩ := deckOf_wrongKind h
  · rw [deckOf_eq]
    exact Parameter.lookUp_of_otherKind (hu.keeps name _ hv) hb
  · rw [deckOf_eq]
    cases hum : u.memo.get? name with
    | none => exact Parameter.lookUp_of_unread hum List.not_mem_nil hs he
    | some v => exact Parameter.lookUp_of_otherKind hum (hu.kept?_eq_none_of_unread hm hs he hum)

/-- A text that names a deck, or no deck, goes on doing so. -/
theorem deckIfAny_stands (setup : Setup) (name : String) :
    Stands setup [] (Option (List String)) (deckIfAny (deckOf setup []) name) := by
  refine ⟨(deckOf_tidy setup [] name).deckIfAny, fun s found t h u hu => ?_⟩
  rw [deckIfAny_eq_ok] at h ⊢
  rcases h with h | ⟨rfl, kind, h⟩
  · exact Or.inl ((deckOf_stands setup [] name).again s found t h u hu)
  · exact Or.inr ⟨rfl, .deck, deckOf_wrongKind_again h hu⟩

theorem Question.answer_stands (setup : Setup) (q : Question) :
    Stands setup [] Answer (q.answer (.of setup)) := by
  have hdeck := deckOf_stands setup []
  cases q with
  | quantity q =>
    have heval := Quantity.eval_has Stands.composes (numberOf_stands setup []) q
    exact Stands.composes.bind heval.onMemo fun x => Stands.composes.pure _
  | flag f =>
    have heval := Flag.eval_has Stands.composes (flagOf_stands setup []) f
    exact Stands.composes.bind heval.onMemo fun b => Stands.composes.pure _
  | set s =>
    exact Stands.composes.bind (LabelSet.eval_has Stands.composes hdeck s)
      fun labels => Stands.composes.pure _
  | accepts m label =>
    exact Stands.composes.bind
      (Matcher.accepts_has Stands.composes hdeck (deckIfAny_stands setup) label m)
      fun b => Stands.composes.pure _

/-- An answer stands for the rest of a game. Whatever is asked for after it, and whatever fails,
the same question has the same answer: nothing new becomes known by it and nothing is drawn. It
does not matter what was known before the first answer. -/
theorem an_answer_stands_for_the_rest_of_the_game (setup : Setup) (q : Question) (run : Run)
    {a : Answer} {run' : Run} (h : q.answer (.of setup) run = .ok a run') (later : History)
    (g : Generator) :
    q.answer (.of setup) ⟨run'.memo.after setup later, g⟩ =
      .ok a ⟨run'.memo.after setup later, g⟩ :=
  (q.answer_stands setup).again run a run' h _ (Memo.after_grows setup run'.memo later)

/-- A setup with one parameter: a card chosen from two. -/
def oneOfTwo : Setup :=
  ⟨[("pick", .object [("choose", .int 1), ("from", .list [.text "a", .text "b"])])]⟩

/-- A generator with two words to draw before its first block. -/
def twoWords : Generator := ⟨#v[0, 0, 0, 0, 0, 0, 0, 0], 0, [3000000000, 5]⟩

/-- The card that is chosen for the first answer stays chosen, although the parameter is then asked
for as a number, which fails, and other cards are drawn with a fresh generator. -/
theorem a_chosen_card_stays_chosen :
    (Question.accepts (.text "pick") "b").answer (.of oneOfTwo) ⟨[], twoWords⟩ =
        .ok (.truth true) ⟨[("pick", .deck ["b"])], { twoWords with pending := [5] }⟩ ∧
      (Question.accepts (.text "pick") "b").answer (.of oneOfTwo)
          ⟨Memo.after oneOfTwo [("pick", .deck ["b"])]
            [(.ask (.quantity (.param "pick")), twoWords),
              (.build (.choose (.number 1) (.label "pick")), twoWords)], twoWords⟩ =
        .ok (.truth true)
          ⟨Memo.after oneOfTwo [("pick", .deck ["b"])]
            [(.ask (.quantity (.param "pick")), twoWords),
              (.build (.choose (.number 1) (.label "pick")), twoWords)], twoWords⟩ := by
  have h : (Question.accepts (.text "pick") "b").answer (.of oneOfTwo) ⟨[], twoWords⟩ =
      .ok (.truth true) ⟨[("pick", .deck ["b"])], { twoWords with pending := [5] }⟩ := by
    simp only [Question.answer, Names.of, Names.within, deckOf_eq_lookUp oneOfTwo []]
    decide +kernel
  exact ⟨h, an_answer_stands_for_the_rest_of_the_game oneOfTwo _ _ h _ twoWords⟩

end Dealer
