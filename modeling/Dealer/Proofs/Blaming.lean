-- Errors about names tell the truth. A name that is called undefined is in no
-- setup, a path that is called recursive goes round, and a parameter that is
-- blamed for its kind cannot be read in it or was resolved in another. What is
-- blamed is what the expression leads to: each document on the way mentions the
-- next name.
import Dealer.Proofs.OneKind
import Mathlib.Data.List.Chain

namespace Dealer

/-! ## What an error about names says -/

/-- The kind of a value. -/
def Resolved.kind : Resolved → Kind
  | .number _ => .number
  | .option _ => .option
  | .deck _ => .deck

/-- The document of the one, read in its kind, mentions the other. -/
def Leads (setup : Setup) (r r' : Reference) : Prop :=
  ∃ d, setup.get? r.name = some d ∧ r' ∈ d.references r.kind

/-- Where an expression leads: it mentions the first, and each leads to the next. -/
structure Led (setup : Setup) (asked way : List Reference) : Prop where
  linked : way.IsChain (Leads setup)
  asked : ∀ r ∈ way.head?, r ∈ asked

/-- A path of names that comes back to its first name, and to no other. -/
structure GoesRound (setup : Setup) (path : List String) : Prop where
  long : 2 ≤ path.length
  closed : path.head? = path.getLast?
  distinct : path.dropLast.Nodup
  named : ∀ name ∈ path, ∃ d, setup.get? name = some d

/-- What an error about names says is so, for an expression with some references, where some
parameters are known. -/
def EvalError.IsTrue (setup : Setup) (asked : List Reference) (m : Memo) : EvalError → Prop
  | .undefined name =>
    setup.get? name = none ∧
      ∃ s kind way, name = normalize s ∧ Led setup asked (way ++ [⟨kind, name⟩])
  | .recursive path =>
    GoesRound setup path ∧
      ∃ way round, path = round.map Reference.name ∧ Led setup asked (way ++ round)
  | .wrongKind name kind =>
    (∃ d, setup.get? name = some d ∧
      (¬ d.Describes kind ∨ ∃ v, m.get? name = some v ∧ v.kind ≠ kind)) ∧
        ∃ way, Led setup asked (way ++ [⟨kind, name⟩])
  | _ => True

theorem EvalError.isTrue_of_not_names {setup : Setup} {asked : List Reference} {m : Memo}
    {e : EvalError} (h : e.isOfNames = false) : e.IsTrue setup asked m := by
  cases e <;> trivial

/-! ## The way to a name -/

section

variable {setup : Setup} {asked way : List Reference} {r r' : Reference}

theorem Led.first (h : r ∈ asked) : Led setup asked [r] := by
  refine ⟨List.isChain_singleton r, ?_⟩
  intro first hfirst
  cases hfirst
  exact h

theorem Led.next (h : Led setup asked (way ++ [r])) (hr : Leads setup r r') :
    Led setup asked (way ++ [r] ++ [r']) := by
  refine ⟨List.isChain_append.mpr ⟨h.linked, List.isChain_singleton r', ?_⟩, ?_⟩
  · intro last hlast next hnext
    rw [List.getLast?_concat, Option.mem_some_iff] at hlast
    cases hnext
    rw [← hlast]
    exact hr
  · intro first hfirst
    rw [List.head?_append_of_ne_nil _ (by simp)] at hfirst
    exact h.asked first hfirst

/-- The references that are being resolved: no name is among them twice, and all are names of
parameters. -/
structure Trail (setup : Setup) (asked way : List Reference) : Prop extends
    Led setup asked way where
  distinct : (way.map Reference.name).Nodup
  named : ∀ r ∈ way, ∃ d, setup.get? r.name = some d

theorem Trail.nil : Trail setup asked [] where
  linked := List.isChain_nil
  asked := by simp
  distinct := List.nodup_nil
  named := by simp

theorem Trail.snoc {d : Document} (h : Trail setup asked way) (hr : Led setup asked (way ++ [r]))
    (hnew : r.name ∉ way.map Reference.name) (hd : setup.get? r.name = some d) :
    Trail setup asked (way ++ [r]) := by
  refine ⟨hr, ?_, ?_⟩
  · rw [List.map_append, List.map_singleton]
    exact List.nodup_append.mpr ⟨h.distinct, by simp, by grind⟩
  · intro other hother
    rcases List.mem_append.mp hother with hother | hother
    · exact h.named other hother
    · rw [List.mem_singleton.mp hother]
      exact ⟨d, hd⟩

/-- A path starts at the first place of its name among the names that are being resolved. -/
theorem dropWhile_ne {name : String} {before after : List String} (h : name ∉ before) :
    (before ++ name :: after).dropWhile (· ≠ name) = name :: after := by
  induction before with
  | nil => simp
  | cons first before ih =>
    rw [List.mem_cons, not_or] at h
    rw [List.cons_append, List.dropWhile_cons_of_pos (by simpa using Ne.symm h.1), ih h.2]

/-- Where a name is being resolved already, the trail from it to its second place is a round. -/
theorem Trail.circle {m : Memo} (h : Trail setup asked way) (hr : Led setup asked (way ++ [r]))
    (hc : r.name ∈ way.map Reference.name) :
    (EvalError.recursive ((way.map Reference.name).dropWhile (· ≠ r.name) ++ [r.name])).IsTrue
      setup asked m := by
  obtain ⟨before, after, hsplit, hbefore⟩ := List.eq_append_cons_of_mem hc
  obtain ⟨lead, rest, rfl, hlead, hrest⟩ := List.map_eq_append_iff.mp hsplit
  obtain ⟨start, inner, rfl, hstart, hinner⟩ := List.map_eq_cons_iff.mp hrest
  rw [hsplit, dropWhile_ne hbefore]
  have hdistinct := h.distinct
  rw [hsplit] at hdistinct
  refine ⟨⟨?_, ?_, ?_, ?_⟩, lead, start :: inner ++ [r], ?_, ?_⟩
  · simp
  · rw [List.getLast?_concat]
    rfl
  · rw [List.dropLast_concat]
    exact (List.nodup_append.mp hdistinct).2.1
  · intro name hname
    have hmem : name ∈ (start :: inner).map Reference.name := by
      rw [List.map_cons, hstart, hinner]
      rcases List.mem_append.mp hname with hname | hname
      · exact hname
      · rw [List.mem_singleton.mp hname]
        exact List.mem_cons_self
    obtain ⟨ref, href, rfl⟩ := List.mem_map.mp hmem
    exact h.named ref (List.mem_append_right _ href)
  · rw [List.map_append, List.map_cons, hstart, hinner, List.map_singleton]
  · rw [← List.append_assoc]
    exact hr

end

/-! ## Evaluations whose errors are true -/

/-- Only parameters of the setup are known. -/
def Named (setup : Setup) (m : Memo) : Prop :=
  ∀ name v, m.get? name = some v → ∃ d, setup.get? name = some d

theorem Grows.named {setup : Setup} {chain : Chain} {m m' : Memo} (h : Grows setup chain m m')
    (hm : Named setup m) : Named setup m' := by
  intro name v hv
  rcases h.news name v hv with hv | ⟨-, d, hd, -⟩
  · exact hm name v hv
  · exact ⟨d, hd⟩

/-- A parameter reads every document that describes its kind, and takes every value of its kind. -/
structure Parameter.TakesItsKind {ε β : Type} (p : Parameter ε β) : Prop where
  reads : ∀ d : Document, d.Describes p.kind → (p.read d).isSome
  takes : ∀ v : Resolved, v.kind = p.kind → (p.kept? v).isSome

theorem Parameter.number_takesItsKind : Parameter.number.TakesItsKind where
  reads d h := h
  takes v h := by
    cases v with
    | number x => rfl
    | _ => cases h

theorem Parameter.flag_takesItsKind : Parameter.flag.TakesItsKind where
  reads d h := h
  takes v h := by
    cases v with
    | option b => rfl
    | _ => cases h

theorem Parameter.deck_takesItsKind : Parameter.deck.TakesItsKind where
  reads d h := h
  takes v h := by
    cases v with
    | deck cards => rfl
    | _ => cases h

/-- An evaluation that makes only parameters known, and whose errors about names are true. -/
structure Truthful (setup : Setup) (asked : List Reference) {σ : Type} [Remembers σ] (α : Type)
    (x : Eval σ α) : Prop where
  named : Keeps (Named setup) α x
  tells : ∀ s e t, Named setup (memo s) → x s = .error e t → e.IsTrue setup asked (memo t)

namespace Truthful

variable {setup : Setup} {asked way : List Reference} {σ : Type} [Remembers σ] {α β ε : Type}

theorem composes : Eval.Composes (Truthful setup asked (σ := σ)) where
  pure a := by
    refine ⟨Keeps.composes.pure a, fun s e t _ h => ?_⟩
    cases h
  throw he := by
    refine ⟨Keeps.composes.throw he, fun s e t _ h => ?_⟩
    cases h
    exact EvalError.isTrue_of_not_names he
  bind := by
    intro α β x f hx hf
    refine ⟨Keeps.composes.bind hx.named fun a => (hf a).named, fun s e u hs h => ?_⟩
    cases hxs : x s with
    | ok a t =>
      rw [Eval.bind_ok hxs] at h
      exact (hf a).tells t e u (hx.named.ok hs hxs) h
    | error e' t =>
      rw [Eval.bind_error hxs] at h
      cases h
      exact hx.tells s e u hs hxs

theorem onMemo {x : Eval Memo α} (hx : Truthful setup asked α x) :
    Truthful setup asked α (Eval.onMemo x) := by
  refine ⟨hx.named.onMemo, fun run e t hrun h => ?_⟩
  unfold Eval.onMemo at h
  split at h
  · cases h
  · rename_i e' m hm
    cases h
    exact hx.tells run.memo e m hrun hm

theorem draw (x : Generator → α × Generator) : Truthful setup asked α (Eval.draw x) := by
  refine ⟨Keeps.draw x, fun s e t _ h => ?_⟩
  cases h

/-- A look-up is truthful when resolving the document is, one step further on the way. -/
theorem lookUp {p : Parameter ε β} {resolve : ε → Eval σ β} {name : String}
    (hp : p.TakesItsKind) (htrail : Trail setup asked way)
    (hled : Led setup asked (way ++ [⟨p.kind, name⟩]))
    (h : ∀ d e, Fresh setup (way.map Reference.name) name →
      Trail setup asked (way ++ [⟨p.kind, name⟩]) → setup.get? name = some d →
        p.read d = some e → Truthful setup asked β (resolve e)) :
    Truthful setup asked (Option β)
      (p.lookUp setup (way.map Reference.name) resolve name) := by
  refine ⟨fun s hs => ?_, fun s e t hs herr => ?_⟩
  · generalize hresult : p.lookUp setup (way.map Reference.name) resolve name s = result
    cases Parameter.looksUp hresult with
    | @resolved d e b t hm hf hd he hb =>
      simp only [Eval.left, memo_remember]
      have hnamed := (h d e hf (htrail.snoc hled hf.2 hd) hd he).named.ok hs hb
      intro other v hv
      rw [ByName.get?_put] at hv
      split at hv
      · rename_i heq
        exact ⟨d, heq ▸ hd⟩
      · exact hnamed other v hv
    | failed hm hf hd he hb => exact (h _ _ hf (htrail.snoc hled hf.2 hd) hd he).named.error hs hb
    | _ => exact hs
  · cases Parameter.looksUp herr with
    | @otherKind v hv hb =>
      obtain ⟨d, hd⟩ := hs name v hv
      refine ⟨⟨d, hd, Or.inr ⟨v, hv, fun hsame => ?_⟩⟩, way, hled⟩
      have hkept := hp.takes v hsame
      rw [hb] at hkept
      cases hkept
    | circle hm hc => exact htrail.circle hled hc
    | @unread d hm hf hd he =>
      refine ⟨⟨d, hd, Or.inl fun hdescribes => ?_⟩, way, hled⟩
      have hsome := hp.reads d hdescribes
      rw [he] at hsome
      cases hsome
    | failed hm hf hd he hb => exact (h _ _ hf (htrail.snoc hled hf.2 hd) hd he).tells s e t hs hb

/-- Where the parameter must be there, a name that is not found is in no setup. -/
theorem lookUp_orUndefined {p : Parameter ε β} {resolve : ε → Eval σ β} {chain : Chain}
    {text : String}
    (hled : Led setup asked (way ++ [⟨p.kind, normalize text⟩]))
    (h : Truthful setup asked (Option β) (p.lookUp setup chain resolve (normalize text))) :
    Truthful setup asked β
      (p.lookUp setup chain resolve (normalize text) >>=
        Parameter.orUndefined (normalize text)) := by
  refine ⟨Keeps.composes.bind h.named fun found => Keeps.orUndefined _ found, ?_⟩
  intro s e u hs herr
  generalize hresult : p.lookUp setup chain resolve (normalize text) s = result at *
  cases result with
  | error e' t =>
    rw [Eval.bind_error hresult] at herr
    cases herr
    exact h.tells s e u hs hresult
  | ok found t =>
    rw [Eval.bind_ok hresult] at herr
    cases found with
    | some b => cases herr
    | none =>
      cases herr
      cases Parameter.looksUp hresult with
      | absent hm hc hd => exact ⟨hd, text, p.kind, way, rfl, hled⟩

end Truthful

/-! ## Every evaluation -/

section

variable {setup : Setup} {asked refs way : List Reference}

theorem Quantity.eval_truthful {look : String → Eval Memo Float}
    (h : ∀ s, ⟨.number, normalize s⟩ ∈ refs → Truthful setup asked Float (look (normalize s)))
    {q : Quantity} (hq : q.references ⊆ refs) : Truthful setup asked Float (q.eval look) :=
  @eval_related _ look look refs Truthful.composes.relates h q hq

theorem Flag.eval_truthful {look : String → Eval Memo Bool}
    (h : ∀ s, ⟨.option, normalize s⟩ ∈ refs → Truthful setup asked Bool (look (normalize s)))
    {f : Flag} (hf : f.references ⊆ refs) : Truthful setup asked Bool (f.eval look) :=
  @eval_related _ look look refs Truthful.composes.relates h f hf

theorem numberOf_truthful {chain : Chain} {text : String}
    (hchain : chain = way.map Reference.name) (htrail : Trail setup asked way)
    (hled : Led setup asked (way ++ [⟨.number, normalize text⟩])) :
    Truthful setup asked Float (numberOf setup chain (normalize text)) := by
  induction chain using chain_induction setup generalizing way text with
  | step chain ih =>
    subst hchain
    rw [numberOf_eq]
    refine Truthful.lookUp_orUndefined hled
      (Truthful.lookUp Parameter.number_takesItsKind htrail hled ?_)
    intro d q hf htrail' hd hread
    have hrefs : q.references ⊆ d.references .number := by
      rw [Document.references, show Quantity.ofDocument? d = some q from hread]
      exact List.Subset.refl _
    refine Quantity.eval_truthful (fun s hs => ?_) hrefs
    exact ih (normalize text) hf (by simp) htrail' (hled.next ⟨d, hd, hs⟩)

theorem flagOf_truthful {chain : Chain} {text : String}
    (hchain : chain = way.map Reference.name) (htrail : Trail setup asked way)
    (hled : Led setup asked (way ++ [⟨.option, normalize text⟩])) :
    Truthful setup asked Bool (flagOf setup chain (normalize text)) := by
  induction chain using chain_induction setup generalizing way text with
  | step chain ih =>
    subst hchain
    rw [flagOf_eq]
    refine Truthful.lookUp_orUndefined hled
      (Truthful.lookUp Parameter.flag_takesItsKind htrail hled ?_)
    intro d f hf htrail' hd hread
    have hrefs : f.references ⊆ d.references .option := by
      rw [Document.references, show Flag.ofDocument? d = some f from hread]
      exact List.Subset.refl _
    refine Flag.eval_truthful (fun s hs => ?_) hrefs
    exact ih (normalize text) hf (by simp) htrail' (hled.next ⟨d, hd, hs⟩)

/-- Behind a trail, a deck is built truthfully when its parameters that are decks are. -/
theorem Deck.build_truthful {chain : Chain} (hchain : chain = way.map Reference.name)
    (htrail : Trail setup asked way) (hled : ∀ r ∈ refs, Led setup asked (way ++ [r]))
    (h : ∀ s, ⟨.deck, normalize s⟩ ∈ refs →
      Truthful setup asked (Option (List String)) (deckOf setup chain (normalize s)))
    {d : Deck} (hd : d.references ⊆ refs) :
    Truthful setup asked (List String) (d.build (.within setup chain)) := by
  let names := Names.within setup chain
  refine @build_related _ names names Truthful.composes.relates refs
    ⟨fun what q hq => ?_, fun f hf => ?_, h⟩ d hd fun _ => Truthful.draw
  · refine (Truthful.composes.bind (Quantity.eval_truthful (fun s hs => ?_) hq)
      fun x => Truthful.composes.ofExcept fun e he => toCount_error he).onMemo
    exact numberOf_truthful hchain htrail (hled _ hs)
  · refine (Flag.eval_truthful (fun s hs => ?_) hf).onMemo
    exact flagOf_truthful hchain htrail (hled _ hs)

theorem deckOf_truthful {chain : Chain} {text : String}
    (hchain : chain = way.map Reference.name) (htrail : Trail setup asked way)
    (hled : Led setup asked (way ++ [⟨.deck, normalize text⟩])) :
    Truthful setup asked (Option (List String)) (deckOf setup chain (normalize text)) := by
  induction chain using chain_induction setup generalizing way text with
  | step chain ih =>
    subst hchain
    rw [deckOf_eq]
    refine Truthful.lookUp Parameter.deck_takesItsKind htrail hled ?_
    intro d deck hf htrail' hd hread
    have hrefs : deck.references ⊆ d.references .deck := by
      rw [Document.references, show Deck.ofDocument? d = some deck from hread]
      exact List.Subset.refl _
    have hnext (r : Reference) (hr : r ∈ d.references .deck) := hled.next ⟨d, hd, hr⟩
    refine Deck.build_truthful (by simp) htrail' hnext (fun s hs => ?_) hrefs
    exact ih (normalize text) hf (by simp) htrail' (hnext _ hs)

theorem Truthful.deckIfAny {look : DeckLook} {name : String}
    (h : Truthful setup asked (Option (List String)) (look name)) :
    Truthful setup asked (Option (List String)) (deckIfAny look name) := by
  refine ⟨h.named.deckIfAny, fun s e t hs herr => ?_⟩
  unfold Dealer.deckIfAny at herr
  split at herr
  · rename_i hlook
    split at herr
    · cases herr
    · cases herr
      exact h.tells s _ t hs hlook
  · exact h.tells s e t hs herr

/-- What a request mentions. -/
def Request.references : Request → List Reference
  | .ask (.quantity q) => q.references
  | .ask (.flag f) => f.references
  | .ask (.set s) => s.references
  | .ask (.accepts m _) => m.references
  | .build d => d.references

theorem Request.fulfil_truthful (request : Request) :
    Truthful setup request.references Answer (request.fulfil (.of setup)) := by
  have hled (r : Reference) (hr : r ∈ request.references) :
      Led setup request.references ([] ++ [r]) := Led.first hr
  have number (s : String) (hs : ⟨.number, normalize s⟩ ∈ request.references) :=
    numberOf_truthful rfl Trail.nil (hled _ hs)
  have flag (s : String) (hs : ⟨.option, normalize s⟩ ∈ request.references) :=
    flagOf_truthful rfl Trail.nil (hled _ hs)
  have deck (s : String) (hs : ⟨.deck, normalize s⟩ ∈ request.references) :=
    deckOf_truthful rfl Trail.nil (hled _ hs)
  have ends {α : Type} {x : Eval Run α} (hx : Truthful setup request.references α x)
      (f : α → Answer) : Truthful setup request.references Answer (do return f (← x)) :=
    Truthful.composes.bind hx fun a => Truthful.composes.pure (f a)
  cases request with
  | build d => exact ends (Deck.build_truthful rfl Trail.nil hled deck (List.Subset.refl _)) _
  | ask q =>
    cases q with
    | quantity q => exact ends (Quantity.eval_truthful number (List.Subset.refl _)).onMemo _
    | flag f => exact ends (Flag.eval_truthful flag (List.Subset.refl _)).onMemo _
    | set s =>
      exact ends (@LabelSet.eval_related _ (deckOf setup []) (deckOf setup []) _
        Truthful.composes.relates deck s (List.Subset.refl _)) _
    | accepts m label =>
      exact ends (@Matcher.accepts_related _ (deckOf setup []) (deckOf setup []) _
        Truthful.composes.relates deck label m (List.Subset.refl _)
        fun s _ hs => (deck s hs).deckIfAny) _

end

/-- Errors about names tell the truth, in every game and for every request. A name that is called
undefined is a normalised name that no parameter has. A path that is called recursive has two
entries or more, comes back to its first and to no other, and consists of names of parameters of
which each leads to the next. And a parameter that is blamed for its kind is in the setup, and its
document does not describe an expression of that kind or it is known as something else. Each of
them is reached from the request over documents that mention the next name, each document read in
the kind in which its name is resolved. -/
theorem an_error_about_names_is_true (setup : Setup) (m : Memo) (hm : Reached setup m)
    (request : Request) (g : Generator) (e : EvalError) (left : Run)
    (h : request.fulfil (.of setup) ⟨m, g⟩ = .error e left) :
    e.IsTrue setup request.references left.memo := by
  have hnamed : Named setup m := by
    obtain ⟨history, rfl⟩ := hm
    refine (Memo.after_grows setup [] history).named ?_
    intro name v hv
    cases hv
  exact request.fulfil_truthful.tells ⟨m, g⟩ e left hnamed h

/-- A setup in which one name leads to a round of two others. -/
def namesInARound : Setup :=
  ⟨[("a", .text "b"), ("b", .object [("plus", .list [.int 1, .text "c"])]), ("c", .text " b")]⟩

/-- The path that is told starts where the round starts, not at the name that is asked for. The
round is genuine. -/
theorem a_round_is_told_from_where_it_starts :
    (Request.ask (.quantity (.param "a"))).fulfil (.of namesInARound) ⟨[], twoWords⟩ =
        .error (.recursive ["b", "c", "b"]) ⟨[], twoWords⟩ ∧
      (EvalError.recursive ["b", "c", "b"]).IsTrue namesInARound [⟨.number, "a"⟩] [] := by
  have h : (Request.ask (.quantity (.param "a"))).fulfil (.of namesInARound) ⟨[], twoWords⟩ =
      .error (.recursive ["b", "c", "b"]) ⟨[], twoWords⟩ := by
    decide +kernel
  have hrefs : (Request.ask (.quantity (.param "a"))).references = [⟨.number, "a"⟩] := by decide
  have htrue := an_error_about_names_is_true namesInARound [] ⟨[], rfl⟩ _ twoWords _ _ h
  rw [hrefs] at htrue
  exact ⟨h, htrue⟩

end Dealer
