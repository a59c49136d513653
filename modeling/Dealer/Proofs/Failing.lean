-- Failures. What fails leaves the desk in order: no name stays on it, no known value
-- changes, and what became known on the way is right. Where nothing is drawn, the
-- same request fails once more, in the same way and without changing anything.
import Dealer.Proofs.Desk
import Dealer.Proofs.Replay

namespace Dealer

/-! ## Failures that come again -/

/-- An evaluation behind a chain whose results stand, and whose failures come again at once. -/
structure Repeats (setup : Setup) (chain : Chain) {σ : Type} [Remembers σ] (α : Type)
    (x : Eval σ α) : Prop where
  stands : Stands setup chain α x
  fails : ∀ s e t, x s = .error e t → x t = .error e t

namespace Repeats

variable {setup : Setup} {chain : Chain} {σ : Type} [Remembers σ] {α β ε : Type}

/-- Where the second part of a sequence fails, the first has its result once more, as what is known
has only grown. -/
theorem composes : Eval.Composes (Repeats setup chain (σ := σ)) where
  pure a := by
    refine ⟨Stands.composes.pure a, fun s e t h => ?_⟩
    cases h
  throw he := by
    refine ⟨Stands.composes.throw he, fun s e t h => ?_⟩
    cases h
    rfl
  bind := by
    intro α β x f hx hf
    refine ⟨Stands.composes.bind hx.stands fun a => (hf a).stands, fun s e t h => ?_⟩
    cases hxs : x s with
    | ok a r =>
      rw [Eval.bind_ok hxs] at h
      have hgrows := (hf a).stands.tidy.grows_error h
      have hagain := hx.stands.again s a r hxs t hgrows
      rw [Eval.bind_ok hagain]
      exact (hf a).fails r e t h
    | error e' r =>
      rw [Eval.bind_error hxs] at h
      cases h
      exact Eval.bind_error (hx.fails s e t hxs)

theorem onMemo {x : Eval Memo α} (hx : Repeats setup chain α x) :
    Repeats setup chain α (Eval.onMemo x) := by
  refine ⟨hx.stands.onMemo, fun run e t h => ?_⟩
  cases hxm : x run.memo with
  | ok a m =>
    rw [Eval.onMemo_ok hxm] at h
    cases h
  | error e' m =>
    rw [Eval.onMemo_error hxm] at h
    cases h
    exact Eval.onMemo_error (hx.fails run.memo e m hxm)

theorem orUndefined (name : String) (found : Option β) :
    Repeats setup chain β (Parameter.orUndefined name found : Eval σ β) := by
  refine ⟨Stands.orUndefined name found, fun s e t h => ?_⟩
  cases found with
  | some b => cases h
  | none =>
    cases h
    rfl

/-- A look-up that fails inside a document leaves its name unknown, so the document is resolved
once more, and fails once more. -/
theorem lookUp {p : Parameter ε β} {resolve : ε → Eval σ β} {name : String}
    (ht : Tidy setup chain (Option β) (p.lookUp setup chain resolve name))
    (h : Fresh setup chain name → ∀ d e, setup.get? name = some d → p.read d = some e →
      Repeats setup (chain ++ [name]) β (resolve e)) :
    Repeats setup chain (Option β) (p.lookUp setup chain resolve name) := by
  refine ⟨Stands.lookUp ht, fun s e t herr => ?_⟩
  cases Parameter.looksUp herr with
  | @failed d parsed err t hm hf hd he hb =>
    have hrepeats := h hf d parsed hd he
    have hgrows := hrepeats.stands.tidy.grows_error hb
    have hname : name ∈ chain ++ [name] := List.mem_append_right _ (List.mem_singleton_self name)
    exact Parameter.lookUp_of_failed (hgrows.unknown hname hm) hf.2 hd he
      (hrepeats.fails s e t hb)
  | _ => exact herr

end Repeats

/-! ## Every evaluation that draws nothing -/

section

variable (setup : Setup)

theorem numberOf_repeats (chain : Chain) (name : String) :
    Repeats setup chain Float (numberOf setup chain name) := by
  induction chain using chain_induction setup generalizing name with
  | step chain ih =>
    rw [numberOf_eq]
    refine Repeats.composes.bind (Repeats.lookUp (Tidy.lookUp fun _ q => ?_) fun hf d q _ _ => ?_)
      fun found => Repeats.orUndefined name found
    · exact Quantity.eval_has Tidy.composes (numberOf_tidy setup _) q
    · exact Quantity.eval_has Repeats.composes (fun n => ih name hf n) q

theorem flagOf_repeats (chain : Chain) (name : String) :
    Repeats setup chain Bool (flagOf setup chain name) := by
  induction chain using chain_induction setup generalizing name with
  | step chain ih =>
    rw [flagOf_eq]
    refine Repeats.composes.bind (Repeats.lookUp (Tidy.lookUp fun _ f => ?_) fun hf d f _ _ => ?_)
      fun found => Repeats.orUndefined name found
    · exact Flag.eval_has Tidy.composes (flagOf_tidy setup _) f
    · exact Flag.eval_has Repeats.composes (fun n => ih name hf n) f

variable {setup} {chain : Chain}

/-- A deck that draws nothing repeats when its parameters do. -/
theorem Deck.build_repeats
    (h : ∀ name, Repeats setup chain (Option (List String)) (deckOf setup chain name)) {d : Deck}
    (hd : d.draws = false) : Repeats setup chain (List String) (d.build (.within setup chain)) := by
  let names := Names.within setup chain
  refine @build_related _ names names Repeats.composes.relates d.references
    ⟨fun what q _ => ?_, fun f _ => ?_, fun s _ => h (normalize s)⟩ d (List.Subset.refl _)
    fun hdraws => ?_
  · exact (Quantity.count_has Repeats.composes (numberOf_repeats setup chain) what q).onMemo
  · exact (Flag.eval_has Repeats.composes (flagOf_repeats setup chain) f).onMemo
  · rw [hd] at hdraws
    cases hdraws

theorem deckOf_repeats (hsetup : setup.DrawsNothing) (chain : Chain) (name : String) :
    Repeats setup chain (Option (List String)) (deckOf setup chain name) := by
  induction chain using chain_induction setup generalizing name with
  | step chain ih =>
    rw [deckOf_eq]
    refine Repeats.lookUp (Tidy.lookUp fun _ d => ?_) fun hf d deck hd hread => ?_
    · exact Deck.build_has Tidy.composes (Names.within_tidy setup _) d
    · exact Deck.build_repeats (ih name hf) (hsetup name d deck hd hread)

/-- The error that a text catches is caught once more, and any other comes again. -/
theorem deckIfAny_repeats {name : String}
    (h : Repeats setup [] (Option (List String)) (deckOf setup [] name)) :
    Repeats setup [] (Option (List String)) (deckIfAny (deckOf setup []) name) := by
  refine ⟨deckIfAny_stands setup name, fun s e t herr => ?_⟩
  cases hlook : deckOf setup [] name s with
  | ok found r =>
    simp only [deckIfAny, hlook] at herr
    cases herr
  | error e' r =>
    have hagain := h.fails s e' r hlook
    cases e' with
    | wrongKind blamed kind =>
      by_cases hblamed : blamed = name
      · simp only [deckIfAny, hlook, hblamed, ↓reduceIte] at herr
        cases herr
      · simp only [deckIfAny, hlook, hblamed, ↓reduceIte] at herr
        cases herr
        simp only [deckIfAny, hagain, hblamed, ↓reduceIte]
    | _ =>
      simp only [deckIfAny, hlook] at herr
      cases herr
      simp only [deckIfAny, hagain]

/-- Whether a request draws something itself, apart from what its parameters draw. -/
def Request.draws : Request → Bool
  | .ask _ => false
  | .build d => d.draws

theorem Request.fulfil_repeats (hsetup : setup.DrawsNothing) {request : Request}
    (hrequest : request.draws = false) :
    Repeats setup [] Answer (request.fulfil (.within setup [])) := by
  have hdeck := deckOf_repeats hsetup []
  have ends {α : Type} {x : Eval Run α} (hx : Repeats setup [] α x) (f : α → Answer) :
      Repeats setup [] Answer (do return f (← x)) :=
    Repeats.composes.bind hx fun a => Repeats.composes.pure (f a)
  cases request with
  | build d => exact ends (Deck.build_repeats hdeck hrequest) _
  | ask q =>
    cases q with
    | quantity q =>
      exact ends (Quantity.eval_has Repeats.composes (numberOf_repeats setup []) q).onMemo _
    | flag f => exact ends (Flag.eval_has Repeats.composes (flagOf_repeats setup []) f).onMemo _
    | set s => exact ends (LabelSet.eval_has Repeats.composes hdeck s) _
    | accepts m label =>
      have hany (name : String) := deckIfAny_repeats (hdeck name)
      exact ends (Matcher.accepts_has Repeats.composes hdeck hany label m) _

end

/-! ## Failures leave the desk in order -/

namespace Desk

/-- A desk that a game can reach: the empty one after some requests, failed ones included, each with
the generator that it draws from. -/
inductive Reached (setup : Setup) : Desk → Prop
  | start (g : Generator) : Reached setup ⟨[], [], g⟩
  | after {desk : Desk} (h : Reached setup desk) (request : Request) (g : Generator) :
      Reached setup (Eval.left (fulfil setup request { desk with generator := g }))

/-- Every request is a course at the desk. -/
theorem fulfil_course (setup : Setup) (request : Request) (desk : Desk) :
    ∃ news, Course setup desk news (Eval.left (fulfil setup request desk)) := by
  obtain ⟨news, hnews⟩ := @Request.fulfil_charted setup desk.chain request desk.run
  rw [of_run] at hnews
  refine ⟨news, ?_⟩
  unfold fulfil
  cases h : request.fulfil (.within setup desk.chain) desk.run with
  | ok a run =>
    rw [h] at hnews
    rw [Eval.atDesk_ok h]
    exact hnews
  | error e run =>
    rw [h] at hnews
    rw [Eval.atDesk_error h]
    exact hnews

/-- Between two requests no name stands on the desk. -/
theorem Reached.chain {setup : Setup} {desk : Desk} (h : Reached setup desk) : desk.chain = [] := by
  induction h with
  | start g => rfl
  | after h request g ih =>
    obtain ⟨news, hnews⟩ := fulfil_course setup request _
    rw [hnews.chain]
    exact ih

/-- A request that fails leaves the desk in order. The names that are being resolved are what they
were; every known value is what it was; and whatever became known is a parameter with the value
that its document gave in the course of the request. And where neither the request nor a parameter
draws, the same request at once fails in the same way, and leaves the desk as it is. -/
theorem a_failed_request_leaves_the_desk_in_order (setup : Setup) (desk left : Desk)
    (hdesk : Reached setup desk) (request : Request) (e : EvalError)
    (h : fulfil setup request desk = .error e left) :
    left.chain = desk.chain ∧
      (∀ name v, desk.memo.get? name = some v → left.memo.get? name = some v) ∧
      (∃ news, Course setup desk news left ∧ ∀ name v, left.memo.get? name = some v →
        desk.memo.get? name = some v ∨ ((name, v) ∈ news ∧
          ∃ (d : Document) (before after : Desk), setup.get? name = some d ∧
            Gives setup d (before.push name) after v)) ∧
      (setup.DrawsNothing → request.draws = false →
        fulfil setup request left = .error e left) := by
  obtain ⟨news, course⟩ := fulfil_course setup request desk
  rw [h] at course
  refine ⟨course.chain, fun name v hv => course.keeps hv, ⟨news, course, fun name v hv => ?_⟩,
    fun hsetup hrequest => ?_⟩
  · rcases course.known hv with hold | hnew
    · exact Or.inl hold
    · exact Or.inr ⟨hnew, (course.origin hnew).2⟩
  · have hchain := hdesk.chain
    unfold fulfil at h ⊢
    cases hrun : request.fulfil (.within setup desk.chain) desk.run with
    | ok a run =>
      rw [Eval.atDesk_ok hrun] at h
      cases h
    | error e' run =>
      rw [Eval.atDesk_error hrun] at h
      cases h
      rw [hchain] at hrun ⊢
      exact Eval.atDesk_error ((Request.fulfil_repeats hsetup hrequest).fails desk.run e run hrun)

/-- A setup with a flag, and a name of a parameter that is not there. -/
def nameOfNothing : Setup := ⟨[("a", .bool true), ("b", .text "c")]⟩

theorem nameOfNothing_drawsNothing : nameOfNothing.DrawsNothing := by
  intro name d deck hd hdeck
  simp only [nameOfNothing, Setup.get?, ByName.get?] at hd
  split at hd
  · cases hd
    cases hdeck
  · split at hd
    · cases hd
      cases hdeck
      rfl
    · cases hd

/-- Of two flags the first is known when the second fails. It was resolved in the course of the
request, no name stays on the desk, and the second fails once more. -/
theorem a_missing_name_is_missing_once_more :
    fulfil nameOfNothing (.ask (.flag (.and [.param "a", .param "b"]))) ⟨[], [], twoWords⟩ =
        .error (.undefined "c") ⟨[("a", .option true)], [], twoWords⟩ ∧
      (∃ news, Course nameOfNothing ⟨[], [], twoWords⟩ news
        ⟨[("a", .option true)], [], twoWords⟩ ∧ ("a", .option true) ∈ news) ∧
      fulfil nameOfNothing (.ask (.flag (.and [.param "a", .param "b"])))
          ⟨[("a", .option true)], [], twoWords⟩ =
        .error (.undefined "c") ⟨[("a", .option true)], [], twoWords⟩ := by
  have h : fulfil nameOfNothing (.ask (.flag (.and [.param "a", .param "b"])))
      ⟨[], [], twoWords⟩ = .error (.undefined "c") ⟨[("a", .option true)], [], twoWords⟩ := by
    decide +kernel
  obtain ⟨-, -, ⟨news, course, hnews⟩, hagain⟩ := a_failed_request_leaves_the_desk_in_order
    nameOfNothing ⟨[], [], twoWords⟩ _ (.start twoWords) _ _ h
  refine ⟨h, ⟨news, course, ?_⟩, hagain nameOfNothing_drawsNothing rfl⟩
  rcases hnews "a" (.option true) (by decide) with hold | ⟨hnew, -⟩
  · cases hold
  · exact hnew

end Desk

end Dealer
