-- Whether a matcher can tell what was resolved before. Where the parameters draw
-- nothing it can in one way only: by a text that names a parameter which is just
-- another name, and no deck. Such a text fails until the parameter is known, and
-- is a part of labels from then on.
import Dealer.Proofs.Replay

namespace Dealer

/-! ## Reached memos were worked out -/

/-- What is known in a game was worked out, also where requests failed or drew cards. -/
theorem Reached.grounded {setup : Setup} {m : Memo} (h : setup.DrawsNothing)
    (hm : Reached setup m) : Grounded setup m :=
  hm.holds .start ⟨fun name => (numberOf_settles setup [] name).grounded,
    fun name => (flagOf_settles setup [] name).grounded,
    fun name => (deckOf_settles h [] name).grounded⟩

/-! ## Two games side by side -/

/-- One memo is ahead of another: it knows all that the other knows, and more than that only from
an earlier memo. -/
structure Ahead (setup : Setup) (earlier m m' : Memo) : Prop where
  grounded : Grounded setup m
  grounded' : Grounded setup m'
  kept : Kept m m'
  within : Within earlier m m'

namespace Ahead

variable {setup : Setup} {earlier m m' n n' : Memo}

theorem start (h : Grounded setup earlier) : Ahead setup earlier [] earlier := by
  refine ⟨.start, h, fun name v hv => ?_, fun name v hv => Or.inr hv⟩
  cases hv

/-- Where both games learn the same, the one stays ahead of the other. -/
theorem step (h : Ahead setup earlier m m') (hn : Grounded setup n) (hn' : Grounded setup n')
    (hkept : Kept m n) (hkept' : Kept m' n') (hwithin : Within n' m n) (hwithin' : Within n m' n') :
    Ahead setup earlier n n' := by
  refine ⟨hn, hn', fun name v hv => ?_, fun name v hv => ?_⟩
  · rcases hwithin name v hv with hv | hv
    · exact hkept' name v (h.kept name v hv)
    · exact hv
  · rcases hwithin' name v hv with hv | hv
    · rcases h.within name v hv with hv | hv
      · exact Or.inl (hkept name v hv)
      · exact Or.inr hv
    · exact Or.inl hv

end Ahead

/-- Whatever an evaluation gives in one game it gives in the other, as long as what is known in the
two is related. -/
def Simulates (S : Memo → Memo → Prop) (α : Type) (y : Eval Run α) : Prop :=
  ∀ s u, S s.memo u.memo → ∀ a t, y s = .ok a t → ∃ v, y u = .ok a v ∧ S t.memo v.memo

theorem Simulates.composes {S : Memo → Memo → Prop} : Eval.Composes (Simulates S) where
  pure a := by
    intro s u hsu b t h
    cases h
    exact ⟨u, rfl, hsu⟩
  throw _ := by
    intro s u _ b t h
    cases h
  bind := by
    intro α β x f hx hf s u hsu b r h
    obtain ⟨a, t, hxs, hft⟩ := Eval.exists_of_bind_ok h
    obtain ⟨v, hxu, htv⟩ := hx s u hsu a t hxs
    obtain ⟨w, hfv, hrw⟩ := hf a t v htv b r hft
    exact ⟨w, by rw [Eval.bind_ok hxu, hfv], hrw⟩

section

variable {setup : Setup} {earlier : Memo}

/-- A deck that one game finds the other finds too, and both learn the same by it. -/
theorem deckOf_ahead (h : setup.DrawsNothing) {name : String} {s u t : Run}
    {found : Option (List String)} (hs : Grounded setup s.memo) (hu : Grounded setup u.memo)
    (ht : deckOf setup [] name s = .ok found t) :
    ∃ v, deckOf setup [] name u = .ok found v ∧
      (Ahead setup earlier s.memo u.memo → Ahead setup earlier t.memo v.memo) ∧
      (Ahead setup earlier u.memo s.memo → Ahead setup earlier v.memo t.memo) := by
  have settles := deckOf_settles h [] name
  obtain ⟨htground, again⟩ := deckOf_replays h name s found t hs ht
  obtain ⟨v, hv, hwithin'⟩ := again u hu
  obtain ⟨hvground, again'⟩ := deckOf_replays h name u found v hu hv
  obtain ⟨t', ht', hwithin⟩ := again' s hs
  rw [ht] at ht'
  cases ht'
  have hkept := (settles.tidy.grows_ok ht).kept
  have hkept' := (settles.tidy.grows_ok hv).kept
  refine ⟨v, hv, fun hahead => ?_, fun hahead => ?_⟩
  · exact hahead.step htground hvground hkept hkept' hwithin hwithin'
  · exact hahead.step hvground htground hkept' hkept hwithin' hwithin

/-- A parameter that was worked out to be no deck is just another name, or it cannot be read as a
deck at all. -/
theorem Grounded.alias_or_unread {m : Memo} {name : String} {v : Resolved} (h : Grounded setup m)
    (hv : m.get? name = some v) (hb : Parameter.deck.kept? v = none) :
    (∃ other, setup.get? name = some (.text other)) ∨
      ∃ d, setup.get? name = some d ∧ Deck.ofDocument? d = none := by
  obtain ⟨before, d, -, -, -, hd, hyields⟩ := h.origin hv
  cases hdeck : Deck.ofDocument? d with
  | none => exact Or.inr ⟨d, hd, hdeck⟩
  | some deck =>
    have text : ∃ s, d = .text s := by
      cases v with
      | number x =>
        obtain ⟨q, hq, -⟩ := hyields
        exact Document.text_of_number_of_deck hq hdeck
      | option b =>
        obtain ⟨f, hf, -⟩ := hyields
        exact Document.text_of_flag_of_deck hf hdeck
      | deck cards => cases hb
    obtain ⟨other, rfl⟩ := text
    exact Or.inl ⟨other, hd⟩

/-- What was worked out fits its document, so nothing is known that cannot be read in its kind. -/
theorem Ahead.grows {m m' : Memo} (h : Ahead setup earlier m m') : Grows setup [] m m' := by
  refine ⟨h.kept, fun name v hv => ?_⟩
  obtain ⟨before, d, -, -, -, hd, hyields⟩ := h.grounded'.origin hv
  refine Or.inr ⟨List.not_mem_nil, d, hd, ?_⟩
  cases v with
  | number x =>
    obtain ⟨q, hq, -⟩ := hyields
    exact Option.isSome_of_eq_some hq
  | option b =>
    obtain ⟨f, hf, -⟩ := hyields
    exact Option.isSome_of_eq_some hf
  | deck cards =>
    obtain ⟨deck, hdeck, -⟩ := hyields
    exact Option.isSome_of_eq_some hdeck

/-- A text that finds a deck, or none, finds it in the game that is ahead as well. -/
theorem deckIfAny_forth (h : setup.DrawsNothing) (name : String) :
    Simulates (Ahead setup earlier) (Option (List String))
      (deckIfAny (deckOf setup []) name) := by
  intro s u hahead found t hfound
  rcases deckIfAny_eq_ok.mp hfound with hs | ⟨rfl, kind, hs⟩
  · obtain ⟨v, hv, hstep, -⟩ := deckOf_ahead h hahead.grounded hahead.grounded' hs
    exact ⟨v, deckIfAny_eq_ok.mpr (Or.inl hv), hstep hahead⟩
  · obtain ⟨rfl, -⟩ := deckOf_wrongKind hs
    have hu := deckOf_wrongKind_again hs hahead.grows
    exact ⟨u, deckIfAny_eq_ok.mpr (Or.inr ⟨rfl, .deck, hu⟩), hahead⟩

/-- A text that names a parameter which is just another name, and known as no deck. -/
def Misled (setup : Setup) (m : Memo) (s : String) : Prop :=
  ∃ other v, setup.get? (normalize s) = some (.text other) ∧
    m.get? (normalize s) = some v ∧ Parameter.deck.kept? v = none

/-- A text that finds a deck, or none, in the game that is ahead finds it in the other as well,
unless it is misled by what was known earlier. -/
theorem deckIfAny_back (h : setup.DrawsNothing) {s : String} (hs : ¬ Misled setup earlier s) :
    Simulates (fun m' m => Ahead setup earlier m m') (Option (List String))
      (deckIfAny (deckOf setup []) (normalize s)) := by
  intro u r hahead found t hfound
  rcases deckIfAny_eq_ok.mp hfound with hu | ⟨rfl, kind, hu⟩
  · obtain ⟨v, hv, -, hstep⟩ := deckOf_ahead h hahead.grounded' hahead.grounded hu
    exact ⟨v, deckIfAny_eq_ok.mpr (Or.inl hv), hstep hahead⟩
  · obtain ⟨rfl, hcause⟩ := deckOf_wrongKind hu
    have hr : deckOf setup [] (normalize s) r = .error (.wrongKind (normalize s) .deck) r := by
      rw [deckOf_eq]
      rcases hcause with ⟨v, hv, hb⟩ | ⟨hm, d, hd, he⟩
      · cases hrm : r.memo.get? (normalize s) with
        | some w =>
          have same := hahead.kept _ w hrm
          rw [hv] at same
          cases same
          exact Parameter.lookUp_of_otherKind hrm hb
        | none =>
          -- Only an earlier memo knows it. There it is no deck, and no name of another.
          rcases hahead.grounded'.alias_or_unread hv hb with ⟨other, hother⟩ | ⟨d, hd, he⟩
          · rcases hahead.within _ v hv with hv | hv
            · rw [hrm] at hv
              cases hv
            · exact absurd ⟨other, v, hother, hv, hb⟩ hs
          · exact Parameter.lookUp_of_unread hrm List.not_mem_nil hd he
      · exact Parameter.lookUp_of_unread (hahead.kept.unknown hm) List.not_mem_nil hd he
    exact ⟨r, deckIfAny_eq_ok.mpr (Or.inr ⟨rfl, .deck, hr⟩), hahead⟩

end

/-! ## What matchers say -/

/-- Whether a matcher accepts a label where some parameters are known, if it does not fail. -/
def Matcher.verdict (setup : Setup) (m : Memo) (g : Generator) (matcher : Matcher)
    (label : String) : Option Bool :=
  match matcher.accepts (deckOf setup []) label ⟨m, g⟩ with
  | .ok b _ => some b
  | .error .. => none

namespace Matcher

variable {setup : Setup} {m : Memo} {g g' : Generator} {matcher : Matcher} {label : String}
  {b : Bool}

theorem verdict_eq_some :
    matcher.verdict setup m g label = some b ↔
      ∃ t, matcher.accepts (deckOf setup []) label ⟨m, g⟩ = .ok b t := by
  unfold verdict
  split
  · rename_i c t hc
    rw [hc]
    simp
  · rename_i hc
    rw [hc]
    simp

theorem verdict_forth (h : setup.DrawsNothing) (hm : Grounded setup m)
    (hb : matcher.verdict setup [] g label = some b) :
    matcher.verdict setup m g' label = some b := by
  rw [verdict_eq_some] at hb ⊢
  obtain ⟨t, ht⟩ := hb
  have simulates : Simulates (Ahead setup m) Bool (matcher.accepts (deckOf setup []) label) := by
    refine accepts_has Simulates.composes (fun name => ?_) (deckIfAny_forth h) label matcher
    intro s u hahead found t hs
    obtain ⟨v, hv, hstep, -⟩ := deckOf_ahead h hahead.grounded hahead.grounded' hs
    exact ⟨v, hv, hstep hahead⟩
  obtain ⟨v, hv, -⟩ := simulates ⟨[], g⟩ ⟨m, g'⟩ (Ahead.start hm) b t ht
  exact ⟨v, hv⟩

theorem verdict_back (h : setup.DrawsNothing) (hm : Grounded setup m)
    (htexts : ∀ s ∈ matcher.texts, ¬ Misled setup m s)
    (hb : matcher.verdict setup m g' label = some b) :
    matcher.verdict setup [] g label = some b := by
  rw [verdict_eq_some] at hb ⊢
  obtain ⟨t, ht⟩ := hb
  have simulates : Simulates (fun m' n => Ahead setup m n m') Bool
      (matcher.accepts (deckOf setup []) label) := by
    refine @accepts_related _ (deckOf setup []) (deckOf setup []) _ Simulates.composes.relates
      (fun name _ => ?_) label matcher (List.Subset.refl _)
      fun s hs _ => deckIfAny_back h (htexts s hs)
    intro u s hahead found t hu
    obtain ⟨v, hv, -, hstep⟩ := deckOf_ahead h hahead.grounded' hahead.grounded hu
    exact ⟨v, hv, hstep hahead⟩
  obtain ⟨v, hv, -⟩ := simulates ⟨m, g'⟩ ⟨[], g⟩ (Ahead.start hm) b t ht
  exact ⟨v, hv⟩

/-- A text that is misled counts as a part of labels. -/
theorem verdict_of_misled {s : String} (hs : Misled setup m s) :
    (Matcher.text s).verdict setup m g label =
      some (occursIn (normalize s).toList label.toList) := by
  obtain ⟨other, v, -, hv, hb⟩ := hs
  have hdeck : deckOf setup [] (normalize s) ⟨m, g⟩ =
      .error (.wrongKind (normalize s) .deck) ⟨m, g⟩ := by
    rw [deckOf_eq]
    exact Parameter.lookUp_of_otherKind hv hb
  have hany : deckIfAny (deckOf setup []) (normalize s) ⟨m, g⟩ = .ok none ⟨m, g⟩ :=
    deckIfAny_eq_ok.mpr (Or.inr ⟨rfl, .deck, hdeck⟩)
  rw [verdict_eq_some, accepts]
  exact ⟨⟨m, g⟩, Eval.bind_ok hany⟩

/-- The same text fails where nothing is known. The other name is resolved for it, and blamed. -/
theorem verdict_before_misled {s : String} (h : setup.DrawsNothing) (hm : Grounded setup m)
    (hs : Misled setup m s) : (Matcher.text s).verdict setup [] g label = none := by
  obtain ⟨other, v, hother, hv, hb⟩ := hs
  have hfails : ∀ found t, deckIfAny (deckOf setup []) (normalize s) ⟨[], g⟩ ≠ .ok found t := by
    intro found t hfound
    rcases deckIfAny_eq_ok.mp hfound with hdeck | ⟨-, kind, hdeck⟩
    · obtain ⟨-, again⟩ := deckOf_replays h _ ⟨[], g⟩ found t .start hdeck
      obtain ⟨t', ht', -⟩ := again ⟨m, g⟩ hm
      rw [deckOf_eq, Parameter.lookUp_of_otherKind hv hb] at ht'
      cases ht'
    · obtain ⟨-, ⟨w, hw, -⟩ | ⟨-, d, hd, hunread⟩⟩ := deckOf_wrongKind hdeck
      · cases hw
      · rw [hother] at hd
        cases hd
        cases hunread
  cases hverdict : (Matcher.text s).verdict setup [] g label with
  | none => rfl
  | some b =>
    obtain ⟨t, ht⟩ := verdict_eq_some.mp hverdict
    rw [accepts] at ht
    obtain ⟨found, r, hfound, -⟩ := Eval.exists_of_bind_ok ht
    exact absurd hfound (hfails found r)

end Matcher

/-- Where the parameters draw nothing, what a game has resolved changes the verdict of a matcher by
one kind of text only, a name of another name that is no deck. A verdict without what was resolved
stays with it; a matcher without such a text has the same verdict, or none, in both cases; and such
a text has no verdict at first and is searched in the label afterwards. -/
theorem only_a_name_of_a_name_tells_what_was_resolved_before (setup : Setup)
    (hsetup : setup.DrawsNothing) (m : Memo) (hm : Reached setup m) (matcher : Matcher)
    (label : String) (g g' : Generator) :
    (∀ b, matcher.verdict setup [] g label = some b → matcher.verdict setup m g' label = some b) ∧
      ((∀ s ∈ matcher.texts, ¬ Misled setup m s) →
        matcher.verdict setup m g' label = matcher.verdict setup [] g label) ∧
      ∀ s, Misled setup m s → (Matcher.text s).verdict setup [] g label = none ∧
        (Matcher.text s).verdict setup m g' label =
          some (occursIn (normalize s).toList label.toList) := by
  have grounded := hm.grounded hsetup
  refine ⟨fun b hb => Matcher.verdict_forth hsetup grounded hb, fun htexts => ?_, fun s hs => ?_⟩
  · cases hfresh : matcher.verdict setup [] g label with
    | some b => exact Matcher.verdict_forth hsetup grounded hfresh
    | none =>
      cases hlater : matcher.verdict setup m g' label with
      | none => rfl
      | some b =>
        rw [Matcher.verdict_back (g := g) hsetup grounded htexts hlater] at hfresh
        cases hfresh
  · exact ⟨Matcher.verdict_before_misled hsetup grounded hs, Matcher.verdict_of_misled hs⟩

/-- A setup in which one name stands for another, and that for a truth value. -/
def nameOfAName : Setup := ⟨[("a", .text "b"), ("b", .bool true)]⟩

/-- Both parameters, resolved. -/
def bothNamesKnown : Memo := [("a", .option true), ("b", .option true)]

theorem nameOfAName_drawsNothing : nameOfAName.DrawsNothing := by
  intro name d deck hd hdeck
  simp only [nameOfAName, Setup.get?, ByName.get?] at hd
  split at hd
  · cases hd
    cases hdeck
    rfl
  · split at hd
    · cases hd
      cases hdeck
    · cases hd

/-- Both are known after the first is asked for as a truth value. -/
theorem bothNamesKnown_reached : Reached nameOfAName bothNamesKnown := by
  have inner : flagOf nameOfAName ["a"] "b" [] = .ok true [("b", .option true)] := by
    rw [flagOf_eq]
    rfl
  have outer : flagOf nameOfAName [] "a" [] = .ok true bothNamesKnown := by
    have hlook : Parameter.flag.lookUp nameOfAName []
        (fun f => f.eval (flagOf nameOfAName ([] ++ ["a"]))) "a" [] =
          .ok (some true) bothNamesKnown := by
      have hdoc : nameOfAName.get? "a" = some (.text "b") := rfl
      have hread : Parameter.flag.read (.text "b") = some (.param "b") := rfl
      have hname : normalize "b" = "b" := by decide
      have hother : (Flag.param "b").eval (flagOf nameOfAName ([] ++ ["a"])) [] =
          .ok true [("b", .option true)] := by
        rw [Flag.eval, hname]
        exact inner
      exact Parameter.lookUp_of_resolved rfl List.not_mem_nil hdoc hread hother
    rw [flagOf_eq, Eval.bind_ok hlook]
    rfl
  refine ⟨[(.ask (.flag (.param "a")), .ofSeed 1)], ?_⟩
  have hask : (Question.flag (.param "a")).answer (.of nameOfAName) ⟨[], .ofSeed 1⟩ =
      .ok (.truth true) ⟨bothNamesKnown, .ofSeed 1⟩ := by
    have heval : Eval.onMemo ((Flag.param "a").eval (flagOf nameOfAName [])) ⟨[], .ofSeed 1⟩ =
        .ok true ⟨bothNamesKnown, .ofSeed 1⟩ := by
      have hname : normalize "a" = "a" := by decide
      simp only [Eval.onMemo, Flag.eval, hname, outer]
    exact Eval.bind_ok heval
  simp only [Memo.after, Request.fulfil, hask, Eval.left]

/-- The name that is stood for is no name of a name. Its verdict is the same before and after. -/
theorem a_name_of_a_value_has_one_verdict :
    nameOfAName.DrawsNothing ∧ Reached nameOfAName bothNamesKnown ∧
      (∀ s ∈ (Matcher.text "b").texts, ¬ Misled nameOfAName bothNamesKnown s) ∧
      (Matcher.text "b").verdict nameOfAName bothNamesKnown (.ofSeed 1) "box" =
        (Matcher.text "b").verdict nameOfAName [] (.ofSeed 1) "box" := by
  have notMisled : ∀ s ∈ (Matcher.text "b").texts, ¬ Misled nameOfAName bothNamesKnown s := by
    intro s hs
    rw [Matcher.texts, List.mem_singleton] at hs
    subst hs
    rintro ⟨other, v, hother, -⟩
    have hname : normalize "b" = "b" := by decide
    rw [hname] at hother
    cases hother
  exact ⟨nameOfAName_drawsNothing, bothNamesKnown_reached, notMisled,
    (only_a_name_of_a_name_tells_what_was_resolved_before nameOfAName nameOfAName_drawsNothing
      bothNamesKnown bothNamesKnown_reached (.text "b") "box" (.ofSeed 1) (.ofSeed 1)).2.1
        notMisled⟩

/-- The name of a name fails as a text while nothing is known. Once it is known it is searched in
the label, so what was resolved before can be told. -/
theorem a_name_of_a_name_fails_until_it_is_known :
    nameOfAName.DrawsNothing ∧ Reached nameOfAName bothNamesKnown ∧
      (Matcher.text "a").verdict nameOfAName [] (.ofSeed 1) "x" = none ∧
      (Matcher.text "a").verdict nameOfAName bothNamesKnown (.ofSeed 1) "x" = some false := by
  have misled : Misled nameOfAName bothNamesKnown "a" := by
    refine ⟨"b", .option true, ?_, ?_, rfl⟩
    · have hname : normalize "a" = "a" := by decide
      rw [hname]
      rfl
    · decide
  have grounded := bothNamesKnown_reached.grounded nameOfAName_drawsNothing
  refine ⟨nameOfAName_drawsNothing, bothNamesKnown_reached, ?_, ?_⟩
  · exact Matcher.verdict_before_misled nameOfAName_drawsNothing grounded misled
  · rw [Matcher.verdict_of_misled misled]
    decide

end Dealer
