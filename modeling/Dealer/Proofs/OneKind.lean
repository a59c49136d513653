-- At most one kind. A document that is no text describes a number, a flag or a
-- deck. A text names another parameter, so a chain of names has the kind that it
-- ends in: a document that is no text has one, a missing name counts as a label
-- only, and a circle has none.
import Dealer.Proofs.Answers
import Dealer.Proofs.Kinds

namespace Dealer

/-! ## What documents describe -/

/-- A document describes an expression of a kind: it can be read as one. -/
def Document.Describes (d : Document) : Kind → Prop
  | .number => (Quantity.ofDocument? d).isSome
  | .option => (Flag.ofDocument? d).isSome
  | .deck => (Deck.ofDocument? d).isSome

/-- A document that describes expressions of two kinds is a text. -/
theorem Document.Describes.eq_or_text {d : Document} {k k' : Kind} (h : d.Describes k)
    (h' : d.Describes k') : k = k' ∨ ∃ s, d = .text s := by
  cases k <;> cases k' <;> first
    | exact Or.inl rfl
    | (obtain ⟨e, he⟩ := Option.isSome_iff_exists.mp h
       obtain ⟨e', he'⟩ := Option.isSome_iff_exists.mp h')
  · exact Or.inr (Document.text_of_number_of_flag he he')
  · exact Or.inr (Document.text_of_number_of_deck he he')
  · exact Or.inr (Document.text_of_number_of_flag he' he)
  · exact Or.inr (Document.text_of_flag_of_deck he he')
  · exact Or.inr (Document.text_of_number_of_deck he' he)
  · exact Or.inr (Document.text_of_flag_of_deck he' he)

/-! ## Names resolved afresh -/

/-- The request for what a name stands for in a kind. -/
def Request.ofName (name : String) : Kind → Request
  | .number => .ask (.quantity (.param name))
  | .option => .ask (.flag (.param name))
  | .deck => .build (.label name)

/-- A name can be resolved in a kind behind a chain, where nothing is known yet. -/
def ResolvesAs (setup : Setup) (chain : Chain) (name : String) : Kind → Prop
  | .number => ∃ x m, numberOf setup chain name [] = .ok x m
  | .option => ∃ b m, flagOf setup chain name [] = .ok b m
  | .deck => ∃ g found t, deckOf setup chain name (.start g) = .ok found t

section

variable {setup : Setup} {chain : Chain} {name : String} {σ ε β : Type} [Remembers σ]

/-- Where nothing is known, a look-up that succeeds finds no parameter, or resolves the document
of one. -/
theorem Parameter.lookUp_afresh {p : Parameter ε β} {resolve : ε → Eval σ β} {s t : σ}
    {found : Option β} (hs : memo s = [])
    (h : p.lookUp setup chain resolve name s = .ok found t) :
    (setup.get? name = none ∧ found = none) ∨
      ∃ d e b u, Fresh setup chain name ∧ setup.get? name = some d ∧ p.read d = some e ∧
        resolve e s = .ok b u := by
  cases Parameter.looksUp h with
  | known hv hb =>
    rw [hs] at hv
    cases hv
  | absent hm hc hd => exact Or.inl ⟨hd, rfl⟩
  | resolved hm hf hd he hb => exact Or.inr ⟨_, _, _, _, hf, hd, he, hb⟩

/-- The same where the parameter must be there. -/
theorem Parameter.lookUp_afresh_of_defined {p : Parameter ε β} {resolve : ε → Eval σ β} {s t : σ}
    {b : β} (hs : memo s = [])
    (h : (p.lookUp setup chain resolve name >>= Parameter.orUndefined name) s = .ok b t) :
    ∃ d e b u, Fresh setup chain name ∧ setup.get? name = some d ∧ p.read d = some e ∧
      resolve e s = .ok b u := by
  obtain ⟨found, u, hfound, hdefined⟩ := Eval.exists_of_bind_ok h
  rcases Parameter.lookUp_afresh hs hfound with ⟨-, rfl⟩ | hd
  · cases hdefined
  · exact hd

/-- A name that can be resolved in a kind is missing and a label, or its document describes that
kind. Where the document is a text, the name in it can be resolved in the same kind, one step
further on the way. -/
theorem ResolvesAs.origin {k : Kind} (h : ResolvesAs setup chain name k) :
    (setup.get? name = none ∧ k = .deck) ∨
      ∃ d, Fresh setup chain name ∧ setup.get? name = some d ∧ d.Describes k ∧
        ∀ other, d = .text other → ResolvesAs setup (chain ++ [name]) (normalize other) k := by
  cases k with
  | number =>
    obtain ⟨x, m, hx⟩ := h
    rw [numberOf_eq] at hx
    obtain ⟨d, q, y, u, hf, hd, hq, hy⟩ := Parameter.lookUp_afresh_of_defined rfl hx
    refine Or.inr ⟨d, hf, hd, Option.isSome_of_eq_some hq, ?_⟩
    rintro other rfl
    cases hq
    rw [Quantity.eval] at hy
    exact ⟨y, u, hy⟩
  | option =>
    obtain ⟨b, m, hb⟩ := h
    rw [flagOf_eq] at hb
    obtain ⟨d, f, c, u, hf, hd, hread, hc⟩ := Parameter.lookUp_afresh_of_defined rfl hb
    refine Or.inr ⟨d, hf, hd, Option.isSome_of_eq_some hread, ?_⟩
    rintro other rfl
    cases hread
    rw [Flag.eval] at hc
    exact ⟨c, u, hc⟩
  | deck =>
    obtain ⟨g, found, t, hfound⟩ := h
    rw [deckOf_eq] at hfound
    rcases Parameter.lookUp_afresh rfl hfound with ⟨hd, -⟩ | ⟨d, deck, cards, u, hf, hd, hread, hu⟩
    · exact Or.inl ⟨hd, rfl⟩
    · refine Or.inr ⟨d, hf, hd, Option.isSome_of_eq_some hread, ?_⟩
      rintro other rfl
      cases hread
      rw [Deck.build, cardsOf] at hu
      obtain ⟨inner, v, hinner, -⟩ := Eval.exists_of_bind_ok hu
      exact ⟨g, inner, v, hinner⟩

end

/-- A name can be resolved in one kind at most, behind any chain. The induction follows the names
of other names; a chain of them cannot come back, as it resolves fresh names only. -/
theorem ResolvesAs.unique {setup : Setup} {chain : Chain} {name : String} {k k' : Kind}
    (h : ResolvesAs setup chain name k) (h' : ResolvesAs setup chain name k') : k = k' := by
  induction chain using chain_induction setup generalizing name with
  | step chain ih =>
    rcases h.origin with ⟨hd, rfl⟩ | ⟨d, hf, hd, hk, further⟩
    · rcases h'.origin with ⟨-, rfl⟩ | ⟨d', -, hd', -, -⟩
      · rfl
      · rw [hd] at hd'
        cases hd'
    · rcases h'.origin with ⟨hnone, -⟩ | ⟨d', -, hd', hk', further'⟩
      · rw [hd] at hnone
        cases hnone
      · rw [hd] at hd'
        cases hd'
        rcases hk.eq_or_text hk' with heq | ⟨other, hother⟩
        · exact heq
        · exact ih name hf (further other hother) (further' other hother)

/-- A request for a name that succeeds resolves the name in its kind. -/
theorem ResolvesAs.of_request {setup : Setup} {name : String} {k : Kind} {g : Generator}
    {a : Answer} {t : Run}
    (h : (Request.ofName name k).fulfil (.of setup) (.start g) = .ok a t) :
    ResolvesAs setup [] (normalize name) k := by
  cases k with
  | number =>
    obtain ⟨x, u, hx, -⟩ := Eval.exists_of_bind_ok h
    rw [Quantity.eval] at hx
    unfold Eval.onMemo at hx
    split at hx
    · rename_i y m hy
      exact ⟨y, m, hy⟩
    · cases hx
  | option =>
    obtain ⟨b, u, hb, -⟩ := Eval.exists_of_bind_ok h
    rw [Flag.eval] at hb
    unfold Eval.onMemo at hb
    split at hb
    · rename_i c m hc
      exact ⟨c, m, hc⟩
    · cases hb
  | deck =>
    obtain ⟨cards, u, hcards, -⟩ := Eval.exists_of_bind_ok h
    rw [Deck.build, cardsOf] at hcards
    obtain ⟨found, v, hfound, -⟩ := Eval.exists_of_bind_ok hcards
    exact ⟨g, found, v, hfound⟩

/-- Every parameter has one kind at most. A document that describes expressions of two kinds is a
text. And a name that is resolved in two kinds, both times at the start of a game and with any
generator, succeeds in both only where the kinds are the same, however many names of other names
it goes through. -/
theorem a_parameter_has_one_kind_at_most :
    (∀ (d : Document) (k k' : Kind), d.Describes k → d.Describes k' → k ≠ k' →
      ∃ s, d = .text s) ∧
    ∀ (setup : Setup) (name : String) (k k' : Kind) (g g' : Generator) (a a' : Answer)
      (t t' : Run), (Request.ofName name k).fulfil (.of setup) (.start g) = .ok a t →
        (Request.ofName name k').fulfil (.of setup) (.start g') = .ok a' t' → k = k' := by
  refine ⟨fun d k k' h h' hne => ?_, fun setup name k k' g g' a a' t t' h h' => ?_⟩
  · rcases h.eq_or_text h' with heq | htext
    · exact absurd heq hne
    · exact htext
  · exact (ResolvesAs.of_request h).unique (ResolvesAs.of_request h')

/-- A setup in which one name stands for another, and that for a truth value. -/
def nameOfATruth : Setup := ⟨[("a", .text "b"), ("b", .bool true)]⟩

/-- The name of a truth value is no deck, and neither is a list of labels a number. -/
theorem a_name_of_a_truth_is_no_deck :
    (Request.ofName "a" .option).fulfil (.of nameOfATruth) (.start twoWords) =
        .ok (.truth true) ⟨[("a", .option true), ("b", .option true)], twoWords⟩ ∧
      (∀ g a t, (Request.ofName "a" .deck).fulfil (.of nameOfATruth) (.start g) ≠ .ok a t) ∧
        (Document.list [.text "x"]).Describes .deck ∧
          ¬ (Document.list [.text "x"]).Describes .number := by
  have htruth : (Request.ofName "a" .option).fulfil (.of nameOfATruth) (.start twoWords) =
      .ok (.truth true) ⟨[("a", .option true), ("b", .option true)], twoWords⟩ := by
    decide +kernel
  refine ⟨htruth, fun g a t h => ?_, rfl, fun hnumber => ?_⟩
  · cases a_parameter_has_one_kind_at_most.2 nameOfATruth "a" _ _ twoWords g _ a _ t htruth h
  · obtain ⟨s, hs⟩ := a_parameter_has_one_kind_at_most.1 (.list [.text "x"]) .deck .number rfl
      hnumber (by decide)
    cases hs

end Dealer
