-- What a rule finds out. An evaluation that succeeds ensures something of its
-- result, and of every state of the game from then on, because answers stand. So
-- what a rule tells is said by the answers that stand when the rule is done.
import Dealer.Proofs.Answers
import Dealer.Proofs.Meaning
import Mathlib.Data.List.Perm.Subperm
import Dealer.Play

namespace Dealer

variable {setup : Setup}

/-! ## What an evaluation ensures -/

/-- Outside every chain, a result that an evaluation gives has a property, and has it in all states
whose memo has grown from the one that was left. -/
structure Ensures (setup : Setup) {α : Type} (x : Eval Run α) (Q : Run → α → Prop) : Prop where
  tidy : Tidy setup [] α x
  holds : ∀ run a left, x run = .ok a left → ∀ final, Grows setup [] left.memo final.memo →
    Q final a

namespace Ensures

variable {α β : Type} {x : Eval Run α} {Q : Run → α → Prop}

theorem pure {a : α} (h : ∀ final, Q final a) : Ensures setup (pure a) Q := by
  refine ⟨Tidy.composes.pure a, fun run b left hb final _ => ?_⟩
  cases hb
  exact h final

/-- What follows in a sequence may use what its first part ensures. -/
theorem bind {f : α → Eval Run β} {R : Run → β → Prop} (hx : Ensures setup x Q)
    (hf : ∀ a, Ensures setup (f a) fun final b => Q final a → R final b) :
    Ensures setup (x >>= f) R := by
  refine ⟨Tidy.composes.bind hx.tidy fun a => (hf a).tidy, fun run b left h final hg => ?_⟩
  obtain ⟨a, between, ha, hb⟩ := Eval.exists_of_bind_ok h
  -- What comes after the first part lets the memo grow, too.
  have grown := ((hf a).tidy.grows_ok hb).trans hg
  exact (hf a).holds between b left hb final hg (hx.holds run a between ha final grown)

/-- Both branches of a choice may be followed by the same. -/
theorem bind_ite {p : Prop} [Decidable p] {y : Eval Run α} {f : α → Eval Run β}
    {R : Run → β → Prop} (h : Ensures setup (if p then x else y) Q)
    (hf : ∀ a, Ensures setup (f a) fun final b => Q final a → R final b) :
    Ensures setup (if p then x >>= f else y >>= f) R := by
  by_cases hp : p
  · rw [if_pos hp] at h ⊢
    exact h.bind hf
  · rw [if_neg hp] at h ⊢
    exact h.bind hf

theorem mono {R : Run → α → Prop} (hx : Ensures setup x Q)
    (h : ∀ final a, Q final a → R final a) : Ensures setup x R :=
  ⟨hx.tidy, fun run a left ha final hg => h final a (hx.holds run a left ha final hg)⟩

/-- Whatever the generator is, what is drawn has the property. -/
theorem draw {x : Generator → α × Generator} (h : ∀ g final, Q final (x g).1) :
    Ensures setup (Eval.draw x) Q := by
  refine ⟨Tidy.draw x, fun run a left ha final _ => ?_⟩
  obtain ⟨rfl, _⟩ := Eval.draw_ok ha
  exact h run.generator final

/-- A result that stands is the result in every later state. -/
theorem of_stands (hx : Stands setup [] α x) :
    Ensures setup x fun final a => x final = .ok a final :=
  ⟨hx.tidy, hx.again⟩

/-- What is ensured holds where the evaluation ends. -/
theorem at_end (hx : Ensures setup x Q) {run left : Run} {a : α} (h : x run = .ok a left) :
    Q left a :=
  hx.holds run a left h left (Grows.refl _)

end Ensures

/-- A list with one item more, if a verdict says so. -/
theorem mem_cons_if {α : Type} {b : Bool} {a item : α} {items : List α} :
    a ∈ (if b then item :: items else items) ↔ (b = true ∧ a = item) ∨ a ∈ items := by
  cases b <;> simp

/-! ## Matchers, flags and limits -/

/-- A matcher accepts a card, by the answers that stand. -/
def Accepts (setup : Setup) (m : Matcher) (card : String) (run : Run) : Prop :=
  m.accepts (deckOf setup []) card run = .ok true run

theorem accepts_stands (setup : Setup) (m : Matcher) (card : String) :
    Stands setup [] Bool (m.accepts (deckOf setup []) card) :=
  Matcher.accepts_has Stands.composes (deckOf_stands setup []) (deckIfAny_stands setup) card m

theorem accepts_iff_of_verdict {m : Matcher} {card : String} {b : Bool} {run : Run}
    (h : m.accepts (deckOf setup []) card run = .ok b run) :
    Accepts setup m card run ↔ b = true := by
  unfold Accepts
  rw [h]
  simp

theorem accepts_ensures (setup : Setup) (m : Matcher) (card : String) :
    Ensures setup (m.accepts (deckOf setup []) card) fun final b =>
      Accepts setup m card final ↔ b = true :=
  (Ensures.of_stands (accepts_stands setup m card)).mono fun _ _ => accepts_iff_of_verdict

theorem flagOr_stands (setup : Setup) (fallback : Bool) (f : Option Flag) :
    Stands setup [] Bool (flagOr (.of setup) fallback f) := by
  apply Stands.onMemo
  cases f with
  | none => exact Stands.composes.pure fallback
  | some f => exact Flag.eval_has Stands.composes (flagOf_stands setup []) f

theorem limitOf_stands (setup : Setup) (q : Option Quantity) :
    Stands setup [] (Option Nat) (limitOf (.of setup) q) := by
  cases q with
  | none => exact Stands.composes.pure none
  | some q =>
    apply Stands.composes.bind
      (Quantity.count_has Stands.composes (numberOf_stands setup []) .limit q).onMemo
    intro n
    exact Eval.Composes.ite (Stands.composes.throw rfl) (Stands.composes.pure _)

/-! ## Selections -/

/-- A selection among the things of a kind. All are of the kind, none comes twice, and they are all
there are, or as many of them as a limit allows. -/
structure Selection {α : Type} (kind : α → Prop) (limit : Option Nat) (chosen : List α) : Prop where
  nodup : chosen.Nodup
  of_kind : ∀ a ∈ chosen, kind a
  size : ∃ all : List α, all.Nodup ∧ (∀ a, a ∈ all ↔ kind a) ∧
    chosen.length = limit.elim all.length fun n => min n all.length

/-- Without a limit everything of the kind is selected. -/
theorem Selection.mem_iff {α : Type} {kind : α → Prop} {chosen : List α}
    (h : Selection kind none chosen) (a : α) : a ∈ chosen ↔ kind a := by
  obtain ⟨all, _, hall, hsize⟩ := h.size
  have within : chosen ⊆ all := fun b hb => (hall b).mpr (h.of_kind b hb)
  have perm : chosen.Perm all :=
    (h.nodup.subperm within).perm_of_length_le (Nat.le_of_eq hsize.symm)
  rw [perm.mem_iff, hall]

theorem shuffled_ensures {α : Type} (items : List α) :
    Ensures setup (shuffled items) fun _ order => order.Perm items :=
  Ensures.draw fun g _ => Generator.shuffle_perm items g

/-- What is kept of different entries: different ones, as many as there are or as the limit
allows. -/
theorem fit_ensures {entries : List Entry} (hentries : entries.Nodup) (limit : Option Nat) :
    Ensures setup (fit entries limit) fun _ kept =>
      kept.Nodup ∧ kept ⊆ entries ∧
        kept.length = limit.elim entries.length fun n => min n entries.length := by
  cases limit with
  | none =>
    apply (shuffled_ensures entries).mono
    intro final kept hperm
    exact ⟨hperm.nodup_iff.mpr hentries, hperm.subset, hperm.length_eq⟩
  | some n =>
    have choice : Ensures setup (chooseUpTo entries n) fun _ chosen =>
        Generator.Chosen entries (min n entries.length) chosen :=
      Ensures.draw fun g _ => Generator.sample_chosen entries n g
    apply choice.bind
    intro chosen
    apply (shuffled_ensures chosen).mono
    intro final kept hperm hchosen
    refine ⟨hperm.nodup_iff.mpr (hchosen.nodup hentries), ?_, hperm.length_eq.trans hchosen.length⟩
    exact fun e he => hchosen.subset e (hperm.subset he)

/-- Of entries that were found, each once, a selection is kept. -/
theorem fit_distinct_ensures {found : List Entry} (limit : Option Nat) :
    Ensures setup (fit (distinct found) limit) fun _ kept =>
      ∀ kind : Entry → Prop, (∀ e, e ∈ found ↔ kind e) → Selection kind limit kept := by
  apply (fit_ensures (nodup_distinct found) limit).mono
  rintro final kept ⟨hnodup, hsubset, hlength⟩ kind hfound
  have all (e : Entry) : e ∈ distinct found ↔ kind e := by
    rw [mem_distinct, hfound]
  exact ⟨hnodup, fun e he => (all e).mp (hsubset he), distinct found, nodup_distinct found, all,
    hlength⟩

/-- One entry is told as it is, and nothing is drawn for it. -/
theorem fit_one (e : Entry) (run : Run) : fit (distinct [e]) none run = .ok [e] run := by
  rw [distinct_of_nodup (List.pairwise_singleton _ e)]
  rfl

end Dealer
