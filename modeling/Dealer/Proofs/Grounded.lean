-- Memos that were worked out. Where the parameters draw nothing, every known value
-- follows from its document and the values that were known before it. So it does
-- not matter in which order, or how deep inside what, a value was worked out: two
-- such memos never disagree about a name.
import Dealer.Proofs.Growth
import Dealer.Proofs.Kinds

namespace Dealer

/-! ## Reading what is known -/

/-- The value of a parameter, if it is known. Nothing is resolved. -/
def Parameter.retrieve {σ ε β : Type} [Remembers σ] (p : Parameter ε β) (setup : Setup)
    (name : String) : Eval σ (Option β) := fun s =>
  match (memo s).get? name with
  | some v =>
    match p.kept? v with
    | some b => .ok (some b) s
    | none => .error (.wrongKind name p.kind) s
  | none => if setup.contains name then .error (.undefined name) s else .ok none s

/-- What names stand for where only what is known counts. -/
def Names.known (setup : Setup) : Names where
  number name := Parameter.number.retrieve setup name >>= Parameter.orUndefined name
  flag name := Parameter.flag.retrieve setup name >>= Parameter.orUndefined name
  deck := Parameter.deck.retrieve setup

theorem Setup.contains_eq_false {setup : Setup} {name : String} :
    setup.contains name = false ↔ setup.get? name = none := by
  rw [Setup.contains, ByName.has, Option.isSome_eq_false_iff, Option.isNone_iff_eq_none, Setup.get?]

namespace Parameter

variable {σ ε β : Type} [Remembers σ] {p : Parameter ε β} {setup : Setup} {name : String} {s : σ}

theorem retrieve_of_known {v : Resolved} {b : β} (hv : (memo s).get? name = some v)
    (hb : p.kept? v = some b) : p.retrieve setup name s = .ok (some b) s := by
  simp only [retrieve, hv, hb]

theorem retrieve_of_absent (hm : (memo s).get? name = none) (hs : setup.get? name = none) :
    p.retrieve setup name s = .ok none s := by
  simp [retrieve, hm, Setup.contains_eq_false.mpr hs]

/-- What is retrieved is known, or no parameter has the name. Retrieving changes nothing. -/
theorem retrieve_ok {found : Option β} {t : σ} (h : p.retrieve setup name s = .ok found t) :
    t = s ∧ ((∃ v b, (memo s).get? name = some v ∧ p.kept? v = some b ∧ found = some b) ∨
      ((memo s).get? name = none ∧ setup.get? name = none ∧ found = none)) := by
  unfold retrieve at h
  split at h
  · rename_i v hv
    split at h
    · rename_i b hb
      cases h
      exact ⟨rfl, Or.inl ⟨v, b, hv, hb, rfl⟩⟩
    · cases h
  · rename_i hv
    split at h
    · cases h
    · rename_i hnot
      cases h
      rw [Bool.not_eq_true, Setup.contains_eq_false] at hnot
      exact ⟨rfl, Or.inr ⟨hv, hnot, rfl⟩⟩

/-- A parameter that must be there and is retrieved is known. -/
theorem known_of_retrieve_orUndefined {b : β} {t : σ}
    (h : (p.retrieve setup name >>= orUndefined name) s = .ok b t) :
    ∃ v, (memo s).get? name = some v ∧ p.kept? v = some b := by
  obtain ⟨found, r, hfound, hrest⟩ := Eval.exists_of_bind_ok h
  obtain ⟨rfl, ⟨v, c, hv, hc, rfl⟩ | ⟨-, -, rfl⟩⟩ := retrieve_ok hfound
  · cases hrest
    exact ⟨v, hv, hc⟩
  · cases hrest

end Parameter

/-! ## Values that follow from a document -/

/-- A value follows from a document and what is known. A deck is one that draws nothing. -/
def Yields (setup : Setup) (m : Memo) (d : Document) : Resolved → Prop
  | .number x => ∃ q, Quantity.ofDocument? d = some q ∧
      q.eval (Names.known setup).number m = .ok x m
  | .option b => ∃ f, Flag.ofDocument? d = some f ∧ f.eval (Names.known setup).flag m = .ok b m
  | .deck cards => ∃ deck, Deck.ofDocument? d = some deck ∧ deck.draws = false ∧
      ∀ g, deck.build (.known setup) ⟨m, g⟩ = .ok cards ⟨m, g⟩

/-- A memo that was worked out value by value: each follows from the document of its parameter and
the values that were known before. -/
inductive Grounded (setup : Setup) : Memo → Prop
  | start : Grounded setup []
  | put {m : Memo} {name : String} {d : Document} {v : Resolved} (h : Grounded setup m)
      (hm : m.get? name = none) (hd : setup.get? name = some d) (hv : Yields setup m d v) :
      Grounded setup (m.put name v)

/-- What one memo knows the other knows as well. -/
def Kept (m m' : Memo) : Prop := ∀ name v, m.get? name = some v → m'.get? name = some v

theorem Kept.refl (m : Memo) : Kept m m := fun _ _ h => h

theorem Kept.trans {m m' m'' : Memo} (h : Kept m m') (h' : Kept m' m'') : Kept m m'' :=
  fun name v hv => h' name v (h name v hv)

/-- What the one that knows more does not know the other does not know. -/
theorem Kept.unknown {m m' : Memo} {name : String} (h : Kept m m') (hm : m'.get? name = none) :
    m.get? name = none := by
  cases hv : m.get? name with
  | none => rfl
  | some v =>
    rw [h name v hv] at hm
    cases hm

theorem Kept.put {m : Memo} {name : String} (hm : m.get? name = none) (v : Resolved) :
    Kept m (m.put name v) := by
  intro other w hw
  rw [ByName.get?_put_of_ne _ v m]
  · exact hw
  · rintro rfl
    rw [hm] at hw
    cases hw

namespace Grounded

variable {setup : Setup} {m m' : Memo} {name : String} {v w : Resolved}

/-- Only parameters of the setup are known. -/
theorem named (h : Grounded setup m) (hv : m.get? name = some v) : setup.get? name ≠ none := by
  induction h with
  | start => cases hv
  | @put m other d w hm hnone hd hw ih =>
    rw [ByName.get?_put] at hv
    split at hv
    · rename_i heq
      rw [heq, hd]
      simp
    · exact ih hv

theorem unknown (h : Grounded setup m) (hs : setup.get? name = none) : m.get? name = none := by
  cases hv : m.get? name with
  | none => rfl
  | some v => exact absurd hs (h.named hv)

/-- Every known value follows from values that were known before it. -/
theorem origin (h : Grounded setup m) (hv : m.get? name = some v) :
    ∃ before d, Grounded setup before ∧ Kept before m ∧ before.get? name = none ∧
      setup.get? name = some d ∧ Yields setup before d v := by
  induction h with
  | start => cases hv
  | @put m other d w hm hnone hd hw ih =>
    rw [ByName.get?_put] at hv
    split at hv
    · rename_i heq
      cases hv
      rw [heq]
      exact ⟨m, d, hm, Kept.put hnone _, hnone, hd, hw⟩
    · obtain ⟨before, d', hbefore, hkept, hnew, hd', hyields⟩ := ih hv
      exact ⟨before, d', hbefore, hkept.trans (Kept.put hnone _), hnew, hd', hyields⟩

end Grounded

/-! ## One value to a name -/

/-- Two memos that know the same value wherever both know one, and only parameters. -/
structure Agree (setup : Setup) (m m' : Memo) : Prop where
  same : ∀ name v w, m.get? name = some v → m'.get? name = some w → v = w
  named : ∀ name v, m.get? name = some v → setup.get? name ≠ none
  named' : ∀ name v, m'.get? name = some v → setup.get? name ≠ none

/-- On two memos, both evaluations give the same value where both give one, and both leave the
state as it is. -/
def Determined {σ : Type} [Remembers σ] (m m' : Memo) (α : Type) (x y : Eval σ α) : Prop :=
  ∀ s u a b t r, memo s = m → memo u = m' → x s = .ok a t → y u = .ok b r → a = b ∧ t = s ∧ r = u

namespace Determined

variable {σ ε β : Type} [Remembers σ] {setup : Setup} {m m' : Memo}

theorem relates : Eval.Relates (Determined (σ := σ) m m') where
  pure a := by
    intro s u b c t r _ _ hs hu
    cases hs
    cases hu
    exact ⟨rfl, rfl, rfl⟩
  throw _ := by
    intro s u b c t r _ _ hs
    cases hs
  bind := by
    intro α β x y f g hx hf s u b c t r hs hu hxs hyu
    obtain ⟨a, s', hxs, hfs⟩ := Eval.exists_of_bind_ok hxs
    obtain ⟨a', u', hyu, hgu⟩ := Eval.exists_of_bind_ok hyu
    obtain ⟨rfl, rfl, rfl⟩ := hx s u a a' s' u' hs hu hxs hyu
    exact hf a _ _ b c t r hs hu hfs hgu

theorem onMemo {α : Type} {x y : Eval Memo α} (h : Determined m m' α x y) :
    Determined m m' α (Eval.onMemo x) (Eval.onMemo y) := by
  intro s u a b t r hs hu hxs hyu
  unfold Eval.onMemo at hxs hyu
  split at hxs
  · rename_i a' n hx
    split at hyu
    · rename_i b' n' hy
      cases hxs
      cases hyu
      obtain ⟨rfl, rfl, rfl⟩ := h _ _ _ _ _ _ hs hu hx hy
      exact ⟨rfl, rfl, rfl⟩
    · cases hyu
  · cases hxs

theorem retrieve (p : Parameter ε β) (h : Agree setup m m') (name : String) :
    Determined (σ := σ) m m' (Option β) (p.retrieve setup name) (p.retrieve setup name) := by
  intro s u a b t r hs hu hxs hyu
  obtain ⟨rfl, hknown | ⟨hnone, habsent, rfl⟩⟩ := Parameter.retrieve_ok hxs
  · obtain ⟨v, c, hv, hc, rfl⟩ := hknown
    rw [hs] at hv
    obtain ⟨rfl, hknown' | ⟨-, habsent, -⟩⟩ := Parameter.retrieve_ok hyu
    · obtain ⟨w, c', hw, hc', rfl⟩ := hknown'
      rw [hu] at hw
      cases h.same name v w hv hw
      rw [hc] at hc'
      exact ⟨hc', rfl, rfl⟩
    · exact absurd habsent (h.named name v hv)
  · obtain ⟨rfl, hknown' | ⟨-, -, rfl⟩⟩ := Parameter.retrieve_ok hyu
    · obtain ⟨w, c', hw, -, -⟩ := hknown'
      rw [hu] at hw
      exact absurd habsent (h.named' name w hw)
    · exact ⟨rfl, rfl, rfl⟩

theorem orUndefined (name : String) (found : Option β) :
    Determined (σ := σ) m m' β (Parameter.orUndefined name found)
      (Parameter.orUndefined name found) := by
  cases found with
  | some b => exact relates.pure b
  | none =>
    intro s u b c t r _ _ hs
    cases hs

theorem number (h : Agree setup m m') (q : Quantity) :
    Determined (σ := Memo) m m' Float (q.eval (Names.known setup).number)
      (q.eval (Names.known setup).number) :=
  Quantity.eval_related relates
    (fun s _ => relates.bind (retrieve _ h (normalize s)) (orUndefined _)) q (List.Subset.refl _)

theorem flag (h : Agree setup m m') (f : Flag) :
    Determined (σ := Memo) m m' Bool (f.eval (Names.known setup).flag)
      (f.eval (Names.known setup).flag) :=
  Flag.eval_related relates
    (fun s _ => relates.bind (retrieve _ h (normalize s)) (orUndefined _)) f (List.Subset.refl _)

theorem deck (h : Agree setup m m') {d : Deck} (hd : d.draws = false) :
    Determined (σ := Run) m m' (List String) (d.build (.known setup)) (d.build (.known setup)) := by
  refine Deck.build_related relates ⟨fun what q _ => ?_, fun f _ => ?_, fun s _ => ?_⟩ d
    (List.Subset.refl _) fun hdraws => ?_
  · refine onMemo (relates.bind (number h q) fun x => relates.ofExcept fun _ => toCount_error)
  · exact onMemo (flag h f)
  · exact retrieve _ h (normalize s)
  · rw [hd] at hdraws
    cases hdraws

end Determined

/-- What a text stands for is what is known of the name, or a card where no parameter has it. -/
theorem Yields.of_text {setup : Setup} {m : Memo} {s : String} {v : Resolved}
    (h : Yields setup m (.text s) v) :
    m.get? (normalize s) = some v ∨
      (setup.get? (normalize s) = none ∧ v = .deck [normalize s]) := by
  cases v with
  | number x =>
    obtain ⟨q, hq, hx⟩ := h
    cases hq
    rw [Quantity.eval] at hx
    obtain ⟨w, hw, hkept⟩ := Parameter.known_of_retrieve_orUndefined hx
    rw [← Parameter.number_of_kept? hkept]
    exact Or.inl hw
  | option b =>
    obtain ⟨f, hf, hb⟩ := h
    cases hf
    rw [Flag.eval] at hb
    obtain ⟨w, hw, hkept⟩ := Parameter.known_of_retrieve_orUndefined hb
    rw [← Parameter.flag_of_kept? hkept]
    exact Or.inl hw
  | deck cards =>
    obtain ⟨deck, hdeck, -, hcards⟩ := h
    cases hdeck
    have hcards := hcards (.ofSeed 0)
    rw [Deck.build] at hcards
    obtain ⟨found, r, hfound, hrest⟩ := Eval.exists_of_bind_ok hcards
    obtain ⟨rfl, ⟨w, c, hw, hkept, rfl⟩ | ⟨-, habsent, rfl⟩⟩ := Parameter.retrieve_ok hfound
    · cases hrest
      rw [← Parameter.deck_of_kept? hkept]
      exact Or.inl hw
    · cases hrest
      exact Or.inr ⟨habsent, rfl⟩

/-- The same document does not yield two values on memos that agree. What is not a text has one
kind, and a text has the value of the name. -/
theorem Yields.unique {setup : Setup} {m m' : Memo} {d : Document} {v w : Resolved}
    (h : Agree setup m m') (hv : Yields setup m d v) (hw : Yields setup m' d w) : v = w := by
  by_cases htext : ∃ s, d = .text s
  · obtain ⟨s, rfl⟩ := htext
    rcases hv.of_text with hv | ⟨habsent, rfl⟩
    · rcases hw.of_text with hw | ⟨habsent, rfl⟩
      · exact h.same _ v w hv hw
      · exact absurd habsent (h.named _ v hv)
    · rcases hw.of_text with hw | ⟨-, rfl⟩
      · exact absurd habsent (h.named' _ w hw)
      · rfl
  · cases v with
    | number x =>
      obtain ⟨q, hq, hx⟩ := hv
      cases w with
      | number y =>
        obtain ⟨q', hq', hy⟩ := hw
        cases hq.symm.trans hq'
        rw [(Determined.number h q m m' x y m m' rfl rfl hx hy).1]
      | option b =>
        obtain ⟨f, hf, -⟩ := hw
        exact absurd (Document.text_of_number_of_flag hq hf) htext
      | deck cards =>
        obtain ⟨deck, hdeck, -⟩ := hw
        exact absurd (Document.text_of_number_of_deck hq hdeck) htext
    | option b =>
      obtain ⟨f, hf, hb⟩ := hv
      cases w with
      | number y =>
        obtain ⟨q, hq, -⟩ := hw
        exact absurd (Document.text_of_number_of_flag hq hf) htext
      | option c =>
        obtain ⟨f', hf', hc⟩ := hw
        cases hf.symm.trans hf'
        rw [(Determined.flag h f m m' b c m m' rfl rfl hb hc).1]
      | deck cards =>
        obtain ⟨deck, hdeck, -⟩ := hw
        exact absurd (Document.text_of_flag_of_deck hf hdeck) htext
    | deck cards =>
      obtain ⟨deck, hdeck, hdraws, hcards⟩ := hv
      cases w with
      | number y =>
        obtain ⟨q, hq, -⟩ := hw
        exact absurd (Document.text_of_number_of_deck hq hdeck) htext
      | option c =>
        obtain ⟨f, hf, -⟩ := hw
        exact absurd (Document.text_of_flag_of_deck hf hdeck) htext
      | deck others =>
        obtain ⟨deck', hdeck', -, hothers⟩ := hw
        cases hdeck.symm.trans hdeck'
        have same := Determined.deck h hdraws _ _ cards others _ _ rfl rfl (hcards (.ofSeed 0))
          (hothers (.ofSeed 0))
        rw [same.1]

/-- Two memos that were worked out know the same value wherever both know one. -/
theorem Grounded.agree {setup : Setup} {m m' : Memo} (h : Grounded setup m)
    (h' : Grounded setup m') : Agree setup m m' := by
  refine ⟨?_, fun name v hv => h.named hv, fun name v hv => h'.named hv⟩
  induction h generalizing m' with
  | start =>
    intro name v w hv
    cases hv
  | @put m name d v hm hnone hd hv ih =>
    intro other v' w hv' hw
    rw [ByName.get?_put] at hv'
    split at hv'
    · rename_i heq
      cases hv'
      rw [heq] at hw
      obtain ⟨before, d', hbefore, -, -, hd', hyields⟩ := h'.origin hw
      cases hd.symm.trans hd'
      exact Yields.unique ⟨ih hbefore, fun _ _ => hm.named, fun _ _ => hbefore.named⟩ hv hyields
    · exact ih h' other v' w hv' hw

end Dealer
