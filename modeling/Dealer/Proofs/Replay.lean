-- What is known can be worked out again. Where the parameters draw nothing, what
-- becomes known follows from what was known before. So an evaluation with a result
-- has it from every memo that was worked out, whatever that memo knows already.
import Dealer.Proofs.Answers
import Dealer.Proofs.Grounded

namespace Dealer

/-- No parameter draws: what can be read as a deck draws nothing when it is built. -/
def Setup.DrawsNothing (setup : Setup) : Prop :=
  ∀ name d deck, setup.get? name = some d → Deck.ofDocument? d = some deck → deck.draws = false

theorem Grows.kept {setup : Setup} {chain : Chain} {m m' : Memo} (h : Grows setup chain m m') :
    Kept m m' :=
  h.keeps

/-! ## What becomes known was worked out -/

/-- An evaluation behind a chain, beside the same evaluation of what is known only. It leaves a memo
that was worked out, and what it gives is what is known afterwards. -/
structure Settles (setup : Setup) (chain : Chain) {σ : Type} [Remembers σ] (α : Type)
    (x y : Eval σ α) : Prop where
  tidy : Tidy setup chain α y
  grounded : Keeps (Grounded setup) α y
  retrieved : ∀ s a t, y s = .ok a t → ∀ u, Grounded setup (memo u) → Kept (memo t) (memo u) →
    x u = .ok a u

namespace Settles

variable {setup : Setup} {chain : Chain} {σ ε α β : Type} [Remembers σ]

theorem relates : Eval.Relates (Settles setup chain (σ := σ)) where
  pure a := by
    refine ⟨Tidy.composes.pure a, Keeps.composes.pure a, fun s b t h u _ _ => ?_⟩
    cases h
    rfl
  throw he := by
    refine ⟨Tidy.composes.throw he, Keeps.composes.throw he, fun s b t h => ?_⟩
    cases h
  bind := by
    intro α β x y f g hx hf
    refine ⟨Tidy.composes.bind hx.tidy fun a => (hf a).tidy,
      Keeps.composes.bind hx.grounded fun a => (hf a).grounded, fun s b r h u hu hkept => ?_⟩
    obtain ⟨a, t, hy, hg⟩ := Eval.exists_of_bind_ok h
    have hxu := hx.retrieved s a t hy u hu (((hf a).tidy.grows_ok hg).kept.trans hkept)
    rw [Eval.bind_ok hxu]
    exact (hf a).retrieved t b r hg u hu hkept

theorem onMemo {x y : Eval Memo α} (h : Settles setup chain α x y) :
    Settles setup chain α (Eval.onMemo x) (Eval.onMemo y) := by
  refine ⟨h.tidy.onMemo, h.grounded.onMemo, fun run a t hy u hu hkept => ?_⟩
  unfold Eval.onMemo at hy ⊢
  split at hy
  · rename_i b m hm
    cases hy
    rw [h.retrieved run.memo a m hm u.memo hu hkept]
  · cases hy

theorem orUndefined (name : String) (found : Option β) :
    Settles setup chain β (Parameter.orUndefined name found : Eval σ β)
      (Parameter.orUndefined name found) := by
  cases found with
  | some b => exact relates.pure b
  | none =>
    refine ⟨Tidy.orUndefined name none, Keeps.orUndefined name none, fun s b t h => ?_⟩
    cases h

/-- A look-up settles when what a fresh parameter stands for settles behind the longer chain, and
what is known of its parts makes a value that follows. -/
theorem lookUp {p : Parameter ε β} (retrieve : ε → Eval σ β) {resolve : ε → Eval σ β}
    {name : String}
    (ht : Tidy setup chain (Option β) (p.lookUp setup chain resolve name))
    (h : Fresh setup chain name → ∀ d e, setup.get? name = some d → p.read d = some e →
      Settles setup (chain ++ [name]) β (retrieve e) (resolve e))
    (hyields : ∀ d e b m, setup.get? name = some d → p.read d = some e →
      (∀ u, memo u = m → retrieve e u = .ok b u) → Yields setup m d (p.keep b)) :
    Settles setup chain (Option β) (p.retrieve setup name) (p.lookUp setup chain resolve name) := by
  refine ⟨ht, fun s hs => ?_, fun s found t hlook u hu hkept => ?_⟩
  · generalize hresult : p.lookUp setup chain resolve name s = result
    cases Parameter.looksUp hresult with
    | @resolved d e b t hm hf hd he hb =>
      have settles := h hf d e hd he
      have grounded := settles.grounded.ok hs hb
      have unknown := (settles.tidy.grows_ok hb).unknown
        (List.mem_append_right _ (List.mem_singleton_self name)) hm
      simp only [Eval.left, memo_remember]
      refine grounded.put unknown hd (hyields d e b (memo t) hd he fun u hu => ?_)
      refine settles.retrieved s b t hb u ?_ ?_
      · rw [hu]; exact grounded
      · rw [hu]; exact Kept.refl _
    | failed hm hf hd he hb => exact (h hf _ _ hd he).grounded.error hs hb
    | _ => exact hs
  · cases Parameter.looksUp hlook with
    | known hv hb => exact Parameter.retrieve_of_known (hkept name _ hv) hb
    | absent hm hc hd =>
      exact Parameter.retrieve_of_absent (hu.unknown hd) hd
    | @resolved d e b t hm hf hd he hb =>
      rw [memo_remember] at hkept
      exact Parameter.retrieve_of_known (hkept name _ (ByName.get?_put_self ..)) (p.kept?_keep b)

end Settles

section

variable (setup : Setup)

theorem number_settles (chain : Chain) (name : String) :
    Settles setup chain (Option Float) (Parameter.number.retrieve setup name)
      (Parameter.number.lookUp setup chain (fun q => q.eval (numberOf setup (chain ++ [name])))
        name) := by
  induction chain using chain_induction setup generalizing name with
  | step chain ih =>
    refine Settles.lookUp (fun q => q.eval (Names.known setup).number) ?_ (fun hf d q _ _ => ?_) ?_
    · exact Tidy.lookUp fun _ q => Quantity.eval_has Tidy.composes (numberOf_tidy setup _) q
    · refine Quantity.eval_related Settles.relates (fun s _ => ?_) q (List.Subset.refl _)
      rw [numberOf_eq]
      exact Settles.relates.bind (ih name hf (normalize s))
        fun found => Settles.orUndefined _ found
    · exact fun d q x m _ hq h => ⟨q, hq, h m rfl⟩

theorem numberOf_settles (chain : Chain) (name : String) :
    Settles setup chain Float ((Names.known setup).number name) (numberOf setup chain name) := by
  rw [numberOf_eq]
  exact Settles.relates.bind (number_settles setup chain name)
    fun found => Settles.orUndefined name found

theorem flag_settles (chain : Chain) (name : String) :
    Settles setup chain (Option Bool) (Parameter.flag.retrieve setup name)
      (Parameter.flag.lookUp setup chain (fun f => f.eval (flagOf setup (chain ++ [name])))
        name) := by
  induction chain using chain_induction setup generalizing name with
  | step chain ih =>
    refine Settles.lookUp (fun f => f.eval (Names.known setup).flag) ?_ (fun hf d f _ _ => ?_) ?_
    · exact Tidy.lookUp fun _ f => Flag.eval_has Tidy.composes (flagOf_tidy setup _) f
    · refine Flag.eval_related Settles.relates (fun s _ => ?_) f (List.Subset.refl _)
      rw [flagOf_eq]
      exact Settles.relates.bind (ih name hf (normalize s))
        fun found => Settles.orUndefined _ found
    · exact fun d f b m _ hread h => ⟨f, hread, h m rfl⟩

theorem flagOf_settles (chain : Chain) (name : String) :
    Settles setup chain Bool ((Names.known setup).flag name) (flagOf setup chain name) := by
  rw [flagOf_eq]
  exact Settles.relates.bind (flag_settles setup chain name)
    fun found => Settles.orUndefined name found

variable {setup}

theorem deckOf_settles (h : setup.DrawsNothing) (chain : Chain) (name : String) :
    Settles setup chain (Option (List String)) ((Names.known setup).deck name)
      (deckOf setup chain name) := by
  induction chain using chain_induction setup generalizing name with
  | step chain ih =>
    rw [deckOf_eq]
    refine Settles.lookUp (Deck.build (.known setup)) ?_ (fun hf d deck hd hdeck => ?_) ?_
    · exact Tidy.lookUp fun _ deck => Deck.build_has Tidy.composes (Names.within_tidy setup _) deck
    · refine Deck.build_related Settles.relates ⟨fun what q _ => ?_, fun f _ => ?_, fun s _ => ?_⟩
        deck (List.Subset.refl _) ?_
      · exact (Quantity.count_related Settles.relates (fun _ _ => numberOf_settles setup _ _) what q
          (List.Subset.refl _)).onMemo
      · exact (Flag.eval_related Settles.relates (fun _ _ => flagOf_settles setup _ _) f
          (List.Subset.refl _)).onMemo
      · exact ih name hf (normalize s)
      · intro hdraws
        rw [h name d deck hd hdeck] at hdraws
        cases hdraws
    · exact fun d deck cards m hd hdeck hbuild =>
        ⟨deck, hdeck, h name d deck hd hdeck, fun g => hbuild ⟨m, g⟩ rfl⟩

end

/-! ## What is known, worked out once more -/

/-- What a memo knows was known before or is known to another memo. -/
def Within (other before after : Memo) : Prop :=
  ∀ name v, after.get? name = some v → before.get? name = some v ∨ other.get? name = some v

theorem Within.refl (other m : Memo) : Within other m m := fun _ _ h => Or.inl h

theorem Within.trans {other m m' m'' : Memo} (h : Within other m m') (h' : Within other m' m'') :
    Within other m m'' := by
  intro name v hv
  rcases h' name v hv with hv | hv
  · exact h name v hv
  · exact Or.inr hv

theorem Within.mono {other other' m m' : Memo} (h : Within other m m') (hkept : Kept other other') :
    Within other' m m' := by
  intro name v hv
  rcases h name v hv with hv | hv
  · exact Or.inl hv
  · exact Or.inr (hkept name v hv)

/-- A result that was retrieved from a memo is worked out on any memo that was worked out. Nothing
becomes known there that the memo does not know. -/
def Retraces (setup : Setup) (m : Memo) {σ : Type} [Remembers σ] (α : Type) (x y : Eval σ α) :
    Prop :=
  ∀ r a r', memo r = m → x r = .ok a r' → r' = r ∧ ∀ s, Grounded setup (memo s) →
    ∃ t, y s = .ok a t ∧ Grounded setup (memo t) ∧ Within m (memo s) (memo t)

namespace Retraces

variable {setup : Setup} {m : Memo} {chain : Chain} {σ ε α β : Type} [Remembers σ]

theorem relates : Eval.Relates (Retraces setup m (σ := σ)) where
  pure a := by
    intro r b r' _ hr
    cases hr
    exact ⟨rfl, fun s hs => ⟨s, rfl, hs, Within.refl _ _⟩⟩
  throw _ := by
    intro r b r' _ hr
    cases hr
  bind := by
    intro α β x y f g hx hf r b r' hr h
    obtain ⟨a, q, hxr, hfq⟩ := Eval.exists_of_bind_ok h
    obtain ⟨rfl, hy⟩ := hx r a q hr hxr
    obtain ⟨rfl, hg⟩ := hf a q b r' hr hfq
    refine ⟨rfl, fun s hs => ?_⟩
    obtain ⟨t, hys, ht, hwithin⟩ := hy s hs
    obtain ⟨u, hgt, hu, hwithin'⟩ := hg t ht
    exact ⟨u, by rw [Eval.bind_ok hys, hgt], hu, hwithin.trans hwithin'⟩

theorem onMemo {x y : Eval Memo α} (h : Retraces setup m α x y) :
    Retraces setup m α (Eval.onMemo x) (Eval.onMemo y) := by
  intro r a r' hr hx
  unfold Eval.onMemo at hx
  split at hx
  · rename_i b n hxm
    cases hx
    obtain ⟨rfl, hy⟩ := h r.memo a n hr hxm
    refine ⟨rfl, fun s hs => ?_⟩
    obtain ⟨t, hys, ht, hwithin⟩ := hy s.memo hs
    exact ⟨{ s with memo := t }, by simp only [Eval.onMemo, hys], ht, hwithin⟩
  · cases hx

theorem orUndefined (name : String) (found : Option β) :
    Retraces setup m β (Parameter.orUndefined name found : Eval σ β)
      (Parameter.orUndefined name found) := by
  cases found with
  | some b => exact relates.pure b
  | none =>
    intro r a r' _ hr
    cases hr

/-- A known parameter is looked up with the same result on any memo that was worked out. There it is
known, or its document is resolved once more. -/
theorem lookUp_known {p : Parameter ε β} {resolve : ε → Eval σ β} {name : String} {d : Document}
    {b : β} (h : Grounded setup m) (hv : m.get? name = some (p.keep b)) (hc : name ∉ chain)
    (hd : setup.get? name = some d)
    (settles : Settles setup chain (Option β) (p.retrieve setup name)
      (p.lookUp setup chain resolve name))
    (hresolve : ∃ e, p.read d = some e ∧ ∀ s, Grounded setup (memo s) →
      ∃ t, resolve e s = .ok b t ∧ Within m (memo s) (memo t)) (s : σ)
    (hs : Grounded setup (memo s)) :
    ∃ t, p.lookUp setup chain resolve name s = .ok (some b) t ∧ Grounded setup (memo t) ∧
      Within m (memo s) (memo t) := by
  cases hknown : (memo s).get? name with
  | some w =>
    rw [← (h.agree hs).same name _ w hv hknown] at hknown
    exact ⟨s, Parameter.lookUp_of_known hknown (p.kept?_keep b), hs, Within.refl _ _⟩
  | none =>
    obtain ⟨e, he, hresolve⟩ := hresolve
    obtain ⟨t, ht, hwithin⟩ := hresolve s hs
    have hlook := Parameter.lookUp_of_resolved hknown hc hd he ht
    refine ⟨_, hlook, settles.grounded.ok hs hlook, ?_⟩
    rw [memo_remember]
    intro other w hw
    rw [ByName.get?_put] at hw
    split at hw
    · rename_i heq
      cases hw
      rw [heq, hv]
      exact Or.inr rfl
    · exact hwithin other w hw

/-- Another name is retrieved from the memo before. -/
theorem put_other {p : Parameter ε β} {y : Eval σ (Option β)} {name last : String} {v : Resolved}
    (h : Retraces setup m (Option β) (p.retrieve setup name) y) (hlast : name ≠ last)
    (kept : Kept m (m.put last v)) :
    Retraces setup (m.put last v) (Option β) (p.retrieve setup name) y := by
  intro r found r' hr hretrieve
  obtain ⟨rfl, hfound⟩ := Parameter.retrieve_ok hretrieve
  have hother : (memo r').get? name = m.get? name := by
    rw [hr]
    exact ByName.get?_put_of_ne hlast v m
  have before : p.retrieve setup name (remember r' m) = .ok found (remember r' m) := by
    rcases hfound with ⟨w, b, hw, hb, rfl⟩ | ⟨hnone, habsent, rfl⟩
    · rw [hother] at hw
      exact Parameter.retrieve_of_known (by rw [memo_remember]; exact hw) hb
    · rw [hother] at hnone
      exact Parameter.retrieve_of_absent (by rw [memo_remember]; exact hnone) habsent
  obtain ⟨-, hy⟩ := h _ _ _ (memo_remember r' m) before
  refine ⟨rfl, fun s hs => ?_⟩
  obtain ⟨t, hlook, ht, hwithin⟩ := hy s hs
  exact ⟨t, hlook, ht, hwithin.mono kept⟩

/-- Look-ups retrace a memo that was worked out, behind any chain of parameters that it does not
know. By induction on how the memo was worked out: what was known last follows from what was known
before, where expressions retrace as their look-ups do. -/
theorem lookUp {p : Parameter ε β} (resolve : Chain → ε → Eval σ β)
    (hkeep : ∀ v b, p.kept? v = some b → v = p.keep b)
    (settles : ∀ chain name, Settles setup chain (Option β) (p.retrieve setup name)
      (p.lookUp setup chain (resolve (chain ++ [name])) name))
    (follows : ∀ {m chain d b}, Grounded setup m → Clear chain m →
      (∀ n ∈ chain, setup.get? n ≠ none) →
      (∀ n, Retraces setup m (Option β) (p.retrieve setup n)
        (p.lookUp setup chain (resolve (chain ++ [n])) n)) →
      Yields setup m d (p.keep b) → ∃ e, p.read d = some e ∧ ∀ s, Grounded setup (memo s) →
        ∃ t, resolve chain e s = .ok b t ∧ Within m (memo s) (memo t))
    (h : Grounded setup m) (chain : Chain) (hclear : Clear chain m)
    (hnamed : ∀ n ∈ chain, setup.get? n ≠ none) (name : String) :
    Retraces setup m (Option β) (p.retrieve setup name)
      (p.lookUp setup chain (resolve (chain ++ [name])) name) := by
  induction h generalizing chain name with
  | start =>
    intro r found r' hr hretrieve
    obtain ⟨rfl, ⟨v, b, hv, -, -⟩ | ⟨-, habsent, rfl⟩⟩ := Parameter.retrieve_ok hretrieve
    · rw [hr] at hv
      cases hv
    · refine ⟨rfl, fun s hs => ⟨s, ?_, hs, Within.refl _ _⟩⟩
      exact Parameter.lookUp_of_absent (hs.unknown habsent) (fun hc => hnamed name hc habsent)
        habsent
  | @put m last d v hm hnone hd hv ih =>
    have kept : Kept m (m.put last v) := Kept.put hnone v
    have hclear' : Clear chain m := fun n hn => kept.unknown (hclear n hn)
    intro r found r' hr hretrieve
    by_cases hlast : name = last
    · subst hlast
      have hself : (m.put name v).get? name = some v := ByName.get?_put_self ..
      obtain ⟨rfl, ⟨w, b, hw, hb, rfl⟩ | ⟨hnone', -, -⟩⟩ := Parameter.retrieve_ok hretrieve
      · rw [hr, hself] at hw
        cases hw
        cases hkeep v b hb
        have hc : name ∉ chain := by
          intro hc
          rw [hclear name hc] at hself
          cases hself
        have hclearSnoc := hclear'.snoc hnone
        have hnamedSnoc : ∀ n ∈ chain ++ [name], setup.get? n ≠ none := by
          intro n hn
          rcases List.mem_append.mp hn with hn | hn
          · exact hnamed n hn
          · rw [List.mem_singleton.mp hn, hd]
            simp
        obtain ⟨e, he, hresolve⟩ := follows hm hclearSnoc hnamedSnoc
          (ih (chain ++ [name]) hclearSnoc hnamedSnoc) hv
        refine ⟨rfl, lookUp_known (hm.put hnone hd hv) hself hc hd (settles chain name) ⟨e, he, ?_⟩⟩
        intro s hs
        obtain ⟨t, ht, hwithin⟩ := hresolve s hs
        exact ⟨t, ht, hwithin.mono kept⟩
      · rw [hr, hself] at hnone'
        cases hnone'
    · exact (ih chain hclear' hnamed name).put_other hlast kept r found r' hr hretrieve

end Retraces

section

variable {setup : Setup} {m : Memo} {chain : Chain}

theorem Quantity.eval_retraces
    (h : ∀ n, Retraces setup m (Option Float) (Parameter.number.retrieve setup n)
      (Parameter.number.lookUp setup chain (fun q => q.eval (numberOf setup (chain ++ [n]))) n))
    (q : Quantity) :
    Retraces setup m Float (q.eval (Names.known setup).number) (q.eval (numberOf setup chain)) := by
  refine eval_related Retraces.relates (fun s _ => ?_) q (List.Subset.refl _)
  rw [numberOf_eq]
  exact Retraces.relates.bind (h (normalize s)) fun found => Retraces.orUndefined _ found

theorem Flag.eval_retraces
    (h : ∀ n, Retraces setup m (Option Bool) (Parameter.flag.retrieve setup n)
      (Parameter.flag.lookUp setup chain (fun f => f.eval (flagOf setup (chain ++ [n]))) n))
    (f : Flag) :
    Retraces setup m Bool (f.eval (Names.known setup).flag) (f.eval (flagOf setup chain)) := by
  refine eval_related Retraces.relates (fun s _ => ?_) f (List.Subset.refl _)
  rw [flagOf_eq]
  exact Retraces.relates.bind (h (normalize s)) fun found => Retraces.orUndefined _ found

theorem number_retraces (h : Grounded setup m) (hclear : Clear chain m)
    (hnamed : ∀ n ∈ chain, setup.get? n ≠ none) (name : String) :
    Retraces setup m (Option Float) (Parameter.number.retrieve setup name)
      (Parameter.number.lookUp setup chain (fun q => q.eval (numberOf setup (chain ++ [name])))
        name) := by
  refine Retraces.lookUp (fun chain q => q.eval (numberOf setup chain))
    (fun v x hv => Parameter.number_of_kept? hv) (number_settles setup)
    (fun {m chain d x} _ _ _ hlook hx => ?_) h chain hclear hnamed name
  obtain ⟨q, hq, hx⟩ := hx
  refine ⟨q, hq, fun s hs => ?_⟩
  obtain ⟨t, ht, -, hwithin⟩ := (q.eval_retraces hlook m x m rfl hx).2 s hs
  exact ⟨t, ht, hwithin⟩

theorem flag_retraces (h : Grounded setup m) (hclear : Clear chain m)
    (hnamed : ∀ n ∈ chain, setup.get? n ≠ none) (name : String) :
    Retraces setup m (Option Bool) (Parameter.flag.retrieve setup name)
      (Parameter.flag.lookUp setup chain (fun f => f.eval (flagOf setup (chain ++ [name])))
        name) := by
  refine Retraces.lookUp (fun chain f => f.eval (flagOf setup chain))
    (fun v b hv => Parameter.flag_of_kept? hv) (flag_settles setup)
    (fun {m chain d b} _ _ _ hlook hb => ?_) h chain hclear hnamed name
  obtain ⟨f, hf, hb⟩ := hb
  refine ⟨f, hf, fun s hs => ?_⟩
  obtain ⟨t, ht, -, hwithin⟩ := (f.eval_retraces hlook m b m rfl hb).2 s hs
  exact ⟨t, ht, hwithin⟩

theorem deckOf_retraces (hsetup : setup.DrawsNothing) (h : Grounded setup m)
    (hclear : Clear chain m) (hnamed : ∀ n ∈ chain, setup.get? n ≠ none) (name : String) :
    Retraces setup m (Option (List String)) ((Names.known setup).deck name)
      (deckOf setup chain name) := by
  have settles (chain : Chain) (name : String) : Settles setup chain (Option (List String))
      (Parameter.deck.retrieve setup name)
      (Parameter.deck.lookUp setup chain (Deck.build (.within setup (chain ++ [name]))) name) := by
    rw [← deckOf_eq]
    exact deckOf_settles hsetup chain name
  rw [deckOf_eq]
  refine Retraces.lookUp (fun chain => Deck.build (.within setup chain))
    (fun v cards hv => Parameter.deck_of_kept? hv) settles
    (fun {m chain d cards} hm hclear hnamed hlook hbuild => ?_) h chain hclear hnamed name
  obtain ⟨deck, hdeck, hdraws, hbuild⟩ := hbuild
  refine ⟨deck, hdeck, fun s hs => ?_⟩
  have retraces : Retraces setup m (List String) (deck.build (.known setup))
      (deck.build (.within setup chain)) := by
    refine Deck.build_related Retraces.relates ⟨fun what q _ => ?_, fun f _ => ?_, fun s _ => ?_⟩
      deck (List.Subset.refl _) ?_
    · exact Retraces.onMemo (Retraces.relates.bind
        (q.eval_retraces (number_retraces hm hclear hnamed))
        fun x => Retraces.relates.ofExcept fun _ => toCount_error)
    · exact Retraces.onMemo (f.eval_retraces (flag_retraces hm hclear hnamed))
    · have look : (Names.within setup chain).deck (normalize s) = Parameter.deck.lookUp setup chain
          (Deck.build (.within setup (chain ++ [normalize s]))) (normalize s) :=
        deckOf_eq setup chain (normalize s)
      rw [look]
      exact hlook (normalize s)
    · intro h
      rw [hdraws] at h
      cases h
  obtain ⟨t, ht, -, hwithin⟩ := (retraces ⟨m, s.generator⟩ cards _ rfl (hbuild s.generator)).2 s hs
  exact ⟨t, ht, hwithin⟩

end

/-! ## The same result from every memo -/

/-- An evaluation outside every chain that has a result leaves a memo that was worked out. It has
the same result from every such memo, and nothing becomes known there that is not known after the
first. -/
def Replays (setup : Setup) {σ : Type} [Remembers σ] (α : Type) (y : Eval σ α) : Prop :=
  ∀ s a t, Grounded setup (memo s) → y s = .ok a t → Grounded setup (memo t) ∧
    ∀ u, Grounded setup (memo u) → ∃ v, y u = .ok a v ∧ Within (memo t) (memo u) (memo v)

theorem Settles.replays {setup : Setup} {σ α : Type} [Remembers σ] {x y : Eval σ α}
    (h : Settles setup [] α x y)
    (hretraces : ∀ m, Grounded setup m → Retraces setup m α x y) : Replays setup α y := by
  intro s a t hs hy
  have ht := h.grounded.ok hs hy
  have hx := h.retrieved s a t hy t ht (Kept.refl _)
  refine ⟨ht, fun u hu => ?_⟩
  obtain ⟨v, hv, -, hwithin⟩ := (hretraces (memo t) ht t a t rfl hx).2 u hu
  exact ⟨v, hv, hwithin⟩

theorem Clear.nil (m : Memo) : Clear [] m := fun _ h => absurd h List.not_mem_nil

theorem Quantity.eval_replays (setup : Setup) (q : Quantity) :
    Replays setup Float (q.eval (numberOf setup [])) :=
  Settles.replays
    (eval_related Settles.relates (fun _ _ => numberOf_settles setup [] _) q (List.Subset.refl _))
    fun m hm => q.eval_retraces (number_retraces hm (Clear.nil m) (by simp))

theorem Flag.eval_replays (setup : Setup) (f : Flag) :
    Replays setup Bool (f.eval (flagOf setup [])) :=
  Settles.replays
    (eval_related Settles.relates (fun _ _ => flagOf_settles setup [] _) f (List.Subset.refl _))
    fun m hm => f.eval_retraces (flag_retraces hm (Clear.nil m) (by simp))

theorem deckOf_replays {setup : Setup} (h : setup.DrawsNothing) (name : String) :
    Replays setup (Option (List String)) (deckOf setup [] name) :=
  Settles.replays (deckOf_settles h [] name)
    fun m hm => deckOf_retraces h hm (Clear.nil m) (by simp) name

end Dealer
