-- What merging gives. The fragments that a script lists are folded into it one by
-- one, and what comes out can be said at once: each bound is the loosest of those
-- declared, each parameter is the one that was defined last, and rules and events
-- stand in the order of the list.
import Dealer.Import
import Dealer.Proofs.Entries
import Dealer.Proofs.Rendering
import Dealer.Proofs.Replay
import Mathlib.Data.List.Forall2

namespace Dealer

/-! ## Bounds, each by itself -/

/-- The number that a quantity is by itself in a setup. -/
def Quantity.Gives (setup : Setup) (q : Quantity) (x : Float) : Prop :=
  ∃ m, q.eval (numberOf setup []) [] = .ok x m

/-- The truth value that a flag is by itself in a setup. -/
def Flag.Gives (setup : Setup) (f : Flag) (b : Bool) : Prop :=
  ∃ m, f.eval (flagOf setup []) [] = .ok b m

/-- The bounds that a script declares, each resolved by itself in the setup of the script. -/
structure Bounds.AreOf (bounds : Bounds) (script : Script) : Prop where
  moderated : Option.Rel (Flag.Gives script.setup) script.requireModerator bounds.moderated
  least : Option.Rel (Quantity.Gives script.setup) script.minMembers bounds.least
  most : Option.Rel (Quantity.Gives script.setup) script.maxMembers bounds.most

namespace Bounds

section

variable {α β : Type} {setup : Setup} {eval : α → Eval Memo β} {m t : Memo} {declared : Option α}
  {value : Option β}

theorem resolve_some_ok {a : α} (h : resolve eval (some a) m = .ok value t) :
    ∃ b, eval a m = .ok b t ∧ value = some b := by
  rw [resolve, ← bind_pure_comp] at h
  obtain ⟨b, r, hb, hrest⟩ := Eval.exists_of_bind_ok h
  cases hrest
  exact ⟨b, hb, rfl⟩

theorem resolve_some_of_ok {a : α} {b : β} (h : eval a m = .ok b t) :
    resolve eval (some a) m = .ok (some b) t := by
  rw [resolve, ← bind_pure_comp, Eval.bind_ok h]
  rfl

/-- A bound that is resolved after others has the value that it has by itself. -/
theorem resolve_ok (h : ∀ a, Replays setup β (eval a)) (hm : Grounded setup m)
    (hvalue : resolve eval declared m = .ok value t) :
    Grounded setup t ∧ Option.Rel (fun a b => ∃ n, eval a [] = .ok b n) declared value := by
  cases declared with
  | none =>
    cases hvalue
    exact ⟨hm, .none⟩
  | some a =>
    obtain ⟨b, hb, rfl⟩ := resolve_some_ok hvalue
    obtain ⟨ht, again⟩ := h a m b t hm hb
    obtain ⟨n, hn, -⟩ := again [] .start
    exact ⟨ht, .some ⟨n, hn⟩⟩

/-- A bound that has a value by itself has it after others too. -/
theorem resolve_of_rel (h : ∀ a, Replays setup β (eval a)) (hm : Grounded setup m)
    (hvalue : Option.Rel (fun a b => ∃ n, eval a [] = .ok b n) declared value) :
    ∃ t, resolve eval declared m = .ok value t ∧ Grounded setup t := by
  cases hvalue with
  | none => exact ⟨m, rfl, hm⟩
  | some hb =>
    obtain ⟨n, hn⟩ := hb
    obtain ⟨-, again⟩ := h _ [] _ n .start hn
    obtain ⟨t, ht, -⟩ := again m hm
    exact ⟨t, resolve_some_of_ok ht, (h _ m _ t hm ht).1⟩

end

/-- What is known from one bound does not change the next. -/
theorem of_ok_iff {script : Script} {bounds : Bounds} :
    Bounds.of script = .ok bounds ↔ bounds.AreOf script := by
  have flags (f : Flag) := f.eval_replays script.setup
  have numbers (q : Quantity) := q.eval_replays script.setup
  have evaluated : Bounds.of script = .ok bounds ↔ ∃ t, Bounds.eval script [] = .ok bounds t := by
    unfold Bounds.of
    cases Bounds.eval script [] <;> simp
  rw [evaluated]
  constructor
  · rintro ⟨t, h⟩
    obtain ⟨moderated, m₁, h₁, h⟩ := Eval.exists_of_bind_ok h
    obtain ⟨least, m₂, h₂, h⟩ := Eval.exists_of_bind_ok h
    obtain ⟨most, m₃, h₃, h⟩ := Eval.exists_of_bind_ok h
    cases h
    obtain ⟨hm₁, hmoderated⟩ := resolve_ok flags .start h₁
    obtain ⟨hm₂, hleast⟩ := resolve_ok numbers hm₁ h₂
    exact ⟨hmoderated, hleast, (resolve_ok numbers hm₂ h₃).2⟩
  · intro h
    obtain ⟨m₁, h₁, hm₁⟩ := resolve_of_rel flags .start h.moderated
    obtain ⟨m₂, h₂, hm₂⟩ := resolve_of_rel numbers hm₁ h.least
    obtain ⟨m₃, h₃, -⟩ := resolve_of_rel numbers hm₂ h.most
    refine ⟨m₃, ?_⟩
    rw [Bounds.eval, Eval.bind_ok h₁, Eval.bind_ok h₂, Eval.bind_ok h₃]
    rfl

/-- The bounds that were declared, picked from in turn. -/
def inTurn (pick : Float → Float → Float) : List Float → Option Float
  | [] => none
  | x :: xs => some (xs.foldl pick x)

theorem loosen_inTurn (pick : Float → Float → Float) (xs : List Float) (y : Option Float) :
    loosen pick (inTurn pick xs) y = inTurn pick (xs ++ y.toList) := by
  cases xs with
  | nil => cases y <;> rfl
  | cons x xs =>
    cases y with
    | none =>
      rw [Option.toList_none, List.append_nil]
      rfl
    | some y =>
      simp only [inTurn, loosen, Option.toList_some, List.cons_append, List.foldl_append,
        List.foldl_cons, List.foldl_nil]

end Bounds

/-! ## Events -/

/-- Events in one, if there are any. -/
def joined : List String → Option String
  | [] => none
  | events => some (defaultSeparator.intercalate events)

/-- The events that are not blank. -/
def notBlank (events : List String) : List String := events.filter fun e => !isBlankText e

theorem joinEvents_eq (first second : Option String) :
    joinEvents first second = joined (notBlank (first.toList ++ second.toList)) := by
  unfold joinEvents joined notBlank
  cases (first.toList ++ second.toList).filter fun e => !isBlankText e <;> rfl

/-- Events that were joined may be joined with more. -/
theorem joined_append (events more : List String) :
    joined ((joined events).toList ++ more) = joined (events ++ more) := by
  cases events with
  | nil => rfl
  | cons e es =>
    cases more with
    | nil => simp [joined]
    | cons f fs =>
      simp only [joined, Option.toList_some, List.cons_append, List.nil_append,
        String.intercalate_cons_cons]
      rw [← List.cons_append, String.intercalate_append_of_ne_nil (by simp) (by simp)]

theorem isBlankText_intercalate {e : String} {es : List String} (h : isBlankText e = false) :
    isBlankText (defaultSeparator.intercalate (e :: es)) = false := by
  cases es with
  | nil => rw [String.intercalate_singleton]; exact h
  | cons f fs =>
    unfold isBlankText at h ⊢
    rw [String.intercalate_cons_cons, String.toList_append, String.toList_append, List.all_append,
      List.all_append, h, Bool.false_and, Bool.false_and]

/-- What is joined from events that are not blank is not blank. -/
theorem notBlank_joined (events : List String) :
    notBlank (joined (notBlank events)).toList = (joined (notBlank events)).toList := by
  cases h : notBlank events with
  | nil => rfl
  | cons e es =>
    have hmem : e ∈ notBlank events := by rw [h]; exact List.mem_cons_self
    have he : isBlankText e = false := by simpa using (List.mem_filter.mp hmem).2
    simp only [joined, Option.toList_some, notBlank, List.filter_singleton,
      isBlankText_intercalate he, Bool.not_false, cond_true]

theorem joinEvents_joined (events : List String) (next : Option String) :
    joinEvents (joined (notBlank events)) next = joined (notBlank (events ++ next.toList)) := by
  have split (xs ys : List String) : notBlank (xs ++ ys) = notBlank xs ++ notBlank ys :=
    List.filter_append xs ys
  rw [joinEvents_eq, split, split, notBlank_joined, joined_append]

/-! ## Setups that were read -/

/-- What each step keeps is kept by all of them. -/
theorem foldlM_keeps {ε α β : Type} {P : β → Prop} {step : β → α → Except ε β} {items : List α}
    (h : ∀ a ∈ items, ∀ b b', P b → step b a = .ok b' → P b') {b b' : β} (hb : P b)
    (hfold : items.foldlM step b = .ok b') : P b' := by
  induction items generalizing b with
  | nil =>
    cases hfold
    exact hb
  | cons a items ih =>
    rw [List.foldlM_cons] at hfold
    obtain ⟨c, hc, hfold⟩ := bind_eq_ok.mp hfold
    exact ih (fun a ha => h a (List.mem_cons_of_mem _ ha)) (h a List.mem_cons_self b c hb hc) hfold

/-- What every field of a record keeps, the record keeps as a whole. -/
theorem Filling.ofDocument_keeps {ρ : Type} {P : ρ → Prop} {filling : Filling ρ} {wanted : Wanted}
    {start r : ρ} {d : Document} (hstart : P start)
    (h : ∀ field ∈ filling, ∀ r d r', P r → field.2 r d = .ok r' → P r')
    (hread : filling.ofDocument wanted start d = .ok r) : P r := by
  cases d with
  | object members =>
    refine foldlM_keeps (fun member _ r r' hr hstep => ?_) hstart hread
    split at hstep
    · rename_i fill hfill
      obtain ⟨before, after, hsplit, -⟩ := List.lookup_eq_some_iff.mp hfill
      have hmem : (member.1, fill) ∈ filling := by rw [hsplit]; simp
      exact h _ hmem r _ r' hr hstep
    · cases hstep
      exact hr
  | list items =>
    obtain ⟨r', hfold, hrest⟩ := bind_eq_ok.mp hread
    have hr' : P r' := by
      refine foldlM_keeps (fun field hfield r r' hr hstep => ?_) hstart hfold
      exact h field.1 (List.of_mem_zip hfield).1 r field.2 r' hr hstep
    split at hrest
    · cases hrest
    · cases hrest
      exact hr'
  | _ => cases hread

theorem Setup.rising_ofMembers (members : List (String × Document)) :
    (Setup.ofMembers members).entries.Rising := by
  have run : ∀ (setup : Setup), setup.entries.Rising →
      (members.foldl (fun setup e => setup.insert e.1 e.2) setup).entries.Rising := by
    induction members with
    | nil => exact fun setup h => h
    | cons e members ih => exact fun setup h => ih _ (h.put _ _)
  exact run .empty List.Pairwise.nil

/-- The setup of a script that was read has one parameter to a name. -/
theorem Script.rising_of_read {text : String} {script : Script}
    (h : Script.read text = .ok script) : script.setup.entries.Rising := by
  obtain ⟨d, -, hshape⟩ := bind_eq_ok.mp h
  have hread := mapError_eq_ok.mp hshape
  refine Filling.ofDocument_keeps (P := fun s => s.setup.entries.Rising) List.Pairwise.nil ?_ hread
  intro field hfield s d s' hs hstep
  -- All fields but the last leave the setup as it is.
  simp only [Script.filling, List.mem_cons, List.not_mem_nil, or_false] at hfield
  rcases hfield with rfl | rfl | rfl | rfl | rfl | rfl | rfl
  all_goals
    obtain ⟨value, hvalue, hs'⟩ := bind_eq_ok.mp hstep
    cases hs'
  any_goals exact hs
  cases d with
  | object members =>
    cases hvalue
    exact Setup.rising_ofMembers members
  | _ => cases hvalue

/-! ## Fragments -/

/-- A fragment with the bounds that it declares. -/
structure Fragment where
  script : Script
  bounds : Bounds

/-- The fragment at an address, as it can be merged into a base that asks for a moderator or not. It
can be read, lists no fragments of its own, has bounds, and does not contradict the base. -/
structure Fragment.StandsAt (library : Library) (moderated : Bool) (address : String)
    (f : Fragment) : Prop where
  text : ∃ text, library.get? address = some text ∧ Script.read text = .ok f.script
  flat : f.script.imports = []
  bounds : f.bounds.AreOf f.script
  agrees : f.bounds.moderated = none ∨ f.bounds.moderated = some moderated

namespace Merge

variable {library : Library} {moderated : Bool} {address : String} {m m' : Merge}

/-- What a fragment adds to a script. -/
def join (m : Merge) (f : Fragment) : Merge where
  script := { m.script with
    event := joinEvents m.script.event f.script.event
    setup := m.script.setup.overlay f.script.setup
    rules := m.script.rules ++ f.script.rules }
  least := Bounds.loosen Arith.smaller m.least f.bounds.least
  most := Bounds.loosen Arith.larger m.most f.bounds.most

theorem fragment_ok_iff {script : Script} :
    fragment library address = .ok script ↔
      (∃ text, library.get? address = some text ∧ Script.read text = .ok script) ∧
        script.imports = [] := by
  unfold fragment
  constructor
  · intro h
    split at h
    · cases h
    · rename_i text htext
      split at h
      · cases h
      · rename_i found hread
        split at h
        · rename_i himports
          cases h
          exact ⟨⟨text, htext, hread⟩, himports⟩
        · cases h
  · rintro ⟨⟨text, htext, hread⟩, himports⟩
    simp only [htext, hread, if_pos himports]

/-- A fragment is merged exactly where there is one that can be. -/
theorem add_ok_iff :
    add library moderated m address = .ok m' ↔
      ∃ f : Fragment, f.StandsAt library moderated address ∧ m' = m.join f := by
  unfold add
  constructor
  · intro h
    obtain ⟨script, hscript, h⟩ := bind_eq_ok.mp h
    obtain ⟨bounds, hbounds, h⟩ := bind_eq_ok.mp h
    obtain ⟨text, flat⟩ := fragment_ok_iff.mp hscript
    have areOf := Bounds.of_ok_iff.mp (mapError_eq_ok.mp hbounds)
    refine ⟨⟨script, bounds⟩, ⟨text, flat, areOf, ?_⟩, ?_⟩
    all_goals dsimp only at h ⊢
    · split at h
      · rename_i found hfound
        split at h
        · cases h
        · rename_i hsame
          rw [ne_eq, Decidable.not_not] at hsame
          exact Or.inr (hsame ▸ hfound)
      · rename_i hnone
        exact Or.inl hnone
    · split at h
      · split at h <;> cases h
        rfl
      · cases h
        rfl
  · rintro ⟨f, h, rfl⟩
    have hscript := fragment_ok_iff.mpr ⟨h.text, h.flat⟩
    have hbounds := Bounds.of_ok_iff.mpr h.bounds
    refine bind_eq_ok.mpr ⟨f.script, hscript, ?_⟩
    refine bind_eq_ok.mpr ⟨f.bounds, mapError_eq_ok.mpr hbounds, ?_⟩
    rcases h.agrees with hagrees | hagrees
    · rw [hagrees]
      rfl
    · rw [hagrees]
      simp only [ne_eq, not_true_eq_false, ↓reduceIte]
      rfl

theorem foldlM_add_ok_iff {addresses : List String} :
    addresses.foldlM (add library moderated) m = .ok m' ↔
      ∃ fragments : List Fragment,
        List.Forall₂ (fun address f => f.StandsAt library moderated address) addresses fragments ∧
          m' = fragments.foldl join m := by
  induction addresses generalizing m with
  | nil =>
    constructor
    · intro h
      cases h
      exact ⟨[], .nil, rfl⟩
    · rintro ⟨fragments, hall, rfl⟩
      cases hall
      rfl
  | cons address addresses ih =>
    rw [List.foldlM_cons, bind_eq_ok]
    constructor
    · rintro ⟨next, hnext, hrest⟩
      obtain ⟨f, hf, rfl⟩ := add_ok_iff.mp hnext
      obtain ⟨fragments, hall, rfl⟩ := ih.mp hrest
      exact ⟨f :: fragments, .cons hf hall, rfl⟩
    · rintro ⟨fragments, hall, rfl⟩
      cases hall with
      | cons hf hall => exact ⟨m.join _, add_ok_iff.mpr ⟨_, hf, rfl⟩, ih.mpr ⟨_, hall, rfl⟩⟩

/-! ### All fragments at once -/

variable {fragments : List Fragment}

theorem foldl_join_rules (fragments : List Fragment) (m : Merge) :
    (fragments.foldl join m).script.rules =
      m.script.rules ++ fragments.flatMap fun f => f.script.rules := by
  induction fragments generalizing m with
  | nil => exact (List.append_nil _).symm
  | cons f fragments ih =>
    rw [List.foldl_cons, ih, List.flatMap_cons, join, List.append_assoc]

theorem foldl_join_imports (fragments : List Fragment) (m : Merge) :
    (fragments.foldl join m).script.imports = m.script.imports := by
  induction fragments generalizing m with
  | nil => rfl
  | cons f fragments ih => rw [List.foldl_cons, ih, join]

theorem foldl_join_event (fragments : List Fragment) (m : Merge) {events : List String}
    (h : m.script.event = joined (notBlank events)) :
    (fragments.foldl join m).script.event =
      joined (notBlank (events ++ fragments.flatMap fun f => f.script.event.toList)) := by
  induction fragments generalizing m events with
  | nil => rw [List.foldl_nil, List.flatMap_nil, List.append_nil, h]
  | cons f fragments ih =>
    have next : (m.join f).script.event = joined (notBlank (events ++ f.script.event.toList)) := by
      rw [join, h, joinEvents_joined]
    rw [List.foldl_cons, ih (m.join f) next, List.flatMap_cons, List.append_assoc]

theorem foldl_loosen {α : Type} (pick : Float → Float → Float) (bound : α → Option Float)
    (items : List α) (xs : List Float) :
    items.foldl (fun x a => Bounds.loosen pick x (bound a)) (Bounds.inTurn pick xs) =
      Bounds.inTurn pick (xs ++ items.flatMap fun a => (bound a).toList) := by
  induction items generalizing xs with
  | nil => rw [List.foldl_nil, List.flatMap_nil, List.append_nil]
  | cons a items ih =>
    rw [List.foldl_cons, Bounds.loosen_inTurn, ih, List.flatMap_cons, List.append_assoc]

theorem foldl_join_least (fragments : List Fragment) (m : Merge) {xs : List Float}
    (h : m.least = Bounds.inTurn Arith.smaller xs) :
    (fragments.foldl join m).least =
      Bounds.inTurn Arith.smaller (xs ++ fragments.flatMap fun f => f.bounds.least.toList) := by
  rw [← foldl_loosen, ← h]
  exact (List.foldl_hom Merge.least fun _ _ => rfl).symm

theorem foldl_join_most (fragments : List Fragment) (m : Merge) {xs : List Float}
    (h : m.most = Bounds.inTurn Arith.larger xs) :
    (fragments.foldl join m).most =
      Bounds.inTurn Arith.larger (xs ++ fragments.flatMap fun f => f.bounds.most.toList) := by
  rw [← foldl_loosen, ← h]
  exact (List.foldl_hom Merge.most fun _ _ => rfl).symm

theorem rising_foldl_join (fragments : List Fragment) {m : Merge}
    (h : m.script.setup.entries.Rising) :
    (fragments.foldl join m).script.setup.entries.Rising := by
  induction fragments generalizing m with
  | nil => exact h
  | cons f fragments ih => exact ih (h.putAll _)

/-- The parameter of the last fragment that has one counts, and where none has it that of the
base. -/
theorem get?_foldl_join (name : String) {fragments : List Fragment} (m : Merge)
    (h : ∀ f ∈ fragments, f.script.setup.entries.Rising) :
    (fragments.foldl join m).script.setup.get? name =
      (fragments.reverse.findSome? fun f => f.script.setup.get? name).or
        (m.script.setup.get? name) := by
  induction fragments generalizing m with
  | nil => rfl
  | cons f fragments ih =>
    have next : (m.join f).script.setup.get? name =
        (f.script.setup.get? name).or (m.script.setup.get? name) := by
      have hf := h f List.mem_cons_self
      refine (ByName.get?_putAll name _ _).trans ?_
      rw [ByName.Rising.get?_reverse hf]
      rfl
    rw [List.foldl_cons, ih _ fun f hf => h f (List.mem_cons_of_mem _ hf), next,
      List.reverse_cons, List.findSome?_append, ← Option.or_assoc]
    congr 1
    cases hfound : f.script.setup.get? name <;> simp [List.findSome?, hfound]

end Merge

/-! ## The merged script -/

/-- What a script is after fragments were merged into it, given the bounds that it had before. -/
structure Script.MergeOf (merged script : Script) (base : Bounds) (fragments : List Fragment) :
    Prop where
  imports : merged.imports = []
  rules : merged.rules = script.rules ++ fragments.flatMap fun f => f.script.rules
  setup : ∀ name, merged.setup.get? name =
    (fragments.reverse.findSome? fun f => f.script.setup.get? name).or (script.setup.get? name)
  rising : script.setup.entries.Rising → merged.setup.entries.Rising
  minMembers : merged.minMembers = (Bounds.inTurn Arith.smaller
    (base.least.toList ++ fragments.flatMap fun f => f.bounds.least.toList)).map .number
  maxMembers : merged.maxMembers = (Bounds.inTurn Arith.larger
    (base.most.toList ++ fragments.flatMap fun f => f.bounds.most.toList)).map .number
  requireModerator : merged.requireModerator = base.moderated.map .const
  event : merged.event = joined (notBlank
    (script.event.toList ++ fragments.flatMap fun f => f.script.event.toList))

/-- The fragments that a script lists, in their order. -/
def Script.Lists (script : Script) (library : Library) (base : Bounds)
    (fragments : List Fragment) : Prop :=
  List.Forall₂ (fun address f => f.StandsAt library (base.moderated.getD false) address)
    script.imports fragments

/-- The setups of fragments were read, so they have one parameter to a name. -/
theorem Script.rising_of_lists {library : Library} {script : Script} {base : Bounds}
    {fragments : List Fragment} (h : script.Lists library base fragments) :
    ∀ f ∈ fragments, f.script.setup.entries.Rising := by
  unfold Lists at h
  generalize script.imports = addresses at h
  induction h with
  | nil =>
    intro f hf
    cases hf
  | cons hstands _ ih =>
    intro f hf
    rcases List.mem_cons.mp hf with rfl | hf
    · obtain ⟨text, -, hread⟩ := hstands.text
      exact rising_of_read hread
    · exact ih f hf

/-- The script that comes out when fragments were merged, with its bounds as plain values. -/
def Merge.finish (m : Merge) (base : Bounds) : Script :=
  { m.script with
    requireModerator := base.moderated.map .const
    minMembers := m.least.map .number
    maxMembers := m.most.map .number }

/-- A script before anything is merged into it. -/
def Merge.start (script : Script) (base : Bounds) : Merge :=
  ⟨{ script with imports := [] }, base.least, base.most⟩

theorem Script.merge_ok_iff {library : Library} {most : Nat} {script merged : Script}
    (hlisted : script.imports ≠ []) (hmost : script.imports.length ≤ most) :
    script.merge library most = .ok merged ↔
      ∃ base fragments, base.AreOf script ∧ script.Lists library base fragments ∧
        merged = (fragments.foldl Merge.join (Merge.start script base)).finish base := by
  unfold Script.merge
  simp only [if_neg hlisted, if_neg (Nat.not_lt.mpr hmost)]
  constructor
  · intro h
    obtain ⟨base, hbase, h⟩ := bind_eq_ok.mp h
    obtain ⟨m, hm, h⟩ := bind_eq_ok.mp h
    obtain ⟨fragments, hall, rfl⟩ := Merge.foldlM_add_ok_iff.mp (mapError_eq_ok.mp hm)
    cases h
    exact ⟨base, fragments, Bounds.of_ok_iff.mp (mapError_eq_ok.mp hbase), hall, rfl⟩
  · rintro ⟨base, fragments, hbase, hall, rfl⟩
    have hm := Merge.foldlM_add_ok_iff (m := Merge.start script base).mpr ⟨fragments, hall, rfl⟩
    refine bind_eq_ok.mpr ⟨base, mapError_eq_ok.mpr (Bounds.of_ok_iff.mpr hbase), ?_⟩
    exact bind_eq_ok.mpr ⟨_, mapError_eq_ok.mpr hm, rfl⟩

/-- What comes out of the fold, field by field. -/
theorem Script.mergeOf_finish {library : Library} {script : Script} {base : Bounds}
    {fragments : List Fragment} (hlisted : script.imports ≠ [])
    (h : script.Lists library base fragments) :
    ((fragments.foldl Merge.join (Merge.start script base)).finish base).MergeOf script base
      fragments := by
  refine ⟨?_, ?_, ?_, ?_, ?_, ?_, rfl, ?_⟩
  · exact Merge.foldl_join_imports fragments _
  · exact Merge.foldl_join_rules fragments _
  · exact fun name => Merge.get?_foldl_join name _ (rising_of_lists h)
  · exact fun hsetup => Merge.rising_foldl_join fragments hsetup
  · have start : (Merge.start script base).least =
        Bounds.inTurn Arith.smaller base.least.toList := by
      rw [Merge.start]
      cases base.least <;> rfl
    exact congrArg (Option.map Quantity.number) (Merge.foldl_join_least fragments _ start)
  · have start : (Merge.start script base).most =
        Bounds.inTurn Arith.larger base.most.toList := by
      rw [Merge.start]
      cases base.most <;> rfl
    exact congrArg (Option.map Quantity.number) (Merge.foldl_join_most fragments _ start)
  · cases fragments with
    | nil =>
      rw [Lists, List.forall₂_nil_right_iff] at h
      exact absurd h hlisted
    | cons f fragments =>
      have first : ((Merge.start script base).join f).script.event =
          joined (notBlank (script.event.toList ++ f.script.event.toList)) :=
        joinEvents_eq script.event f.script.event
      refine (Merge.foldl_join_event fragments _ first).trans ?_
      rw [List.flatMap_cons, List.append_assoc]

/-- Merging the fragments that a script lists succeeds exactly when the bounds of the script resolve
in its own setup and each address leads to a fragment that can be merged. What comes out is then
told by the script and its fragments in their order. -/
theorem merging_folds_the_fragments_into_the_script (library : Library) (most : Nat)
    (script : Script) (hlisted : script.imports ≠ []) (hmost : script.imports.length ≤ most) :
    (∀ merged, script.merge library most = .ok merged → ∃ base fragments,
      base.AreOf script ∧ script.Lists library base fragments ∧
        merged.MergeOf script base fragments) ∧
      ∀ base fragments, base.AreOf script → script.Lists library base fragments →
        ∃ merged, script.merge library most = .ok merged ∧
          merged.MergeOf script base fragments := by
  constructor
  · intro merged h
    obtain ⟨base, fragments, hbase, hlists, rfl⟩ := (Script.merge_ok_iff hlisted hmost).mp h
    exact ⟨base, fragments, hbase, hlists, Script.mergeOf_finish hlisted hlists⟩
  · intro base fragments hbase hlists
    refine ⟨_, (Script.merge_ok_iff hlisted hmost).mpr ⟨base, fragments, hbase, hlists, rfl⟩, ?_⟩
    exact Script.mergeOf_finish hlisted hlists

/-- A script with a fragment that adds to its event. -/
def eventInTwo : Script := { event := some "a", imports := ["x"] }

/-- The fragment, which says nothing but an event. -/
def eventOfFragment : Fragment := ⟨{ event := some "b" }, ⟨none, none, none⟩⟩

theorem eventOfFragment_stands :
    eventOfFragment.StandsAt [("x", "\x7b'event':'b'\x7d")] false "x" := by
  have word : Grammar.Quoted '\'' ['e', 'v', 'e', 'n', 't'] ['e', 'v', 'e', 'n', 't'] :=
    .plain (by decide) (.plain (by decide) (.plain (by decide) (.plain (by decide)
      (.plain (by decide) .nil))))
  have key : Grammar.MemberKey ['\'', 'e', 'v', 'e', 'n', 't', '\'']
      (String.ofList ['e', 'v', 'e', 'n', 't']) :=
    .quoted (Or.inr rfl) word
  have value : Grammar.Value ['\'', 'b', '\''] (.text (String.ofList ['b'])) :=
    .text (Or.inr rfl) (.plain (by decide) .nil)
  have members : Grammar.Members ['\'', 'e', 'v', 'e', 'n', 't', '\'', ':', '\'', 'b', '\'']
      [(String.ofList ['e', 'v', 'e', 'n', 't'], .text (String.ofList ['b']))] :=
    .last .none key .none .none value .none
  have entries : ByName.LeftBy
      [(String.ofList ['e', 'v', 'e', 'n', 't'], Document.text (String.ofList ['b']))]
      [("event", .text "b")] :=
    ByName.leftBy_iff.mpr rfl
  have written : Grammar.Rendering "\x7b'event':'b'\x7d".toList (.object [("event", .text "b")]) :=
    .value .none (.object members entries) .none
  have read : Document.read "\x7b'event':'b'\x7d" = .ok (.object [("event", .text "b")]) := by
    have shallow : nestsWithin maxNesting .code 0 "\x7b'event':'b'\x7d".toList = true := by
      decide +kernel
    unfold Document.read
    rw [if_pos shallow, readDocument_iff.mpr written]
    rfl
  refine ⟨⟨"\x7b'event':'b'\x7d", rfl, ?_⟩, rfl, ⟨.none, .none, .none⟩, Or.inl rfl⟩
  unfold Script.read
  rw [read]
  rfl

/-- The fragment is merged, and its event stands behind that of the script. -/
theorem two_events_in_one :
    eventInTwo.imports ≠ [] ∧ eventInTwo.imports.length ≤ 5 ∧
      ∃ merged, eventInTwo.merge [("x", "\x7b'event':'b'\x7d")] 5 = .ok merged ∧
        merged.imports = [] ∧ merged.event = some "a • b" := by
  have hlisted : eventInTwo.imports ≠ [] := by decide
  have hmost : eventInTwo.imports.length ≤ 5 := by decide
  obtain ⟨merged, hmerged, hmergeOf⟩ := (merging_folds_the_fragments_into_the_script
    [("x", "\x7b'event':'b'\x7d")] 5 eventInTwo hlisted hmost).2 ⟨none, none, none⟩
      [eventOfFragment] ⟨.none, .none, .none⟩ (.cons eventOfFragment_stands .nil)
  refine ⟨hlisted, hmost, merged, hmerged, hmergeOf.imports, ?_⟩
  rw [hmergeOf.event]
  decide +kernel

end Dealer
