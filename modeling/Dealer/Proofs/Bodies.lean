-- How many bodies of lists and objects are open while a text is read. The reader is
-- watched: each body that it opens or closes is noted, also on the way to a failure.
-- The skimmer, which knows nothing of the grammar, counts the same bodies.
import Dealer.Document.SyntaxError
import Dealer.Proofs.Rendering
import Dealer.Proofs.Skimming

namespace Dealer

/-! ## Bodies that open and close -/

/-- What happens to the body of a list or of an object. -/
inductive BodyEvent
  | opened
  | closed
  deriving DecidableEq, Repr

/-- The number of bodies that are open behind an event. -/
def BodyEvent.count (n : Nat) : BodyEvent → Nat
  | .opened => n + 1
  | .closed => n - 1

/-- The number of bodies that are open behind some events, when so many are open before. -/
def openBehind (depth : Nat) (events : List BodyEvent) : Nat := events.foldl BodyEvent.count depth

/-- Whether no event opens more than `limit` bodies, when `depth` are open before. -/
def opensWithin (limit : Nat) : Nat → List BodyEvent → Bool
  | _, [] => true
  | depth, .opened :: events => depth < limit && opensWithin limit (depth + 1) events
  | depth, .closed :: events => opensWithin limit (depth - 1) events

theorem openBehind_append (depth : Nat) (events others : List BodyEvent) :
    openBehind depth (events ++ others) = openBehind (openBehind depth events) others := by
  simp [openBehind]

theorem opensWithin_append (limit depth : Nat) (events others : List BodyEvent) :
    opensWithin limit depth (events ++ others) =
      (opensWithin limit depth events && opensWithin limit (openBehind depth events) others) := by
  induction events generalizing depth with
  | nil => rfl
  | cons e events ih =>
    cases e with
    | opened =>
      simp only [List.cons_append, opensWithin, ih, Bool.and_assoc]
      rfl
    | closed => exact ih (depth - 1)

/-- No event opens too many bodies when there are never too many open. -/
theorem opensWithin_iff {limit depth : Nat} (hd : depth ≤ limit) (events : List BodyEvent) :
    opensWithin limit depth events = true ↔
      ∀ before, before <+: events → openBehind depth before ≤ limit := by
  induction events generalizing depth with
  | nil =>
    simp only [opensWithin, true_iff]
    intro before hb
    rw [List.prefix_nil.mp hb]
    exact hd
  | cons e events ih =>
    have split : (∀ before, before <+: e :: events → openBehind depth before ≤ limit) ↔
        ∀ before, before <+: events → openBehind (e.count depth) before ≤ limit := by
      constructor
      · intro h before hb
        exact h (e :: before) ((List.prefix_cons_inj e).mpr hb)
      · intro h before hb
        cases before with
        | nil => exact hd
        | cons x before =>
          obtain ⟨hx, hb⟩ := List.cons_prefix_cons.mp hb
          rw [hx]
          exact h before hb
    rw [split]
    cases e with
    | opened =>
      simp only [opensWithin, Bool.and_eq_true, decide_eq_true_eq]
      constructor
      · rintro ⟨hlt, h⟩
        exact (ih hlt).mp h
      · intro h
        have hlt : depth < limit := h [] (List.nil_prefix ..)
        exact ⟨hlt, (ih hlt).mpr h⟩
    | closed => exact ih (Nat.le_trans (Nat.sub_le _ _) hd)

/-! ## Watched readings -/

/-- A reading, and what happened to bodies on the way to its end or to where it stopped. -/
structure Watched (cs : List Char) (α : Type) where
  reading : Reading cs α
  events : List BodyEvent

namespace Watched

variable {α β : Type} {cs ds : List Char}

/-- A reading that opens and closes no body. -/
def quiet (r : Reading cs α) : Watched cs α := ⟨r, []⟩

/-- Reads on behind what was read. -/
def andThen (w : Watched ds α)
    (next : α → (rest : List Char) → rest.length < ds.length → Watched cs β) : Watched cs β :=
  match w.reading with
  | .done a rest h => ⟨(next a rest h).reading, w.events ++ (next a rest h).events⟩
  | .stopped halt => ⟨.stopped halt, w.events⟩

/-- Tells that something was hoped for around the failing place. -/
def hoping (hope : Hope) (w : Watched cs α) : Watched cs α := ⟨w.reading.hoping hope, w.events⟩

/-- A reading behind the bracket that opens a body. -/
def inBody (w : Watched cs α) : Watched cs α := ⟨w.reading, .opened :: w.events⟩

theorem reading_andThen {w : Watched ds α} {r : Reading ds α}
    {next : α → (rest : List Char) → rest.length < ds.length → Watched cs β}
    {next' : α → (rest : List Char) → rest.length < ds.length → Reading cs β}
    (hw : w.reading = r) (hnext : ∀ a rest h, (next a rest h).reading = next' a rest h) :
    (w.andThen next).reading = r.andThen next' := by
  subst hw
  unfold andThen Reading.andThen
  cases w.reading with
  | done a rest h => exact hnext a rest h
  | stopped halt => rfl

end Watched

/-- Reads the mark that closes a body, which may follow filler. -/
def watchClose (mark : Char) (cs : List Char) : Watched cs Unit :=
  match readMark mark cs with
  | .done () rest h => ⟨.done () rest h, [.closed]⟩
  | .stopped halt => ⟨.stopped halt, []⟩

/-! The rest of a text behind what was read is shorter than the text. -/

section Lengths

variable {cs r r₁ r₂ r₃ r₄ r₅ : List Char}

theorem length_of_comma (h : skipFiller cs = ',' :: r) : r.length < cs.length :=
  length_lt_of_skipFiller h

theorem length_of_bracket (h : skipFiller cs = ']' :: r) : r.length < cs.length :=
  length_lt_of_skipFiller h

theorem length_of_brace (h : skipFiller cs = '\x7d' :: r) : r.length < cs.length :=
  length_lt_of_skipFiller h

theorem length_lastItem (h₁ : r₁.length < cs.length) (h₂ : r₂.length < r₁.length) :
    r₂.length < cs.length := Nat.lt_trans h₂ h₁

theorem length_moreItems (h₁ : r₁.length < cs.length) (h₂ : r₂.length < r₁.length)
    (h₃ : r₃.length < r₂.length) : r₃.length < cs.length :=
  Nat.lt_trans h₃ (length_lastItem h₁ h₂)

theorem length_lastMember (h₁ : r₁.length < (skipFiller cs).length) (h₂ : r₂.length < r₁.length)
    (h₃ : r₃.length < r₂.length) (h₄ : r₄.length < r₃.length) : r₄.length < cs.length := by
  have := length_skipFiller cs
  omega

theorem length_moreMembers (h₁ : r₁.length < (skipFiller cs).length) (h₂ : r₂.length < r₁.length)
    (h₃ : r₃.length < r₂.length) (h₄ : r₄.length < r₃.length) (h₅ : r₅.length < r₄.length) :
    r₅.length < cs.length := Nat.lt_trans h₅ (length_lastMember h₁ h₂ h₃ h₄)

end Lengths

mutual

/-- Reads a value, which may follow filler, and is watched. -/
def watchValue (cs : List Char) : Watched cs Document :=
  have hs := length_skipFiller cs
  Watched.hoping .value <|
    match h : skipFiller cs with
    | [] => .quiet (.failed [] [.number])
    | c :: r =>
      have hr : r.length < cs.length := by rw [h] at hs; exact hs
      if c = '\x7b' then
        ((watchMembers r).andThen fun members rest h₁ =>
          .quiet (.done (.ofMembers members) rest (Nat.lt_trans h₁ hr))).inBody
      else if c = '[' then
        ((watchItems r).andThen fun items rest h₁ =>
          .quiet (.done (.list items) rest (Nat.lt_trans h₁ hr))).inBody
      else if c = '"' ∨ c = '\'' then
        .quiet ((readText c r).andThen fun d rest h₁ => .done d rest (Nat.lt_trans h₁ hr))
      else
        .quiet ((readWord (c :: r)).andThen fun d rest h₁ =>
          .done d rest (Nat.lt_of_lt_of_le h₁ (h ▸ hs)))
termination_by (cs.length, 0)

/-- Reads the body of an object, and is watched. -/
def watchMembers (cs : List Char) : Watched cs (List (String × Document)) :=
  have := length_skipFiller cs
  match h : skipFiller cs with
  | '\x7d' :: r => ⟨.done [] r (length_of_brace h), [.closed]⟩
  | _ =>
    (Watched.quiet (readKey (skipFiller cs))).andThen fun key r₁ h₁ =>
    (Watched.quiet (readMark ':' r₁)).andThen fun _ r₂ h₂ =>
    (watchValue r₂).andThen fun value r₃ h₃ =>
    match hc : skipFiller r₃ with
    | ',' :: r₄ =>
      have h₄ := length_of_comma hc
      (watchMembers r₄).andThen fun others r₅ h₅ =>
        .quiet (.done ((key, value) :: others) r₅ (length_moreMembers h₁ h₂ h₃ h₄ h₅))
    | _ =>
      (watchClose '\x7d' r₃).andThen fun _ r₄ h₄ =>
        .quiet (.done [(key, value)] r₄ (length_lastMember h₁ h₂ h₃ h₄))
termination_by (cs.length, 1)

/-- Reads the body of a list, and is watched. -/
def watchItems (cs : List Char) : Watched cs (List Document) :=
  match h : skipFiller cs with
  | ']' :: r => ⟨.done [] r (length_of_bracket h), [.closed]⟩
  | _ =>
    (watchValue cs).andThen fun value r₁ h₁ =>
    match hc : skipFiller r₁ with
    | ',' :: r₂ =>
      have h₂ := length_of_comma hc
      (watchItems r₂).andThen fun others r₃ h₃ =>
        .quiet (.done (value :: others) r₃ (length_moreItems h₁ h₂ h₃))
    | _ =>
      (watchClose ']' r₁).andThen fun _ r₂ h₂ =>
        .quiet (.done [value] r₂ (length_lastItem h₁ h₂))
termination_by (cs.length, 1)

end

/-- Reads a whole text, and is watched. -/
def watchDocument (cs : List Char) : Except (Halt Failure) Document × List BodyEvent :=
  let value := watchValue cs
  match value.reading with
  | .stopped halt => (.error halt, value.events)
  | .done d rest _ =>
    match skipFiller rest with
    | [] => (.ok d, value.events)
    | left => (.error (.failed ⟨left, []⟩), value.events)

/-! ## Watching changes nothing -/

theorem watchClose_reading (mark : Char) (cs : List Char) :
    (watchClose mark cs).reading = readMark mark cs := by
  unfold watchClose
  cases readMark mark cs <;> rfl

/-- A list that is not closed at once has an item, and behind it a comma or its end. -/
theorem readItems_andThen {cs : List Char} (h : ∀ r, skipFiller cs ≠ ']' :: r) :
    ∃ next, readItems cs = (readValue cs).andThen next ∧
      (∀ value r₁ h₁ r₂ (hcomma : skipFiller r₁ = ',' :: r₂),
        next value r₁ h₁ = (readItems r₂).andThen fun others r₃ h₃ =>
          .done (value :: others) r₃ (length_moreItems h₁ (length_of_comma hcomma) h₃)) ∧
      ∀ value r₁ h₁, (∀ r₂, skipFiller r₁ ≠ ',' :: r₂) →
        next value r₁ h₁ = (readMark ']' r₁).andThen fun _ r₂ h₂ =>
          .done [value] r₂ (length_lastItem h₁ h₂) := by
  rw [readItems]
  split
  · rename_i r hclose
    exact absurd hclose (h r)
  · refine ⟨_, rfl, ?_, ?_⟩
    · intro value r₁ h₁ r₂ hcomma
      split
      · rename_i r hr
        rw [hcomma] at hr
        cases hr
        rfl
      · rename_i hnot
        exact absurd hcomma (hnot r₂)
    · intro value r₁ h₁ hnot
      split
      · rename_i r hr
        exact absurd hr (hnot r)
      · rfl

/-- An object that is not closed at once has a member, and behind it a comma or its end. -/
theorem readMembers_andThen {cs : List Char} (h : ∀ r, skipFiller cs ≠ '\x7d' :: r) :
    ∃ next : String → (r₁ : List Char) → r₁.length < (skipFiller cs).length →
        (r₂ : List Char) → r₂.length < r₁.length →
        Document → (r₃ : List Char) → r₃.length < r₂.length → Reading cs (List (String × Document)),
      readMembers cs = ((readKey (skipFiller cs)).andThen fun key r₁ h₁ =>
        (readMark ':' r₁).andThen fun _ r₂ h₂ => (readValue r₂).andThen (next key r₁ h₁ r₂ h₂)) ∧
      (∀ key r₁ h₁ r₂ h₂ value r₃ h₃ r₄ (hcomma : skipFiller r₃ = ',' :: r₄),
        next key r₁ h₁ r₂ h₂ value r₃ h₃ = (readMembers r₄).andThen fun others r₅ h₅ =>
          .done ((key, value) :: others) r₅
            (length_moreMembers h₁ h₂ h₃ (length_of_comma hcomma) h₅)) ∧
      ∀ key r₁ h₁ r₂ h₂ value r₃ h₃, (∀ r₄, skipFiller r₃ ≠ ',' :: r₄) →
        next key r₁ h₁ r₂ h₂ value r₃ h₃ = (readMark '\x7d' r₃).andThen fun _ r₄ h₄ =>
          .done [(key, value)] r₄ (length_lastMember h₁ h₂ h₃ h₄) := by
  rw [readMembers]
  split
  · rename_i r hclose
    exact absurd hclose (h r)
  · refine ⟨_, rfl, ?_, ?_⟩
    · intro key r₁ h₁ r₂ h₂ value r₃ h₃ r₄ hcomma
      split
      · rename_i r hr
        rw [hcomma] at hr
        cases hr
        rfl
      · rename_i hnot
        exact absurd hcomma (hnot r₄)
    · intro key r₁ h₁ r₂ h₂ value r₃ h₃ hnot
      split
      · rename_i r hr
        exact absurd hr (hnot r)
      · rfl

theorem readItems_done {cs r : List Char} (h : skipFiller cs = ']' :: r) :
    readItems cs = .done [] r (length_lt_of_skipFiller h) := by
  rw [readItems]
  split
  · rename_i hr
    rw [h] at hr
    cases hr
    rfl
  · rename_i hnot
    exact absurd h (hnot r)

theorem readMembers_done {cs r : List Char} (h : skipFiller cs = '\x7d' :: r) :
    readMembers cs = .done [] r (length_lt_of_skipFiller h) := by
  rw [readMembers]
  split
  · rename_i hr
    rw [h] at hr
    cases hr
    rfl
  · rename_i hnot
    exact absurd h (hnot r)

mutual

theorem watchValue_reading (cs : List Char) : (watchValue cs).reading = readValue cs := by
  generalize hread : readValue cs = reading
  rw [readValue] at hread
  split at hread
  · rename_i h
    subst hread
    rw [watchValue]
    split
    · rfl
    · rename_i h'
      rw [h] at h'
      cases h'
  · rename_i c r h
    have hr := length_lt_of_skipFiller h
    subst hread
    rw [watchValue]
    split
    · rename_i h'
      rw [h] at h'
      cases h'
    · rename_i h'
      rw [h] at h'
      cases h'
      refine congrArg (Reading.hoping .value) ?_
      by_cases hbrace : c = '\x7b'
      · rw [if_pos hbrace, if_pos hbrace]
        exact Watched.reading_andThen (watchMembers_reading r) fun _ _ _ => rfl
      · rw [if_neg hbrace, if_neg hbrace]
        by_cases hbracket : c = '['
        · rw [if_pos hbracket, if_pos hbracket]
          exact Watched.reading_andThen (watchItems_reading r) fun _ _ _ => rfl
        · rw [if_neg hbracket, if_neg hbracket]
          split <;> rfl
termination_by (cs.length, 0)

theorem watchMembers_reading (cs : List Char) : (watchMembers cs).reading = readMembers cs := by
  rw [watchMembers]
  split
  · rename_i r h
    rw [readMembers_done h]
  · rename_i hnot
    obtain ⟨next, hread, hcomma, hlast⟩ := readMembers_andThen fun r hr => hnot r hr
    rw [hread]
    refine Watched.reading_andThen rfl fun key r₁ h₁ => ?_
    refine Watched.reading_andThen rfl fun colon r₂ h₂ => ?_
    have hs := length_skipFiller cs
    refine Watched.reading_andThen (watchValue_reading r₂) fun value r₃ h₃ => ?_
    split
    · rename_i r₄ hr
      have h₄ := length_lt_of_skipFiller hr
      rw [hcomma _ _ _ _ _ _ _ _ _ hr]
      exact Watched.reading_andThen (watchMembers_reading r₄) fun _ _ _ => rfl
    · rename_i hr
      rw [hlast _ _ _ _ _ _ _ _ hr]
      exact Watched.reading_andThen (watchClose_reading _ r₃) fun _ _ _ => rfl
termination_by (cs.length, 1)

theorem watchItems_reading (cs : List Char) : (watchItems cs).reading = readItems cs := by
  rw [watchItems]
  split
  · rename_i r h
    rw [readItems_done h]
  · rename_i hnot
    obtain ⟨next, hread, hcomma, hlast⟩ := readItems_andThen fun r hr => hnot r hr
    rw [hread]
    refine Watched.reading_andThen (watchValue_reading cs) fun value r₁ h₁ => ?_
    split
    · rename_i r₂ hr
      have h₂ := length_lt_of_skipFiller hr
      rw [hcomma _ _ _ _ hr]
      exact Watched.reading_andThen (watchItems_reading r₂) fun _ _ _ => rfl
    · rename_i hr
      rw [hlast _ _ _ hr]
      exact Watched.reading_andThen (watchClose_reading _ r₁) fun _ _ _ => rfl
termination_by (cs.length, 1)

end

/-- Watching a text changes nothing of what is read. -/
theorem watchDocument_fst (cs : List Char) : (watchDocument cs).1 = readDocument cs := by
  unfold watchDocument readDocument
  rw [← watchValue_reading]
  dsimp only
  cases (watchValue cs).reading with
  | stopped halt => rfl
  | done d rest h =>
    dsimp only
    cases skipFiller rest <;> rfl

/-! ## The skimmer keeps step -/

/-- The skimmer keeps step with a watched reading of a text: it passes no opening of too many
bodies, and behind what was read it goes on with the bodies that are open there. -/
structure InStep {cs : List Char} {α : Type} (text : List Char) (w : Watched cs α) : Prop where
  within : ∀ limit depth, nestsWithin limit .code depth text = true →
    opensWithin limit depth w.events = true
  goesOn : ∀ a rest, w.reading.outcome = .ok (a, rest) → ∀ limit depth,
    nestsWithin limit .code depth text =
      (opensWithin limit depth w.events && nestsWithin limit .code (openBehind depth w.events) rest)

namespace InStep

variable {α β : Type} {cs ds text : List Char}

/-- Where reading stops nothing is opened. -/
theorem stopped (halt : Halt Failure) :
    InStep text (Watched.quiet (.stopped halt : Reading cs α)) where
  within _ _ _ := rfl
  goesOn _ _ h := by cases h

/-- What is passed over opens nothing. -/
theorem quiet {r : Reading cs α} (h : ∀ a rest, r.outcome = .ok (a, rest) → Passed text rest) :
    InStep text (Watched.quiet r) where
  within _ _ _ := rfl
  goesOn a rest hr limit depth := h a rest hr limit depth

/-- What is done is passed over. -/
theorem done (a : α) (h : text.length < cs.length) :
    InStep text (Watched.quiet (.done a text h : Reading cs α)) := by
  refine quiet fun b rest hr => ?_
  cases hr
  exact fun limit depth => rfl

theorem andThen {w : Watched ds α}
    {next : α → (rest : List Char) → rest.length < ds.length → Watched cs β} (hw : InStep text w)
    (hnext : ∀ a rest h, InStep rest (next a rest h)) : InStep text (w.andThen next) := by
  obtain ⟨reading, events⟩ := w
  cases reading with
  | stopped halt => exact ⟨hw.within, fun _ _ h => by cases h⟩
  | done a rest h =>
    have first := hw.goesOn a rest rfl
    have second := hnext a rest h
    simp only [Watched.andThen]
    refine ⟨fun limit depth htext => ?_, fun b left hb limit depth => ?_⟩
    · rw [first, Bool.and_eq_true] at htext
      rw [opensWithin_append, Bool.and_eq_true]
      exact ⟨htext.1, second.within limit _ htext.2⟩
    · rw [first, second.goesOn b left hb, opensWithin_append, openBehind_append, Bool.and_assoc]

theorem hoping {w : Watched cs α} (hope : Hope) (h : InStep text w) :
    InStep text (w.hoping hope) := by
  refine ⟨h.within, fun a rest hr => ?_⟩
  rw [Watched.hoping, Reading.outcome_hoping] at hr
  exact h.goesOn a rest hr

/-- Filler in front changes nothing. -/
theorem behindFiller {w : Watched cs α} {left : List Char} (hs : skipFiller text = left)
    (h : InStep left w) : InStep text w := by
  subst hs
  refine ⟨fun limit depth ht => ?_, fun a rest hr limit depth => ?_⟩
  · rw [← nestsWithin_skipFiller] at ht
    exact h.within limit depth ht
  · rw [← nestsWithin_skipFiller]
    exact h.goesOn a rest hr limit depth

/-- Neither does a character that the skimmer does not look at. -/
theorem behindPlain {w : Watched cs α} {c : Char} (hc : c ∉ skimmed) (h : InStep text w) :
    InStep (c :: text) w where
  within limit depth ht := h.within limit depth (by rwa [nestsWithin_plain hc] at ht)
  goesOn a rest hr limit depth := by
    rw [nestsWithin_plain hc]
    exact h.goesOn a rest hr limit depth

theorem nestsWithin_open {c : Char} (hc : c = '\x7b' ∨ c = '[') (limit depth : Nat) :
    nestsWithin limit .code depth (c :: text) =
      (depth < limit && nestsWithin limit .code (depth + 1) text) := by
  rcases hc with rfl | rfl <;> rfl

theorem nestsWithin_close {c : Char} (hc : c = '\x7d' ∨ c = ']') (limit depth : Nat) :
    nestsWithin limit .code depth (c :: text) = nestsWithin limit .code (depth - 1) text := by
  rcases hc with rfl | rfl <;> rfl

/-- An opening bracket opens one body more. -/
theorem inBody {w : Watched cs α} {c : Char} (hc : c = '\x7b' ∨ c = '[') (h : InStep text w) :
    InStep (c :: text) w.inBody where
  within limit depth ht := by
    rw [nestsWithin_open hc, Bool.and_eq_true] at ht
    simp only [Watched.inBody, opensWithin, Bool.and_eq_true]
    exact ⟨ht.1, h.within limit _ ht.2⟩
  goesOn a rest hr limit depth := by
    rw [nestsWithin_open hc, h.goesOn a rest hr]
    simp only [Watched.inBody, opensWithin, Bool.and_assoc]
    rfl

/-- A closing bracket closes one body. -/
theorem closed {c : Char} (hc : c = '\x7d' ∨ c = ']') (a : α) (h : text.length < cs.length) :
    InStep (c :: text) (⟨.done a text h, [.closed]⟩ : Watched cs α) where
  within _ _ _ := rfl
  goesOn b rest hr limit depth := by
    cases hr
    exact nestsWithin_close hc limit depth

theorem close {mark : Char} (hmark : mark = '\x7d' ∨ mark = ']') (cs : List Char) :
    InStep cs (watchClose mark cs) := by
  unfold watchClose
  split
  · rename_i rest h hread
    have hs : skipFiller cs = mark :: rest := readMark_outcome.mp (by rw [hread]; rfl)
    exact behindFiller hs (closed hmark () h)
  · exact stopped _

end InStep

mutual

/-- The skimmer keeps step with a value: a bracket that opens a body of the grammar is one that the
skimmer counts, and all other characters of the value mean nothing to it. -/
theorem watchValue_inStep (cs : List Char) : InStep cs (watchValue cs) := by
  rw [watchValue]
  apply InStep.hoping
  split
  · exact InStep.stopped _
  · rename_i c r h
    have hr := length_lt_of_skipFiller h
    apply InStep.behindFiller h
    dsimp only
    split
    · rename_i hc
      refine InStep.inBody (Or.inl hc) ((watchMembers_inStep r).andThen fun _ _ _ => ?_)
      exact InStep.done _ _
    · split
      · rename_i hc
        refine InStep.inBody (Or.inr hc) ((watchItems_inStep r).andThen fun _ _ _ => ?_)
        exact InStep.done _ _
      · split
        · rename_i hquote
          refine InStep.quiet fun d rest hd => passed_of_readText hquote (d := d) ?_
          revert hd
          cases readText c r <;> exact id
        · refine InStep.quiet fun d rest hd => passed_of_readWord (d := d) ?_
          revert hd
          cases readWord (c :: r) <;> exact id
termination_by (cs.length, 0)

theorem watchMembers_inStep (cs : List Char) : InStep cs (watchMembers cs) := by
  have hs := length_skipFiller cs
  rw [watchMembers]
  split
  · rename_i r h
    exact InStep.behindFiller h (InStep.closed (Or.inl rfl) [] _)
  · apply InStep.behindFiller rfl
    refine (InStep.quiet fun _ _ => passed_of_readKey).andThen fun key r₁ h₁ => ?_
    refine (InStep.quiet fun _ _ => passed_of_readMark (by decide)).andThen fun _ r₂ h₂ => ?_
    refine (watchValue_inStep r₂).andThen fun value r₃ h₃ => ?_
    split
    · rename_i r₄ hcomma
      have h₄ := length_lt_of_skipFiller hcomma
      apply InStep.behindFiller hcomma
      apply InStep.behindPlain (by decide)
      exact (watchMembers_inStep r₄).andThen fun _ _ _ => InStep.done _ _
    · exact (InStep.close (Or.inl rfl) r₃).andThen fun _ _ _ => InStep.done _ _
termination_by (cs.length, 1)

theorem watchItems_inStep (cs : List Char) : InStep cs (watchItems cs) := by
  rw [watchItems]
  split
  · rename_i r h
    exact InStep.behindFiller h (InStep.closed (Or.inr rfl) [] _)
  · refine (watchValue_inStep cs).andThen fun value r₁ h₁ => ?_
    split
    · rename_i r₂ hcomma
      have h₂ := length_lt_of_skipFiller hcomma
      apply InStep.behindFiller hcomma
      apply InStep.behindPlain (by decide)
      exact (watchItems_inStep r₂).andThen fun _ _ _ => InStep.done _ _
    · exact (InStep.close (Or.inr rfl) r₁).andThen fun _ _ _ => InStep.done _ _
termination_by (cs.length, 1)

end

/-! ## Whole texts -/

theorem watchDocument_snd (cs : List Char) : (watchDocument cs).2 = (watchValue cs).events := by
  unfold watchDocument
  dsimp only
  split
  · rfl
  · split <;> rfl

/-- The skimmer accepts a text that can be read exactly when no event of the reading opens too many
bodies. -/
theorem nestsWithin_eq_of_readDocument {cs : List Char} {d : Document}
    (h : readDocument cs = .ok d) (limit : Nat) :
    nestsWithin limit .code 0 cs = opensWithin limit 0 (watchDocument cs).2 := by
  rw [watchDocument_snd]
  unfold readDocument at h
  split at h
  · cases h
  · rename_i value rest hlt hvalue
    have hresult : (watchValue cs).reading.outcome = .ok (value, rest) := by
      rw [watchValue_reading, hvalue]
      rfl
    split at h
    · rename_i hend
      rw [(watchValue_inStep cs).goesOn value rest hresult, ← nestsWithin_skipFiller rest, hend]
      exact Bool.and_true _
    · cases h

/-- The skimmer agrees with the reader that it protects. Watching a reading changes nothing of it.
On every text that the skimmer accepts, the reader has at no point more bodies open than are
allowed, whether it ends with a document, fails or is broken off. And of the texts that can be
read, the skimmer rejects exactly those where at some point of the reading too many bodies are
open. -/
theorem the_skimmer_counts_the_bodies_that_are_open (text : String) :
    (watchDocument text.toList).1 = readDocument text.toList ∧
      (nestsWithin maxNesting .code 0 text.toList = true →
        ∀ before, before <+: (watchDocument text.toList).2 → openBehind 0 before ≤ maxNesting) ∧
      ∀ d, readDocument text.toList = .ok d →
        (nestsWithin maxNesting .code 0 text.toList = false ↔
          ∃ before, before <+: (watchDocument text.toList).2 ∧
            maxNesting < openBehind 0 before) := by
  refine ⟨watchDocument_fst _, fun h => ?_, fun d hd => ?_⟩
  · rw [← opensWithin_iff (Nat.zero_le _), watchDocument_snd]
    exact (watchValue_inStep _).within _ _ h
  · rw [nestsWithin_eq_of_readDocument hd, ← Bool.not_eq_true, opensWithin_iff (Nat.zero_le _)]
    simp only [Classical.not_forall, Nat.not_le, exists_prop]

/-- A text in so many lists, one in the other. -/
def inLists (text : List Char) : Nat → List Char
  | 0 => text
  | n + 1 => '[' :: (inLists text n ++ [']'])

theorem readDocument_inLists {text : List Char} {d : Document} (h : Grammar.Value text d)
    (n : Nat) : ∃ d, readDocument (inLists text n) = .ok d := by
  have value : ∃ d, Grammar.Value (inLists text n) d := by
    induction n with
    | zero => exact ⟨d, h⟩
    | succ n ih =>
      obtain ⟨inner, hinner⟩ := ih
      have items : Grammar.Items (inLists text n) [inner] := by
        have := Grammar.Items.last .none hinner .none
        rwa [List.nil_append, List.append_nil] at this
      exact ⟨_, .list items⟩
  obtain ⟨d, hd⟩ := value
  have rendering : Grammar.Rendering (inLists text n) d := by
    have := Grammar.Rendering.value .none hd .none
    rwa [List.nil_append, List.append_nil] at this
  exact ⟨d, readDocument_iff.mpr rendering⟩

/-- A bracket in quotes does not count, so a text that is one may stand in as many lists as are
allowed. One list more is too deep, although it can be read. -/
theorem one_list_more_is_too_deep :
    (nestsWithin maxNesting .code 0 (String.ofList (inLists ['"', '[', '"'] 64)).toList = true ∧
        ∀ before, before <+: (watchDocument (String.ofList (inLists ['"', '[', '"'] 64)).toList).2 →
          openBehind 0 before ≤ maxNesting) ∧
      (∃ d, readDocument (String.ofList (inLists ['"', '[', '"'] 65)).toList = .ok d) ∧
      ∃ before, before <+: (watchDocument (String.ofList (inLists ['"', '[', '"'] 65)).toList).2 ∧
        maxNesting < openBehind 0 before := by
  have quoted : Grammar.Value ['"', '[', '"'] (.text (String.ofList ['['])) :=
    .text (Or.inl rfl) (.plain (by decide) .nil)
  have accepted : nestsWithin maxNesting .code 0
      (String.ofList (inLists ['"', '[', '"'] 64)).toList = true := by
    rw [String.toList_ofList]
    decide +kernel
  have rejected : nestsWithin maxNesting .code 0
      (String.ofList (inLists ['"', '[', '"'] 65)).toList = false := by
    rw [String.toList_ofList]
    decide +kernel
  have read : ∃ d, readDocument (String.ofList (inLists ['"', '[', '"'] 65)).toList = .ok d := by
    rw [String.toList_ofList]
    exact readDocument_inLists quoted 65
  obtain ⟨_, within, _⟩ := the_skimmer_counts_the_bodies_that_are_open
    (String.ofList (inLists ['"', '[', '"'] 64))
  obtain ⟨_, _, exceeds⟩ := the_skimmer_counts_the_bodies_that_are_open
    (String.ofList (inLists ['"', '[', '"'] 65))
  obtain ⟨d, hd⟩ := read
  exact ⟨⟨accepted, within accepted⟩, ⟨d, hd⟩, (exceeds d hd).mp rejected⟩

end Dealer
