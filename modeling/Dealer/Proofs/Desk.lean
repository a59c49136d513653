-- The desk at which expressions are resolved. The names that are being resolved
-- stand on it: a look-up writes its name at the end of them, resolves the document
-- and takes the last name off again, whether that succeeded or not. What happens at
-- the desk is a course of such steps.
import Dealer.Proofs.Answers

namespace Dealer

/-- What is known of the parameters, the names that are being resolved, and the generator. -/
structure Desk where
  memo : Memo
  chain : Chain
  generator : Generator
  deriving DecidableEq

namespace Desk

/-- A desk with the state of a game, while some names are being resolved. -/
def of (chain : Chain) (run : Run) : Desk := ⟨run.memo, chain, run.generator⟩

/-- The state of the game. -/
def run (desk : Desk) : Run := ⟨desk.memo, desk.generator⟩

/-- Starts to resolve a name. -/
def push (desk : Desk) (name : String) : Desk := { desk with chain := desk.chain ++ [name] }

/-- Takes the last name off, whichever it is. -/
def pop (desk : Desk) : Desk := { desk with chain := desk.chain.dropLast }

/-- Makes a value known. -/
def learn (desk : Desk) (name : String) (v : Resolved) : Desk :=
  { desk with memo := desk.memo.put name v }

instance : Remembers Desk := ⟨Desk.memo, fun desk m => { desk with memo := m }, fun _ _ => rfl⟩

@[simp] theorem of_run (desk : Desk) : of desk.chain desk.run = desk := rfl

@[simp] theorem run_of (chain : Chain) (run : Run) : (of chain run).run = run := rfl

@[simp] theorem memo_of (chain : Chain) (run : Run) : (of chain run).memo = run.memo := rfl

@[simp] theorem chain_of (chain : Chain) (run : Run) : (of chain run).chain = chain := rfl

@[simp] theorem push_of (chain : Chain) (run : Run) (name : String) :
    (of chain run).push name = of (chain ++ [name]) run := rfl

@[simp] theorem pop_of (chain : Chain) (run : Run) (name : String) :
    (of (chain ++ [name]) run).pop = of chain run := by
  simp only [of, pop, List.dropLast_concat]

@[simp] theorem learn_of (chain : Chain) (run : Run) (name : String) (v : Resolved) :
    (of chain run).learn name v = of chain { run with memo := run.memo.put name v } := rfl

end Desk

/-! ## Evaluations at the desk -/

namespace Eval

variable {α β : Type}

/-- An evaluation at a desk, which is told the names that are being resolved there. -/
def atDesk (x : Chain → Eval Run α) : Eval Desk α := fun desk =>
  match x desk.chain desk.run with
  | .ok a run => .ok a (.of desk.chain run)
  | .error e run => .error e (.of desk.chain run)

theorem atDesk_ok {x : Chain → Eval Run α} {desk : Desk} {a : α} {run : Run}
    (h : x desk.chain desk.run = .ok a run) : atDesk x desk = .ok a (.of desk.chain run) := by
  simp only [atDesk, h]

theorem atDesk_error {x : Chain → Eval Run α} {desk : Desk} {e : EvalError} {run : Run}
    (h : x desk.chain desk.run = .error e run) : atDesk x desk = .error e (.of desk.chain run) := by
  simp only [atDesk, h]

/-- At a desk, too, one evaluation follows the other. -/
theorem atDesk_bind (x : Chain → Eval Run α) (f : α → Chain → Eval Run β) :
    atDesk (fun chain => x chain >>= fun a => f a chain) =
      atDesk x >>= fun a => atDesk (f a) := by
  funext desk
  cases h : x desk.chain desk.run with
  | ok a run =>
    rw [bind_ok (atDesk_ok h)]
    simp only [atDesk, bind_ok h]
    rfl
  | error e run =>
    rw [bind_error (atDesk_error h)]
    simp only [atDesk, bind_error h]

theorem onMemo_ok {x : Eval Memo α} {run : Run} {a : α} {m : Memo} (h : x run.memo = .ok a m) :
    onMemo x run = .ok a { run with memo := m } := by
  simp only [onMemo, h]

theorem onMemo_error {x : Eval Memo α} {run : Run} {e : EvalError} {m : Memo}
    (h : x run.memo = .error e m) : onMemo x run = .error e { run with memo := m } := by
  simp only [onMemo, h]

theorem onMemo_bind (x : Eval Memo α) (f : α → Eval Memo β) :
    onMemo (x >>= f) = onMemo x >>= fun a => onMemo (f a) := by
  funext run
  cases h : x run.memo with
  | ok a m =>
    rw [bind_ok (onMemo_ok h)]
    simp only [onMemo, bind_ok h]
  | error e m =>
    rw [bind_error (onMemo_error h)]
    simp only [onMemo, bind_error h]

end Eval

namespace Parameter

variable {ε β : Type}

/-- A look-up of numbers and flags is the same with the generator beside it. -/
theorem onMemo_lookUp (p : Parameter ε β) (setup : Setup) (chain : Chain)
    (resolve : ε → Eval Memo β) (name : String) :
    Eval.onMemo (p.lookUp setup chain resolve name) =
      p.lookUp setup chain (fun e => Eval.onMemo (resolve e)) name := by
  funext run
  unfold Eval.onMemo lookUp
  simp only [Remembers.memo, id]
  cases run.memo.find setup chain name with
  | known v => dsimp only; cases p.kept? v <;> rfl
  | circle path => rfl
  | absent => rfl
  | fresh d h =>
    dsimp only
    cases p.read d with
    | none => rfl
    | some e => dsimp only; cases resolve e run.memo <;> rfl

theorem onMemo_orUndefined (name : String) (found : Option β) :
    Eval.onMemo (orUndefined name found) = orUndefined name found := by
  cases found <;> rfl

/-- The look-up at a desk. The name is written at the end of the names that are being resolved, and
the last name is taken off when the document is resolved, and when it is not. -/
def takeUp (p : Parameter ε β) (setup : Setup) (resolve : ε → Eval Desk β) (name : String) :
    Eval Desk (Option β) := fun desk =>
  match desk.memo.find setup desk.chain name with
  | .known value =>
    match p.kept? value with
    | some b => .ok (some b) desk
    | none => .error (.wrongKind name p.kind) desk
  | .circle path => .error (.recursive path) desk
  | .absent => .ok none desk
  | .fresh d _ =>
    match p.read d with
    | none => .error (.wrongKind name p.kind) desk
    | some e =>
      match resolve e (desk.push name) with
      | .ok b left => .ok (some b) (left.pop.learn name (p.keep b))
      | .error err left => .error err left.pop

/-- To look a name up behind a chain is to take it up at the desk. -/
theorem atDesk_lookUp (p : Parameter ε β) (setup : Setup) (resolve : Chain → ε → Eval Run β)
    (name : String) :
    Eval.atDesk (fun chain => p.lookUp setup chain (resolve (chain ++ [name])) name) =
      p.takeUp setup (fun e => Eval.atDesk fun chain => resolve chain e) name := by
  funext desk
  obtain ⟨m, chain, g⟩ := desk
  simp only [Eval.atDesk, lookUp, takeUp, Remembers.memo, Desk.run]
  cases m.find setup chain name with
  | known v => dsimp only; cases p.kept? v <;> rfl
  | circle path => rfl
  | absent => rfl
  | fresh d h =>
    dsimp only
    cases p.read d with
    | none => rfl
    | some e =>
      simp only [Desk.push]
      cases resolve (chain ++ [name]) e ⟨m, g⟩ with
      | ok b run => simp [Remembers.remember]
      | error err run => simp

end Parameter

/-! ## The evaluators at the desk -/

namespace Desk

variable (setup : Setup)

/-- The number that a quantity stands for. -/
def quantity (q : Quantity) : Eval Desk Float :=
  Eval.atDesk fun chain => Eval.onMemo (q.eval (numberOf setup chain))

/-- The truth value that a flag stands for. -/
def truth (f : Flag) : Eval Desk Bool :=
  Eval.atDesk fun chain => Eval.onMemo (f.eval (flagOf setup chain))

/-- Builds a deck. -/
def build (d : Deck) : Eval Desk (List String) :=
  Eval.atDesk fun chain => d.build (.within setup chain)

/-- The number of a parameter. -/
def number (name : String) : Eval Desk Float :=
  Eval.atDesk fun chain => Eval.onMemo (numberOf setup chain name)

/-- The truth value of a parameter. -/
def flag (name : String) : Eval Desk Bool :=
  Eval.atDesk fun chain => Eval.onMemo (flagOf setup chain name)

/-- The deck of a parameter, if a parameter has the name. -/
def deck (name : String) : Eval Desk (Option (List String)) :=
  Eval.atDesk fun chain => deckOf setup chain name

/-- Does what is asked for. -/
def fulfil (request : Request) : Eval Desk Answer :=
  Eval.atDesk fun chain => request.fulfil (.within setup chain)

variable {setup}

/-- What needs no generator, and is looked up behind a chain, is taken up at the desk. -/
theorem takeUp_of_memo {ε β : Type} (p : Parameter ε β) (look : Chain → String → Eval Memo β)
    (eval : (String → Eval Memo β) → ε → Eval Memo β)
    (hlook : ∀ chain name, look chain name =
      p.lookUp setup chain (eval (look (chain ++ [name]))) name >>= Parameter.orUndefined name)
    (name : String) :
    Eval.atDesk (fun chain => Eval.onMemo (look chain name)) =
      p.takeUp setup (fun e => Eval.atDesk fun chain => Eval.onMemo (eval (look chain) e)) name >>=
        Parameter.orUndefined name := by
  have hmemo : (fun chain => Eval.onMemo (look chain name)) = fun chain =>
      p.lookUp setup chain (fun e => Eval.onMemo (eval (look (chain ++ [name])) e)) name >>=
        fun found => Parameter.orUndefined name found := by
    funext chain
    rw [hlook, Eval.onMemo_bind, Parameter.onMemo_lookUp]
    exact bind_congr fun found => Parameter.onMemo_orUndefined name found
  rw [hmemo, Eval.atDesk_bind,
    Parameter.atDesk_lookUp p setup (fun chain e => Eval.onMemo (eval (look chain) e))]
  refine bind_congr fun found => ?_
  cases found <;> rfl

/-- The number of a parameter is taken up: its name is written down, its quantity resolved and the
last name taken off. -/
theorem number_eq (name : String) :
    number setup name =
      Parameter.number.takeUp setup (quantity setup) name >>= Parameter.orUndefined name :=
  takeUp_of_memo Parameter.number (numberOf setup) (fun look q => q.eval look)
    (numberOf_eq setup) name

theorem flag_eq (name : String) :
    flag setup name =
      Parameter.flag.takeUp setup (truth setup) name >>= Parameter.orUndefined name :=
  takeUp_of_memo Parameter.flag (flagOf setup) (fun look f => f.eval look) (flagOf_eq setup) name

theorem deck_eq (name : String) :
    deck setup name = Parameter.deck.takeUp setup (build setup) name := by
  have hlook : (fun chain => deckOf setup chain name) = fun chain =>
      Parameter.deck.lookUp setup chain (Deck.build (.within setup (chain ++ [name]))) name :=
    funext fun chain => deckOf_eq setup chain name
  rw [deck, hlook]
  exact Parameter.atDesk_lookUp Parameter.deck setup
    (fun chain => Deck.build (.within setup chain)) name

/-! ## What happens at the desk -/

/-- Resolving a document on one desk gives a value and leaves another desk. -/
def Gives (setup : Setup) (d : Document) (desk left : Desk) : Resolved → Prop
  | .number x => ∃ q, Quantity.ofDocument? d = some q ∧ quantity setup q desk = .ok x left
  | .option b => ∃ f, Flag.ofDocument? d = some f ∧ truth setup f desk = .ok b left
  | .deck cards => ∃ deck, Deck.ofDocument? d = some deck ∧ build setup deck desk = .ok cards left

/-- What happens at a desk from one state to another, and what becomes known by it, in its order.
Words are drawn, and parameters are resolved: a name that is not known yet is pushed, its document
resolved in a course of its own, and the last name is popped. Only a name whose document gave a
value becomes known. -/
inductive Course (setup : Setup) : Desk → List (String × Resolved) → Desk → Prop
  | stay (desk : Desk) : Course setup desk [] desk
  | draw (desk : Desk) (g : Generator) : Course setup desk [] { desk with generator := g }
  | resolved {desk left : Desk} {name : String} {d : Document} {v : Resolved}
      {news : List (String × Resolved)} (hm : desk.memo.get? name = none)
      (hf : Fresh setup desk.chain name) (hd : setup.get? name = some d)
      (hv : Gives setup d (desk.push name) left v)
      (inner : Course setup (desk.push name) news left) :
      Course setup desk (news ++ [(name, v)]) (left.pop.learn name v)
  | failed {desk left : Desk} {name : String} {news : List (String × Resolved)}
      (hm : desk.memo.get? name = none) (hf : Fresh setup desk.chain name)
      (inner : Course setup (desk.push name) news left) : Course setup desk news left.pop
  | trans {desk middle left : Desk} {news more : List (String × Resolved)}
      (first : Course setup desk news middle) (next : Course setup middle more left) :
      Course setup desk (news ++ more) left

namespace Course

variable {desk left : Desk} {news : List (String × Resolved)} {name : String} {v : Resolved}

/-- Whatever is resolved, and whether it succeeds or fails, every name that is pushed is popped. -/
theorem chain (h : Course setup desk news left) : left.chain = desk.chain := by
  induction h with
  | stay desk => rfl
  | draw desk g => rfl
  | resolved hm hf hd hv inner ih =>
    simp only [learn, pop, ih, push, List.dropLast_concat]
  | failed hm hf inner ih =>
    simp only [pop, ih, push, List.dropLast_concat]
  | trans first next ih₁ ih₂ => rw [ih₂, ih₁]

/-- What becomes known is a value that its document gave, of a parameter that was not being
resolved. -/
theorem origin (h : Course setup desk news left) (hnew : (name, v) ∈ news) :
    name ∉ desk.chain ∧ ∃ (d : Document) (before after : Desk), setup.get? name = some d ∧
      Gives setup d (before.push name) after v := by
  induction h with
  | stay desk => cases hnew
  | draw desk g => cases hnew
  | @resolved desk left other d w news hm hf hd hv inner ih =>
    rcases List.mem_append.mp hnew with hnew | hnew
    · obtain ⟨hc, hgiven⟩ := ih hnew
      exact ⟨fun hmem => hc (List.mem_append_left _ hmem), hgiven⟩
    · cases List.mem_singleton.mp hnew
      exact ⟨hf.2, d, desk, left, hd, hv⟩
  | failed hm hf inner ih =>
    obtain ⟨hc, hgiven⟩ := ih hnew
    exact ⟨fun hmem => hc (List.mem_append_left _ hmem), hgiven⟩
  | trans first next ih₁ ih₂ =>
    rcases List.mem_append.mp hnew with hnew | hnew
    · exact ih₁ hnew
    · rw [first.chain] at ih₂
      exact ih₂ hnew

/-- Nothing is known in the end but what was known before and what became known on the way. -/
theorem known (h : Course setup desk news left) (hv : left.memo.get? name = some v) :
    desk.memo.get? name = some v ∨ (name, v) ∈ news := by
  induction h with
  | stay desk => exact Or.inl hv
  | draw desk g => exact Or.inl hv
  | @resolved desk left other d w news hm hf hd hw inner ih =>
    simp only [learn, pop, ByName.get?_put] at hv
    split at hv
    · rename_i hsame
      cases hv
      rw [hsame]
      exact Or.inr (List.mem_append_right _ (List.mem_singleton_self _))
    · rcases ih hv with hold | hnew
      · exact Or.inl hold
      · exact Or.inr (List.mem_append_left _ hnew)
  | failed hm hf inner ih => exact ih hv
  | trans first next ih₁ ih₂ =>
    rcases ih₂ hv with hold | hnew
    · rcases ih₁ hold with hold | hnew
      · exact Or.inl hold
      · exact Or.inr (List.mem_append_left _ hnew)
    · exact Or.inr (List.mem_append_right _ hnew)

/-- A name that is being resolved does not become known. -/
theorem unknown (h : Course setup desk news left) (hc : name ∈ desk.chain)
    (hm : desk.memo.get? name = none) : left.memo.get? name = none := by
  cases hv : left.memo.get? name with
  | none => rfl
  | some v =>
    rcases h.known hv with hold | hnew
    · rw [hm] at hold
      cases hold
    · exact absurd hc (h.origin hnew).1

/-- What was known keeps its value. -/
theorem keeps (h : Course setup desk news left) (hv : desk.memo.get? name = some v) :
    left.memo.get? name = some v := by
  induction h with
  | stay desk => exact hv
  | draw desk g => exact hv
  | @resolved desk left other d w news hm hf hd hw inner ih =>
    have hne : name ≠ other := by
      rintro rfl
      rw [hm] at hv
      cases hv
    simp only [learn, pop, ByName.get?_put_of_ne hne]
    exact ih hv
  | failed hm hf inner ih => exact ih hv
  | trans first next ih₁ ih₂ => exact ih₂ (ih₁ hv)

end Course

end Desk

/-! ## Every evaluation is a course -/

/-- An evaluation behind a chain that is a course at the desk. -/
def Charted (setup : Setup) (chain : Chain) (α : Type) (x : Eval Run α) : Prop :=
  ∀ run, ∃ news, Desk.Course setup (.of chain run) news (.of chain (Eval.left (x run)))

namespace Charted

variable {setup : Setup} {chain : Chain} {α β ε : Type}

theorem composes : Eval.Composes (Charted setup chain) where
  pure _ run := ⟨[], .stay _⟩
  throw _ run := ⟨[], .stay _⟩
  bind := by
    intro α β x f hx hf run
    obtain ⟨news, hnews⟩ := hx run
    cases h : x run with
    | ok a t =>
      rw [h] at hnews
      obtain ⟨more, hmore⟩ := hf a t
      rw [Eval.bind_ok h]
      exact ⟨news ++ more, hnews.trans hmore⟩
    | error e t =>
      rw [h] at hnews
      rw [Eval.bind_error h]
      exact ⟨news, hnews⟩

/-- The same for evaluations that need no generator. -/
theorem composes_onMemo :
    Eval.Composes fun α (x : Eval Memo α) => Charted setup chain α (Eval.onMemo x) where
  pure a := composes.pure a
  throw he := composes.throw he
  bind := by
    intro α β x f hx hf
    rw [Eval.onMemo_bind]
    exact composes.bind hx hf

theorem draw (x : Generator → α × Generator) : Charted setup chain α (Eval.draw x) :=
  fun run => ⟨[], .draw (.of chain run) (x run.generator).2⟩

theorem orUndefined (name : String) (found : Option β) :
    Charted setup chain β (Parameter.orUndefined name found) := by
  cases found with
  | some b => exact composes.pure b
  | none => exact fun run => ⟨[], .stay _⟩

/-- A look-up is a course when resolving the document is, one name further. -/
theorem lookUp {p : Parameter ε β} {resolve : ε → Eval Run β} {name : String}
    (h : Fresh setup chain name → ∀ e, Charted setup (chain ++ [name]) β (resolve e))
    (hgives : ∀ d e b s t, p.read d = some e → resolve e s = .ok b t →
      Desk.Gives setup d (.of (chain ++ [name]) s) (.of (chain ++ [name]) t) (p.keep b)) :
    Charted setup chain (Option β) (p.lookUp setup chain resolve name) := by
  intro run
  generalize hresult : p.lookUp setup chain resolve name run = result
  cases Parameter.looksUp hresult with
  | @resolved d e b t hm hf hd he hb =>
    obtain ⟨news, hnews⟩ := h hf e run
    rw [hb] at hnews
    have course : Desk.Course setup (.of chain run) _ _ :=
      .resolved hm hf hd (hgives d e b run t he hb) hnews
    rw [Desk.pop_of, Desk.learn_of] at course
    exact ⟨_, course⟩
  | @failed d e err t hm hf hd he hb =>
    obtain ⟨news, hnews⟩ := h hf e run
    rw [hb] at hnews
    have course : Desk.Course setup (.of chain run) _ _ := .failed hm hf hnews
    rw [Desk.pop_of] at course
    exact ⟨_, course⟩
  | _ => exact ⟨[], .stay _⟩

end Charted

section

variable {setup : Setup}

theorem numberOf_charted (chain : Chain) (name : String) :
    Charted setup chain Float (Eval.onMemo (numberOf setup chain name)) := by
  induction chain using chain_induction setup generalizing name with
  | step chain ih =>
    rw [numberOf_eq, Eval.onMemo_bind, Parameter.onMemo_lookUp]
    refine Charted.composes.bind (Charted.lookUp (fun hf q => ?_) ?_) fun found => ?_
    · exact Quantity.eval_has Charted.composes_onMemo (fun n => ih name hf n) q
    · intro d q x s t hq hx
      exact ⟨q, hq, Eval.atDesk_ok hx⟩
    · rw [Parameter.onMemo_orUndefined]
      exact Charted.orUndefined name found

theorem flagOf_charted (chain : Chain) (name : String) :
    Charted setup chain Bool (Eval.onMemo (flagOf setup chain name)) := by
  induction chain using chain_induction setup generalizing name with
  | step chain ih =>
    rw [flagOf_eq, Eval.onMemo_bind, Parameter.onMemo_lookUp]
    refine Charted.composes.bind (Charted.lookUp (fun hf f => ?_) ?_) fun found => ?_
    · exact Flag.eval_has Charted.composes_onMemo (fun n => ih name hf n) f
    · intro d f b s t hread hb
      exact ⟨f, hread, Eval.atDesk_ok hb⟩
    · rw [Parameter.onMemo_orUndefined]
      exact Charted.orUndefined name found

theorem deckOf_charted (chain : Chain) (name : String) :
    Charted setup chain (Option (List String)) (deckOf setup chain name) := by
  induction chain using chain_induction setup generalizing name with
  | step chain ih =>
    rw [deckOf_eq]
    refine Charted.lookUp (fun hf d => ?_) ?_
    · refine Deck.build_has Charted.composes ⟨Charted.draw, fun what q => ?_, fun f => ?_, ?_⟩ d
      · exact Quantity.count_has Charted.composes_onMemo (numberOf_charted _) what q
      · exact Flag.eval_has Charted.composes_onMemo (flagOf_charted _) f
      · exact ih name hf
    · intro d deck cards s t hread hcards
      exact ⟨deck, hread, Eval.atDesk_ok hcards⟩

theorem Names.within_charted (chain : Chain) :
    (Names.within setup chain).Have (Charted setup chain) where
  draw := Charted.draw
  count what q := Quantity.count_has Charted.composes_onMemo (numberOf_charted chain) what q
  flag f := Flag.eval_has Charted.composes_onMemo (flagOf_charted chain) f
  deck := deckOf_charted chain

theorem Charted.deckIfAny {chain : Chain} {look : DeckLook} {name : String}
    (h : Charted setup chain (Option (List String)) (look name)) :
    Charted setup chain (Option (List String)) (deckIfAny look name) := by
  intro run
  obtain ⟨news, hnews⟩ := h run
  refine ⟨news, ?_⟩
  unfold Dealer.deckIfAny
  split
  · rename_i hlook
    rw [hlook] at hnews
    split <;> exact hnews
  · exact hnews

theorem Request.fulfil_charted (chain : Chain) (request : Request) :
    Charted setup chain Answer (request.fulfil (.within setup chain)) := by
  have hdeck := @deckOf_charted setup chain
  have ends {α : Type} {x : Eval Run α} (hx : Charted setup chain α x) (f : α → Answer) :
      Charted setup chain Answer (do return f (← x)) :=
    Charted.composes.bind hx fun a => Charted.composes.pure (f a)
  cases request with
  | build d => exact ends (Deck.build_has Charted.composes (Names.within_charted chain) d) _
  | ask q =>
    cases q with
    | quantity q =>
      exact ends (Quantity.eval_has Charted.composes_onMemo (numberOf_charted chain) q) _
    | flag f => exact ends (Flag.eval_has Charted.composes_onMemo (flagOf_charted chain) f) _
    | set s => exact ends (LabelSet.eval_has Charted.composes hdeck s) _
    | accepts m label =>
      have hany (name : String) := (hdeck name).deckIfAny
      exact ends (Matcher.accepts_has Charted.composes hdeck hany label m) _

end

end Dealer
