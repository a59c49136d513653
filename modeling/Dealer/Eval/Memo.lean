-- What is known of the parameters in the middle of a game: the values of those
-- resolved before, and the names on the way to the one that is asked for.
import Dealer.Eval.Error
import Dealer.Setup

namespace Dealer

/-- The value of a parameter. -/
inductive Resolved
  | number (x : Float)
  | option (b : Bool)
  | deck (labels : List String)
  deriving DecidableEq

/-- The parameters that are resolved, with their values. -/
abbrev Memo := ByName Resolved

/-- The names that are being resolved, the outermost first. -/
abbrev Chain := List String

/-- A parameter that can be resolved next: it is in the setup and not on the chain. -/
def Fresh (setup : Setup) (chain : Chain) (name : String) : Prop :=
  name ∈ setup.names ∧ name ∉ chain

/-- The parameters that are not on a chain. Resolving one of them leaves fewer. -/
def untouched (setup : Setup) (chain : Chain) : Nat :=
  (setup.names.filter fun name => name ∉ chain).length

theorem untouched_lt {setup : Setup} {chain : Chain} {name : String}
    (h : Fresh setup chain name) : untouched setup (chain ++ [name]) < untouched setup chain := by
  obtain ⟨hmem, hnew⟩ := h
  unfold untouched
  generalize setup.names = names at hmem
  have weaken : ∀ ns : List String, (ns.filter fun n => n ∉ chain ++ [name]).length ≤
      (ns.filter fun n => n ∉ chain).length := by
    intro ns
    induction ns with
    | nil => simp
    | cons n ns ih => grind
  induction names with
  | nil => simp at hmem
  | cons n ns ih =>
    by_cases hn : n = name
    · subst hn
      have := weaken ns
      grind
    · have := ih (by grind)
      grind

/-- What a name leads to. -/
inductive Found (setup : Setup) (chain : Chain) (name : String)
  /-- The name was resolved before. -/
  | known (value : Resolved)
  /-- The name is being resolved already. -/
  | circle (path : List String)
  /-- No parameter has the name. -/
  | absent
  | fresh (d : Document) (h : Fresh setup chain name)

theorem ByName.mem_names_of_get? {α : Type} {name : String} {a : α} {entries : ByName α}
    (h : entries.get? name = some a) : name ∈ entries.names := by
  induction entries with
  | nil => simp [ByName.get?] at h
  | cons e rest ih =>
    obtain ⟨k, v⟩ := e
    simp only [ByName.get?] at h
    split at h
    · rename_i hk; simp [ByName.names, hk]
    · have := ih h
      simp only [ByName.names, List.map_cons, List.mem_cons] at this ⊢
      exact Or.inr this

/-- Looks a name up: first among the values that are known, then on the chain, then in the
setup. -/
def Memo.find (memo : Memo) (setup : Setup) (chain : Chain) (name : String) :
    Found setup chain name :=
  match ByName.get? name memo with
  | some value => .known value
  | none =>
    if hc : name ∈ chain then .circle (chain.dropWhile (· ≠ name) ++ [name])
    else
      match h : setup.get? name with
      | none => .absent
      | some d => .fresh d ⟨ByName.mem_names_of_get? h, hc⟩

end Dealer
