-- Importing: a script may list fragments, which are scripts themselves and are
-- merged into it. The first script that counts is the base.
import Dealer.Admission
import Dealer.Eval.Deck
import Dealer.Limits

namespace Dealer

/-! ## Fragments -/

/-- Texts under their addresses. -/
abbrev Library := ByName String

/-- Why fragments cannot be merged. -/
inductive ImportError
  | tooMany (count most : Nat)
  /-- The address has no text. -/
  | notFound (address : String)
  | unreadable (address : String) (error : ParseError)
  /-- The fragment lists fragments of its own. -/
  | nested (address : String)
  /-- The fragment and the base disagree about the moderator. -/
  | moderatorMismatch (address : String) (expected found : Bool)
  | unresolved (address : String) (error : EvalError)
  /-- The script is to be run with fragments that are not merged. -/
  | unmerged (count : Nat)

/-- The message for fragments that cannot be merged. What is wrong with a pattern is told by
`fault`. -/
def ImportError.message (fault : String → String) : ImportError → String
  | .tooMany count most =>
    "too many imports: " ++ toString count ++ " listed, at most " ++ toString most ++ " allowed"
  | .notFound address =>
    "could not fetch import '" ++ address ++ "': nothing found at '" ++ address ++ "'"
  | .unreadable address error => "could not read import '" ++ address ++ "': " ++ error.message
  | .nested address => "import '" ++ address ++ "' has imports of its own"
  | .moderatorMismatch address expected found =>
    "import '" ++ address ++ "' " ++ (if found then "requires" else "does not require")
      ++ " a moderator but the script " ++ (if expected then "does" else "does not")
  | .unresolved address error => "import '" ++ address ++ "': " ++ error.message fault
  | .unmerged count => "script still lists " ++ toString count ++ " unmerged imports"

/-! ## Bounds -/

/-- What a script asks of a table, resolved in its own setup. -/
structure Bounds where
  moderated : Option Bool
  least : Option Float
  most : Option Float

namespace Bounds

/-- A value that a script may leave open. -/
def resolve {α β : Type} (eval : α → Eval Memo β) : Option α → Eval Memo (Option β)
  | none => pure none
  | some a => some <$> eval a

/-- The bounds of a script, resolved one after the other. -/
def eval (script : Script) : Eval Memo Bounds := do
  let moderated ← resolve (Flag.eval (flagOf script.setup [])) script.requireModerator
  let least ← resolve (Quantity.eval (numberOf script.setup [])) script.minMembers
  let most ← resolve (Quantity.eval (numberOf script.setup [])) script.maxMembers
  return { moderated, least, most }

/-- The bounds of a script. -/
def of (script : Script) : Except EvalError Bounds :=
  match eval script [] with
  | .ok bounds _ => .ok bounds
  | .error e _ => .error e

/-- The looser of two bounds. A bound that is not there counts for nothing. -/
def loosen (pick : Float → Float → Float) : Option Float → Option Float → Option Float
  | some x, some y => some (pick x y)
  | some x, none => some x
  | none, y => y

end Bounds

/-! ## Merging -/

/-- The events of two scripts in one. Blank ones count for nothing. -/
def joinEvents (first second : Option String) : Option String :=
  match (first.toList ++ second.toList).filter fun e => !isBlankText e with
  | [] => none
  | events => some (defaultSeparator.intercalate events)

/-- A script into which fragments are being merged, and the bounds so far. -/
structure Merge where
  script : Script
  least : Option Float
  most : Option Float

namespace Merge

/-- Reads the fragment at an address. It must not list fragments. -/
def fragment (library : Library) (address : String) : Except (Halt ImportError) Script :=
  match library.get? address with
  | none => .error (.failed (.notFound address))
  | some text =>
    match Script.read text with
    | .error halt => .error (halt.map (.unreadable address))
    | .ok script =>
      if script.imports = [] then .ok script else .error (.failed (.nested address))

/-- Merges the fragment at an address. The parameters of the fragment win over those that are
there. -/
def add (library : Library) (moderated : Bool) (m : Merge) (address : String) :
    Except (Halt ImportError) Merge := do
  let fragment ← fragment library address
  let bounds ← (Bounds.of fragment).mapError fun e => .failed (.unresolved address e)
  match bounds.moderated with
  | some found =>
    if found ≠ moderated then throw (.failed (.moderatorMismatch address moderated found))
  | none => pure ()
  return {
    script := { m.script with
      event := joinEvents m.script.event fragment.event
      setup := m.script.setup.overlay fragment.setup
      rules := m.script.rules ++ fragment.rules }
    least := Bounds.loosen Arith.smaller m.least bounds.least
    most := Bounds.loosen Arith.larger m.most bounds.most }

end Merge

/-- Why a script cannot be run. -/
inductive ScriptError
  | parse (error : ParseError)
  | eval (error : EvalError)
  | membership (error : MembershipError)
  | imports (error : ImportError)
  | emptyOutput

/-- The message for a script that cannot be run. What is wrong with a pattern is told by `fault`. -/
def ScriptError.message (fault : String → String) : ScriptError → String
  | .parse error => error.message
  | .eval error => error.message fault
  | .membership error => error.message
  | .imports error => error.message fault
  | .emptyOutput => "this script produced no output"

namespace Script

/-- Merges the fragments that a script lists, in their order. The bounds of the base are resolved
before any fragment is read, and all bounds come back as plain values. -/
def merge (library : Library) (most : Nat) (script : Script) :
    Except (Halt ScriptError) Script := do
  let addresses := script.imports
  if addresses = [] then return script
  if most < addresses.length then throw (.failed (.imports (.tooMany addresses.length most)))
  let base ← (Bounds.of script).mapError fun e => .failed (.eval e)
  let moderated := base.moderated.getD false
  let start : Merge := ⟨{ script with imports := [] }, base.least, base.most⟩
  let merged ← (addresses.foldlM (Merge.add library moderated) start).mapError (Halt.map .imports)
  return { merged.script with
    requireModerator := base.moderated.map .const
    minMembers := merged.least.map .number
    maxMembers := merged.most.map .number }

end Script
end Dealer
