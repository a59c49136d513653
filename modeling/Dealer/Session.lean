-- A session: a script is read, completed with its fragments and played at a
-- table, and what it tells is laid out for delivery.
import Dealer.Import
import Dealer.Pages
import Dealer.Play

namespace Dealer

namespace Script

/-- The title of what a script gives out. -/
def title (script : Script) (limits : Limits) : String :=
  match script.event with
  | some event => if isBlankText event then limits.defaultTitle else event
  | none => limits.defaultTitle

/-- Admits a table and plays the rules of a script. -/
def transcript (script : Script) (table : Table) (generator : Generator) :
    Except ScriptError (Transcript × Generator) :=
  match Eval.onMemo (script.admitted table) (.start generator) with
  | .error e _ => .error (.eval e)
  | .ok (.error e) _ => .error (.membership e)
  | .ok (.ok members) run =>
    match play script.setup ⟨members, table.moderator⟩ script.rules run with
    | .error e _ => .error (.eval e)
    | .ok told run => .ok (told, run.generator)

/-- The transcript of a game, laid out. -/
def output (script : Script) (limits : Limits) (told : Transcript) : Except Overflow Output := do
  let title := script.title limits
  let channel ← limits.paginate title told.channel
  let direct ← told.direct.mapM fun e => do return (e.1, ← limits.paginate title e.2)
  return ⟨channel, direct⟩

/-- Runs a script that lists no fragments. A game in which nobody is told anything is an error. -/
def run (script : Script) (limits : Limits) (table : Table) (generator : Generator) :
    Except (Halt ScriptError) (Output × Generator) := do
  if script.imports ≠ [] then throw (.failed (.imports (.unmerged script.imports.length)))
  let (told, generator) ← (script.transcript table generator).mapError .failed
  if told.isEmpty then throw (.failed .emptyOutput)
  let output ← (script.output limits told).mapError .overflow
  return (output, generator)

/-- Merges the fragments of a script and runs it. -/
def execute (script : Script) (limits : Limits) (library : Library) (table : Table)
    (generator : Generator) : Except (Halt ScriptError) (Output × Generator) := do
  let script ← script.merge library limits.maxImports.toNat
  script.run limits table generator

end Script

/-- Reads a script text, merges its fragments and runs it. -/
def executeText (text : String) (limits : Limits) (library : Library) (table : Table)
    (generator : Generator) : Except (Halt ScriptError) (Output × Generator) := do
  let script ← (Script.read text).mapError (Halt.map .parse)
  script.execute limits library table generator

end Dealer
