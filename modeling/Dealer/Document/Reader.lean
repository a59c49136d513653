-- Reading a script text into a document. Values may stand between filler, a
-- list or an object may end with a comma, keys need no quotes when they are
-- names, and both kinds of quotes will do.
import Dealer.Document.Filler
import Dealer.Document.Number
import Dealer.Document.Quotation

namespace Dealer

/-! ## Failures -/

/-- What a reader hoped to find. -/
inductive Hope
  | number
  | value
  | key
  | mark (c : Char)
  deriving DecidableEq, Repr

/-- Where reading stopped: the text from the failing place on, and what was hoped for there, the
innermost hope first. -/
structure Failure where
  rest : List Char
  hopes : List Hope
  deriving DecidableEq, Repr

/-- Something read from a text and what is left behind it, or why there is nothing. -/
inductive Reading (cs : List Char) (α : Type)
  | done (value : α) (rest : List Char) (shorter : rest.length < cs.length)
  | stopped (halt : Halt Failure)

namespace Reading

variable {α β : Type} {cs ds : List Char}

/-- Nothing is read where this was hoped for. -/
abbrev failed (rest : List Char) (hopes : List Hope) : Reading cs α :=
  .stopped (.failed ⟨rest, hopes⟩)

/-- Reads on behind what was read. -/
def andThen (r : Reading ds α)
    (next : α → (rest : List Char) → rest.length < ds.length → Reading cs β) : Reading cs β :=
  match r with
  | .done a rest h => next a rest h
  | .stopped halt => .stopped halt

/-- Tells that something was hoped for around the failing place. -/
def hoping (hope : Hope) : Reading cs α → Reading cs α
  | .done a rest h => .done a rest h
  | .stopped halt => .stopped (halt.map fun e => { e with hopes := e.hopes ++ [hope] })

end Reading

/-! ## Tokens -/

/-- Reads one mark, which may follow filler. -/
def readMark (mark : Char) (cs : List Char) : Reading cs Unit :=
  match h : skipFiller cs with
  | [] => .failed [] [.mark mark]
  | c :: rest =>
    if c = mark then .done () rest (by have hs := length_skipFiller cs; rw [h] at hs; exact hs)
    else .failed (c :: rest) [.mark mark]

/-- A character that a key without quotes may begin with. -/
def startsName (c : Char) : Bool := isLetter c || c = '_' || c = '$'

/-- A character that goes on with a key without quotes. -/
def continuesName (c : Char) : Bool := isLetterOrNumber c || c = '_' || c = '$'

theorem length_dropWhile (p : Char → Bool) (cs : List Char) :
    (cs.dropWhile p).length ≤ cs.length :=
  List.Sublist.length_le (List.dropWhile_sublist p)

/-- Reads the key of a member: a name, or a text in quotes. -/
def readKey (cs : List Char) : Reading cs String :=
  match cs with
  | [] => .failed [] [.key]
  | c :: r =>
    if c = '"' ∨ c = '\'' then
      match h : Quotation.read c r with
      | .closed text rest =>
        .done (String.ofList text) rest (Nat.lt_succ_of_lt (Quotation.length_of_closed h))
      | .broken rest => .failed rest [.key]
      | .cutOff => .failed (c :: r) [.key]
    else if startsName c then
      .done (String.ofList (c :: r.takeWhile continuesName)) (r.dropWhile continuesName)
        (Nat.lt_succ_of_le (length_dropWhile _ r))
    else .failed (c :: r) [.key]

/-- Reads a number token, of which the sign is read already. A token that says nothing fails
where the number began. One that says too much ends all reading. -/
def readUnsigned (start : List Char) (negative : Bool) (cs : List Char) : Reading cs Document :=
  match cs with
  | [] => .failed [] [.number]
  | c :: r =>
    if startsNumber c then
      match numberValue? negative (c :: r.takeWhile continuesNumber) with
      | .ok (some d) =>
        .done d (r.dropWhile continuesNumber) (Nat.lt_succ_of_le (length_dropWhile _ r))
      | .ok none => .failed start [.number]
      | .error cause => .stopped (.overflow cause)
    else .failed (c :: r) [.number]

/-- Reads a number. -/
def readNumber (cs : List Char) : Reading cs Document :=
  match cs with
  | '-' :: r =>
    (readUnsigned ('-' :: r) true r).andThen fun d rest h => .done d rest (Nat.lt_succ_of_lt h)
  | '+' :: r =>
    (readUnsigned ('+' :: r) false r).andThen fun d rest h => .done d rest (Nat.lt_succ_of_lt h)
  | r => readUnsigned r false r

/-- Reads a text in quotes, behind the first of them. A text without an end is no text, and no
number either. -/
def readText (quote : Char) (cs : List Char) : Reading cs Document :=
  match h : Quotation.read quote cs with
  | .closed text rest => .done (.text (String.ofList text)) rest (Quotation.length_of_closed h)
  | .broken rest => .failed rest []
  | .cutOff => .failed (quote :: cs) [.number]

/-- Reads a word that stands for a value, or else a number. -/
def readWord (cs : List Char) : Reading cs Document :=
  match cs with
  | 't' :: 'r' :: 'u' :: 'e' :: r => .done (.bool true) r (by simp only [List.length_cons]; omega)
  | 'f' :: 'a' :: 'l' :: 's' :: 'e' :: r =>
    .done (.bool false) r (by simp only [List.length_cons]; omega)
  | 'n' :: 'u' :: 'l' :: 'l' :: r => .done .null r (by simp only [List.length_cons]; omega)
  | r => readNumber r

/-! ## Values -/

mutual

/-- Reads a value, which may follow filler. -/
def readValue (cs : List Char) : Reading cs Document :=
  have hs := length_skipFiller cs
  Reading.hoping .value <|
    match h : skipFiller cs with
    | [] => .failed [] [.number]
    | c :: r =>
      have hr : r.length < cs.length := by rw [h] at hs; exact hs
      if c = '\x7b' then
        (readMembers r).andThen fun members rest h₁ =>
          .done (.ofMembers members) rest (Nat.lt_trans h₁ hr)
      else if c = '[' then
        (readItems r).andThen fun items rest h₁ => .done (.list items) rest (Nat.lt_trans h₁ hr)
      else if c = '"' ∨ c = '\'' then
        (readText c r).andThen fun d rest h₁ => .done d rest (Nat.lt_trans h₁ hr)
      else
        (readWord (c :: r)).andThen fun d rest h₁ =>
          .done d rest (Nat.lt_of_lt_of_le h₁ (h ▸ hs))
termination_by (cs.length, 0)

/-- Reads the members of an object up to the brace that closes it. -/
def readMembers (cs : List Char) : Reading cs (List (String × Document)) :=
  have hs := length_skipFiller cs
  match h : skipFiller cs with
  | '\x7d' :: r => .done [] r (by rw [h] at hs; exact hs)
  | _ =>
    (readKey (skipFiller cs)).andThen fun key r₁ h₁ =>
    (readMark ':' r₁).andThen fun _ r₂ h₂ =>
    (readValue r₂).andThen fun value r₃ h₃ =>
    match hc : skipFiller r₃ with
    | ',' :: r₄ =>
      have h₄ : r₄.length < r₃.length := by
        have := length_skipFiller r₃
        rwa [hc] at this
      (readMembers r₄).andThen fun others r₅ h₅ => .done ((key, value) :: others) r₅ (by omega)
    | _ => (readMark '\x7d' r₃).andThen fun _ r₄ h₄ => .done [(key, value)] r₄ (by omega)
termination_by (cs.length, 1)

/-- Reads the items of a list up to the bracket that closes it. -/
def readItems (cs : List Char) : Reading cs (List Document) :=
  have hs := length_skipFiller cs
  match h : skipFiller cs with
  | ']' :: r => .done [] r (by rw [h] at hs; exact hs)
  | _ =>
    (readValue cs).andThen fun value r₁ h₁ =>
    match hc : skipFiller r₁ with
    | ',' :: r₂ =>
      have h₂ : r₂.length < r₁.length := by
        have := length_skipFiller r₁
        rwa [hc] at this
      (readItems r₂).andThen fun others r₃ h₃ => .done (value :: others) r₃ (by omega)
    | _ => (readMark ']' r₁).andThen fun _ r₂ h₂ => .done [value] r₂ (by omega)
termination_by (cs.length, 1)

end

/-- Reads a whole text as one value between filler. -/
def readDocument (cs : List Char) : Except (Halt Failure) Document :=
  match readValue cs with
  | .stopped halt => .error halt
  | .done d rest _ =>
    match skipFiller rest with
    | [] => .ok d
    | left => .error (.failed ⟨left, []⟩)

end Dealer
