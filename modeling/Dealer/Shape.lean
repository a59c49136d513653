-- Documents that do not have the shape that is asked for, and how the fields of
-- an object are read.
import Dealer.Document
import Dealer.Text.Quoted

namespace Dealer

/-- The kinds of rules. Each kind has a key of its own that every rule of the kind has. -/
inductive RuleKind
  | deal
  | reveal
  | announce
  | explain
  deriving DecidableEq, Repr

/-- The key of a kind of rules. -/
def RuleKind.key : RuleKind → String
  | .deal => "deal"
  | .reveal => "show"
  | .announce => "announce"
  | .explain => "explain"

/-- All kinds of rules. -/
def RuleKind.all : List RuleKind := [.deal, .reveal, .announce, .explain]

/-- The kinds of expressions. -/
inductive ExprKind
  | quantity
  | flag
  | set
  | deck
  | matcher
  deriving DecidableEq, Repr

/-- What a place in a document asks for. -/
inductive Wanted
  | text
  | list
  | object
  | size
  | script
  | table
  | limits
  deriving DecidableEq, Repr

/-- Why a document does not have the shape that is asked for. -/
inductive ShapeError
  | wrongType (found : Document) (wanted : Wanted)
  /-- A whole number that is no size. -/
  | notASize (n : Int)
  | missing (field : String)
  /-- A list of fields that is longer than there are fields. -/
  | tooLong (length : Nat)
  /-- A list of fields that ends before a field that must be there. -/
  | tooShort (length : Nat) (wanted : Wanted) (fields : Nat)
  /-- No form of an expression fits. -/
  | noForm (expr : ExprKind)
  /-- A rule that is no object. -/
  | noRule (found : Document)
  /-- A rule without a key that tells its kind. -/
  | noKind
  /-- A rule with keys of several kinds. -/
  | manyKinds (kinds : List RuleKind)
  | inRule (kind : RuleKind) (error : ShapeError)

namespace ShapeError

/-- What a message calls a kind of expressions. -/
def exprText : ExprKind → String
  | .quantity => "ValueExpr"
  | .flag => "OptionExpr"
  | .set => "SetExpr"
  | .deck => "ItemsExpr"
  | .matcher => "Matcher"

/-- What a message calls what is asked for. -/
def wantedText : Wanted → String
  | .text => "a string"
  | .list => "a sequence"
  | .object => "a map"
  | .size => "usize"
  | .script => "struct Script"
  | .table => "struct Table"
  | .limits => "struct EngineConfig"

/-- What a message calls a document that was found. -/
def foundText : Document → String
  | .null => "null"
  | .bool b => "boolean `" ++ (if b then "true" else "false") ++ "`"
  | .int n => "integer `" ++ toString n ++ "`"
  | .float x => "floating point `" ++ NumberLayout.compact.write x ++ "`"
  | .text s => "string " ++ quoted s
  | .list _ => "sequence"
  | .object _ => "map"

/-- The message for a document without the shape that is asked for. -/
def message : ShapeError → String
  | .wrongType found wanted =>
    "invalid type: " ++ foundText found ++ ", expected " ++ wantedText wanted
  | .notASize n =>
    "invalid value: " ++ foundText (.int n) ++ ", expected " ++ wantedText .size
  | .missing field => "missing field `" ++ field ++ "`"
  | .tooLong length =>
    "invalid length " ++ toString length ++ ", expected fewer elements in array"
  | .tooShort length wanted fields =>
    "invalid length " ++ toString length ++ ", expected " ++ wantedText wanted ++ " with "
      ++ toString fields ++ " elements"
  | .noForm expr => "data did not match any variant of untagged enum " ++ exprText expr
  | .noRule found => "a rule must be an object, found " ++ found.line
  | .noKind => "a rule needs one of: " ++ ", ".intercalate (RuleKind.all.map RuleKind.key)
  | .manyKinds kinds => "a rule cannot combine " ++ " and ".intercalate (kinds.map RuleKind.key)
  | .inRule kind error => "invalid " ++ kind.key ++ " rule: " ++ error.message

end ShapeError

/-! ## Plain values -/

namespace Document

/-- The text that a document is. -/
def text? : Document → Except ShapeError String
  | .text s => .ok s
  | d => .error (.wrongType d .text)

/-- The list that a document is, read item by item. -/
def list? {α : Type} (item : Document → Except ShapeError α) : Document → Except ShapeError (List α)
  | .list ds => ds.mapM item
  | d => .error (.wrongType d .list)

/-- The size that a document is: a whole number of 64 bits without a sign. -/
def size? : Document → Except ShapeError UInt64
  | .int n => if 0 ≤ n ∧ n < UInt64.size then .ok (UInt64.ofNat n.toNat) else .error (.notASize n)
  | d => .error (.wrongType d .size)

/-- The expression that a document describes. -/
def expr? {α : Type} (kind : ExprKind) (read : Document → Option α) (d : Document) :
    Except ShapeError α :=
  match read d with
  | some a => .ok a
  | none => .error (.noForm kind)

/-- A document that may be a null in place of a value. -/
def orNull {α : Type} (read : Document → Except ShapeError α) :
    Document → Except ShapeError (Option α)
  | .null => .ok none
  | d => some <$> read d

end Document

/-! ## Fields of an object -/

/-- The members of an object, as the fields of a record. -/
abbrev Fields := List (String × Document)

namespace Fields

/-- A field that may be missing. -/
def read? {α : Type} (fields : Fields) (key : String) (read : Document → Except ShapeError α) :
    Except ShapeError (Option α) :=
  match ByName.get? key fields with
  | none => .ok none
  | some d => some <$> read d

/-- A field that may be missing or null. -/
def optional {α : Type} (fields : Fields) (key : String)
    (read : Document → Except ShapeError α) : Except ShapeError (Option α) :=
  Option.join <$> fields.read? key (Document.orNull read)

end Fields

/-- A field that must be there. -/
def require {α : Type} (key : String) : Option α → Except ShapeError α
  | some a => .ok a
  | none => .error (.missing key)

/-! ## Records -/

/-- How the fields of a record are filled in, in the order in which a list gives them. -/
abbrev Filling (ρ : Type) := List (String × (ρ → Document → Except ShapeError ρ))

namespace Filling

variable {ρ : Type}

/-- Fills in the fields that an object has, in the order of its keys. Other keys are passed over. -/
def ofMembers (filling : Filling ρ) (start : ρ) (members : List (String × Document)) :
    Except ShapeError ρ :=
  members.foldlM (fun r member =>
    match List.lookup member.1 filling with
    | some fill => fill r member.2
    | none => .ok r) start

/-- Fills in the fields one by one from a list, which may end early but not go on. -/
def ofItems (filling : Filling ρ) (start : ρ) (items : List Document) : Except ShapeError ρ := do
  let r ← (filling.zip items).foldlM (fun r field => field.1.2 r field.2) start
  if filling.length < items.length then .error (.tooLong items.length) else .ok r

/-- Fills in a record from an object or a list. -/
def ofDocument (filling : Filling ρ) (wanted : Wanted) (start : ρ) :
    Document → Except ShapeError ρ
  | .object members => filling.ofMembers start members
  | .list items => filling.ofItems start items
  | d => .error (.wrongType d wanted)

end Filling
end Dealer
