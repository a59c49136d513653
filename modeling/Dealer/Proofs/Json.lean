-- The grammar of JSON, the values that its texts write, and the documents that these denote.
-- The grammar notes where a character is written as a pair of escapes, of which neither stands
-- for a character alone.
import Dealer.Proofs.Doubles
import Dealer.Proofs.Literals

namespace Dealer

open Grammar

/-! ## Values -/

/-- What a JSON text says. The members of an object stand as they are written, and a number is
its sign with its digits. -/
inductive Json
  | null
  | bool (b : Bool)
  | number (negative : Bool) (d : Decimal)
  | text (s : String)
  | list (items : List Json)
  | object (members : List (String × Json))

namespace Json

mutual

/-- How many lists and objects stand in one another. -/
def depth : Json → Nat
  | .list items => itemsDepth items + 1
  | .object members => membersDepth members + 1
  | _ => 0

def itemsDepth : List Json → Nat
  | [] => 0
  | v :: vs => max (depth v) (itemsDepth vs)

def membersDepth : List (String × Json) → Nat
  | [] => 0
  | (_, v) :: vs => max (depth v) (membersDepth vs)

end

mutual

/-- The double of every number is finite, whatever its sign. -/
def Finite : Json → Prop
  | .number _ d => d.double.isFinite = true
  | .list items => ItemsFinite items
  | .object members => MembersFinite members
  | _ => True

def ItemsFinite : List Json → Prop
  | [] => True
  | v :: vs => Finite v ∧ ItemsFinite vs

def MembersFinite : List (String × Json) → Prop
  | [] => True
  | (_, v) :: vs => Finite v ∧ MembersFinite vs

end

/-! ## Documents -/

end Json

/-- The double of a number, whole or not. -/
def Document.double? : Document → Option Float
  | .int n => some (Float.ofInt n)
  | .float x => some x
  | _ => none

namespace Json

/-- The double that a number denotes. -/
def double (negative : Bool) (d : Decimal) : Float := if negative then -d.double else d.double

mutual

/-- A value denotes a document. Numbers are compared as doubles, and of two members with one key
the later counts. -/
inductive Denotes : Json → Document → Prop
  | null : Denotes .null .null
  | bool (b : Bool) : Denotes (.bool b) (.bool b)
  | number {negative : Bool} {d : Decimal} {doc : Document} {x : Float} (h : doc.double? = some x)
      (hx : (x == double negative d) = true) : Denotes (.number negative d) doc
  | text (s : String) : Denotes (.text s) (.text s)
  | list {items : List Json} {docs : List Document} (h : ItemsDenote items docs) :
      Denotes (.list items) (.list docs)
  | object {members : List (String × Json)} {docs entries : List (String × Document)}
      (h : MembersDenote members docs) (hentries : ByName.LeftBy docs entries) :
      Denotes (.object members) (.object entries)

inductive ItemsDenote : List Json → List Document → Prop
  | nil : ItemsDenote [] []
  | cons {v : Json} {vs : List Json} {d : Document} {ds : List Document} (hv : Denotes v d)
      (hvs : ItemsDenote vs ds) : ItemsDenote (v :: vs) (d :: ds)

inductive MembersDenote : List (String × Json) → List (String × Document) → Prop
  | nil : MembersDenote [] []
  | cons {key : String} {v : Json} {vs : List (String × Json)} {d : Document}
      {ds : List (String × Document)} (hv : Denotes v d) (hvs : MembersDenote vs ds) :
      MembersDenote ((key, v) :: vs) ((key, d) :: ds)

end

/-! ## The grammar -/

/-- Blanks between tokens. -/
def Space (cs : List Char) : Prop := ∀ c ∈ cs, c ∈ [' ', '\t', '\n', '\r']

/-- The letters and marks that name a character behind a backslash. -/
def escapeNames : List (Char × Char) :=
  [('"', '"'), ('\\', '\\'), ('/', '/'), ('b', '\x08'), ('f', '\x0c'), ('n', '\n'), ('r', '\r'),
    ('t', '\t')]

/-- Four digits to the base sixteen. -/
def FourDigits (digits : List Char) (n : Nat) : Prop := digits.length = 4 ∧ Numeral 16 digits n

/-- What stands between two quotes, with the text that it stands for, and whether a character of it
is written as a pair of escapes. An escape that is half a pair stands for no character alone. -/
inductive Spelled : List Char → List Char → Bool → Prop
  | nil : Spelled [] [] false
  | plain {c : Char} {cs text : List Char} {paired : Bool} (hc : 0x20 ≤ c.toNat)
      (h : c ∉ ['"', '\\']) (hcs : Spelled cs text paired) : Spelled (c :: cs) (c :: text) paired
  | named {c ch : Char} {cs text : List Char} {paired : Bool} (h : (c, ch) ∈ escapeNames)
      (hcs : Spelled cs text paired) : Spelled ('\\' :: c :: cs) (ch :: text) paired
  | code {ch : Char} {digits cs text : List Char} {paired : Bool} (h : FourDigits digits ch.toNat)
      (hcs : Spelled cs text paired) :
      Spelled ('\\' :: 'u' :: (digits ++ cs)) (ch :: text) paired
  /-- A character outside the basic plane: its two halves, each with ten bits of what is above. -/
  | pair {ch : Char} {high low cs text : List Char} {i j : Nat} {paired : Bool} (hi : i < 0x400)
      (hj : j < 0x400) (hhigh : FourDigits high (0xd800 + i)) (hlow : FourDigits low (0xdc00 + j))
      (h : ch.toNat = 0x10000 + 0x400 * i + j) (hcs : Spelled cs text paired) :
      Spelled ('\\' :: 'u' :: (high ++ '\\' :: 'u' :: (low ++ cs))) (ch :: text) true

/-- Digits in front of the point: a zero alone, or digits of which the first is no zero. -/
def Leading (whole : List Char) : Prop := whole = ['0'] ∨ whole ≠ [] ∧ whole.head? ≠ some '0'

/-- A point with digits behind it, or nothing. -/
inductive Fraction : List Char → List Char → Prop
  | none : Fraction [] []
  | some {digits : List Char} (h : digits ≠ []) : Fraction ('.' :: digits) digits

/-- The characters of a number. -/
inductive NumberWritten : List Char → Bool → Decimal → Prop
  | mk {sign whole fraction digits exponent : List Char} {negative : Bool} {n : Nat} {e : Int}
      (hsign : Sign sign negative) (hplus : '+' ∉ sign) (hwhole : Leading whole)
      (hfraction : Fraction fraction digits) (h : Numeral 10 (whole ++ digits) n)
      (he : Exponent exponent e) :
      NumberWritten (sign ++ (whole ++ (fraction ++ exponent))) negative ⟨n, e - digits.length⟩

mutual

/-- The characters of a value, and whether one of its texts pairs escapes. -/
inductive Written : List Char → Json → Bool → Prop
  | null : Written ['n', 'u', 'l', 'l'] .null false
  | true : Written ['t', 'r', 'u', 'e'] (.bool true) false
  | false : Written ['f', 'a', 'l', 's', 'e'] (.bool false) false
  | number {cs : List Char} {negative : Bool} {d : Decimal} (h : NumberWritten cs negative d) :
      Written cs (.number negative d) Bool.false
  | text {cs text : List Char} {paired : Bool} (h : Spelled cs text paired) :
      Written ('"' :: (cs ++ ['"'])) (.text (String.ofList text)) paired
  | emptyList {s : List Char} (hs : Space s) : Written ('[' :: (s ++ [']'])) (.list []) Bool.false
  | list {cs : List Char} {items : List Json} {paired : Bool} (h : ItemsWritten cs items paired) :
      Written ('[' :: (cs ++ [']'])) (.list items) paired
  | emptyObject {s : List Char} (hs : Space s) :
      Written ('\x7b' :: (s ++ ['\x7d'])) (.object []) Bool.false
  | object {cs : List Char} {members : List (String × Json)} {paired : Bool}
      (h : MembersWritten cs members paired) :
      Written ('\x7b' :: (cs ++ ['\x7d'])) (.object members) paired

/-- The items of a list that is not empty, with a comma between two of them. -/
inductive ItemsWritten : List Char → List Json → Bool → Prop
  | last {f cs g : List Char} {v : Json} {paired : Bool} (hf : Space f) (hv : Written cs v paired)
      (hg : Space g) : ItemsWritten (f ++ (cs ++ g)) [v] paired
  | more {f cs g others : List Char} {v : Json} {vs : List Json} {paired behind : Bool}
      (hf : Space f) (hv : Written cs v paired) (hg : Space g)
      (hvs : ItemsWritten others vs behind) :
      ItemsWritten (f ++ (cs ++ (g ++ ',' :: others))) (v :: vs) (paired || behind)

/-- The members of an object that is not empty, with a comma between two of them. -/
inductive MembersWritten : List Char → List (String × Json) → Bool → Prop
  | last {f k g h cs i key : List Char} {v : Json} {inKey paired : Bool} (hf : Space f)
      (hk : Spelled k key inKey) (hg : Space g) (hh : Space h) (hv : Written cs v paired)
      (hi : Space i) :
      MembersWritten (f ++ ('"' :: (k ++ ['"']) ++ (g ++ ':' :: (h ++ (cs ++ i)))))
        [(String.ofList key, v)] (inKey || paired)
  | more {f k g h cs i key others : List Char} {v : Json} {vs : List (String × Json)}
      {inKey paired behind : Bool} (hf : Space f) (hk : Spelled k key inKey) (hg : Space g)
      (hh : Space h) (hv : Written cs v paired) (hi : Space i)
      (hvs : MembersWritten others vs behind) :
      MembersWritten
        (f ++ ('"' :: (k ++ ['"']) ++ (g ++ ':' :: (h ++ (cs ++ (i ++ ',' :: others))))))
        ((String.ofList key, v) :: vs) (inKey || (paired || behind))

end

/-- A JSON text: one value between blanks. -/
inductive Text : List Char → Json → Bool → Prop
  | value {f cs g : List Char} {v : Json} {paired : Bool} (hf : Space f)
      (hv : Written cs v paired) (hg : Space g) : Text (f ++ (cs ++ g)) v paired

end Json

/-! ## Numbers as doubles -/

theorem Json.double_beq_self {negative : Bool} {d : Decimal} (h : d.double.isFinite = true) :
    (double negative d == double negative d) = true := by
  cases negative with
  | false => exact Rounding.beq_self_of_isFinite h
  | true => exact Rounding.beq_self_of_isFinite (Rounding.isFinite_neg h)

/-- A whole number is the double nearest to its digits, and a zero is so with either sign. -/
theorem Json.ofInt_signed_beq {negative : Bool} {n : Nat}
    (h : (Decimal.mk n 0).double.isFinite = true) :
    (Float.ofInt (signed negative n) == double negative ⟨n, 0⟩) = true := by
  cases n with
  | zero => cases negative <;> decide
  | succ n =>
    have same : Float.ofInt (signed negative (n + 1 : Nat)) = double negative ⟨n + 1, 0⟩ := by
      cases negative <;> rfl
    rw [same]
    exact double_beq_self h

end Dealer
