-- The grammar of script texts. It says which characters write which document, and
-- nothing of how they are read: each rule gives all the characters of its part.
-- A number or a name needs no word about where it ends, since only filler, marks
-- and the end of the text can come behind it.
import Dealer.Document.Reader
import Dealer.Proofs.Entries

namespace Dealer.Grammar

/-! ## Filler -/

/-- A line ends here: before a line feed, before a carriage return with a line feed, or with the
text, where that is `last`. -/
inductive LineEnd (last : Prop) : List Char → Prop
  | feed (cs : List Char) : LineEnd last ('\n' :: cs)
  | both (cs : List Char) : LineEnd last ('\r' :: '\n' :: cs)
  | text (h : last) : LineEnd last []

/-- Blanks and comments in any order. A comment between `/*` and `*/` ends with the first of the
latter. A comment behind `//` holds no carriage return and runs up to the end of the line, which may
be the end of the text behind the `last` filler. -/
inductive Filler (last : Prop) : List Char → Prop
  | none : Filler last []
  | blank {c : Char} {cs : List Char} (h : isBlank c = true) (hcs : Filler last cs) :
      Filler last (c :: cs)
  | block {body cs : List Char} (h : ¬['*', '/'] <:+: body) (hcs : Filler last cs) :
      Filler last ('/' :: '*' :: (body ++ '*' :: '/' :: cs))
  | line {body cs : List Char} (h : ∀ c ∈ body, c ≠ '\n' ∧ c ≠ '\r') (hend : LineEnd last cs)
      (hcs : Filler last cs) : Filler last ('/' :: '/' :: (body ++ cs))

/-! ## Texts in quotes -/

/-- The letters that name a character behind a backslash. -/
def escapeNames : List (Char × Char) :=
  [('n', '\n'), ('t', '\t'), ('r', '\r'), ('b', '\x08'), ('f', '\x0c'), ('v', '\x0b'),
    ('0', '\x00')]

/-- The line breaks that a backslash takes out of a text. -/
def lineBreaks : List (List Char) := [['\n'], ['\r'], ['\r', '\n'], ['\u2028'], ['\u2029']]

/-- What stands behind a backslash, with the characters that it stands for. -/
inductive Escaped : List Char → List Char → Prop
  | named {c d : Char} (h : (c, d) ∈ escapeNames) : Escaped [c] [d]
  /-- Four digits to the base sixteen, which are the code point of a character. -/
  | code {a b c d ch : Char} {i j k l : Nat} (ha : hexValue? a = some i) (hb : hexValue? b = some j)
      (hc : hexValue? c = some k) (hd : hexValue? d = some l)
      (h : ch.toNat = 16 * (16 * (16 * i + j) + k) + l) : Escaped ['u', a, b, c, d] [ch]
  | lineBreak {cs : List Char} (h : cs ∈ lineBreaks) : Escaped cs []
  /-- Every other character stands for itself. -/
  | self {c : Char} (hname : c ∉ escapeNames.map Prod.fst) (hu : c ≠ 'u')
      (hbreak : [c] ∉ lineBreaks) : Escaped [c] [c]

/-- What stands between two quotes, with the text that it stands for. -/
inductive Quoted (quote : Char) : List Char → List Char → Prop
  | nil : Quoted quote [] []
  | plain {c : Char} {cs text : List Char} (h : c ∉ [quote, '\\', '\n', '\r'])
      (hcs : Quoted quote cs text) : Quoted quote (c :: cs) (c :: text)
  | escape {cs out more text : List Char} (h : Escaped cs out) (hmore : Quoted quote more text) :
      Quoted quote ('\\' :: (cs ++ more)) (out ++ text)

/-- The quotes that a text may stand between. -/
def IsQuote (c : Char) : Prop := c = '"' ∨ c = '\''

/-- A key: a text in quotes, or a name. -/
inductive MemberKey : List Char → String → Prop
  | quoted {quote : Char} {cs text : List Char} (hq : IsQuote quote) (h : Quoted quote cs text) :
      MemberKey (quote :: (cs ++ [quote])) (String.ofList text)
  | name {c : Char} {cs : List Char} (hc : startsName c = true)
      (hcs : ∀ x ∈ cs, continuesName x = true) : MemberKey (c :: cs) (String.ofList (c :: cs))

/-! ## Values -/

/-- The sign in front of a number, and whether it makes the number negative. -/
inductive Sign : List Char → Bool → Prop
  | none : Sign [] false
  | plus : Sign ['+'] false
  | minus : Sign ['-'] true

mutual

/-- The characters that write a value. -/
inductive Value : List Char → Document → Prop
  | null : Value ['n', 'u', 'l', 'l'] .null
  | true : Value ['t', 'r', 'u', 'e'] (.bool true)
  | false : Value ['f', 'a', 'l', 's', 'e'] (.bool false)
  | number {sign cs : List Char} {negative : Bool} {c : Char} {d : Document}
      (hsign : Sign sign negative) (hc : startsNumber c = Bool.true)
      (hcs : ∀ x ∈ cs, continuesNumber x = Bool.true)
      (h : numberValue? negative (c :: cs) = .ok (some d)) : Value (sign ++ c :: cs) d
  | text {quote : Char} {cs text : List Char} (hq : IsQuote quote) (h : Quoted quote cs text) :
      Value (quote :: (cs ++ [quote])) (.text (String.ofList text))
  | list {cs : List Char} {items : List Document} (h : Items cs items) :
      Value ('[' :: (cs ++ [']'])) (.list items)
  /-- Of two members with one key the later counts. -/
  | object {cs : List Char} {members entries : List (String × Document)} (h : Members cs members)
      (hentries : ByName.LeftBy members entries) :
      Value ('\x7b' :: (cs ++ ['\x7d'])) (.object entries)

/-- The items of a list, with a comma behind each. Behind the last it may be missing. -/
inductive Items : List Char → List Document → Prop
  | none {f : List Char} (hf : Filler False f) : Items f []
  | last {f v g : List Char} {d : Document} (hf : Filler False f) (hv : Value v d)
      (hg : Filler False g) : Items (f ++ (v ++ g)) [d]
  | more {f v g others : List Char} {d : Document} {ds : List Document} (hf : Filler False f)
      (hv : Value v d) (hg : Filler False g) (hothers : Items others ds) :
      Items (f ++ (v ++ (g ++ ',' :: others))) (d :: ds)

/-- The members of an object, with a comma behind each. Behind the last it may be missing. -/
inductive Members : List Char → List (String × Document) → Prop
  | none {f : List Char} (hf : Filler False f) : Members f []
  | last {f k g h v i : List Char} {key : String} {d : Document} (hf : Filler False f)
      (hk : MemberKey k key) (hg : Filler False g) (hh : Filler False h) (hv : Value v d)
      (hi : Filler False i) :
      Members (f ++ (k ++ (g ++ ':' :: (h ++ (v ++ i))))) [(key, d)]
  | more {f k g h v i others : List Char} {key : String} {d : Document}
      {ds : List (String × Document)} (hf : Filler False f) (hk : MemberKey k key)
      (hg : Filler False g) (hh : Filler False h) (hv : Value v d) (hi : Filler False i)
      (hothers : Members others ds) :
      Members (f ++ (k ++ (g ++ ':' :: (h ++ (v ++ (i ++ ',' :: others)))))) ((key, d) :: ds)

end

/-- A text that writes a document: one value between filler. -/
inductive Rendering : List Char → Document → Prop
  | value {f v g : List Char} {d : Document} (hf : Filler False f) (hv : Value v d)
      (hg : Filler True g) : Rendering (f ++ (v ++ g)) d

end Dealer.Grammar
