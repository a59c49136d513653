-- Sets of characters between brackets.
import Dealer.Pattern.Escape

namespace Dealer.Pattern

/-- How deep the parts of a pattern may be nested. -/
def nestLimit : Nat := 250

/-- A set of characters as it is written, with the depth of its parts. -/
structure Members where
  chars : CharSet
  depth : Nat := 0

/-- The depth of some parts side by side. A single part adds nothing to its own. -/
def depthOf : List Nat → Nat
  | [] => 0
  | [n] => n
  | ns => 1 + ns.foldl max 0

namespace Members

/-- Members side by side. -/
def together (parts : List Members) : Members :=
  ⟨.unions (parts.map (·.chars)), depthOf (parts.map (·.depth))⟩

end Members

/-- What two sets between brackets can be joined by. -/
inductive Junction
  | both
  | without
  | either
  deriving DecidableEq

namespace Junction

/-- The signs of the operation. -/
def signs : Junction → String
  | both => "&&"
  | without => "--"
  | either => "~~"

/-- The characters of both sets, of the first alone, or of one alone. -/
def join : Junction → CharSet → CharSet → CharSet
  | both => .inter
  | without => .diff
  | either => .symmDiff

end Junction

/-- Members behind the ones that they are joined to, if there are any. Each side counts in every
case if the modes say so. -/
def joined (modes : Modes) (left : Option (Junction × Members)) (right : Members) : Members :=
  match left with
  | none => right
  | some (op, left) =>
    ⟨op.join (inModes modes left.chars) (inModes modes right.chars),
      1 + max left.depth right.depth⟩

/-! ## Classes of ASCII -/

/-- The class of ASCII with a name. -/
def asciiClass? (name : List Char) : Option CharSet :=
  match String.ofList name with
  | "alnum" => some ⟨[(0x30, 0x39), (0x41, 0x5A), (0x61, 0x7A)]⟩
  | "alpha" => some ⟨[(0x41, 0x5A), (0x61, 0x7A)]⟩
  | "ascii" => some (.range 0 0x7F)
  | "blank" => some ⟨[(0x9, 0x9), (0x20, 0x20)]⟩
  | "cntrl" => some ⟨[(0x0, 0x1F), (0x7F, 0x7F)]⟩
  | "digit" => some asciiDigit
  | "graph" => some (.range 0x21 0x7E)
  | "lower" => some (.range 0x61 0x7A)
  | "print" => some (.range 0x20 0x7E)
  | "punct" => some ⟨[(0x21, 0x2F), (0x3A, 0x40), (0x5B, 0x60), (0x7B, 0x7E)]⟩
  | "space" => some asciiSpace
  | "upper" => some (.range 0x41 0x5A)
  | "word" => some asciiWord
  | "xdigit" => some ⟨[(0x30, 0x39), (0x41, 0x46), (0x61, 0x66)]⟩
  | _ => none

/-- Reads a class of ASCII by its name, which colons and brackets enclose. What does not name a
class is not read. -/
def readAsciiClass? : Read (Option Members) := do
  let s ← get
  match s.rest with
  | '[' :: ':' :: cs =>
    let negated := cs.head? = some '^'
    let cs := if negated then cs.tail else cs
    match asciiClass? (cs.takeWhile (· ≠ ':')), cs.dropWhile (· ≠ ':') with
    | some chars, ':' :: ']' :: rest =>
      let chars ← (negatedIf? negated s.modes (inModes s.modes chars) : Option CharSet)
      set { s with rest := rest }
      return some ⟨chars, 0⟩
    | _, _ => return none
  | _ => return none

/-! ## Members -/

/-- Reads what comes first between brackets: a hat, which asks for all other characters, and then
hyphens or a closing bracket, which stand for themselves. -/
def readOpening : Read (Bool × List Members) := do
  filler
  let negated ← nextIs '^'
  filler
  let hyphens ← signs (· = '-')
  if hyphens ≠ [] then return (negated, hyphens.map fun c => ⟨.single c, 0⟩)
  else if ← nextIs ']' then return (negated, [⟨.single ']', 0⟩])
  else return (negated, [])

/-- The sign that counts behind a hyphen between brackets. A comment that begins there counts by
its first sign. -/
def signBehind? (spaced : Bool) (cs : List Char) : Option Char :=
  if spaced then
    let sign? :=
      match cs.dropWhile isBlank with
      | '#' :: comment => (comment.dropWhile isBlank).head?
      | rest => rest.head?
    sign? <|> cs.head?
  else cs.head?

/-- Reads a character or a class. With classes of ASCII the characters are of ASCII. -/
def readMember : Read Escaped := do
  let member ← if ← nextIs '\\' then readEscaped else .char <$> next
  if let .char c := member then guard ((← get).modes.unicode ∨ c.toNat ≤ 0x7F)
  return member

/-- Reads a member, or a range of characters. A hyphen makes a range unless another hyphen or the
closing bracket is behind it. -/
def readRange : Read Members := do
  let first ← readMember
  filler
  let s ← get
  match first, s.rest with
  | .char a, '-' :: rest =>
    let sign? := signBehind? s.modes.spaced rest
    if sign? = some ']' ∨ sign? = some '-' then return ⟨.single a, 0⟩
    else
      let _ ← next
      filler
      match ← readMember with
      | .char b =>
        guard (a ≤ b)
        return ⟨.range a.toNat b.toNat, 0⟩
      | _ => failure
  | .set chars, '-' :: rest =>
    let sign? := signBehind? s.modes.spaced rest
    guard (sign? = some ']' ∨ sign? = some '-')
    return ⟨chars, 0⟩
  | .char a, _ => return ⟨.single a, 0⟩
  | .set chars, _ => return ⟨chars, 0⟩
  | .anchor _, _ => failure

/-! ## Brackets -/

/-- Reads a junction if one comes next. -/
def readJunction? : Read (Option Junction) := do
  if ← nextAre Junction.both.signs then return some .both
  else if ← nextAre Junction.without.signs then return some .without
  else if ← nextAre Junction.either.signs then return some .either
  else return none

/-- A set with brackets around it, all of whose characters count in every case if the modes say
so. -/
def bracketed (negated : Bool) (inside : Members) : Read Members := do
  let modes := (← get).modes
  guard (inside.depth < nestLimit)
  let chars ← (negatedIf? negated modes (inModes modes inside.chars) : Option CharSet)
  return ⟨chars, inside.depth + 1⟩

/-- Reads the rest of a set up to its closing bracket, when some members have been read, which are
joined to others in front of them. Junctions join from the left. The number bounds the signs that
are left. -/
def readSet (left : Option (Junction × Members)) (parts : List Members) :
    Nat → Read Members
  | 0 => failure
  | fuel + 1 => do
    filler
    let together := fun modes => joined modes left (.together parts)
    if let some chars ← readAsciiClass? then readSet left (chars :: parts) fuel
    else if ← nextIs '[' then
      let (negated, first) ← readOpening
      let inside ← readSet none first fuel
      readSet left ((← bracketed negated inside) :: parts) fuel
    else if ← nextIs ']' then return together (← get).modes
    else if let some op ← readJunction? then
      readSet (some (op, together (← get).modes)) [] fuel
    else readSet left ((← readRange) :: parts) fuel

/-- Reads a set behind its opening bracket. The number bounds the signs that are left. -/
def readBrackets (fuel : Nat) : Read Members := do
  let (negated, first) ← readOpening
  bracketed negated (← readSet none first fuel)

end Dealer.Pattern
