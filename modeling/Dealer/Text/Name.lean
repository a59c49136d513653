-- The names of sets of characters. A set goes by a property, a category, a
-- script, or a property and its value. Case, blanks, lines and hyphens in a
-- name do not count.
import Dealer.Text.Breaks
import Dealer.Text.Chart.Ages

namespace Dealer

/-- A set of characters, and the names that it goes by. -/
structure NamedSet where
  names : List String
  chars : CharSet

/-- The first of some sets that goes by a name. -/
def NamedSet.find? (sets : List NamedSet) (name : String) : Option CharSet :=
  (sets.find? fun s => s.names.contains name).map (·.chars)

namespace Property

/-- The properties that a character has or has not. -/
def named : List NamedSet :=
  [⟨["alphabetic", "alpha"], alphabetic⟩,
   ⟨["asciihexdigit", "ahex"], asciiHexDigit⟩,
   ⟨["bidicontrol", "bidic"], bidiControl⟩,
   ⟨["bidimirrored", "bidim"], Chart.bidiMirrored⟩,
   ⟨["cased"], cased⟩,
   ⟨["caseignorable", "ci"], caseIgnorable⟩,
   ⟨["changeswhencasefolded", "cwcf"], changesWhenCasefolded⟩,
   ⟨["changeswhencasemapped", "cwcm"], changesWhenCasemapped⟩,
   ⟨["changeswhenlowercased", "cwl"], changesWhenLowercased⟩,
   ⟨["changeswhentitlecased", "cwt"], changesWhenTitlecased⟩,
   ⟨["changeswhenuppercased", "cwu"], changesWhenUppercased⟩,
   ⟨["dash"], dash⟩,
   ⟨["defaultignorablecodepoint", "di"], defaultIgnorable⟩,
   ⟨["deprecated", "dep"], deprecated⟩,
   ⟨["diacritic", "dia"], Chart.diacritic⟩,
   ⟨["emoji"], Chart.emoji⟩,
   ⟨["emojicomponent", "ecomp"], Chart.emojiComponent⟩,
   ⟨["emojimodifier", "emod"], emojiModifier⟩,
   ⟨["emojimodifierbase", "ebase"], Chart.emojiModifierBase⟩,
   ⟨["emojipresentation", "epres"], Chart.emojiPresentation⟩,
   ⟨["extendedpictographic", "extpict"], Chart.pictographic⟩,
   ⟨["extender", "ext"], Chart.extender⟩,
   ⟨["graphemebase", "grbase"], graphemeBase⟩,
   ⟨["graphemeextend", "grext"], graphemeExtend⟩,
   ⟨["graphemelink", "grlink"], Chart.virama⟩,
   ⟨["hexdigit", "hex"], hexDigit⟩,
   ⟨["hyphen"], Chart.hyphen⟩,
   ⟨["idcompatmathcontinue"], idCompatMathContinue⟩,
   ⟨["idcompatmathstart"], idCompatMathStart⟩,
   ⟨["idcontinue", "idc"], idContinue⟩,
   ⟨["ideographic", "ideo"], Chart.ideographic⟩,
   ⟨["idsbinaryoperator", "idsb"], idsBinaryOperator⟩,
   ⟨["idstart", "ids"], idStart⟩,
   ⟨["idstrinaryoperator", "idst"], idsTrinaryOperator⟩,
   ⟨["idsunaryoperator", "idsu"], idsUnaryOperator⟩,
   ⟨["joincontrol", "joinc"], joinControl⟩,
   ⟨["logicalorderexception", "loe"], logicalOrderException⟩,
   ⟨["lowercase", "lower"], lowercase⟩,
   ⟨["math"], math⟩,
   ⟨["modifiercombiningmark", "mcm"], Chart.modifierCombiningMark⟩,
   ⟨["noncharactercodepoint", "nchar"], noncharacter⟩,
   ⟨["otheralphabetic", "oalpha"], Chart.otherAlphabetic⟩,
   ⟨["otherdefaultignorablecodepoint", "odi"], otherDefaultIgnorable⟩,
   ⟨["othergraphemeextend", "ogrext"], Chart.otherGraphemeExtend⟩,
   ⟨["otheridcontinue", "oidc"], otherIdContinue⟩,
   ⟨["otheridstart", "oids"], otherIdStart⟩,
   ⟨["otherlowercase", "olower"], Chart.otherLowercase⟩,
   ⟨["othermath", "omath"], Chart.otherMath⟩,
   ⟨["otheruppercase", "oupper"], Chart.otherUppercase⟩,
   ⟨["patternsyntax", "patsyn"], Chart.patternSyntax⟩,
   ⟨["patternwhitespace", "patws"], patternWhiteSpace⟩,
   ⟨["prependedconcatenationmark", "pcm"], prependedConcatenationMark⟩,
   ⟨["quotationmark", "qmark"], Chart.quotationMark⟩,
   ⟨["radical"], Chart.radical⟩,
   ⟨["regionalindicator", "ri"], regionalIndicator⟩,
   ⟨["sentenceterminal", "sterm"], Chart.sentenceTerminal⟩,
   ⟨["softdotted", "sd"], Chart.softDotted⟩,
   ⟨["terminalpunctuation", "term"], Chart.terminalPunctuation⟩,
   ⟨["unifiedideograph", "uideo"], Chart.unifiedIdeograph⟩,
   ⟨["uppercase", "upper"], uppercase⟩,
   ⟨["variationselector", "vs"], variationSelector⟩,
   ⟨["whitespace", "wspace", "space"], whiteSpace⟩,
   ⟨["xidcontinue", "xidc"], xidContinue⟩,
   ⟨["xidstart", "xids"], xidStart⟩]

end Property

/-- The categories, and the groups of them. -/
def Category.named : List NamedSet :=
  [⟨["any"], .all⟩,
   ⟨["ascii"], .range 0 0x7F⟩,
   ⟨["assigned"], assigned⟩,
   ⟨["l", "letter"], letter⟩,
   ⟨["lc", "casedletter"], casedLetter⟩,
   ⟨["lu", "uppercaseletter"], Chart.uppercaseLetter⟩,
   ⟨["ll", "lowercaseletter"], Chart.lowercaseLetter⟩,
   ⟨["lt", "titlecaseletter"], Chart.titlecaseLetter⟩,
   ⟨["lm", "modifierletter"], Chart.modifierLetter⟩,
   ⟨["lo", "otherletter"], Chart.otherLetter⟩,
   ⟨["m", "mark", "combiningmark"], mark⟩,
   ⟨["mn", "nonspacingmark"], Chart.nonspacingMark⟩,
   ⟨["mc", "spacingmark"], Chart.spacingMark⟩,
   ⟨["me", "enclosingmark"], Chart.enclosingMark⟩,
   ⟨["n", "number"], number⟩,
   ⟨["nd", "decimalnumber", "digit"], Chart.decimalNumber⟩,
   ⟨["nl", "letternumber"], Chart.letterNumber⟩,
   ⟨["no", "othernumber"], Chart.otherNumber⟩,
   ⟨["p", "punctuation", "punct"], punctuation⟩,
   ⟨["pc", "connectorpunctuation"], Chart.connectorPunctuation⟩,
   ⟨["pd", "dashpunctuation"], Chart.dashPunctuation⟩,
   ⟨["ps", "openpunctuation"], Chart.openPunctuation⟩,
   ⟨["pe", "closepunctuation"], Chart.closePunctuation⟩,
   ⟨["pi", "initialpunctuation"], Chart.initialPunctuation⟩,
   ⟨["pf", "finalpunctuation"], Chart.finalPunctuation⟩,
   ⟨["po", "otherpunctuation"], Chart.otherPunctuation⟩,
   ⟨["s", "symbol"], symbol⟩,
   ⟨["sm", "mathsymbol"], Chart.mathSymbol⟩,
   ⟨["sc", "currencysymbol"], Chart.currencySymbol⟩,
   ⟨["sk", "modifiersymbol"], Chart.modifierSymbol⟩,
   ⟨["so", "othersymbol"], Chart.otherSymbol⟩,
   ⟨["z", "separator"], separator⟩,
   ⟨["zs", "spaceseparator"], Chart.spaceSeparator⟩,
   ⟨["zl", "lineseparator"], Chart.lineSeparator⟩,
   ⟨["zp", "paragraphseparator"], Chart.paragraphSeparator⟩,
   ⟨["c", "other"], other⟩,
   ⟨["cc", "control", "cntrl"], Chart.control⟩,
   ⟨["cf", "format"], Chart.format⟩,
   ⟨["co", "privateuse"], Chart.privateUse⟩,
   ⟨["cn", "unassigned"], unassigned⟩]

/-- What characters do between clusters. -/
def ClusterBreak.named : List NamedSet :=
  [⟨["cn", "control"], control⟩,
   ⟨["cr"], carriageReturn⟩,
   ⟨["ex", "extend"], extend⟩,
   ⟨["l"], leading⟩,
   ⟨["lf"], lineFeed⟩,
   ⟨["lv"], openSyllable⟩,
   ⟨["lvt"], closedSyllable⟩,
   ⟨["pp", "prepend"], prepend⟩,
   ⟨["ri", "regionalindicator"], Property.regionalIndicator⟩,
   ⟨["sm", "spacingmark"], spacing⟩,
   ⟨["t"], trailing⟩,
   ⟨["v"], vowel⟩,
   ⟨["zwj"], zeroWidthJoiner⟩]

/-- What characters do between words. -/
def WordBreak.named : List NamedSet :=
  [⟨["le", "aletter"], letter⟩,
   ⟨["cr"], carriageReturn⟩,
   ⟨["dq", "doublequote"], doubleQuote⟩,
   ⟨["extend"], extend⟩,
   ⟨["ex", "extendnumlet"], extendNumLet⟩,
   ⟨["fo", "format"], format⟩,
   ⟨["hl", "hebrewletter"], hebrewLetter⟩,
   ⟨["ka", "katakana"], katakana⟩,
   ⟨["lf"], lineFeed⟩,
   ⟨["mb", "midnumlet"], betweenAll⟩,
   ⟨["ml", "midletter"], betweenLetters⟩,
   ⟨["mn", "midnum"], betweenNumbers⟩,
   ⟨["nl", "newline"], newline⟩,
   ⟨["nu", "numeric"], numeric⟩,
   ⟨["ri", "regionalindicator"], Property.regionalIndicator⟩,
   ⟨["sq", "singlequote"], singleQuote⟩,
   ⟨["wsegspace"], space⟩,
   ⟨["zwj"], zeroWidthJoiner⟩]

/-- What characters do between sentences. -/
def SentenceBreak.named : List NamedSet :=
  [⟨["at", "aterm"], point⟩,
   ⟨["cl", "close"], close⟩,
   ⟨["cr"], carriageReturn⟩,
   ⟨["ex", "extend"], extend⟩,
   ⟨["fo", "format"], format⟩,
   ⟨["le", "oletter"], otherLetter⟩,
   ⟨["lf"], lineFeed⟩,
   ⟨["lo", "lower"], lower⟩,
   ⟨["nu", "numeric"], numeric⟩,
   ⟨["sc", "scontinue"], continuing⟩,
   ⟨["se", "sep"], separator⟩,
   ⟨["sp"], space⟩,
   ⟨["st", "sterm"], terminal⟩,
   ⟨["up", "upper"], upper⟩]

/-- The characters that had come with the version of a name and those before it. -/
def charsBy? (version : String) : Option CharSet := do
  let newest ← Chart.versions.findIdx? fun v => v.names.contains version
  return .unions ((Chart.versions.take (newest + 1)).map (·.chars))

/-! ## Names -/

/-- Leaves out blanks, lines, hyphens and all that is not ASCII, and makes letters small. -/
def plainChars (name : List Char) : List Char :=
  (name.filter fun c => decide (c.toNat ≤ 0x7F) && c != ' ' && c != '_' && c != '-').map
    Char.toLower

/-- A name without what does not count, which the word "is" in front of it is part of. The name
`isc` is not a `c` with that word. -/
def plainName : List Char → List Char
  | i :: s :: rest =>
    if (i = 'i' ∨ i = 'I') ∧ (s = 's' ∨ s = 'S') then
      let plain := plainChars rest
      if plain = ['c'] then ['i', 's', 'c'] else plain
    else plainChars (i :: s :: rest)
  | name => plainChars name

namespace CharSet

/-- The set of characters with a name. A property goes before a category, and a category before a
script. -/
def named? (name : List Char) : Option CharSet :=
  let name := String.ofList (plainName name)
  NamedSet.find? Property.named name
    <|> NamedSet.find? Category.named name
    <|> (Script.find? name).map (·.chars)

/-- The set of characters that have a value of a property. -/
def valued? (property value : List Char) : Option CharSet :=
  let value := String.ofList (plainName value)
  match String.ofList (plainName property) with
  | "gc" | "generalcategory" => NamedSet.find? Category.named value
  | "sc" | "script" => (Script.find? value).map (·.chars)
  | "scx" | "scriptextensions" => (Script.find? value).map Script.users
  | "age" => charsBy? value
  | "gcb" | "graphemeclusterbreak" => NamedSet.find? ClusterBreak.named value
  | "wb" | "wordbreak" => NamedSet.find? WordBreak.named value
  | "sb" | "sentencebreak" => NamedSet.find? SentenceBreak.named value
  | _ => none

end CharSet
end Dealer
