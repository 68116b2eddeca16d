import NetQuery.Library.Age
import NetQuery.Library.Break
import NetQuery.Library.Script
import NetQuery.Regex.Escape

namespace NetQuery.Regex

open Category in
/-- General categories and groups of them, each with its names; surrogates are no characters. -/
def namedCategories : List (List String × List Category) :=
  [(["lu", "uppercaseletter"], [lu]), (["ll", "lowercaseletter"], [ll]),
   (["lt", "titlecaseletter"], [lt]), (["lc", "casedletter"], [lu, ll, lt]),
   (["lm", "modifierletter"], [lm]), (["lo", "otherletter"], [lo]), (["l", "letter"], letters),
   (["mn", "nonspacingmark"], [mn]), (["mc", "spacingmark"], [mc]), (["me", "enclosingmark"], [me]),
   (["m", "mark", "combiningmark"], marks), (["nd", "decimalnumber", "digit"], [nd]),
   (["nl", "letternumber"], [nl]), (["no", "othernumber"], [no]), (["n", "number"], numbers),
   (["pc", "connectorpunctuation"], [pc]), (["pd", "dashpunctuation"], [pd]),
   (["ps", "openpunctuation"], [ps]), (["pe", "closepunctuation"], [pe]),
   (["pi", "initialpunctuation"], [pi]), (["pf", "finalpunctuation"], [pf]),
   (["po", "otherpunctuation"], [po]), (["p", "punctuation", "punct"], punctuation),
   (["sm", "mathsymbol"], [sm]), (["sc", "currencysymbol"], [sc]), (["sk", "modifiersymbol"], [sk]),
   (["so", "othersymbol"], [so]), (["s", "symbol"], symbols), (["zs", "spaceseparator"], [zs]),
   (["zl", "lineseparator"], [zl]), (["zp", "paragraphseparator"], [zp]),
   (["z", "separator"], separators), (["cc", "control", "cntrl"], [cc]), (["cf", "format"], [cf]),
   (["co", "privateuse"], [co]), (["cn", "unassigned"], [cn]), (["c", "other"], others),
   (["assigned"], assigned)]

def asciiChars : CharSet := .between '\x00' '\x7f'

def categoryChars? (name : String) : Option CharSet :=
  if name == "any" then some anyChar
  else if name == "ascii" then some asciiChars
  else (namedCategories.find? (·.1.contains name)).map fun (_, cs) => Category.charsOf cs

open Property in
def namedProperties : List (List String × CharSet) :=
  [(["ahex", "asciihexdigit"], asciiHexDigit), (["alpha", "alphabetic"], alphabetic),
   (["bidic", "bidicontrol"], bidiControl), (["bidim", "bidimirrored"], bidiMirrored),
   (["cased"], cased), (["ci", "caseignorable"], caseIgnorable),
   (["cwcf", "changeswhencasefolded"], changesWhenCasefolded),
   (["cwcm", "changeswhencasemapped"], changesWhenCasemapped),
   (["cwl", "changeswhenlowercased"], changesWhenLowercased),
   (["cwt", "changeswhentitlecased"], changesWhenTitlecased),
   (["cwu", "changeswhenuppercased"], changesWhenUppercased), (["dash"], dash),
   (["dep", "deprecated"], deprecated), (["di", "defaultignorablecodepoint"], defaultIgnorable),
   (["dia", "diacritic"], diacritic), (["ebase", "emojimodifierbase"], emojiModifierBase),
   (["ecomp", "emojicomponent"], emojiComponent), (["emod", "emojimodifier"], emojiModifier),
   (["emoji"], emoji), (["epres", "emojipresentation"], emojiPresentation),
   (["ext", "extender"], extender), (["extpict", "extendedpictographic"], extendedPictographic),
   (["grbase", "graphemebase"], graphemeBase), (["grext", "graphemeextend"], graphemeExtend),
   (["grlink", "graphemelink"], graphemeLink), (["hex", "hexdigit"], hexDigit),
   (["hyphen"], hyphen), (["ids", "idstart"], idStart), (["idc", "idcontinue"], idContinue),
   (["idcompatmathstart"], idCompatMathStart), (["idcompatmathcontinue"], idCompatMathContinue),
   (["ideo", "ideographic"], ideographic), (["idsb", "idsbinaryoperator"], idsBinaryOperator),
   (["idst", "idstrinaryoperator"], idsTrinaryOperator),
   (["idsu", "idsunaryoperator"], idsUnaryOperator), (["joinc", "joincontrol"], joinControl),
   (["loe", "logicalorderexception"], logicalOrderException), (["lower", "lowercase"], lowercase),
   (["math"], math), (["mcm", "modifiercombiningmark"], modifierCombiningMark),
   (["nchar", "noncharactercodepoint"], nonCharacter), (["oalpha", "otheralphabetic"],
   otherAlphabetic), (["odi", "otherdefaultignorablecodepoint"], otherDefaultIgnorable),
   (["ogrext", "othergraphemeextend"], otherGraphemeExtend),
   (["oids", "otheridstart"], otherIdStart), (["oidc", "otheridcontinue"], otherIdContinue),
   (["olower", "otherlowercase"], otherLowercase), (["omath", "othermath"], otherMath),
   (["oupper", "otheruppercase"], otherUppercase), (["patsyn", "patternsyntax"], patternSyntax),
   (["patws", "patternwhitespace"], patternWhiteSpace),
   (["pcm", "prependedconcatenationmark"], prependedConcatenationMark),
   (["qmark", "quotationmark"], quotationMark), (["radical"], radical),
   (["ri", "regionalindicator"], regionalIndicator), (["sd", "softdotted"], softDotted),
   (["sterm", "sentenceterminal"], sentenceTerminal),
   (["term", "terminalpunctuation"], terminalPunctuation),
   (["uideo", "unifiedideograph"], unifiedIdeograph), (["upper", "uppercase"], uppercase),
   (["vs", "variationselector"], variationSelector),
   (["wspace", "whitespace", "space"], whiteSpace), (["xids", "xidstart"], xidStart),
   (["xidc", "xidcontinue"], xidContinue)]

def propertyChars? (name : String) : Option CharSet :=
  (namedProperties.find? (·.1.contains name)).map (·.2)

/-- A name in the form in which names are compared. -/
def looseName (cs : List Char) : String :=
  let body := if cs.length ≥ 2 && (cs.take 2).map Char.toLower == ['i', 's'] then cs.drop 2 else cs
  let kept := body.filter fun c => c.toNat < 0x80 && c != ' ' && c != '_' && c != '-'
  let name := kept.map Char.toLower
  if name == ['c'] && body.length != cs.length then "isc" else String.ofList name

def namedChars? (name : String) : Option CharSet :=
  ((propertyChars? name).or (categoryChars? name)).or ((Script.ofName? name).map Script.chars)

def charsWithValue? (property value : String) : Option CharSet :=
  match property with
  | "gc" | "generalcategory" => categoryChars? value
  | "sc" | "script" => (Script.ofName? value).map Script.chars
  | "scx" | "scriptextensions" => (Script.ofName? value).map Script.used
  | "age" => Age.upTo value
  | "gcb" | "graphemeclusterbreak" => Break.graphemeClass? value
  | "sb" | "sentencebreak" => Break.sentenceClass? value
  | "wb" | "wordbreak" => Break.wordClass? value
  | _ => none

def splitAtSign? (sign : List Char) : List Char → Option (List Char × List Char)
  | [] => none
  | c :: rest =>
    if sign.isPrefixOf (c :: rest) then some ([], (c :: rest).drop sign.length)
    else (splitAtSign? sign rest).map fun (before, after) => (c :: before, after)

/-- The characters meant by the text between braces: a name, or a property and a value. A sign of
inequality does not make it the complement. -/
def charsOfText? (cs : List Char) : Option CharSet :=
  match [['!', '='], [':'], ['=']].findSome? fun sign => splitAtSign? sign cs with
  | some (property, value) => charsWithValue? (looseName property) (looseName value)
  | none => namedChars? (looseName cs)

example : (charsOfText? "ASCII_Hex-Digit".toList) = some (.ofText "30-39 41-46 61-66") := by
  decide

end NetQuery.Regex
