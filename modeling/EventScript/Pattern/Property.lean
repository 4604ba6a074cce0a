import EventScript.Pattern.CharSet
import EventScript.Text.Search

/-!
Properties of characters that a pattern can ask for by name: the general category, the writing
system, and some that a character has or has not. Case, blanks, dashes and underscores in a name do
not count, nor does a leading `is`.
-/

namespace EventScript.Pattern

open EventScript.Text

def plainName (name : List Char) : String :=
  let lowered := name.map Char.toLower
  let kept := lowered.filter fun char =>
    char != ' ' && char != '_' && char != '-' && char.toNat ≤ 127
  if ['i', 's'].isPrefixOf lowered then
    match kept.drop 2 with
    | ['c'] => "isc"
    | rest => String.ofList rest
  else String.ofList kept

def categories? : String → Option (List Category)
  | "l" | "letter" =>
    some [.capitalLetter, .smallLetter, .titleLetter, .modifierLetter, .otherLetter]
  | "lc" | "casedletter" => some [.capitalLetter, .smallLetter, .titleLetter]
  | "lu" | "uppercaseletter" => some [.capitalLetter]
  | "ll" | "lowercaseletter" => some [.smallLetter]
  | "lt" | "titlecaseletter" => some [.titleLetter]
  | "lm" | "modifierletter" => some [.modifierLetter]
  | "lo" | "otherletter" => some [.otherLetter]
  | "m" | "mark" | "combiningmark" => some [.nonspacingMark, .spacingMark, .enclosingMark]
  | "mn" | "nonspacingmark" => some [.nonspacingMark]
  | "mc" | "spacingmark" => some [.spacingMark]
  | "me" | "enclosingmark" => some [.enclosingMark]
  | "n" | "number" => some [.decimalDigit, .letterNumber, .otherNumber]
  | "nd" | "decimalnumber" | "digit" => some [.decimalDigit]
  | "nl" | "letternumber" => some [.letterNumber]
  | "no" | "othernumber" => some [.otherNumber]
  | "p" | "punctuation" | "punct" =>
    some [.connector, .dash, .openingMark, .closingMark, .initialQuote, .finalQuote,
      .otherPunctuation]
  | "pc" | "connectorpunctuation" => some [.connector]
  | "pd" | "dashpunctuation" => some [.dash]
  | "ps" | "openpunctuation" => some [.openingMark]
  | "pe" | "closepunctuation" => some [.closingMark]
  | "pi" | "initialpunctuation" => some [.initialQuote]
  | "pf" | "finalpunctuation" => some [.finalQuote]
  | "po" | "otherpunctuation" => some [.otherPunctuation]
  | "s" | "symbol" => some [.mathSymbol, .currencySymbol, .modifierSymbol, .otherSymbol]
  | "sm" | "mathsymbol" => some [.mathSymbol]
  | "sc" | "currencysymbol" => some [.currencySymbol]
  | "sk" | "modifiersymbol" => some [.modifierSymbol]
  | "so" | "othersymbol" => some [.otherSymbol]
  | "z" | "separator" => some [.blankSeparator, .lineSeparator, .paragraphSeparator]
  | "zs" | "spaceseparator" => some [.blankSeparator]
  | "zl" | "lineseparator" => some [.lineSeparator]
  | "zp" | "paragraphseparator" => some [.paragraphSeparator]
  | "c" | "other" => some [.control, .formatting, .privateUse, .unassigned]
  | "cc" | "control" | "cntrl" => some [.control]
  | "cf" | "format" => some [.formatting]
  | "co" | "privateuse" => some [.privateUse]
  | "cn" | "unassigned" => some [.unassigned]
  | "assigned" => some Category.assigned
  | _ => none

def categorySet? (name : String) : Option CharSet :=
  match name with
  | "any" => some (.complement (.union []))
  | "ascii" => some (.named fun char => char.toNat ≤ 127)
  | name => (categories? name).map fun categories =>
      .named fun char => categories.any (·.has char)

def writingSystem? : String → Option WritingSystem
  | "latin" | "latn" => some .latin
  | "greek" | "grek" => some .greek
  | "cyrillic" | "cyrl" => some .cyrillic
  | "armenian" | "armn" => some .armenian
  | "hebrew" | "hebr" => some .hebrew
  | "arabic" | "arab" => some .arabic
  | "devanagari" | "deva" => some .devanagari
  | "thai" => some .thai
  | "georgian" | "geor" => some .georgian
  | "hangul" | "hang" => some .hangul
  | "hiragana" | "hira" => some .hiragana
  | "katakana" | "kana" => some .katakana
  | "han" | "hani" => some .han
  | _ => none

def writingSystemSet? (name : String) : Option CharSet :=
  (writingSystem? name).map fun system => .named system.has

def traitSet? : String → Option CharSet
  | "alphabetic" | "alpha" => some (.named isLetter)
  | "whitespace" | "wspace" | "space" => some (.named isBlank)
  | "uppercase" | "upper" => some (.named isCapital)
  | "lowercase" | "lower" => some (.named isSmall)
  | "emoji" => some (.named isPictograph)
  | _ => none

def valueSet? (property value : String) : Option CharSet :=
  match property with
  | "gc" | "generalcategory" => categorySet? value
  | "sc" | "script" => writingSystemSet? value
  | _ => none

def cutAt? (separator name : List Char) : Option (List Char × List Char) :=
  (indexIn separator name).map fun position =>
    (name.take position, name.drop (position + separator.length))

def propertySet? (name : List Char) : Option (Bool × CharSet) :=
  let withValue (negated : Bool) (parts : List Char × List Char) : Option (Bool × CharSet) :=
    (valueSet? (plainName parts.1) (plainName parts.2)).map fun set => (negated, set)
  match cutAt? ['!', '='] name with
  | some parts => withValue true parts
  | none =>
    match (cutAt? [':'] name).or (cutAt? ['='] name) with
    | some parts => withValue false parts
    | none =>
      let name := plainName name
      (((traitSet? name).or (categorySet? name)).or (writingSystemSet? name)).map fun set =>
        (false, set)

end EventScript.Pattern
