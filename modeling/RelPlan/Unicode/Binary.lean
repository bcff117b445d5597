import RelPlan.Unicode.CaseFolding
import RelPlan.Unicode.Category
import RelPlan.Unicode.Listed

/-!
# Binary properties

The properties that a character has or has not. Many of them follow from general categories by
rules, with lists of exceptions.
-/

namespace RelPlan

/-! ### Sets that are given by rules -/

namespace CodeSet

/-- What is used like a letter. -/
def alphabetic : CodeSet := inCategories ("Nl" :: letters) ∪ otherAlphabetic

/-- Small letters. -/
def lowercase : CodeSet := inCategories ["Ll"] ∪ otherLowercase

/-- Capital letters. -/
def uppercase : CodeSet := inCategories ["Lu"] ∪ otherUppercase

/-- What has letter case. -/
def cased : CodeSet := lowercase ∪ uppercase ∪ inCategories ["Lt"]

/-- What is used in mathematics. -/
def math : CodeSet := inCategories ["Sm"] ∪ otherMath

/-- What extends a grapheme. -/
def graphemeExtend : CodeSet := inCategories ["Mn", "Me"] ∪ otherGraphemeExtend

/-- What begins a grapheme. -/
def graphemeBase : CodeSet :=
  everything \ (inCategories ["Cc", "Cf", "Co", "Cn", "Zl", "Zp"] ∪ graphemeExtend)

/-- What is ignored by default. -/
def defaultIgnorable : CodeSet :=
  (otherDefaultIgnorable ∪ inCategories ["Cf"] ∪ variationSelector) \
    (whiteSpace ∪ prependedConcatenationMark ∪ .ofText "fff9-fffb 13430-13440")

/-- What may begin an identifier. -/
def idStart : CodeSet :=
  (inCategories ("Nl" :: letters) ∪ otherIdStart) \ (patternSyntax ∪ patternWhiteSpace)

/-- What may stand in an identifier. -/
def idContinue : CodeSet :=
  idStart ∪
    (inCategories ["Mn", "Mc", "Nd", "Pc"] ∪ otherIdContinue) \ (patternSyntax ∪ patternWhiteSpace)

/-- What stands between the letters of a word. -/
def midLetter : CodeSet := .ofText "3a b7 387 55f 5f4 2027 fe13 fe55 ff1a"

/-- What stands between the letters or the digits of a word. -/
def midNumberLetter : CodeSet := .ofText "2e 2018-2019 2024 fe52 ff07 ff0e"

/-- What is passed over where the case of letters is determined. -/
def caseIgnorable : CodeSet :=
  inCategories ["Mn", "Me", "Cf", "Lm", "Sk"] ∪ midLetter ∪ midNumberLetter ∪ .ofText "27"

/-- What small letters change. -/
def changesWhenLowercased : CodeSet :=
  (uppercase ∪ inCategories ["Lt"]) ∩ casePartners ∪ .ofText "130"

/-- What capital letters change. A letter with an accent may become two characters. -/
def changesWhenUppercased : CodeSet :=
  (lowercase ∪ inCategories ["Lt"]) ∩ casePartners ∪
    .ofText "131 149 1f0 390 3b0 587 1e96-1e9a 1f50 1f52 1f54 1f56 1fb2 1fb4 1fb6-1fb7 1fc2 1fc4
      1fc6-1fc7 1fd2-1fd3 1fd6-1fd7 1fe2-1fe4 1fe6-1fe7 1ff2 1ff4 1ff6-1ff7 fb00-fb06 fb13-fb17"

/-- What capital letters at the beginning of words change. -/
def changesWhenTitlecased : CodeSet :=
  changesWhenUppercased \
    .ofText "1c5 1c8 1cb 1f2 10d0-10fa 10fd-10ff 1f88-1f8f 1f98-1f9f 1fa8-1faf 1fbc 1fcc 1ffc" ∪
    .ofText "1c4 1c7 1ca 1f1"

/-- What leaving out letter case changes. The Cherokee letters become capital ones. -/
def changesWhenCasefolded : CodeSet :=
  changesWhenLowercased \ .ofText "13a0-13f5" ∪
    .ofText "b5 df 149 17f 345 3c2 3d0-3d1 3d5-3d6 3f0-3f1 3f5 587 13f8-13fd 1c80-1c88 1e9a-1e9b
      1f80-1f87 1f90-1f97 1fa0-1fa7 1fb2-1fb4 1fb7 1fc2-1fc4 1fc7 1ff2-1ff4 1ff7 ab70-abbf fb00-fb06
      fb13-fb17"

end CodeSet

/-! ### The properties -/

/-- A property that a character has or has not. -/
inductive BinaryProperty where
  /-- A hexadecimal digit of ASCII. -/
  | asciiHexDigit
  /-- It is used like a letter. -/
  | alphabetic
  /-- It controls the direction of text. -/
  | bidiControl
  /-- It is mirrored where text runs from right to left. -/
  | bidiMirrored
  /-- It has letter case. -/
  | cased
  /-- It is passed over where the case of letters is determined. -/
  | caseIgnorable
  /-- Leaving out letter case changes it. -/
  | changesWhenCasefolded
  /-- Another letter case changes it. -/
  | changesWhenCasemapped
  /-- Small letters change it. -/
  | changesWhenLowercased
  /-- Capital letters at the beginning of words change it. -/
  | changesWhenTitlecased
  /-- Capital letters change it. -/
  | changesWhenUppercased
  /-- It is a dash. -/
  | dash
  /-- It is ignored by default. -/
  | defaultIgnorable
  /-- It should not be used. -/
  | deprecated
  /-- It is a diacritic. -/
  | diacritic
  /-- It is an emoji. -/
  | emoji
  /-- It is a part of emoji. -/
  | emojiComponent
  /-- It changes the colour of an emoji. -/
  | emojiModifier
  /-- It is an emoji whose colour can be changed. -/
  | emojiModifierBase
  /-- It is shown as an emoji. -/
  | emojiPresentation
  /-- It is an emoji or may become one. -/
  | extendedPictographic
  /-- It extends a letter or repeats it. -/
  | extender
  /-- It begins a grapheme. -/
  | graphemeBase
  /-- It extends a grapheme. -/
  | graphemeExtend
  /-- It links two letters. -/
  | graphemeLink
  /-- It is a hexadecimal digit. -/
  | hexDigit
  /-- It is a hyphen. -/
  | hyphen
  /-- A mathematical symbol in identifiers. -/
  | idCompatMathContinue
  /-- A mathematical symbol at the beginning of identifiers. -/
  | idCompatMathStart
  /-- It may stand in an identifier. -/
  | idContinue
  /-- It may begin an identifier. -/
  | idStart
  /-- It is an ideograph. -/
  | ideographic
  /-- It describes an ideograph by two parts. -/
  | idsBinaryOperator
  /-- It describes an ideograph by three parts. -/
  | idsTrinaryOperator
  /-- It describes an ideograph by another one. -/
  | idsUnaryOperator
  /-- It controls the joining of letters. -/
  | joinControl
  /-- It is written in front of the consonant that it follows. -/
  | logicalOrderException
  /-- It is a small letter. -/
  | lowercase
  /-- It is used in mathematics. -/
  | math
  /-- It stands nearer to the letter than other marks. -/
  | modifierCombiningMark
  /-- It is never assigned. -/
  | noncharacter
  /-- It is alphabetic without being a letter. -/
  | otherAlphabetic
  /-- It is ignored by default without being a control. -/
  | otherDefaultIgnorable
  /-- It extends a grapheme and takes space. -/
  | otherGraphemeExtend
  /-- It stands in identifiers by exception. -/
  | otherIdContinue
  /-- It begins identifiers by exception. -/
  | otherIdStart
  /-- It counts as a small letter by exception. -/
  | otherLowercase
  /-- It is used in mathematics without being a symbol of it. -/
  | otherMath
  /-- It counts as a capital letter by exception. -/
  | otherUppercase
  /-- It may have a meaning of its own in patterns. -/
  | patternSyntax
  /-- It is white space in patterns. -/
  | patternWhiteSpace
  /-- It spans the digits behind it. -/
  | prependedConcatenationMark
  /-- It is a quotation mark. -/
  | quotationMark
  /-- It is a radical of ideographs. -/
  | radical
  /-- It is a letter of flags. -/
  | regionalIndicator
  /-- It ends a sentence. -/
  | sentenceTerminal
  /-- It loses its dot under an accent. -/
  | softDotted
  /-- It ends a part of a sentence. -/
  | terminalPunctuation
  /-- It is an ideograph of the Han script. -/
  | unifiedIdeograph
  /-- It is a capital letter. -/
  | uppercase
  /-- It selects a variant of a character. -/
  | variationSelector
  /-- It is white space. -/
  | whiteSpace
  /-- It may stand in an identifier in any form. -/
  | xidContinue
  /-- It may begin an identifier in any form. -/
  | xidStart
  deriving DecidableEq

namespace BinaryProperty

/-- The names of the properties, letter case, blanks, underscores and hyphens left out. -/
def names : List (List String × BinaryProperty) :=
  [(["ahex", "asciihexdigit"], .asciiHexDigit), (["alpha", "alphabetic"], .alphabetic),
  (["bidic", "bidicontrol"], .bidiControl), (["bidim", "bidimirrored"], .bidiMirrored),
  (["cased"], .cased), (["ci", "caseignorable"], .caseIgnorable),
  (["cwcf", "changeswhencasefolded"], .changesWhenCasefolded),
  (["cwcm", "changeswhencasemapped"], .changesWhenCasemapped),
  (["cwl", "changeswhenlowercased"], .changesWhenLowercased),
  (["cwt", "changeswhentitlecased"], .changesWhenTitlecased),
  (["cwu", "changeswhenuppercased"], .changesWhenUppercased), (["dash"], .dash),
  (["di", "defaultignorablecodepoint"], .defaultIgnorable), (["dep", "deprecated"], .deprecated),
  (["dia", "diacritic"], .diacritic), (["emoji"], .emoji),
  (["ecomp", "emojicomponent"], .emojiComponent), (["emod", "emojimodifier"], .emojiModifier),
  (["ebase", "emojimodifierbase"], .emojiModifierBase),
  (["epres", "emojipresentation"], .emojiPresentation),
  (["extpict", "extendedpictographic"], .extendedPictographic), (["ext", "extender"], .extender),
  (["grbase", "graphemebase"], .graphemeBase), (["grext", "graphemeextend"], .graphemeExtend),
  (["grlink", "graphemelink"], .graphemeLink), (["hex", "hexdigit"], .hexDigit),
  (["hyphen"], .hyphen), (["idcompatmathcontinue"], .idCompatMathContinue),
  (["idcompatmathstart"], .idCompatMathStart), (["idc", "idcontinue"], .idContinue),
  (["ids", "idstart"], .idStart), (["ideo", "ideographic"], .ideographic),
  (["idsb", "idsbinaryoperator"], .idsBinaryOperator),
  (["idst", "idstrinaryoperator"], .idsTrinaryOperator),
  (["idsu", "idsunaryoperator"], .idsUnaryOperator), (["joinc", "joincontrol"], .joinControl),
  (["loe", "logicalorderexception"], .logicalOrderException), (["lower", "lowercase"], .lowercase),
  (["math"], .math), (["mcm", "modifiercombiningmark"], .modifierCombiningMark),
  (["nchar", "noncharactercodepoint"], .noncharacter),
  (["oalpha", "otheralphabetic"], .otherAlphabetic),
  (["odi", "otherdefaultignorablecodepoint"], .otherDefaultIgnorable),
  (["ogrext", "othergraphemeextend"], .otherGraphemeExtend),
  (["oidc", "otheridcontinue"], .otherIdContinue), (["oids", "otheridstart"], .otherIdStart),
  (["olower", "otherlowercase"], .otherLowercase), (["omath", "othermath"], .otherMath),
  (["oupper", "otheruppercase"], .otherUppercase), (["patsyn", "patternsyntax"], .patternSyntax),
  (["patws", "patternwhitespace"], .patternWhiteSpace),
  (["pcm", "prependedconcatenationmark"], .prependedConcatenationMark),
  (["qmark", "quotationmark"], .quotationMark), (["radical"], .radical),
  (["ri", "regionalindicator"], .regionalIndicator),
  (["sterm", "sentenceterminal"], .sentenceTerminal), (["sd", "softdotted"], .softDotted),
  (["term", "terminalpunctuation"], .terminalPunctuation),
  (["uideo", "unifiedideograph"], .unifiedIdeograph), (["upper", "uppercase"], .uppercase),
  (["vs", "variationselector"], .variationSelector),
  (["space", "whitespace", "wspace"], .whiteSpace), (["xidc", "xidcontinue"], .xidContinue),
  (["xids", "xidstart"], .xidStart)]

/-- The property of that name. -/
def named? (name : String) : Option BinaryProperty :=
  (names.find? fun (names, _) => name ∈ names).map (·.2)

/-- The characters that have the property. -/
def characters : BinaryProperty → CodeSet
  | .asciiHexDigit => .asciiHexDigit
  | .alphabetic => .alphabetic
  | .bidiControl => .bidiControl
  | .bidiMirrored => .bidiMirrored
  | .cased => .cased
  | .caseIgnorable => .caseIgnorable
  | .changesWhenCasefolded => .changesWhenCasefolded
  | .changesWhenCasemapped => .changesWhenLowercased ∪ .changesWhenUppercased ∪
      .changesWhenTitlecased
  | .changesWhenLowercased => .changesWhenLowercased
  | .changesWhenTitlecased => .changesWhenTitlecased
  | .changesWhenUppercased => .changesWhenUppercased
  | .dash => .dash
  | .defaultIgnorable => .defaultIgnorable
  | .deprecated => .deprecated
  | .diacritic => .diacritic
  | .emoji => .emoji
  | .emojiComponent => .emojiComponent
  | .emojiModifier => .emojiModifier
  | .emojiModifierBase => .emojiModifierBase
  | .emojiPresentation => .emojiPresentation
  | .extendedPictographic => .extendedPictographic
  | .extender => .extender
  | .graphemeBase => .graphemeBase
  | .graphemeExtend => .graphemeExtend
  | .graphemeLink => .graphemeLink
  | .hexDigit => .hexDigit
  | .hyphen => .hyphen
  | .idCompatMathContinue => .idCompatMathContinue
  | .idCompatMathStart => .idCompatMathStart
  | .idContinue => .idContinue
  | .idStart => .idStart
  | .ideographic => .ideographic
  | .idsBinaryOperator => .idsBinaryOperator
  | .idsTrinaryOperator => .idsTrinaryOperator
  | .idsUnaryOperator => .idsUnaryOperator
  | .joinControl => .joinControl
  | .logicalOrderException => .logicalOrderException
  | .lowercase => .lowercase
  | .math => .math
  | .modifierCombiningMark => .modifierCombiningMark
  | .noncharacter => .noncharacter
  | .otherAlphabetic => .otherAlphabetic
  | .otherDefaultIgnorable => .otherDefaultIgnorable
  | .otherGraphemeExtend => .otherGraphemeExtend
  | .otherIdContinue => .otherIdContinue
  | .otherIdStart => .otherIdStart
  | .otherLowercase => .otherLowercase
  | .otherMath => .otherMath
  | .otherUppercase => .otherUppercase
  | .patternSyntax => .patternSyntax
  | .patternWhiteSpace => .patternWhiteSpace
  | .prependedConcatenationMark => .prependedConcatenationMark
  | .quotationMark => .quotationMark
  | .radical => .radical
  | .regionalIndicator => .regionalIndicator
  | .sentenceTerminal => .sentenceTerminal
  | .softDotted => .softDotted
  | .terminalPunctuation => .terminalPunctuation
  | .unifiedIdeograph => .unifiedIdeograph
  | .uppercase => .uppercase
  | .variationSelector => .variationSelector
  | .whiteSpace => .whiteSpace
  | .xidContinue => .idContinue \ .unstableIdContinue
  | .xidStart => .idStart \ .unstableIdStart

end BinaryProperty

end RelPlan
