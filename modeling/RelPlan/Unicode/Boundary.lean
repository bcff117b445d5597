import RelPlan.Unicode.Binary
import RelPlan.Unicode.Script

/-!
# Boundaries in text

A text is divided into graphemes, words and sentences by rules about classes of characters. Each of
the three divisions has classes of its own, and a character has at most one class in each of them.
-/

namespace RelPlan

/-! ### Graphemes -/

/-- A class of characters for the division into graphemes. -/
inductive GraphemeClass where
  /-- A control. -/
  | control
  /-- The carriage return. -/
  | carriageReturn
  /-- The line feed. -/
  | lineFeed
  /-- What extends a grapheme. -/
  | extend
  /-- The joiner without width. -/
  | joiner
  /-- A letter of flags. -/
  | regionalIndicator
  /-- What is put in front of a grapheme. -/
  | prepended
  /-- A mark that takes space. -/
  | spacingMark
  /-- A leading consonant of the Korean script. -/
  | leading
  /-- A vowel of the Korean script or one that is joined like it. -/
  | vowel
  /-- A trailing consonant of the Korean script. -/
  | trailing
  /-- A Korean syllable that ends with its vowel. -/
  | openSyllable
  /-- A Korean syllable that ends with a consonant. -/
  | closedSyllable
  deriving DecidableEq

namespace GraphemeClass

/-- The names of the classes, letter case and underscores left out. -/
def names : List (List String × GraphemeClass) :=
  [(["cn", "control"], .control), (["cr"], .carriageReturn), (["lf"], .lineFeed),
  (["ex", "extend"], .extend), (["zwj"], .joiner),
  (["ri", "regionalindicator"], .regionalIndicator), (["pp", "prepend"], .prepended),
  (["sm", "spacingmark"], .spacingMark), (["l"], .leading), (["v"], .vowel), (["t"], .trailing),
  (["lv"], .openSyllable), (["lvt"], .closedSyllable)]

/-- The class of that name. -/
def named? (name : String) : Option GraphemeClass :=
  (names.find? fun (names, _) => name ∈ names).map (·.2)

/-- The Korean syllables that end with their vowel: every twenty-eighth one. -/
def openSyllables : CodeSet :=
  .ofRanges ((List.range 399).map fun n => (0xAC00 + 28 * n, 0xAC00 + 28 * n))

/-- The characters of a class. -/
def characters : GraphemeClass → CodeSet
  | .control =>
    (inCategories ["Zl", "Zp", "Cc", "Cf"] ∪ inCategories ["Cn"] ∩ .defaultIgnorable) \
      (.ofText "a d 200d" ∪ .graphemeExtend ∪ .prependedConcatenationMark)
  | .carriageReturn => .ofText "d"
  | .lineFeed => .ofText "a"
  | .extend => .graphemeExtend ∪ .emojiModifier
  | .joiner => .ofText "200d"
  | .regionalIndicator => .regionalIndicator
  | .prepended =>
    .prependedConcatenationMark ∪
      .ofText "d4e 111c2-111c3 113d1 1193f 11941 11a3a 11a84-11a89 11d46 11f02"
  | .spacingMark =>
    (inCategories ["Mc"] ∪ .ofText "e33 eb3") \
      (.graphemeExtend ∪ .ofText "102b-102c 1038 1062-1064 1067-106d 1083 1087-108c 108f 109a-109c
        1a61 1a63-1a64 aa7b aa7d 11720-11721")
  | .leading => .ofText "1100-115f a960-a97c"
  | .vowel => .ofText "1160-11a7 d7b0-d7c6 16d63 16d67-16d6a"
  | .trailing => .ofText "11a8-11ff d7cb-d7fb"
  | .openSyllable => openSyllables
  | .closedSyllable => .ofText "ac00-d7a3" \ openSyllables

end GraphemeClass

/-! ### Words -/

/-- A class of characters for the division into words. -/
inductive WordClass where
  /-- A letter. -/
  | letter
  /-- A Hebrew letter. -/
  | hebrewLetter
  /-- A character of the Katakana script. -/
  | katakana
  /-- What extends a character. -/
  | extend
  /-- A control of format. -/
  | format
  /-- A digit. -/
  | numeric
  /-- What connects letters and digits. -/
  | connector
  /-- What stands between letters. -/
  | midLetter
  /-- What stands between digits. -/
  | midNumber
  /-- What stands between letters or digits. -/
  | midNumberLetter
  /-- The single quotation mark. -/
  | singleQuote
  /-- The double quotation mark. -/
  | doubleQuote
  /-- A space between words. -/
  | space
  /-- What ends a line. -/
  | newline
  /-- The carriage return. -/
  | carriageReturn
  /-- The line feed. -/
  | lineFeed
  /-- The joiner without width. -/
  | joiner
  /-- A letter of flags. -/
  | regionalIndicator
  deriving DecidableEq

namespace WordClass

/-- The names of the classes, letter case and underscores left out. -/
def names : List (List String × WordClass) :=
  [(["aletter", "le"], .letter), (["hl", "hebrewletter"], .hebrewLetter),
  (["ka", "katakana"], .katakana), (["extend"], .extend), (["fo", "format"], .format),
  (["nu", "numeric"], .numeric), (["ex", "extendnumlet"], .connector),
  (["ml", "midletter"], .midLetter), (["mn", "midnum"], .midNumber),
  (["mb", "midnumlet"], .midNumberLetter), (["sq", "singlequote"], .singleQuote),
  (["dq", "doublequote"], .doubleQuote), (["wsegspace"], .space), (["nl", "newline"], .newline),
  (["cr"], .carriageReturn), (["lf"], .lineFeed), (["zwj"], .joiner),
  (["ri", "regionalindicator"], .regionalIndicator)]

/-- The class of that name. -/
def named? (name : String) : Option WordClass :=
  (names.find? fun (names, _) => name ∈ names).map (·.2)

/-- The letters of the Hebrew script. -/
def hebrewLetters : CodeSet := inScript "Hebr" ∩ inCategories ["Lo"]

/-- The Katakana script with what it shares with others. -/
def katakanaLetters : CodeSet := inScript "Kana" ∪ .ofText "3031-3035 309b-309c 30a0 30fc ff70"

/-- Characters of scripts that have no blanks between words. -/
def unpartedScripts : CodeSet :=
  .ofText "e01-e3a e40-e4e e81-e82 e84 e86-e8a e8c-ea3 ea5 ea7-ebd ec0-ec4 ec6 ec8-ece edc-edf
    1000-103f 1050-108f 109a-109f 1780-17d3 17d7 17dc-17dd 1950-196d 1970-1974 1980-19ab 19b0-19c9
    19da 19de-19df 1a20-1a5e 1a60-1a7c 1aa0-1aad a9e0-a9ef a9fa-a9fe aa60-aac2 aadb-aadf
    11700-1171a 1171d-1172b 1173a-1173b 1173f-11746"

/-- The characters of a class. -/
def characters : WordClass → CodeSet
  | .letter =>
    (.alphabetic ∪ .ofText "b8 2c2-2c5 2d2-2d7 2de-2df 2e5-2eb 2ed 2ef-2ff 55a-55c 55e 58a 5f3 70f
        a708-a716 a720-a721 a789-a78a ab5b") \
      (.ideographic ∪ katakanaLetters ∪ hebrewLetters ∪ inScript "Hira" ∪
        unpartedScripts ∪ .graphemeExtend ∪ inCategories ["Mc"])
  | .hebrewLetter => hebrewLetters
  | .katakana => katakanaLetters
  | .extend => (.graphemeExtend ∪ inCategories ["Mc"] ∪ .emojiModifier) \ .ofText "200d"
  | .format =>
    inCategories ["Cf"] \
      (.graphemeExtend ∪ .prependedConcatenationMark ∪ .ofText "200b 200d")
  | .numeric => inCategories ["Nd"] ∪ .ofText "66b" ∪ .prependedConcatenationMark \ .ofText "70f"
  | .connector => inCategories ["Pc"] ∪ .ofText "202f"
  | .midLetter => .midLetter
  | .midNumber => .ofText "2c 3b 37e 589 60c-60d 66c 7f8 2044 fe10 fe14 fe50 fe54 ff0c ff1b"
  | .midNumberLetter => .midNumberLetter
  | .singleQuote => .ofText "27"
  | .doubleQuote => .ofText "22"
  | .space => inCategories ["Zs"] \ .ofText "a0 2007 202f"
  | .newline => .ofText "b-c 85 2028-2029"
  | .carriageReturn => .ofText "d"
  | .lineFeed => .ofText "a"
  | .joiner => .ofText "200d"
  | .regionalIndicator => .regionalIndicator

end WordClass

/-! ### Sentences -/

/-- A class of characters for the division into sentences. -/
inductive SentenceClass where
  /-- A small letter. -/
  | lower
  /-- A capital letter. -/
  | upper
  /-- Another letter. -/
  | otherLetter
  /-- What extends a character. -/
  | extend
  /-- A control of format. -/
  | format
  /-- A digit. -/
  | numeric
  /-- A full stop. -/
  | fullStop
  /-- Another mark that ends a sentence. -/
  | terminal
  /-- A mark behind which a sentence goes on. -/
  | continuing
  /-- A bracket or a quotation mark. -/
  | closing
  /-- A space. -/
  | space
  /-- A separator of paragraphs. -/
  | separator
  /-- The carriage return. -/
  | carriageReturn
  /-- The line feed. -/
  | lineFeed
  deriving DecidableEq

namespace SentenceClass

/-- The names of the classes, letter case and underscores left out. -/
def names : List (List String × SentenceClass) :=
  [(["lo", "lower"], .lower), (["up", "upper"], .upper), (["le", "oletter"], .otherLetter),
  (["ex", "extend"], .extend), (["fo", "format"], .format), (["nu", "numeric"], .numeric),
  (["at", "aterm"], .fullStop), (["st", "sterm"], .terminal), (["sc", "scontinue"], .continuing),
  (["cl", "close"], .closing), (["sp"], .space), (["se", "sep"], .separator),
  (["cr"], .carriageReturn), (["lf"], .lineFeed)]

/-- The class of that name. -/
def named? (name : String) : Option SentenceClass :=
  (names.find? fun (names, _) => name ∈ names).map (·.2)

/-- Small letters. Those of the Georgian script count for nothing, as sentences do not begin with
capital ones. -/
def smallLetters : CodeSet := .lowercase \ (.graphemeExtend ∪ .ofText "10d0-10fa 10fd-10ff")

/-- Capital letters but those of the Georgian script. -/
def capitalLetters : CodeSet :=
  (.uppercase ∪ inCategories ["Lt"]) \ .ofText "1c90-1cba 1cbd-1cbf"

/-- The full stop in all its forms. -/
def fullStops : CodeSet := .ofText "2e 2024 fe52 ff0e"

/-- The characters of a class. -/
def characters : SentenceClass → CodeSet
  | .lower => smallLetters
  | .upper => capitalLetters
  | .otherLetter =>
    (.alphabetic ∪ .ofText "5f3") \
      (smallLetters ∪ capitalLetters ∪ .graphemeExtend ∪ inCategories ["Mc"])
  | .extend => .graphemeExtend ∪ inCategories ["Mc"] ∪ .ofText "200d"
  | .format =>
    inCategories ["Cf"] \
      (.graphemeExtend ∪ .prependedConcatenationMark ∪ .ofText "200d")
  | .numeric =>
    inCategories ["Nd"] ∪ .ofText "66b-66c" ∪ .prependedConcatenationMark \ .ofText "70f"
  | .fullStop => fullStops
  | .terminal => .sentenceTerminal \ fullStops
  | .continuing =>
    .ofText "2c-2d 3a-3b 37e 55d 60c-60d 7f8 1802 1808 2013-2014 3001 fe10-fe11 fe13-fe14 fe31-fe32
      fe50-fe51 fe54-fe55 fe58 fe63 ff0c-ff0d ff1a-ff1b ff64"
  | .closing => inCategories ["Ps", "Pe", "Pi", "Pf"] ∪ .otherQuotation
  | .space => .whiteSpace \ .ofText "a d 85 2028-2029"
  | .separator => .ofText "85 2028-2029"
  | .carriageReturn => .ofText "d"
  | .lineFeed => .ofText "a"

end SentenceClass

end RelPlan
