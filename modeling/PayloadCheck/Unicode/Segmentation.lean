import PayloadCheck.Unicode.Property
import PayloadCheck.Unicode.Script

/-!
# Break classes

Where a text may be cut into grapheme clusters, words and sentences depends on the classes of its
code points. Each class is given by a rule: how it is put together from categories, properties,
scripts and single ranges. Code points in no class of a table have the class "other", which cannot
be asked for.
-/

namespace PayloadCheck

inductive CodeRule where
  | text (ranges : String)
  | category (c : Category)
  | property (p : Property)
  | script (s : Script)
  | union (l r : CodeRule)
  | inter (l r : CodeRule)
  | sdiff (l r : CodeRule)

namespace CodeRule

instance : Union CodeRule := ⟨union⟩

instance : Inter CodeRule := ⟨inter⟩

instance : SDiff CodeRule := ⟨sdiff⟩

def unions (rules : List CodeRule) : CodeRule := rules.foldr union (text "")

def categories (cs : List Category) : CodeRule := unions (cs.map category)

def codes : CodeRule → CodeSet
  | text ranges => CodeSet.ofText ranges
  | category c => c.codes
  | property p => p.codes
  | script s => s.codes
  | union l r => l.codes.union r.codes
  | inter l r => l.codes.inter r.codes
  | sdiff l r => l.codes.diff r.codes

end CodeRule

structure BreakClass where
  /-- In loose form. -/
  names : List String
  rule : CodeRule

namespace BreakClass

open CodeRule

/-! ## Rules that several classes share -/

def zeroWidthJoiner : CodeRule := text "200d"

def spacing : CodeRule := category .spacingMark

/-- Format characters that stand in front of the digits or letters they enclose. -/
def prepended : CodeRule := property .prependedConcatenationMark

/-- Marks that stay with what is in front of them. -/
def extending : CodeRule := property .graphemeExtend ∪ property .emojiModifier

/-- What a line break treats as a digit. -/
def digits : CodeRule :=
  category .decimalNumber ∪ text "66b 19da" ∪ (prepended \ text "70f")

/-! ## Grapheme clusters -/

def syllables : CodeRule := text "ac00-d7a3"

/-- The syllables without a final consonant. -/
def openSyllables : CodeRule := text "ac00-d788/1c"

/-- Marks of southeast Asian scripts that do not join what is in front of them. -/
def detachedMarks : CodeRule :=
  text "102b-102c 1038 1062-1064 1067-106d 1083 1087-108c 108f 109a-109c 1a61 1a63-1a64 aa7b aa7d
    11720-11721"

def grapheme : List BreakClass :=
  [
    ⟨["cr"], text "d"⟩,
    ⟨["lf"], text "a"⟩,
    ⟨["control", "cn"],
      (categories [.control, .format, .lineSeparator, .paragraphSeparator] ∪
        (category .unassigned ∩ property .defaultIgnorableCodePoint)) \
        (text "a d 200c" ∪ zeroWidthJoiner ∪ extending ∪ prepended)⟩,
    ⟨["extend", "ex"], extending⟩,
    ⟨["zwj"], zeroWidthJoiner⟩,
    ⟨["regionalindicator", "ri"], property .regionalIndicator⟩,
    ⟨["prepend", "pp"],
      prepended ∪ text "d4e 111c2-111c3 113d1 1193f 11941 11a84-11a89 11d46 11f02"⟩,
    ⟨["spacingmark", "sm"], (spacing ∪ text "e33 eb3") \ (extending ∪ detachedMarks)⟩,
    ⟨["l"], text "1100-115f a960-a97c"⟩,
    ⟨["v"], text "1160-11a7 d7b0-d7c6 16d63 16d67-16d6a"⟩,
    ⟨["t"], text "11a8-11ff d7cb-d7fb"⟩,
    ⟨["lv"], openSyllables⟩,
    ⟨["lvt"], syllables \ openSyllables⟩]

/-! ## Words -/

def wordExtending : CodeRule := extending ∪ spacing

def kana : CodeRule := script .katakana ∪ text "3031-3035 309b-309c 30a0 30fc ff70"

def hebrewLetter : CodeRule := script .hebrew ∩ category .otherLetter

/-- Letters and marks of the scripts that are written without blanks between words. -/
def unspaced : CodeRule :=
  text "e01-e3a e40-e4e e81-e82 e84 e86-e8a e8c-ea3 ea5 ea7-ebd ec0-ec4 ec6 ec8-ece edc-edf
    1000-103f 1050-108f 109a-109f 1780-17d3 17d7 17dc-17dd 1950-196d 1970-1974 1980-19ab 19b0-19c9
    19da 19de-19df 1a20-1a5e 1a60-1a7c 1aa0-1aad a9e0-a9ef a9fa-a9fe aa60-aac2 aadb-aadf
    11700-1171a 1171d-1172b 1173a-1173b 1173f-11746"

def wordLetter : CodeRule :=
  (property .alphabetic ∪
    text "b8 2c2-2c5 2d2-2d7 2de-2df 2e5-2eb 2ed 2ef-2ff 55a-55c 55e 58a 5f3 70f a708-a716
      a720-a721 a789-a78a ab5b") \
    unions [property .ideographic, kana, unspaced, script .hiragana, wordExtending, hebrewLetter]

def word : List BreakClass :=
  [
    ⟨["cr"], text "d"⟩,
    ⟨["lf"], text "a"⟩,
    ⟨["newline", "nl"], text "b-c 85 2028-2029"⟩,
    ⟨["extend"], wordExtending⟩,
    ⟨["zwj"], zeroWidthJoiner⟩,
    ⟨["regionalindicator", "ri"], property .regionalIndicator⟩,
    ⟨["format", "fo"],
      category .format \ (text "200b-200d" ∪ extending ∪ prepended)⟩,
    ⟨["katakana", "ka"], kana⟩,
    ⟨["hebrewletter", "hl"], hebrewLetter⟩,
    ⟨["aletter", "le"], wordLetter⟩,
    ⟨["singlequote", "sq"], text "27"⟩,
    ⟨["doublequote", "dq"], text "22"⟩,
    ⟨["midnumlet", "mb"], text "2e 2018-2019 2024 fe52 ff07 ff0e"⟩,
    ⟨["midletter", "ml"], text "3a b7 387 55f 5f4 2027 fe13 fe55 ff1a"⟩,
    ⟨["midnum", "mn"],
      text "2c 3b 37e 589 60c-60d 66c 7f8 2044 fe50 fe54 ff0c ff1b"⟩,
    ⟨["numeric", "nu"], digits⟩,
    ⟨["extendnumlet", "ex"], category .connectorPunctuation ∪ text "202f"⟩,
    ⟨["wsegspace"], category .spaceSeparator \ text "a0 2007 202f"⟩]

/-! ## Sentences -/

def sentenceExtending : CodeRule := property .graphemeExtend ∪ spacing ∪ zeroWidthJoiner

/-- Of the letters with case those of Georgian count as caseless. -/
def sentenceLower : CodeRule :=
  property .lowercase \ (property .graphemeExtend ∪ text "10d0-10fa 10fd-10ff")

def sentenceUpper : CodeRule :=
  (property .uppercase ∪ category .titlecaseLetter) \ text "1c90-1cba 1cbd-1cbf"

def fullStop : CodeRule := text "2e 2024 fe52 ff0e"

def terminal : CodeRule := property .sentenceTerminal \ fullStop

def sentence : List BreakClass :=
  [
    ⟨["cr"], text "d"⟩,
    ⟨["lf"], text "a"⟩,
    ⟨["extend", "ex"], sentenceExtending⟩,
    ⟨["sep", "se"], text "85 2028-2029"⟩,
    ⟨["format", "fo"], category .format \ (sentenceExtending ∪ digits)⟩,
    ⟨["sp"], property .whiteSpace \ text "a d 85 2028-2029"⟩,
    ⟨["lower", "lo"], sentenceLower⟩,
    ⟨["upper", "up"], sentenceUpper⟩,
    ⟨["oletter", "le"],
      (property .alphabetic ∪ text "5f3") \
        unions [sentenceLower, sentenceUpper, sentenceExtending]⟩,
    ⟨["numeric", "nu"], digits ∪ text "66c"⟩,
    ⟨["aterm", "at"], fullStop⟩,
    ⟨["scontinue", "sc"],
      text "2c-2d 3a-3b 37e 55d 60c-60d 7f8 1802 1808 2013-2014 3001 fe10-fe11 fe13-fe14 fe31-fe32
        fe50-fe51 fe54-fe55 fe58 fe63 ff0c-ff0d ff1a-ff1b ff64"⟩,
    ⟨["sterm", "st"], terminal⟩,
    ⟨["close", "cl"],
      (categories [.openPunctuation, .closePunctuation, .initialPunctuation, .finalPunctuation] ∪
        text "22 27 275b-2760 2e00-2e01 2e06-2e08 2e0b 1f676-1f678") \
        unions [text "5f3", fullStop, terminal]⟩]

end BreakClass

end PayloadCheck
