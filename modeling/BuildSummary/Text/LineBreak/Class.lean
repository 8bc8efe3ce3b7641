/-!
# Line breaking classes

The classes of characters that the Unicode line breaking algorithm tells apart. Quotation marks are
split by the side on which they stand, opening punctuation by its width, and the dotted circle and
the code points kept for pictographs have classes of their own, because single rules name them.

## Main definitions

* `LineBreak.BreakClass`: the classes
* `BreakClass.isQuote`, `BreakClass.isLetter`, `BreakClass.isAksara` and others: classes that rules
  name together
-/

namespace BuildSummary.LineBreak

/-- The line breaking classes. -/
inductive BreakClass where
  /-- Ends its line. -/
  | hardBreak
  /-- Ends its line, a line feed after it included. -/
  | carriageReturn
  /-- Ends its line. -/
  | lineFeed
  /-- Space. -/
  | space
  /-- Invisible break opportunity. -/
  | zeroWidth
  /-- Forbids breaks on both sides. -/
  | wordJoiner
  /-- Extends the character before it and joins it to the next one. -/
  | zeroWidthJoiner
  /-- Forbids breaks on both sides, except after spaces and hyphens. -/
  | glue
  /-- Extends the character before it. -/
  | mark
  /-- Opening punctuation. -/
  | opening
  /-- Opening punctuation of East Asian width. -/
  | wideOpening
  /-- Closing punctuation. -/
  | closing
  /-- Closing parenthesis or bracket. -/
  | parenthesis
  /-- Exclamation and question marks. -/
  | exclamation
  /-- Separator inside numbers. -/
  | separator
  /-- Slash. -/
  | slash
  /-- Quotation mark for either side. -/
  | quotation
  /-- Quotation mark that opens, in most languages. -/
  | initialQuote
  /-- Quotation mark that closes, in most languages. -/
  | finalQuote
  /-- Allows a break after it. -/
  | breakAfter
  /-- Allows a break before it. -/
  | breakBefore
  /-- Dash with breaks on both sides. -/
  | dash
  /-- Hyphen. -/
  | hyphen
  /-- Must not begin a line. -/
  | nonStarter
  /-- Leaders such as an ellipsis. -/
  | leader
  /-- Stands for an object, with breaks on both sides. -/
  | placeholder
  /-- Sign before a number. -/
  | numberSign
  /-- Sign after a number. -/
  | percent
  /-- Digit. -/
  | digit
  /-- Letter or ordinary symbol. -/
  | letter
  /-- Hebrew letter. -/
  | hebrewLetter
  /-- Letter or sign of Thai, which is written without spaces. -/
  | thai
  /-- Letter or sign of Lao, which is written without spaces. -/
  | lao
  /-- Letter or sign of Burmese, which is written without spaces. -/
  | burmese
  /-- Letter or sign of Khmer, which is written without spaces. -/
  | khmer
  /-- Letter or sign of another script that is written without spaces. -/
  | unspaced
  /-- The dotted circle, a letter that marks are shown on. -/
  | dottedCircle
  /-- Ideograph or another character that stands on its own. -/
  | ideograph
  /-- Code point kept for a pictograph. -/
  | reservedPictograph
  /-- Pictograph that takes a modifier. -/
  | emojiBase
  /-- Modifier of the pictograph before it. -/
  | emojiModifier
  /-- Half of a flag. -/
  | regionalIndicator
  /-- Consonant that begins a Hangul syllable. -/
  | leadJamo
  /-- Vowel of a Hangul syllable. -/
  | vowelJamo
  /-- Consonant that ends a Hangul syllable. -/
  | trailJamo
  /-- Hangul syllable that ends in a vowel. -/
  | openSyllable
  /-- Hangul syllable that ends in a consonant. -/
  | closedSyllable
  /-- Consonant of a Brahmic script that is broken by syllables. -/
  | aksara
  /-- Sign written before the consonant that it belongs to. -/
  | aksaraPrebase
  /-- Letter of such a script that begins a syllable. -/
  | aksaraStart
  /-- Sign that stacks the next consonant. -/
  | virama
  /-- Sign that ends a syllable. -/
  | finalVirama
  deriving DecidableEq

namespace BreakClass

/-- A quotation mark. -/
def isQuote (cls : BreakClass) : Bool :=
  cls = quotation || cls = initialQuote || cls = finalQuote

/-- Opening punctuation. -/
def isOpening (cls : BreakClass) : Bool :=
  cls = opening || cls = wideOpening

/-- A closing bracket or other closing punctuation. -/
def isClosing (cls : BreakClass) : Bool :=
  cls = closing || cls = parenthesis

/-- A letter or sign of a script that is written without spaces. -/
def isUnspaced (cls : BreakClass) : Bool :=
  cls = thai || cls = lao || cls = burmese || cls = khmer || cls = unspaced

/-- A letter. -/
def isLetter (cls : BreakClass) : Bool :=
  cls = letter || cls = hebrewLetter || cls = dottedCircle || cls.isUnspaced

/-- A letter of a Brahmic script that can begin a syllable. -/
def isAksara (cls : BreakClass) : Bool :=
  cls = aksara || cls = aksaraStart || cls = dottedCircle

/-- Stays with a pair of dotted circles before it. -/
def followsCircles (cls : BreakClass) : Bool :=
  cls = opening || cls = initialQuote || cls = finalVirama ||
    (cls.isLetter && cls ≠ dottedCircle)

/-- A part of a Hangul syllable or a whole one. -/
def isHangul (cls : BreakClass) : Bool :=
  cls = leadJamo || cls = vowelJamo || cls = trailJamo || cls = openSyllable ||
    cls = closedSyllable

/-- A character that stands on its own, apart from the Hangul syllables. -/
def isPictograph (cls : BreakClass) : Bool :=
  cls = ideograph || cls = reservedPictograph || cls = emojiBase || cls = emojiModifier

/-- A mark or a joiner. -/
def isMark (cls : BreakClass) : Bool :=
  cls = mark || cls = zeroWidthJoiner

/-- Ends its line. -/
def endsLine (cls : BreakClass) : Bool :=
  cls = hardBreak || cls = carriageReturn || cls = lineFeed

end BreakClass

end BuildSummary.LineBreak
