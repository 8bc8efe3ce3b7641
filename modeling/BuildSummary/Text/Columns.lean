import BuildSummary.Text.Combining
import BuildSummary.Text.Ignorable
import BuildSummary.Text.Wide

/-!
# Columns of a terminal

How many columns a text fills. A terminal shows nothing for an escape sequence, which begins with
the escape character and ends by the rule of its kind: after `ESC [` at a letter or one of the
signs next to them in ASCII, after `ESC ]` at a bell or at `ESC \`, and else after one more
character. A sequence that does not end takes the rest of the text.

## Main definitions

* `Text.Mode`: whether a terminal shows the next character, as a machine on characters
* `Text.shown`: the characters that are shown
* `Text.columns`: how many columns they fill
-/

namespace BuildSummary.Text

/-- Characters that are drawn together with their neighbours although they extend none of them: the
vowels and finals of Hangul syllables, signs around or above the digits or letters after them, and
the caret that hangs between two letters. -/
def attachedRanges : Ranges :=
  [(0x605, 0x605), (0x70F, 0x70F), (0x890, 0x891), (0x8E2, 0x8E2), (0xD4E, 0xD4E),
    (0x1160, 0x11FF), (0xA8FA, 0xA8FA), (0xD7B0, 0xD7C6), (0xD7CB, 0xD7FB), (0x111C2, 0x111C3),
    (0x113D1, 0x113D1), (0x1193F, 0x1193F), (0x11941, 0x11941), (0x11A84, 0x11A89),
    (0x11D46, 0x11D46), (0x11F02, 0x11F02)]

/-- A character that fills no column of its own. -/
def isZeroWidth (c : Char) : Bool :=
  isCombining c || isIgnorable c || attachedRanges.contains c

/-- How many columns of a terminal a character fills on its own. A few characters are drawn wider
than their properties tell: a joiner that is shown unless it joins, a filler for a consonant, and
two signs that are spelled with several letters. -/
def charColumns (c : Char) : Nat :=
  let n := c.toNat
  if n < 0x20 then 0
  else if n < 0x7F then 1
  else if n < 0xA0 then 0
  else if n = 0x2D7F then 1
  else if n = 0x115F || n = 0x17A4 then 2
  else if n = 0x17D8 then 3
  else if isZeroWidth c then 0
  else if isWide c then 2
  else 1

/-! ## Escape sequences -/

/-- Where a terminal stands in a text. -/
inductive Mode where
  /-- Outside escape sequences. -/
  | plain
  /-- After the escape character. -/
  | escape
  /-- In a sequence that began with `ESC [`. -/
  | control
  /-- In a sequence that began with `ESC ]`, after the character `last`. -/
  | command (last : Char)
  deriving DecidableEq

namespace Mode

/-- Where the terminal stands after one more character. -/
def next : Mode → Char → Mode
  | plain, c => if c = '\x1b' then escape else plain
  | escape, c => if c = '[' then control else if c = ']' then command c else plain
  | control, c => if 0x40 ≤ c.toNat && c.toNat ≤ 0x7E then plain else control
  | command last, c =>
    if c = '\x07' || (c = '\\' && last = '\x1b') then plain else command c

/-- Whether the terminal shows the character that comes next. -/
def shows (mode : Mode) (c : Char) : Bool :=
  mode = plain && c ≠ '\x1b'

/-- How many columns the character that comes next fills. -/
def columns (mode : Mode) (c : Char) : Nat :=
  if mode.shows c then charColumns c else 0

end Mode

/-- Where the terminal stands after the text. -/
def modeAfter (mode : Mode) (text : Text) : Mode :=
  text.foldl Mode.next mode

/-- The characters that a terminal shows, from `mode` on. -/
def shownFrom : Mode → Text → Text
  | _, [] => []
  | mode, c :: rest =>
    if mode.shows c then c :: shownFrom (mode.next c) rest else shownFrom (mode.next c) rest

/-- The characters of the text that a terminal shows. -/
def shown (text : Text) : Text :=
  shownFrom .plain text

/-- How many columns the text fills, from `mode` on. -/
def columnsFrom : Mode → Text → Nat
  | _, [] => 0
  | mode, c :: rest => mode.columns c + columnsFrom (mode.next c) rest

/-- How many columns of a terminal the text fills. -/
def columns (text : Text) : Nat :=
  columnsFrom .plain text

/-! ## Columns add up over parts -/

theorem columnsFrom_append (mode : Mode) (a b : Text) :
    columnsFrom mode (a ++ b) = columnsFrom mode a + columnsFrom (modeAfter mode a) b := by
  induction a generalizing mode with
  | nil => simp [columnsFrom, modeAfter]
  | cons c rest ih => simp [columnsFrom, modeAfter, ih, Nat.add_assoc]

end BuildSummary.Text
