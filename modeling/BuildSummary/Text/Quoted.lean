import BuildSummary.Text.Combining
import BuildSummary.Text.Ignorable
import BuildSummary.Text.Unprintable

/-!
# Quoted texts

A text is quoted on one line so that each of its characters can be told: between double quotes,
with a backslash before what would end it or change its look, and with the code point of every
character that shows nothing or joins the one before it.
-/

namespace BuildSummary.Text

/-- A character inside a quoted text. -/
def quoteChar (c : Char) : Text :=
  if c = '\x00' then ['\\', '0']
  else if c = '\t' then ['\\', 't']
  else if c = '\n' then ['\\', 'n']
  else if c = '\r' then ['\\', 'r']
  else if c = '"' || c = '\\' then ['\\', c]
  else if isCombining c || isIgnorable c || isUnprintable c then
    ['\\', 'u', '\x7b'] ++ Nat.toDigits 16 c.toNat ++ ['\x7d']
  else [c]

/-- The text between double quotes. -/
def quoted (text : Text) : Text :=
  ['"'] ++ text.flatMap quoteChar ++ ['"']

end BuildSummary.Text
