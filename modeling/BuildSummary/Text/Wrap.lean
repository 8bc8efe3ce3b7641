import BuildSummary.Text.Alphanumeric
import BuildSummary.Text.Columns
import BuildSummary.Text.LineBreak
import BuildSummary.Text.Utf8

/-!
# Wrapping

A paragraph is laid out in lines of a given room. It is cut into fragments, at its line break
opportunities, after hyphens inside words, and inside what is wider than a line. Of all ways to
put the fragments on lines the cheapest is taken, where every line costs something, a line that is
too wide costs much for each column, and a gap at the end of a line costs its square.

## Main definitions

* `Wrap.Fragment`, `Wrap.fragments`: the pieces that are not broken any further
* `Wrap.lineCost`: what a line costs
* `Wrap.cheapest`: the cheapest way to put fragments on lines
* `Wrap.wrap`: the lines of a text
-/

namespace BuildSummary.Wrap

/-! ## Fragments -/

/-- A piece of a paragraph that stays on one line, and the spaces after it, which show only if
another fragment follows on the same line. -/
structure Fragment where
  /-- What is shown in any case. -/
  text : Text
  /-- How many spaces follow. -/
  spaces : Nat

namespace Fragment

/-- A fragment of its text and its spaces together. -/
def ofText (text : Text) : Fragment :=
  let body := (text.reverse.dropWhile (· = ' ')).reverse
  ⟨body, text.length - body.length⟩

/-- The fragment with its spaces. -/
def full (f : Fragment) : Text :=
  f.text ++ List.replicate f.spaces ' '

/-- How many columns the fragment fills without its spaces. -/
def columns (f : Fragment) : Nat :=
  Text.columns f.text

/-- Fragments for the parts of one; its spaces stay with the last. -/
def ofParts (spaces : Nat) : List Text → List Fragment
  | [] => []
  | [part] => [⟨part, spaces⟩]
  | part :: rest => ⟨part, 0⟩ :: ofParts spaces rest

end Fragment

/-- Cuts the text after each shown character whose mark is set. Escape sequences stand before the
character that follows them. -/
def cutAfter : List Bool → Text.Mode → Text → Text → List Text
  | _, _, part, [] => [part.reverse]
  | marks, mode, part, c :: rest =>
    if mode.shows c then
      match marks with
      | true :: marks => (c :: part).reverse :: cutAfter marks (mode.next c) [] rest
      | marks => cutAfter marks.tail (mode.next c) (c :: part) rest
    else cutAfter marks (mode.next c) (c :: part) rest

/-- The marks with the last one that is set taken away. -/
def clearLast (marks : List Bool) : List Bool :=
  match marks.reverse.span (· = false) with
  | (unset, _ :: rest) => rest.reverse ++ false :: unset
  | (_, []) => marks

/-- After which shown characters a paragraph is cut into words: at the opportunities that do not
follow a hyphen, the last of them left out. -/
def wordEnds (shown : Text) : List Bool :=
  clearLast <| (shown.zip (LineBreak.opportunities shown)).map fun (c, mark) =>
    mark && c ≠ '-' && c ≠ '\xad'

/-- The words of a paragraph, each with the spaces after it. -/
def wordsOf (paragraph : Text) : List Text :=
  cutAfter (wordEnds (Text.shown paragraph)) .plain [] paragraph

/-- Cuts the text after each hyphen between two letters or numbers; `inWord` says whether the
character before the text is one. -/
def cutHyphens (inWord : Bool) (part : Text) : Text → List Text
  | [] => [part.reverse]
  | c :: rest =>
    if c = '-' && inWord && rest.head?.any Text.isAlphanumeric then
      (c :: part).reverse :: cutHyphens false [] rest
    else cutHyphens (Text.isAlphanumeric c) (c :: part) rest

/-- Cuts the text into parts of at most `room` columns; a character that is wider stands alone.
`used` are the columns of the part so far. -/
def cutColumns (room : Nat) : Text.Mode → Nat → Text → Text → List Text
  | _, _, part, [] => [part.reverse]
  | mode, used, part, c :: rest =>
    if mode.shows c && 0 < used && room < used + Text.charColumns c then
      part.reverse :: cutColumns room (mode.next c) (Text.charColumns c) [c] rest
    else cutColumns room (mode.next c) (used + mode.columns c) (c :: part) rest

/-- The fragment cut into fragments of at most `room` columns, if it is wider. -/
def Fragment.fit (room : Nat) (f : Fragment) : List Fragment :=
  if room < f.columns then ofParts f.spaces (cutColumns room .plain 0 [] f.text) else [f]

/-- The fragment cut after its hyphens. -/
def Fragment.cutAtHyphens (f : Fragment) : List Fragment :=
  ofParts f.spaces (cutHyphens false [] f.text)

/-- The fragments of a paragraph. -/
def fragments (room : Nat) (paragraph : Text) : List Fragment :=
  (wordsOf paragraph).map Fragment.ofText |>.flatMap Fragment.cutAtHyphens
    |>.flatMap (Fragment.fit room)

/-! ## Lines -/

/-- The cost of every line. -/
def lineBase : Nat := 1000

/-- The cost of each column that a line is too wide. -/
def overflowCost : Nat := 2500

/-- The cost of a last line that is a short fragment alone. -/
def shortLastCost : Nat := 25

/-- What a line of `used` columns costs in `room` columns. A gap costs its square, except at the
end of the last line; that one costs more if it is a fragment alone and fills less than a quarter
of the room. -/
def lineCost (room used : Nat) (isLast isSingle : Bool) : Nat :=
  let room := Nat.max room 1
  lineBase +
    if room < used then (used - room) * overflowCost
    else if !isLast then (room - used) * (room - used)
    else if isSingle && 4 * used < room then shortLastCost
    else 0

/-- A way to put some fragments on lines, with a last line that may still grow. -/
structure Layout where
  /-- What the finished lines cost. -/
  cost : Nat
  /-- The finished lines, last first. -/
  finished : List (List Fragment)
  /-- The fragments on the last line, last first. -/
  line : List Fragment
  /-- The columns of the last line, without the spaces at its end. -/
  used : Nat
  /-- How many spaces stand at the end of the last line. -/
  spaces : Nat

namespace Layout

/-- No fragments at all. -/
def empty : Layout := ⟨0, [], [], 0, 0⟩

/-- One more fragment on the last line; it fills `columns` columns. -/
def push (f : Fragment) (columns : Nat) (layout : Layout) : Layout :=
  { layout with
    line := f :: layout.line
    used := layout.used + layout.spaces + columns
    spaces := f.spaces }

/-- Whether the last line is a fragment alone. -/
def isSingle (layout : Layout) : Bool :=
  match layout.line with
  | [_] => true
  | _ => false

/-- The cost with the last line finished. -/
def total (room : Nat) (isLast : Bool) (layout : Layout) : Nat :=
  layout.cost + lineCost room layout.used isLast layout.isSingle

/-- The last line finished. -/
def finish (room : Nat) (isLast : Bool) (layout : Layout) : Layout :=
  { cost := layout.total room isLast
    finished := layout.line.reverse :: layout.finished
    line := []
    used := 0
    spaces := 0 }

/-- The layout of the least total cost, the first of them if there are several. -/
def least (room : Nat) (isLast : Bool) (first : Layout) (others : List Layout) : Layout :=
  others.foldl (fun best layout =>
    if layout.total room isLast < best.total room isLast then layout else best) first

/-- The layouts that may yet be cheapest, in order. When a fragment is added, the cost of all
layouts whose last line is too wide grows by the same amount, so that only the cheapest of them is
kept; they come first, because their last lines begin earliest. -/
def prune (room : Nat) (layouts : List Layout) : List Layout :=
  match layouts.span fun layout => Nat.max room 1 < layout.used with
  | (first :: others, fitting) => least room false first others :: fitting
  | ([], fitting) => fitting

end Layout

/-- Puts the fragments on lines, one by one. The layouts are the cheapest ones for the fragments
before, one for each fragment at which the last line may have begun, in order, as far as they may
yet be cheapest; `newest` is the one whose last line begins here. -/
def cheapestFrom (room : Nat) (layouts : List Layout) (newest : Layout) :
    List Fragment → List (List Fragment)
  | [] => newest.finished.reverse
  | f :: rest =>
    let isLast := rest.isEmpty
    let push := Layout.push f f.columns
    let grown := (layouts ++ [newest]).map push
    let best := Layout.least room isLast (grown.headD (push newest)) grown.tail
    cheapestFrom room (Layout.prune room grown) (best.finish room isLast) rest

/-- The cheapest way to put the fragments on lines. Of equally cheap ones, the one whose last line
begins earliest is taken, and so on for the lines before it. -/
def cheapest (room : Nat) (fragments : List Fragment) : List (List Fragment) :=
  cheapestFrom room [] .empty fragments

/-- The text of a line: its fragments, without the spaces after the last one. -/
def lineText : List Fragment → Text
  | [] => []
  | [f] => f.text
  | f :: rest => f.full ++ lineText rest

/-- The lines of a paragraph. One that is short enough is a line as it stands, without the spaces
at its end. -/
def wrapParagraph (room : Nat) (paragraph : Text) : List Text :=
  if Utf8.byteLength paragraph < room then [(Fragment.ofText paragraph).text]
  else
    match cheapest room (fragments room paragraph) with
    | [] => [[]]
    | lines => lines.map lineText

/-- The lines of a text in `room` columns; each of its paragraphs ends at a newline. -/
def wrap (room : Nat) (text : Text) : List Text :=
  (text.splitOn '\n').flatMap (wrapParagraph room)

end BuildSummary.Wrap
