import BuildSummary.Text.LineBreak.Table

/-!
# Line break opportunities

Between which characters a line may be broken: the rules of the Unicode line breaking algorithm. A
character and the marks after it are one cluster, and every rule speaks of a gap between two
clusters. Some rules look through spaces: they hold between a cluster and the last one before it
that is no space. The others hold only between neighbours; where spaces stand between and no rule
of the first kind applies, a line may be broken.

Dotted circles that stand in a row are taken in pairs, from the left. Behind a pair a line may be
broken, unless a joiner ends it, and the text after it is read as if it began there; only a letter,
a narrow opening bracket, an opening quotation mark or a closing sign of a syllable stays with the
pair.

Scripts that are written without spaces would need a dictionary to find their words. Here a run of
such letters is broken where one script follows another and nowhere else.

## Main definitions

* `LineBreak.Cluster`, `Cluster.ofText`: a character with its marks
* `LineBreak.Gap`: a place between two clusters
* `BreakClass.ties`: the rules for two neighbours
* `Gap.isAfterCircles`: the gap behind a pair of dotted circles
* `Gap.allows`: whether a line may be broken at a gap
* `LineBreak.opportunities`: for each character of a text, whether a line may be broken after it

## Main results

* `LineBreak.length_opportunities`: there is one answer for each character
-/

namespace BuildSummary.LineBreak

/-! ## Clusters -/

/-- A character and the marks that extend it. -/
structure Cluster where
  /-- The class of the character; a mark with nothing to extend counts as a letter. -/
  cls : BreakClass
  /-- How many marks follow. -/
  marks : Nat
  /-- Whether the last character is a joiner. -/
  joins : Bool

namespace Cluster

/-- A character of the class, as yet without marks. -/
def ofClass (cls : BreakClass) : Cluster :=
  ⟨if cls.isMark then .letter else cls, 0, cls = .zeroWidthJoiner⟩

/-- One more mark of the class. -/
def extend (cluster : Cluster) (cls : BreakClass) : Cluster :=
  { cluster with marks := cluster.marks + 1, joins := cls = .zeroWidthJoiner }

@[simp]
theorem marks_ofClass (cls : BreakClass) : (ofClass cls).marks = 0 := rfl

@[simp]
theorem marks_extend (cluster : Cluster) (cls : BreakClass) :
    (cluster.extend cls).marks = cluster.marks + 1 := rfl

/-- Whether marks extend the character. -/
def takesMarks (cluster : Cluster) : Bool :=
  !(cluster.cls.endsLine || cluster.cls = .space || cluster.cls = .zeroWidth)

/-- The clusters of characters of the classes, the first of them begun already. -/
def group (cluster : Cluster) : List BreakClass → List Cluster
  | [] => [cluster]
  | cls :: rest =>
    if cls.isMark && cluster.takesMarks then group (cluster.extend cls) rest
    else cluster :: group (ofClass cls) rest

/-- The clusters of a text. -/
def ofText (text : Text) : List Cluster :=
  match text.map BreakClass.ofChar with
  | [] => []
  | cls :: rest => group (ofClass cls) rest

end Cluster

/-! ## Neighbours -/

/-- Whether a cluster of class `a` keeps one of class `b` that follows it on its line. -/
def BreakClass.ties (a b : BreakClass) : Bool :=
  a.isQuote || b.isQuote ||
    a ≠ placeholder && b ≠ placeholder && (a = breakBefore ||
      match b with
      | breakAfter | hyphen | nonStarter | leader => true
      | letter | thai | lao | burmese | khmer | unspaced =>
        a.isLetter || a = digit || a = separator || a = parenthesis || a = numberSign ||
          a = percent
      | dottedCircle =>
        a.isLetter || a = digit || a = separator || a = parenthesis || a = numberSign ||
          a = percent || a = aksaraPrebase
      | hebrewLetter =>
        a.isLetter || a = digit || a = separator || a = parenthesis || a = numberSign ||
          a = percent || a = slash
      | digit =>
        a.isLetter || a = digit || a = separator || a = parenthesis || a = numberSign ||
          a = percent || a = slash || a = hyphen
      | percent =>
        a.isLetter || a = digit || a.isClosing || a.isPictograph || a.isHangul
      | numberSign => a.isLetter || a = digit || a.isClosing
      | opening => a.isLetter || a = digit || a = numberSign || a = percent
      | wideOpening => a = numberSign || a = percent
      | ideograph | reservedPictograph | emojiBase => a = numberSign
      | emojiModifier => a = numberSign || a = emojiBase || a = reservedPictograph
      | leadJamo | openSyllable | closedSyllable => a = numberSign || a = leadJamo
      | vowelJamo => a = numberSign || a = leadJamo || a = vowelJamo || a = openSyllable
      | trailJamo => a = numberSign || (a.isHangul && a ≠ leadJamo)
      | aksara | aksaraStart => a = aksaraPrebase
      | virama | finalVirama => a.isAksara
      | _ => false)

/-! ## Gaps -/

/-- A place between two clusters. -/
structure Gap where
  /-- The clusters before it, the nearest first. -/
  before : List Cluster
  /-- The clusters after it, the nearest first. -/
  after : List Cluster

namespace Gap

/-- The clusters before the gap and before the spaces at its left, the nearest first. -/
def beforeSpaces (gap : Gap) : List Cluster :=
  gap.before.dropWhile (·.cls = .space)

/-- Whether a joiner holds the neighbours of the gap together. -/
def isJoined (gap : Gap) : Bool :=
  gap.before.head?.any (·.joins)

/-- Whether the gap lies behind a pair of dotted circles that lets go of what follows: the circles
in a row before it are even in number. -/
def isAfterCircles (gap : Gap) : Bool :=
  match gap.before, gap.after with
  | a :: _, b :: _ =>
    a.cls = .dottedCircle && !b.cls.followsCircles &&
      (gap.before.takeWhile (·.cls = .dottedCircle)).length % 2 = 0
  | _, _ => false

/-- What line ends, invisible break opportunities and joiners say of a gap, if anything. A gap at
either end of a text is none to break at. -/
def forced (gap : Gap) : Option Bool :=
  match gap.before, gap.after with
  | a :: _, b :: _ =>
    if a.cls = .carriageReturn && b.cls = .lineFeed then some false
    else if a.cls.endsLine then some true
    else if b.cls.endsLine || b.cls = .space || b.cls = .zeroWidth then some false
    else if gap.beforeSpaces.head?.any (·.cls = .zeroWidth) then some true
    else if gap.isJoined then some false
    else none
  | _, _ => some false

/-- Whether a neighbour of the gap is glued to what stands on its other side. -/
def isGlued (gap : Gap) : Bool :=
  match gap.before, gap.after with
  | a :: _, b :: _ =>
    a.cls = .wordJoiner || b.cls = .wordJoiner || a.cls = .glue ||
      (b.cls = .glue && a.cls ≠ .space && a.cls ≠ .breakAfter && a.cls ≠ .hyphen)
  | _, _ => false

/-- Whether a quotation mark that follows the clusters opens; they stand nearest first. -/
def opensAfter : List Cluster → Bool
  | [] => true
  | c :: _ =>
    c.cls.endsLine || c.cls.isOpening || c.cls.isQuote || c.cls = .glue || c.cls = .space ||
      c.cls = .zeroWidth

/-- Whether a quotation mark that precedes the clusters closes. -/
def closesBefore : List Cluster → Bool
  | [] => true
  | c :: _ =>
    c.cls.endsLine || c.cls.isClosing || c.cls.isQuote || c.cls = .space || c.cls = .glue ||
      c.cls = .wordJoiner || c.cls = .exclamation || c.cls = .separator || c.cls = .slash ||
      c.cls = .zeroWidth

/-- Whether the cluster after the gap stays with what it closes, with spaces between or not. -/
def beforeCloses (gap : Gap) : Bool :=
  match gap.after with
  | [] => false
  | b :: rest =>
    b.cls.isClosing || b.cls = .exclamation || b.cls = .separator || b.cls = .slash ||
      (b.cls = .finalQuote && closesBefore rest)

/-- Whether the cluster before the gap and before its spaces stays with what it opens. -/
def afterOpens (gap : Gap) : Bool :=
  match gap.beforeSpaces with
  | [] => false
  | a :: rest => a.cls.isOpening || (a.cls = .initialQuote && opensAfter rest)

/-- Whether the clusters at both sides of the gap and its spaces stay together. -/
def isBridged (gap : Gap) : Bool :=
  match gap.beforeSpaces, gap.after with
  | a :: _, b :: _ =>
    (a.cls.isClosing && b.cls = .nonStarter) || (a.cls = .dash && b.cls = .dash)
  | _, _ => false

/-- Whether a hyphen or another break opportunity after a Hebrew letter stays with the next
cluster. -/
def isHebrewCompound (gap : Gap) : Bool :=
  match gap.before, gap.after with
  | a :: h :: _, b :: _ =>
    (a.cls = .hyphen || a.cls = .breakAfter) && h.cls = .hebrewLetter && b.cls ≠ .placeholder
  | _, _ => false

/-- Whether a stacking sign before the gap joins the letter before it to the one after the gap. -/
def isStacked (gap : Gap) : Bool :=
  match gap.before, gap.after with
  | v :: a :: _, b :: _ =>
    v.cls = .virama && a.cls.isAksara && (b.cls = .aksara || b.cls = .dottedCircle)
  | _, _ => false

/-- Whether a closing sign joins the letter before it, which follows the gap, to the one before
the gap. -/
def isFinal (gap : Gap) : Bool :=
  match gap.before, gap.after with
  | a :: _, b :: f :: _ => a.cls.isAksara && b.cls.isAksara && f.cls = .finalVirama
  | _, _ => false

/-- Whether the gap lies inside a flag: the halves before it are odd in number. -/
def isInFlag (gap : Gap) : Bool :=
  gap.after.head?.any (·.cls = .regionalIndicator) &&
    (gap.before.takeWhile (·.cls = .regionalIndicator)).length % 2 = 1

/-- Whether one script without spaces follows another at the gap. -/
def changesScript (gap : Gap) : Bool :=
  match gap.before, gap.after with
  | a :: _, b :: _ => a.cls.isUnspaced && b.cls.isUnspaced && a.marks = 0 && a.cls ≠ b.cls
  | _, _ => false

/-- Whether the neighbours of the gap stay together. -/
def isTied (gap : Gap) : Bool :=
  match gap.before, gap.after with
  | a :: _, b :: _ =>
    (a.cls.ties b.cls && !gap.changesScript) || gap.isHebrewCompound || gap.isStacked ||
      gap.isFinal || gap.isInFlag
  | _, _ => false

/-- Whether a line may be broken at the gap. -/
def allows (gap : Gap) : Bool :=
  if gap.isAfterCircles then !gap.isJoined
  else gap.forced.getD
    (if gap.isGlued || gap.beforeCloses || gap.afterOpens || gap.isBridged then false
    else gap.before.head?.any (·.cls = .space) || !gap.isTied)

end Gap

/-! ## Opportunities -/

/-- For each character of the clusters, whether a line may be broken after it; `before` are the
clusters before them, the nearest first, as far as they matter: what stands before the end of a
pair of dotted circles is forgotten. -/
def opportunitiesFrom (before : List Cluster) : List Cluster → List Bool
  | [] => []
  | cluster :: rest =>
    let gap : Gap := ⟨cluster :: before, rest⟩
    List.replicate cluster.marks false ++
      (rest.isEmpty || gap.allows) ::
        opportunitiesFrom (if gap.isAfterCircles then [] else gap.before) rest

/-- For each character of the text, whether a line may be broken after it. The end of the text
counts as an opportunity. -/
def opportunities (text : Text) : List Bool :=
  opportunitiesFrom [] (Cluster.ofText text)

theorem length_opportunitiesFrom_group (before : List Cluster) (cluster : Cluster)
    (classes : List BreakClass) :
    (opportunitiesFrom before (cluster.group classes)).length =
      cluster.marks + 1 + classes.length := by
  induction classes generalizing before cluster with
  | nil => simp [Cluster.group, opportunitiesFrom]
  | cons cls rest ih =>
    rw [Cluster.group]
    split
    · rw [ih, Cluster.marks_extend, List.length_cons]
      omega
    · rw [opportunitiesFrom, List.length_append, List.length_replicate, List.length_cons, ih,
        Cluster.marks_ofClass, List.length_cons]
      omega

/-- There is one answer for each character. -/
theorem length_opportunities (text : Text) : (opportunities text).length = text.length := by
  unfold opportunities Cluster.ofText
  cases text with
  | nil => rfl
  | cons c rest =>
    rw [List.map_cons, length_opportunitiesFrom_group, Cluster.marks_ofClass, List.length_map,
      List.length_cons]
    omega

end BuildSummary.LineBreak
