import LiveJson.Text.LineClass

/-!
# Where a line may end

The rules of the standard's line breaking algorithm: whether a line may end between two characters
depends on their classes and on a little of what comes before them.

## What is here

* `LineClass.takesMarks`, `LineClass.alone` — marks belong to the character that they are drawn
  onto, and are letters where there is none.
* `bonds` — the pairs of classes that stay together where nothing lies between them.
* `Before` — what the characters before a place say about it; `Before.next` is one more character,
  and `Before.allows` the verdict on a character that comes next.
-/

set_option autoImplicit false

namespace LiveJson.Text

/-! ## Classes -/

/-- Whether a line ends behind a character of the class, whatever follows. -/
def LineClass.endsLine (k : LineClass) : Bool :=
  [.hardBreak, .carriageReturn, .lineFeed].contains k

/-- Whether a mark belongs to a character of the class that stands before it. -/
def LineClass.takesMarks (k : LineClass) : Bool :=
  !k.endsLine && k != .zeroWidthSpace

/-- Whether the class is one of marks. -/
def LineClass.isMark (k : LineClass) : Bool :=
  [.combining, .zeroWidthJoiner].contains k

/-- The class that counts for a character on its own: a mark that belongs to nothing is a letter. -/
def LineClass.alone (k : LineClass) : LineClass :=
  if k.isMark then .alphabetic else k

/-- The classes that never start a line, not even behind spaces. -/
def staysBehind : List LineClass :=
  [.hardBreak, .carriageReturn, .lineFeed, .space, .zeroWidthSpace, .wordJoiner, .closing,
   .closingBracket, .exclamation, .separator, .slash]

/-- Letters. -/
def letters : List LineClass := [.alphabetic, .hebrewLetter]

/-- Ideographs and pictures. -/
def ideographs : List LineClass := [.ideographic, .emojiBase, .emojiModifier]

/-- The parts of Korean syllables, and the syllables. -/
def hangul : List LineClass :=
  [.leadingJamo, .vowelJamo, .trailingJamo, .openSyllable, .closedSyllable]

/-- The signs before and behind numbers. -/
def numberSigns : List LineClass := [.beforeNumber, .afterNumber]

/-- Pairs of classes that stay together even if spaces lie between them.  What an opening character
opens stays with it, which `Before.allows` says by itself. -/
def distantBonds : List (List LineClass × List LineClass) :=
  [([.quotation], [.opening, .openingWide]),
   ([.closing, .closingBracket], [.nonstarter]),
   ([.breakBoth], [.breakBoth])]

/-- Pairs of classes that stay together where nothing lies between them. -/
def bonds : List (List LineClass × List LineClass) :=
  [([.slash], [.hebrewLetter]),
   (letters, .numeric :: .opening :: (letters ++ numberSigns)),
   ([.numeric], .numeric :: .opening :: (letters ++ numberSigns)),
   ([.beforeNumber], .numeric :: .opening :: .openingWide :: (letters ++ ideographs ++ hangul)),
   ([.afterNumber], .numeric :: .opening :: .openingWide :: letters),
   (ideographs, [.afterNumber]),
   ([.closing], numberSigns),
   ([.closingBracket], .numeric :: (letters ++ numberSigns)),
   ([.hyphen], [.numeric]),
   ([.slash], [.numeric]),
   ([.separator], .numeric :: letters),
   ([.leadingJamo], [.leadingJamo, .vowelJamo, .openSyllable, .closedSyllable]),
   ([.vowelJamo, .openSyllable], [.vowelJamo, .trailingJamo]),
   ([.trailingJamo, .closedSyllable], [.trailingJamo]),
   (hangul, [.afterNumber]),
   ([.emojiBase], [.emojiModifier])]

/-- Whether two classes are a pair of a table. -/
def isPair (table : List (List LineClass × List LineClass)) (first second : LineClass) : Bool :=
  table.any fun row => row.1.contains first && row.2.contains second

/-! ## Places -/

/-- What the characters before a place in a text say about the place. -/
structure Before where
  /-- The class of the last character that is neither a space nor a mark of another; none at the
  start of a text, and where only spaces have come since a line ended. -/
  last : Option LineClass
  /-- Whether spaces have come since. -/
  spaces : Bool
  /-- Whether a joiner comes right before the place. -/
  joined : Bool
  /-- Whether the last character ends a word part and stands behind a Hebrew letter. -/
  hebrewHyphen : Bool
  /-- Whether the last character is the first half of a flag. -/
  halfFlag : Bool
deriving DecidableEq, Repr

/-- The start of a text. -/
def Before.start : Before := ⟨none, false, false, false, false⟩

/-- Whether a character that comes next is a mark of the character before it. -/
def Before.takes (b : Before) (k : LineClass) : Bool :=
  k.isMark && !b.spaces && b.last.any LineClass.takesMarks

/-- Whether the last character is right before the place and has the class. -/
def Before.touches (b : Before) (k : LineClass) : Bool :=
  !b.spaces && b.last == some k

/-- One more character. -/
def Before.next (b : Before) (k : LineClass) : Before :=
  if b.takes k then { b with joined := k == .zeroWidthJoiner }
  else if k == .space then
    ⟨if b.last.any LineClass.endsLine then none else b.last, true, false, false, false⟩
  else
    { last := some k.alone
      spaces := false
      joined := k == .zeroWidthJoiner
      hebrewHyphen := [.hyphen, .breakAfter].contains k && b.touches .hebrewLetter
      halfFlag := k == .regionalIndicator && !(b.touches .regionalIndicator && b.halfFlag) }

/-- Whether a line may end between a character of class `p` and one of class `k` that follows it at
once, given what comes before the second. -/
def mayPart (b : Before) (p k : LineClass) : Bool :=
  if [.wordJoiner, .glue].contains p then false
  else if k == .glue && !([.breakAfter, .hyphen].contains p) then false
  else if p == .quotation || k == .quotation then false
  else if p == .contingent || k == .contingent then true
  else if [.breakAfter, .hyphen, .nonstarter, .inseparable].contains k || p == .breakBefore then
    false
  else if b.hebrewHyphen then false
  else if p == .regionalIndicator && k == .regionalIndicator then !b.halfFlag
  else !isPair bonds p k

/-- **Whether a line may end before a character of the class.** -/
def Before.allows (b : Before) (k : LineClass) : Bool :=
  if b.takes k then false
  else
    let k := k.alone
    match b.last with
    | none => b.spaces && !staysBehind.contains k
    | some p =>
      if p.endsLine then !(p == .carriageReturn && k == .lineFeed)
      else if [LineClass.hardBreak, .carriageReturn, .lineFeed, .space, .zeroWidthSpace].contains k
        then false
      else if p == .zeroWidthSpace then true
      else if b.joined || staysBehind.contains k then false
      else if [LineClass.opening, .openingWide].contains p || isPair distantBonds p k then false
      else b.spaces || mayPart b p k

end LiveJson.Text
