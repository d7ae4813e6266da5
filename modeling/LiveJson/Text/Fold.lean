import LiveJson.Text.Columns
import LiveJson.Text.LineBreak

/-!
# Folding a text to a width

A text is folded into lines of a given number of columns.  A line takes as many pieces as it has
room for; a piece that no line has room for is cut where the room ends.

## What is here

* `pieces` — the text between the places where a line may end.  They make up the text
  (`flatten_pieces`).
* `Fragment` — a piece without the spaces at its end, which are left out where a line ends.
* `fold` — the lines of a text.
-/

set_option autoImplicit false

namespace LiveJson.Text

/-! ## Pieces -/

/-- Whether a hyphen can stand between the character and another in a compound word. -/
def isWordChar (c : Char) : Bool :=
  c.isAlphanum || (decide (0x80 ≤ c.toNat) &&
    (.ideographic :: .numeric :: (letters ++ hangul)).contains (lineClass c))

/-- Whether a line may end between two characters, given what comes before the second.  A line ends
behind a hyphen in a compound word only, and never behind a hyphen that is seen only there. -/
def mayEnd (before : Before) (previous : Option Char) (c d : Char) : Bool :=
  if c = '-' then previous.any isWordChar && isWordChar d
  else if c = '\u00AD' then false
  else before.allows (lineClass d)

/-- The pieces of a text, given what comes before it. -/
def pieces : Before → Option Char → List Char → List (List Char)
  | _, _, [] => []
  | _, _, [c] => [[c]]
  | before, previous, c :: d :: cs =>
    let before := before.next (lineClass c)
    let rest := pieces before (some c) (d :: cs)
    if mayEnd before previous c d then [c] :: rest
    else
      match rest with
      | [] => [[c]]
      | piece :: rest => (c :: piece) :: rest

/-- Nothing is lost. -/
theorem flatten_pieces (before : Before) (previous : Option Char) (cs : List Char) :
    (pieces before previous cs).flatten = cs := by
  fun_induction pieces before previous cs with
  | case1 => rfl
  | case2 => rfl
  | case3 _ _ c d cs before rest h ih => rw [List.flatten_cons, ih]; rfl
  | case4 _ _ c d cs before rest h hrest ih =>
    replace ih : rest.flatten = d :: cs := ih
    simp [hrest] at ih
  | case5 _ _ c d cs before rest h piece rest' hrest ih =>
    replace ih : rest.flatten = d :: cs := ih
    rw [hrest, List.flatten_cons] at ih
    rw [List.flatten_cons, List.cons_append, ih]

/-! ## Fragments -/

/-- A part of a text that stands on one line. -/
structure Fragment where
  body : List Char
  /-- The spaces at its end. -/
  blanks : List Char
deriving DecidableEq, Repr

/-- The spaces at the end of a text. -/
def spacesAtEnd (cs : List Char) : List Char :=
  cs.reverse.takeWhile (· == ' ')

/-- A text cut where the columns that are left on a line end, and the lines after it. -/
def chop (width : Nat) : Nat → List Char → List (List Char)
  | _, [] => [[]]
  | used, c :: cs =>
    let starts := decide (0 < used) && decide (width < used + columnsOf c)
    match chop width (if starts then columnsOf c else used + columnsOf c) cs with
    | [] => [[c]]
    | part :: parts => if starts then [] :: (c :: part) :: parts else (c :: part) :: parts

/-- A piece as fragments: one, unless the piece is wider than a line. -/
def fragmentsOf (width : Nat) (piece : List Char) : List Fragment :=
  let blanks := spacesAtEnd piece
  let parts := chop width 0 (piece.take (piece.length - blanks.length))
  parts.dropLast.map (⟨·, []⟩) ++ (parts.drop (parts.length - 1)).map (⟨·, blanks⟩)

/-! ## Lines -/

/-- Fragments put on lines, first to last, where some stand on the first line already and take
`used` columns of it.  A line has at least one fragment. -/
def fillLines (width : Nat) (line : List Fragment) (used : Nat) :
    List Fragment → List (List Fragment)
  | [] => [line]
  | f :: fs =>
    let taken := columns f.body + f.blanks.length
    if !line.isEmpty && decide (width < used + columns f.body) then
      line :: fillLines width [f] taken fs
    else fillLines width (line ++ [f]) (used + taken) fs

/-- The text of a line, without the spaces at its end. -/
def lineText : List Fragment → List Char
  | [] => []
  | [f] => f.body
  | f :: fs => f.body ++ f.blanks ++ lineText fs

/-- The lines of a text without line feeds. -/
def foldLine (width : Nat) (cs : List Char) : List (List Char) :=
  (fillLines width [] 0 ((pieces .start none cs).flatMap (fragmentsOf width))).map lineText

/-- **The lines of a text that is folded to a width.**  A line feed ends a line too. -/
def fold (width : Nat) (text : String) : List String :=
  ((text.toList.splitOn '\n').flatMap (foldLine width)).map String.ofList

end LiveJson.Text
