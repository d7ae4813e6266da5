/-!
# Positions in a text

A position is counted in UTF-8 bytes, in one of two ways: as an offset from the start of the text,
or as a line (from 1) and a column (bytes since the line began).

## What is here

* `byteLength` — how many bytes the characters take.
* `Position.ofOffset` — the line and column of an offset.  The offset may fall inside a character.
* `offsetOf` — the way back, to a *character boundary*: one step left of the column, cut off at
  the end of the text, and then back to where the character at that byte starts.
* `Span` — an offset and a length; `spanAt` is the one character that stands at an offset.
-/

set_option autoImplicit false

namespace LiveJson.Text

/-- How many bytes the characters take in UTF-8. -/
def byteLength : List Char → Nat
  | [] => 0
  | c :: cs => c.utf8Size + byteLength cs

@[simp] theorem byteLength_nil : byteLength [] = 0 := rfl

@[simp] theorem byteLength_cons (c : Char) (cs : List Char) :
    byteLength (c :: cs) = c.utf8Size + byteLength cs := rfl

@[simp] theorem byteLength_append (cs ds : List Char) :
    byteLength (cs ++ ds) = byteLength cs + byteLength ds := by
  induction cs with
  | nil => simp
  | cons c cs ih => simp [ih, Nat.add_assoc]

/-! ## Lines and columns -/

/-- A line, counted from 1, and the number of bytes between the start of that line and the
position. -/
structure Position where
  line : Nat
  column : Nat
deriving DecidableEq, Repr

/-- Where a text starts. -/
def Position.start : Position := ⟨1, 0⟩

/-- The position right after a character. -/
def Position.advance (p : Position) (c : Char) : Position :=
  if c = '\n' then ⟨p.line + 1, 0⟩ else ⟨p.line, p.column + c.utf8Size⟩

/-- The position `offset` bytes after `p`, where `cs` is the text from `p` on.  An offset inside a
character belongs to the line on which the character stands. -/
def Position.after (p : Position) : List Char → Nat → Position
  | [], offset => ⟨p.line, p.column + offset⟩
  | c :: cs, offset =>
    if offset < c.utf8Size then ⟨p.line, p.column + offset⟩
    else Position.after (p.advance c) cs (offset - c.utf8Size)

/-- The position of an offset in a text. -/
def Position.ofOffset (text : List Char) (offset : Nat) : Position :=
  Position.start.after text offset

/-! ## Back to an offset -/

/-- How many bytes the first `n` lines take, each with its line feed; all bytes if there are no
more than `n` lines. -/
def linesLength : Nat → List Char → Nat
  | 0, _ => 0
  | _ + 1, [] => 0
  | n + 1, c :: cs => c.utf8Size + linesLength (if c = '\n' then n else n + 1) cs

/-- The last character boundary that is not beyond `offset`. -/
def boundaryBefore : List Char → Nat → Nat
  | [], _ => 0
  | c :: cs, offset =>
    if offset < c.utf8Size then 0 else c.utf8Size + boundaryBefore cs (offset - c.utf8Size)

/-- The character boundary at or before the byte that lies one step left of a position.  A line or
column beyond the text gives the end of the text. -/
def offsetOf (text : List Char) (p : Position) : Nat :=
  boundaryBefore text (min (linesLength (p.line - 1) text + (p.column - 1)) (byteLength text))

/-! ## Spans -/

/-- A stretch of a text: where it starts and how many bytes it takes. -/
structure Span where
  offset : Nat
  length : Nat
deriving DecidableEq, Repr

/-- The characters from the boundary `offset` on. -/
def dropBytes : List Char → Nat → List Char
  | [], _ => []
  | c :: cs, offset => if offset = 0 then c :: cs else dropBytes cs (offset - c.utf8Size)

/-- The span of the character at a boundary, empty at the end of the text. -/
def spanAt (text : List Char) (offset : Nat) : Span :=
  ⟨offset, ((dropBytes text offset).head?.map Char.utf8Size).getD 0⟩

end LiveJson.Text
