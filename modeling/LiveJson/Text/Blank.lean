/-!
# Blank characters and lines of text

What counts as white space in a document's surroundings, and how a text falls into lines.

## What is here

* `isBlank` — the twenty-five characters with the Unicode property `White_Space`.  This is a
  larger class than the white space *inside* a document, which is four ASCII characters only
  (`LiveJson.Json.isSpace`), and larger than core's `Char.isWhitespace`
  (`isBlank_of_isWhitespace`).
* `IsBlank`, `trimBlankEnd` — a text of blanks only, and a text without its last blanks.
* `lines` — a text cut at its line feeds; `joinLines` puts lines together again.
-/

set_option autoImplicit false

namespace LiveJson.Text

/-! ## The class of blank characters -/

/-- The ranges of the Unicode property `White_Space`, first and last code point of each. -/
def blankRanges : List (Nat × Nat) :=
  [(0x9, 0xD), (0x20, 0x20), (0x85, 0x85), (0xA0, 0xA0), (0x1680, 0x1680), (0x2000, 0x200A),
   (0x2028, 0x2029), (0x202F, 0x202F), (0x205F, 0x205F), (0x3000, 0x3000)]

/-- A character is blank when it has the Unicode property `White_Space`. -/
def isBlank (c : Char) : Bool :=
  blankRanges.any fun r => decide (r.1 ≤ c.toNat) && decide (c.toNat ≤ r.2)

/-- Every white-space character of core is blank. -/
theorem isBlank_of_isWhitespace {c : Char} (h : c.isWhitespace = true) : isBlank c = true := by
  simp only [Char.isWhitespace, Bool.or_eq_true, decide_eq_true_eq] at h
  rcases h with ((rfl | rfl) | rfl) | rfl <;> decide

/-- A text is blank when all its characters are; the empty text is blank. -/
def IsBlank (text : String) : Bool :=
  text.toList.all isBlank

/-- The text without the blanks at its end. -/
def trimBlankEnd (cs : List Char) : List Char :=
  (cs.reverse.dropWhile isBlank).reverse

/-! ## Lines -/

/-- The lines of a text.  A line feed ends a line and a carriage return right before it goes with
it; a carriage return anywhere else is a character like any other.  What follows the last line
feed is a line only if it is not empty. -/
def lines : List Char → List (List Char)
  | [] => []
  | '\n' :: cs => [] :: lines cs
  | '\r' :: '\n' :: cs => [] :: lines cs
  | c :: cs =>
    match lines cs with
    | [] => [[c]]
    | l :: ls => (c :: l) :: ls

/-- The lines of a text, each as a text. -/
def linesOf (text : String) : List String :=
  (lines text.toList).map String.ofList

/-- Lines put together with a line feed between any two of them. -/
def joinLines (ls : List String) : String :=
  "\n".intercalate ls

end LiveJson.Text
