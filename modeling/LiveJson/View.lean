import LiveJson.Locale.Basic
import LiveJson.Validation

/-!
# Panes and pages

What is printed around a document: titled panes, below each other or side by side, and a page with a
title above them.

## What is here

* `Pane`, with `inputPane` and `outputPane`, which show a session's input and output.
* `compose` — panes laid out in rows or in columns.
* `page` — the composed panes below the title of a locale.

In columns, every pane but the last is padded to its widest row, counted in characters; blanks at
the end of a row are cut off.
-/

set_option autoImplicit false

namespace LiveJson

open Text

/-- How panes are laid out. -/
inductive Layout where
  /-- Below each other. -/
  | rows
  /-- Side by side. -/
  | columns
deriving DecidableEq, Repr

/-- Lines under a title. -/
structure Pane where
  title : String
  lines : List String
deriving DecidableEq, Repr

/-- A line as long as a title. -/
def rule (mark : Char) (title : String) : String :=
  String.ofList (List.replicate title.length mark)

/-- The rows of a pane: the title, a rule and the lines. -/
def Pane.rows (p : Pane) : List String :=
  p.title :: rule '─' p.title :: p.lines

/-! ## Input and output -/

/-- The pane of the input.  A blank input shows a placeholder. -/
def inputPane (locale : Locale) (input : String) : Pane :=
  ⟨locale.labels.input, if IsBlank input then [locale.labels.data] else linesOf input⟩

/-- The pane of the output: `body` for a document, the error for a malformed input. -/
def outputPane (locale : Locale) (output : Validation) (body : List String) : Pane :=
  ⟨locale.labels.output,
    match output with
    | .blank => []
    | .valid _ => body
    | .malformed m => ["! " ++ locale.error, m.message]⟩

/-! ## Layout -/

namespace View

/-- What stands between two columns. -/
def gap : List Char := [' ', '│', ' ']

/-- How many rows the tallest pane has. -/
def height (panes : List (List (List Char))) : Nat :=
  (panes.map List.length).foldl max 0

/-- How many characters the widest row has. -/
def width (rows : List (List Char)) : Nat :=
  (rows.map List.length).foldl max 0

/-- Rows filled up with empty ones to a height. -/
def fillDown (height : Nat) (rows : List (List Char)) : List (List Char) :=
  rows ++ List.replicate (height - rows.length) []

/-- Rows that are not too many are filled up to the height. -/
theorem length_fillDown {height : Nat} {rows : List (List Char)} (h : rows.length ≤ height) :
    (fillDown height rows).length = height := by
  simp only [fillDown, List.length_append, List.length_replicate]
  omega

/-- A row filled up with spaces to a width. -/
def pad (width : Nat) (row : List Char) : List Char :=
  row ++ List.replicate (width - row.length) ' '

/-- A row that is not too wide is filled up to the width. -/
theorem length_pad {width : Nat} {row : List Char} (h : row.length ≤ width) :
    (pad width row).length = width := by
  simp only [pad, List.length_append, List.length_replicate]
  omega

/-- Panes side by side, as rows of one height.  Only the last pane is not padded. -/
def sideBySide (height : Nat) : List (List (List Char)) → List (List Char)
  | [] => List.replicate height []
  | [rows] => fillDown height rows
  | rows :: rest =>
    let w := width rows
    List.zipWith (fun row right => pad w row ++ gap ++ right) (fillDown height rows)
      (sideBySide height rest)

/-- The rows of panes side by side, without the blanks at their ends. -/
def columnRows (panes : List (List (List Char))) : List (List Char) :=
  (sideBySide (height panes) panes).map trimBlankEnd

end View

/-- Panes side by side. -/
def columns (panes : List Pane) : String :=
  joinLines ((View.columnRows (panes.map fun p => p.rows.map String.toList)).map String.ofList)

/-- Panes below each other, with an empty line between any two. -/
def stacked (panes : List Pane) : String :=
  "\n\n".intercalate (panes.map fun p => joinLines p.rows)

/-- **Panes as one text.** -/
def compose (panes : List Pane) : Layout → String
  | .rows => stacked panes
  | .columns => columns panes

/-- **The composed panes below the title of a locale.** -/
def page (locale : Locale) (panes : List Pane) (layout : Layout) : String :=
  joinLines [locale.title, rule '═' locale.title, "", compose panes layout]

end LiveJson
