import LiveJson.Tree.Path

/-!
# Lines of the tree

A document is shown as a tree, one node to a line, and a line more to close each container that is
shown with its contents.

## What is here

* `Container` — lists and maps, with their brackets and what their children are called.
* `Line` — a line, with its depth and the path of its node; `Line.hasToggle` tells which lines can
  be folded or unfolded.
* `Line.text` — a line as it is shown.  Keys and strings are quoted and not escaped.
-/

set_option autoImplicit false

namespace LiveJson.Tree

open Json

/-! ## Containers -/

/-- The kinds of containers. -/
inductive Container where
  | list
  | map
deriving DecidableEq, Repr

/-- The opening bracket. -/
def Container.opener : Container → Char
  | .list => '['
  | .map => '{'

/-- The closing bracket. -/
def Container.closer : Container → Char
  | .list => ']'
  | .map => '}'

/-- What a number of children is called. -/
def Container.noun (c : Container) (count : Nat) : String :=
  match c, count with
  | .list, 1 => "item"
  | .list, _ => "items"
  | .map, 1 => "property"
  | .map, _ => "properties"

/-! ## Lines -/

/-- What a line shows of its node.  The root has the empty key. -/
inductive LineKind where
  /-- A scalar. -/
  | leaf (key : String) (literal : String)
  /-- A container without children. -/
  | empty (key : String) (container : Container)
  /-- The first line of a container that is shown with its children. -/
  | opened (key : String) (container : Container)
  /-- A container that is shown without its children. -/
  | collapsed (key : String) (container : Container) (count : Nat)
  /-- The last line of a container that is shown with its children. -/
  | closed (container : Container)
deriving DecidableEq, Repr

/-- A line of the tree. -/
structure Line where
  depth : Nat
  path : Path
  kind : LineKind
deriving DecidableEq, Repr

/-- Whether the line folds or unfolds a container. -/
def Line.hasToggle (l : Line) : Bool :=
  match l.kind with
  | .opened _ _ | .collapsed _ _ _ => true
  | _ => false

/-! ## Display -/

/-- A scalar as it is shown; containers have no literal. -/
def literal? : Value → Option String
  | .null => some "null"
  | .bool b => some (if b then "true" else "false")
  | .number n => some n.text
  | .string s => some ("\"" ++ s ++ "\"")
  | .list _ | .map _ => none

/-- One step of indentation; a line without a toggle has one more. -/
def indentStep : String := "  "

/-- The toggle of an expanded container. -/
def expandedMark : String := "▾ "

/-- The toggle of a collapsed container. -/
def collapsedMark : String := "▸ "

/-- A key in front of its value; the empty key is not shown. -/
def keyText (key : String) : String :=
  if key.isEmpty then "" else "\"" ++ key ++ "\": "

/-- What a line shows behind its indentation. -/
def LineKind.text : LineKind → String
  | .leaf key literal => indentStep ++ keyText key ++ literal
  | .empty key c => indentStep ++ keyText key ++ String.ofList [c.opener, c.closer]
  | .opened key c => expandedMark ++ keyText key ++ String.ofList [c.opener]
  | .collapsed key c count =>
    collapsedMark ++ keyText key ++ String.ofList [c.opener] ++
      String.ofList (Nat.toDigits 10 count) ++ " " ++ c.noun count ++ String.ofList [c.closer]
  | .closed c => indentStep ++ String.ofList [c.closer]

/-- **A line as it is shown.** -/
def Line.text (l : Line) : String :=
  String.join (List.replicate l.depth indentStep) ++ l.kind.text

end LiveJson.Tree
