import LiveJson.Text.Blank
import LiveJson.Tree.Collapse
import LiveJson.Tree.Line

/-!
# The tree of a document

## What is here

* `KeyOrder` — whether the members of maps are shown as they were written or by their keys.
* `render` — the lines of a document.  It depends on nothing but the value, the set of collapsed
  paths and the order, so flags survive as long as they are kept.
* `renderText` — the lines as one text.

Members are put in order after each of them has been rendered: `renderMembers` gives the lines of
every member beside its key, and `KeyOrder.arrange` sorts these blocks.
-/

set_option autoImplicit false

namespace LiveJson.Tree

open Json

/-- The order in which the members of a map are shown. -/
inductive KeyOrder where
  /-- As they were written. -/
  | insertion
  /-- By the bytes of their keys. -/
  | sorted
deriving DecidableEq, Repr

/-- Keyed things in order; those with one key stay as they were among themselves. -/
def KeyOrder.arrange {α : Type} (order : KeyOrder) (entries : List (String × α)) :
    List (String × α) :=
  match order with
  | .insertion => entries
  | .sorted => entries.mergeSort fun a b => Text.byteLE a.1 b.1

/-- The key of the item at a position. -/
def indexKey (i : Nat) : String :=
  String.ofList (Nat.toDigits 10 i)

/-- The lines of a container, given those of its children. -/
def renderContainer (collapsed : Collapse) (key : String) (path : Path) (depth : Nat)
    (container : Container) (count : Nat) (children : List Line) : List Line :=
  if count = 0 then [⟨depth, path, .empty key container⟩]
  else if collapsed.contains path then [⟨depth, path, .collapsed key container count⟩]
  else
    ⟨depth, path, .opened key container⟩ :: children ++ [⟨depth, path, .closed container⟩]

mutual
/-- The lines of a node, which stands under `key` at the end of `path`. -/
def renderNode (collapsed : Collapse) (order : KeyOrder) (key : String) (path : Path)
    (depth : Nat) : Value → List Line
  | .list items =>
    renderContainer collapsed key path depth .list items.length
      (renderItems collapsed order path (depth + 1) 0 items)
  | .map members =>
    renderContainer collapsed key path depth .map members.length
      ((order.arrange (renderMembers collapsed order path (depth + 1) members)).flatMap Prod.snd)
  | v => [⟨depth, path, .leaf key ((literal? v).getD "")⟩]

/-- The lines of items, the first of which has position `i`. -/
def renderItems (collapsed : Collapse) (order : KeyOrder) (path : Path) (depth : Nat) (i : Nat) :
    List Value → List Line
  | [] => []
  | v :: rest =>
    renderNode collapsed order (indexKey i) (path.child (indexKey i)) depth v ++
      renderItems collapsed order path depth (i + 1) rest

/-- The lines of each member, beside its key. -/
def renderMembers (collapsed : Collapse) (order : KeyOrder) (path : Path) (depth : Nat) :
    List (String × Value) → List (String × List Line)
  | [] => []
  | (k, v) :: rest =>
    (k, renderNode collapsed order k (path.child k) depth v) ::
      renderMembers collapsed order path depth rest
end

/-- **The lines of a document.** -/
def render (v : Value) (collapsed : Collapse) (order : KeyOrder) : List Line :=
  renderNode collapsed order "" .root 0 v

/-- The lines of a document as one text. -/
def renderText (v : Value) (collapsed : Collapse) (order : KeyOrder) : String :=
  Text.joinLines ((render v collapsed order).map Line.text)

end LiveJson.Tree
