import LiveJson.Json.Value
import LiveJson.Text.Bytes

/-!
# Paths into a document

A path is the keys on the way from the root to a node, where an item of a list has its position for
a key.

## What is here

* `Path` — with `Path.resolve?`, the node that it leads to, one child at a time
  (`Path.resolve?_child`).
* `Path.parse` and `Path.text` — the written form.  Keys are separated by slashes; in a key `~1`
  stands for a slash and `~0` for a tilde.  Slashes at either end of the written form mean nothing.
* `Path.le` — paths in the order of their keys, which are compared by their bytes.
-/

set_option autoImplicit false

namespace LiveJson.Tree

open Json

/-- The keys on the way from the root to a node. -/
structure Path where
  segments : List String
deriving DecidableEq, Repr

namespace Path

/-- The path of the document itself. -/
def root : Path := ⟨[]⟩

/-- The path one key further. -/
def child (p : Path) (key : String) : Path :=
  ⟨p.segments ++ [key]⟩

/-- Whether the path is the root. -/
def isRoot (p : Path) : Bool :=
  p.segments.isEmpty

/-- The node at the end of a path. -/
def resolve? (p : Path) (v : Value) : Option Value :=
  p.segments.foldlM Value.child? v

/-- The root leads to the document itself. -/
@[simp] theorem resolve?_root (v : Value) : root.resolve? v = some v := rfl

/-- One key further is the child of the node under that key. -/
@[simp] theorem resolve?_child (p : Path) (key : String) (v : Value) :
    (p.child key).resolve? v = (p.resolve? v).bind fun node => node.child? key := by
  simp [resolve?, child, List.foldlM_append]

/-! ## The written form -/

/-- A key with every tilde and slash escaped. -/
def escape (key : List Char) : List Char :=
  key.flatMap fun c =>
    if c = '~' then ['~', '0'] else if c = '/' then ['~', '1'] else [c]

/-- Every occurrence of `a` followed by `b` replaced by `c`, from the left and without overlap. -/
def replacePair (a b c : Char) : List Char → List Char
  | x :: y :: rest =>
    if x = a ∧ y = b then c :: replacePair a b c rest else x :: replacePair a b c (y :: rest)
  | rest => rest

/-- The key that is written as a segment: first `~1` is replaced, then `~0`. -/
def unescape (segment : List Char) : List Char :=
  replacePair '~' '0' '~' (replacePair '~' '1' '/' segment)

/-- A text without the slashes at its ends. -/
def trimSlashes (cs : List Char) : List Char :=
  ((cs.dropWhile (· == '/')).reverse.dropWhile (· == '/')).reverse

/-- **The path that a text names.**  Nothing but slashes names the root. -/
def parse (text : String) : Path :=
  let trimmed := trimSlashes text.toList
  if trimmed.isEmpty then root
  else ⟨(trimmed.splitOn '/').map fun segment => String.ofList (unescape segment)⟩

/-- **A path as it is written:** a slash, and the keys with slashes between them. -/
def text (p : Path) : String :=
  String.ofList ('/' :: ['/'].intercalate (p.segments.map fun key => escape key.toList))

/-! ## Order -/

/-- Lists of keys in lexicographic order, the keys compared by their bytes. -/
def leSegments : List String → List String → Bool
  | [], _ => true
  | _ :: _, [] => false
  | k :: ks, l :: ls => if k = l then leSegments ks ls else Text.byteLE k l

/-- Whether `p` comes before `q`, or is `q`. -/
def le (p q : Path) : Bool :=
  leSegments p.segments q.segments

end Path

end LiveJson.Tree
