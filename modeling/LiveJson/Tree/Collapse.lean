import LiveJson.Tree.Path

/-!
# Collapsed paths

Which containers are shown as one line.  `Collapse` is a finite set of paths; whatever is not in it
is expanded.  A path may be in the set without naming a container of any document.

`Collapse.contains` is the view of a set, and what each operation does to it is said by one lemma:
`contains_insert`, `contains_erase`, `contains_set` and `contains_toggle`.
-/

set_option autoImplicit false

namespace LiveJson.Tree

/-- A set of collapsed paths. -/
structure Collapse where
  paths : List Path
  nodup : paths.Nodup

namespace Collapse

/-- Nothing is collapsed. -/
def empty : Collapse := ⟨[], List.nodup_nil⟩

/-- Whether a path is collapsed. -/
def contains (c : Collapse) (p : Path) : Bool :=
  c.paths.contains p

/-- The set with a path collapsed. -/
def insert (c : Collapse) (p : Path) : Collapse :=
  if h : p ∈ c.paths then c else ⟨p :: c.paths, List.nodup_cons.2 ⟨h, c.nodup⟩⟩

/-- The set with a path expanded. -/
def erase (c : Collapse) (p : Path) : Collapse :=
  ⟨c.paths.erase p, c.nodup.erase p⟩

/-- The set with the flag of a path as given. -/
def set (c : Collapse) (p : Path) (collapsed : Bool) : Collapse :=
  if collapsed then c.insert p else c.erase p

/-- The set with the flag of a path turned over. -/
def toggle (c : Collapse) (p : Path) : Collapse :=
  c.set p (!c.contains p)

/-! ## What the operations do to the flags -/

/-- A path is collapsed exactly if it is listed. -/
theorem contains_iff {c : Collapse} {p : Path} : c.contains p = true ↔ p ∈ c.paths := by
  simp [contains]

@[simp] theorem contains_empty (q : Path) : empty.contains q = false := by
  simp [contains, empty]

/-- Inserting a path collapses it and leaves the other flags alone. -/
@[simp] theorem contains_insert (c : Collapse) (p q : Path) :
    (c.insert p).contains q = (decide (q = p) || c.contains q) := by
  by_cases h : p ∈ c.paths <;> by_cases hq : q = p <;> simp [insert, contains, h, hq]

/-- Erasing a path expands it and leaves the other flags alone. -/
@[simp] theorem contains_erase (c : Collapse) (p q : Path) :
    (c.erase p).contains q = (!decide (q = p) && c.contains q) := by
  by_cases hq : q = p <;> simp [erase, contains, c.nodup.mem_erase_iff, hq]

/-- Setting a flag changes no other flag. -/
@[simp] theorem contains_set (c : Collapse) (p q : Path) (collapsed : Bool) :
    (c.set p collapsed).contains q = if q = p then collapsed else c.contains q := by
  cases collapsed <;> by_cases hq : q = p <;> simp [set, hq]

/-- Turning a flag over changes no other flag. -/
@[simp] theorem contains_toggle (c : Collapse) (p q : Path) :
    (c.toggle p).contains q = if q = p then !c.contains p else c.contains q := by
  simp [toggle]

/-! ## Size -/

/-- How many paths are collapsed. -/
def size (c : Collapse) : Nat :=
  c.paths.length

/-- Whether nothing is collapsed. -/
def isEmpty (c : Collapse) : Bool :=
  c.paths.isEmpty

end Collapse

end LiveJson.Tree
