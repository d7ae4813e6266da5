import LiveJson.Tree.Path

/-!
# Nodes of equal documents

Equality of documents compares doubles as floating point does, so documents may be equal and not the
same.  They have the same containers nevertheless: a path leads in both of them to nodes that are
equal again, or in none of them to anything.

## What is here

* `Value.child?_of_beq` — the children of equal values.
* `Path.resolve?_of_beq` — **the nodes of equal documents.**
* `isContainer_resolve?_of_beq` — so a path names a container in both or in none.
-/

set_option autoImplicit false

namespace LiveJson.Json

/-- Two nodes that are equal, or both are not there. -/
def Value.Equal (v? w? : Option Value) : Prop :=
  Option.Rel (fun v w => v.beq w = true) v? w?

theorem equal_getElem?_of_beqItems {xs ys : List Value} (h : beqItems xs ys = true) (i : Nat) :
    Value.Equal xs[i]? ys[i]? := by
  induction xs generalizing ys i with
  | nil =>
    cases ys with
    | nil => exact .none
    | cons y ys => cases h
  | cons x xs ih =>
    cases ys with
    | nil => cases h
    | cons y ys =>
      rw [beqItems, Bool.and_eq_true] at h
      cases i with
      | zero => exact .some h.1
      | succ i => exact ih h.2 i

theorem equal_get?_of_beqMembers {xs ys : Members} (h : beqMembers xs ys = true) (key : String) :
    Value.Equal (Members.get? key xs) (Members.get? key ys) := by
  induction xs generalizing ys with
  | nil =>
    cases ys with
    | nil => exact .none
    | cons y ys => cases h
  | cons x xs ih =>
    cases ys with
    | nil => cases h
    | cons y ys =>
      rw [beqMembers, Bool.and_eq_true, Bool.and_eq_true, beq_iff_eq] at h
      rw [Members.get?, Members.get?, h.1.1]
      split
      · exact .some h.1.2
      · exact ih h.2

/-- The children of equal values are equal. -/
theorem Value.child?_of_beq {v w : Value} (h : v.beq w = true) (key : String) :
    Value.Equal (v.child? key) (w.child? key) := by
  cases v with
  | list xs =>
    cases w with
    | list ys =>
      rw [child?, child?]
      cases (Text.readNumeral key).toOption with
      | none => exact .none
      | some i => exact equal_getElem?_of_beqItems h i.val
    | _ => cases h
  | map xs =>
    cases w with
    | map ys => exact equal_get?_of_beqMembers h key
    | _ => cases h
  | _ => cases w <;> first | exact .none | cases h

/-- Equal values are both containers, or neither is one. -/
theorem Value.isContainer_of_beq {v w : Value} (h : v.beq w = true) :
    v.isContainer = w.isContainer := by
  cases v <;> cases w <;> first | rfl | cases h

end LiveJson.Json

namespace LiveJson.Tree

open Json

/-- **The nodes of equal documents** at the end of a path are equal. -/
theorem Path.resolve?_of_beq {v w : Value} (h : v.beq w = true) (p : Path) :
    Value.Equal (p.resolve? v) (p.resolve? w) := by
  obtain ⟨segments⟩ := p
  induction segments generalizing v w with
  | nil => exact .some h
  | cons key rest ih =>
    simp only [resolve?, List.foldlM_cons, Option.bind_eq_bind] at ih ⊢
    have hchild := Value.child?_of_beq h key
    generalize v.child? key = x, w.child? key = y at hchild ⊢
    cases hchild with
    | none => exact .none
    | some hxy => exact ih hxy

/-- A path names a container of a document if it names one of an equal document. -/
theorem isContainer_resolve?_of_beq {v w : Value} (h : v.beq w = true) (p : Path) :
    (p.resolve? v).map Value.isContainer = (p.resolve? w).map Value.isContainer := by
  have hnode := p.resolve?_of_beq h
  generalize p.resolve? v = x, p.resolve? w = y at hnode ⊢
  cases hnode with
  | none => rfl
  | some hxy => exact congrArg some (Value.isContainer_of_beq hxy)

end LiveJson.Tree
