import LiveJson.Proofs.Tree.Nodes

/-!
# How a path is spelt

An item of a list is found under every numeral of its position, and shown under one of them: `1`, `01`
and `+1` lead to the same item, and the item is shown at `1`.  So several paths lead to a node, and one
of them is the path of the node.

## What is here

* `Path.canonical` — a path with positions spelt as they are shown.
* `node_canonical` — whatever a path leads to has its node at the canonical path.
* `canonical_eq_self_iff` — a path that leads somewhere is the path of a node exactly if it is
  canonical.
-/

set_option autoImplicit false

namespace LiveJson.Tree

open Json Text

/-- A key of a value, with the position of an item spelt as it is shown. -/
def spelt (v : Value) (key : String) : String :=
  match v with
  | .list _ =>
    match readNumeral key with
    | .ok i => indexKey i.val
    | .error _ => key
  | _ => key

/-- The keys on the way from a value, with positions spelt as they are shown.  Where the way ends, the
keys are left as they are. -/
def speltSegments (v : Value) : List String → List String
  | [] => []
  | key :: rest =>
    spelt v key ::
      match v.child? key with
      | some w => speltSegments w rest
      | none => rest

/-- **The path with positions spelt as they are shown.** -/
def Path.canonical (p : Path) (v : Value) : Path :=
  ⟨speltSegments v p.segments⟩

/-! ## Children -/

theorem mem_of_get? {members : Members} {key : String} {v : Value}
    (h : Members.get? key members = some v) : (key, v) ∈ members := by
  induction members with
  | nil => cases h
  | cons m rest ih =>
    obtain ⟨k, u⟩ := m
    rw [Members.get?] at h
    split_ifs at h with hk
    · cases h
      subst hk
      exact List.mem_cons_self
    · exact List.mem_cons_of_mem _ (ih h)

/-- What is found under a key is a child, shown under the key as it is to be spelt. -/
theorem mem_children_of_child? {v w : Value} {key : String} (h : v.child? key = some w) :
    (spelt v key, w) ∈ children v := by
  cases v with
  | list items =>
    rw [Value.child?] at h
    cases hread : readNumeral key with
    | error fault => rw [hread] at h; cases h
    | ok i =>
      rw [hread] at h
      exact mem_children_list.2 ⟨i.val, h, by simp only [spelt, hread]⟩
  | map members => exact mem_of_get? h
  | _ => cases h

/-- Children are shown under keys that are spelt so already. -/
theorem spelt_of_mem_children {v : Value} {m : String × Value} (h : m ∈ children v) :
    spelt v m.1 = m.1 := by
  cases v with
  | list items =>
    obtain ⟨i, -, hkey⟩ := mem_children_list.1 h
    rw [hkey, spelt]
    split
    · next j hread => rw [eq_of_readNumeral_toDigits hread]
    · rfl
  | _ => rfl

/-! ## Paths -/

@[simp] theorem Path.canonical_root (v : Value) : Path.root.canonical v = .root := rfl

/-- One key further, the key is spelt for the node that the path leads to. -/
theorem Path.canonical_child {p : Path} {v w : Value} (h : p.resolve? v = some w) (key : String) :
    (p.child key).canonical v = (p.canonical v).child (spelt w key) := by
  obtain ⟨segments⟩ := p
  have hsegments : speltSegments v (segments ++ [key]) =
      speltSegments v segments ++ [spelt w key] := by
    induction segments generalizing v with
    | nil =>
      cases h
      rw [List.nil_append, speltSegments, speltSegments, List.nil_append]
      cases w.child? key <;> rfl
    | cons k rest ih =>
      obtain ⟨u, hu, hrest⟩ := Option.bind_eq_some_iff.1 h
      rw [List.cons_append, speltSegments, speltSegments, hu]
      exact congrArg (spelt v k :: ·) (ih hrest)
  exact congrArg Path.mk hsegments

/-- A path that leads somewhere is the root, or leads to a child of what it leads to one key before. -/
theorem Path.exists_of_resolve? {p : Path} {v w : Value} (h : p.resolve? v = some w) :
    (p = .root ∧ w = v) ∨
      ∃ (q : Path) (key : String) (u : Value),
        p = q.child key ∧ q.resolve? v = some u ∧ u.child? key = some w := by
  obtain ⟨segments⟩ := p
  rcases List.eq_nil_or_concat segments with rfl | ⟨front, key, rfl⟩
  · cases h
    exact .inl ⟨rfl, rfl⟩
  · rw [List.concat_eq_append] at h ⊢
    have hchild := Path.resolve?_child ⟨front⟩ key v
    rw [Path.child, h] at hchild
    obtain ⟨u, hu, hw⟩ := Option.bind_eq_some_iff.1 hchild.symm
    exact .inr ⟨⟨front⟩, key, u, rfl, hu, hw⟩

/-- **Whatever a path leads to is a node at the canonical path.** -/
theorem node_canonical {v w : Value} {p : Path} (h : p.resolve? v = some w) :
    Node v (p.canonical v) w := by
  induction hlength : p.segments.length generalizing p w with
  | zero =>
    obtain ⟨segments⟩ := p
    obtain rfl := List.length_eq_zero_iff.1 hlength
    cases h
    exact .root
  | succ n ih =>
    rcases Path.exists_of_resolve? h with ⟨rfl, -⟩ | ⟨q, key, u, rfl, hu, hw⟩
    · cases hlength
    · rw [Path.canonical_child hu]
      have hq : q.segments.length = n := by
        simp only [Path.child, List.length_append, List.length_singleton] at hlength
        omega
      exact (ih hu hq).child (mem_children_of_child? hw)

/-- The path of a node is canonical, if it leads anywhere. -/
theorem canonical_of_node {v w u : Value} {p : Path} (hkeys : v.UniqueKeys) (h : Node v p w)
    (hresolve : p.resolve? v = some u) : p.canonical v = p := by
  induction h generalizing u with
  | root => rfl
  | @child q x m hq hm ih =>
    rw [Path.resolve?_child] at hresolve
    obtain ⟨y, hy, -⟩ := Option.bind_eq_some_iff.1 hresolve
    have hcanonical := ih hy
    have hx : x = y := hq.eq (hcanonical ▸ node_canonical hy) hkeys
    rw [Path.canonical_child hy, hcanonical, ← hx, spelt_of_mem_children hm]

/-- **A path that leads somewhere is that of a node exactly if it is canonical.** -/
theorem canonical_eq_self_iff {v w : Value} {p : Path} (hkeys : v.UniqueKeys)
    (h : p.resolve? v = some w) : p.canonical v = p ↔ ∃ u, Node v p u := by
  constructor
  · intro hcanonical
    exact ⟨w, hcanonical ▸ node_canonical h⟩
  · rintro ⟨u, hu⟩
    exact canonical_of_node hkeys hu h

end LiveJson.Tree
