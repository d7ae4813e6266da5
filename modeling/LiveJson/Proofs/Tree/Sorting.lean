import LiveJson.Proofs.Tree.Folding
import Mathlib.Data.List.Perm.Basic
import Mathlib.Data.List.Sort

/-!
# Sorted members

`render` sorts members as it comes to them, level by level and beside the lines of each member.  Here
the whole document is sorted first and then shown as it is.

## What is here

* `Value.sortKeys` — the document with the members of every map in the order of their keys' bytes,
  members of one key as they were among themselves, and lists as they were.
* `arrange_sorted` — the sort that `render` uses is the insertion sort of `Value.sortKeys`.
* `renderNode_perm` — the order of members changes the order of lines and no line.
* `KeyBefore`, and `pairwise_walk` — siblings are met in the order of their keys.
* `render_sorted` — **the tree with sorted members is the tree of the sorted document.**
-/

set_option autoImplicit false

namespace LiveJson.Json

mutual
/-- The value with the members of every map in the order of their keys' bytes.  The sort is stable
(`List.sublist_insertionSort`): members of one key stay as they are among themselves. -/
def Value.sortKeys : Value → Value
  | .list items => .list (sortKeysItems items)
  | .map members =>
    .map ((sortKeysMembers members).insertionSort fun m n => Text.byteLE m.1 n.1 = true)
  | v => v

/-- `Value.sortKeys` on every item. -/
def sortKeysItems : List Value → List Value
  | [] => []
  | v :: rest => v.sortKeys :: sortKeysItems rest

/-- `Value.sortKeys` on every member, the members left where they are. -/
def sortKeysMembers : List (String × Value) → List (String × Value)
  | [] => []
  | (k, v) :: rest => (k, v.sortKeys) :: sortKeysMembers rest
end

theorem sortKeysItems_eq_map (items : List Value) :
    sortKeysItems items = items.map Value.sortKeys := by
  induction items with
  | nil => rfl
  | cons v rest ih => rw [sortKeysItems, ih, List.map_cons]

theorem sortKeysMembers_eq_map (members : Members) :
    sortKeysMembers members = members.map fun m => (m.1, m.2.sortKeys) := by
  induction members with
  | nil => rfl
  | cons m rest ih => rw [sortKeysMembers, ih, List.map_cons]

end LiveJson.Json

namespace LiveJson.Tree

open Json Text

/-! ## Two sorts -/

/-- An element goes in front of what it may precede, and behind what it may not. -/
theorem orderedInsert_append {α : Type} {r : α → α → Prop} [DecidableRel r] {a : α}
    {front back : List α} (hfront : ∀ b ∈ front, ¬r a b) (hback : ∀ b ∈ back, r a b) :
    (front ++ back).orderedInsert r a = front ++ a :: back := by
  induction front with
  | nil =>
    cases back with
    | nil => rfl
    | cons b rest => exact List.orderedInsert_cons_of_le r rest (hback b List.mem_cons_self)
  | cons b front ih =>
    have hb : ¬r a b := hfront b List.mem_cons_self
    rw [List.cons_append, List.orderedInsert_cons, if_neg hb,
      ih fun c hc => hfront c (List.mem_cons_of_mem b hc), List.cons_append]

theorem pairwise_arrange {α : Type} (entries : List (String × α)) :
    (KeyOrder.sorted.arrange entries).Pairwise fun m n => byteLE m.1 n.1 = true :=
  @List.pairwise_mergeSort _ (fun m n : String × α => byteLE m.1 n.1)
    (fun _ _ _ => byteLE_trans) (fun m n => byteLE_total m.1 n.1) entries

/-- **Both sorts are stable, so they agree,** also where two members have one key. -/
theorem arrange_sorted {α : Type} (entries : List (String × α)) :
    KeyOrder.sorted.arrange entries =
      entries.insertionSort fun m n => byteLE m.1 n.1 = true := by
  rw [KeyOrder.arrange]
  induction entries with
  | nil => exact List.mergeSort_nil
  | cons m rest ih =>
    -- merging puts the first entry in front of the first one that it may precede
    obtain ⟨front, back, hsorted, hrest, hfront⟩ :=
      @List.mergeSort_cons _ (fun m n : String × α => byteLE m.1 n.1)
        (fun _ _ _ => byteLE_trans) (fun m n => byteLE_total m.1 n.1) m rest
    have hpairwise := pairwise_arrange (m :: rest)
    rw [KeyOrder.arrange, hsorted, List.pairwise_append] at hpairwise
    have hback : ∀ n ∈ back, byteLE m.1 n.1 = true := (List.pairwise_cons.1 hpairwise.2.1).1
    rw [List.insertionSort_cons, ← ih, hrest, hsorted, orderedInsert_append _ hback]
    intro n hn
    simpa using hfront n hn

/-! ## Sorting first -/

@[simp] theorem container?_sortKeys (v : Value) : container? v.sortKeys = container? v := by
  cases v <;> rfl

theorem literal?_sortKeys (v : Value) : literal? v.sortKeys = literal? v := by
  cases v <;> rfl

/-- The children of a sorted value are the sorted children. -/
theorem childrenIn_sortKeys (v : Value) :
    childrenIn .insertion v.sortKeys =
      (childrenIn .sorted v).map fun m => (m.1, m.2.sortKeys) := by
  cases v with
  | list items =>
    have hitems : childrenIn .insertion (Value.list items).sortKeys =
        children (.list (items.map Value.sortKeys)) := by
      rw [Value.sortKeys, sortKeysItems_eq_map]
      rfl
    have hchildren : childrenIn .sorted (.list items) = children (.list items) := rfl
    rw [hitems, hchildren, children, children, List.zipIdx_map, List.map_map, List.map_map]
    rfl
  | map members =>
    rw [Value.sortKeys, sortKeysMembers_eq_map, ← arrange_sorted, childrenIn, childrenIn,
      arrange_map]
    rfl
  | _ => rfl

theorem length_children_sortKeys (v : Value) :
    (children v.sortKeys).length = (children v).length := by
  rw [← (childrenIn_perm .insertion v.sortKeys).length_eq, childrenIn_sortKeys, List.length_map,
    (childrenIn_perm .sorted v).length_eq]

/-- **The lines of a node with sorted members** are those of the sorted node. -/
theorem renderNode_sortKeys (collapsed : Collapse) (key : String) (p : Path) (depth : Nat)
    (v : Value) :
    renderNode collapsed .insertion key p depth v.sortKeys =
      renderNode collapsed .sorted key p depth v := by
  induction v using inductOnChildren generalizing key p depth with
  | step v ih =>
    cases hcontainer : container? v with
    | none =>
      rw [renderNode_scalar hcontainer, renderNode_scalar (by rwa [container?_sortKeys]),
        literal?_sortKeys]
    | some container =>
      have hsorted : container? v.sortKeys = some container := by rwa [container?_sortKeys]
      rw [renderNode_container hcontainer, renderNode_container hsorted, length_children_sortKeys,
        childrenIn_sortKeys, List.flatMap_map]
      exact congrArg _ (List.flatMap_congr fun m hm => ih m (mem_childrenIn.1 hm) _ _ _)

/-! ## The same lines -/

/-- A container is shown by the same lines, whichever way its children are. -/
theorem perm_renderContainer {collapsed : Collapse} {key : String} {p : Path} {depth : Nat}
    {container : Container} {count : Nat} {lines lines' : List Line} (h : lines.Perm lines') :
    (renderContainer collapsed key p depth container count lines).Perm
      (renderContainer collapsed key p depth container count lines') := by
  rw [renderContainer, renderContainer]
  split
  · exact .refl _
  · split
    · exact .refl _
    · exact (h.append_right _).cons _

theorem renderNode_perm (collapsed : Collapse) (order order' : KeyOrder) (key : String) (p : Path)
    (depth : Nat) (v : Value) :
    (renderNode collapsed order key p depth v).Perm
      (renderNode collapsed order' key p depth v) := by
  induction v using inductOnChildren generalizing key p depth with
  | step v ih =>
    cases hcontainer : container? v with
    | none => rw [renderNode_scalar hcontainer, renderNode_scalar hcontainer]
    | some container =>
      rw [renderNode_container hcontainer, renderNode_container hcontainer]
      have hchildren : (childrenIn order v).Perm (childrenIn order' v) :=
        (childrenIn_perm order v).trans (childrenIn_perm order' v).symm
      refine perm_renderContainer (hchildren.flatMap fun m hm => ?_)
      exact ih m (mem_childrenIn.1 hm) m.1 (p.child m.1) (depth + 1)

/-! ## The order of siblings -/

/-- Which of two children of a value is shown first when members are sorted: of members the one whose
key has the lower bytes, of items the one with the lower position. -/
def KeyBefore : Value → String → String → Prop
  | .map _, key, key' => bytes key < bytes key'
  | .list _, key, key' => ∃ i j, key = indexKey i ∧ key' = indexKey j ∧ i < j
  | _, _, _ => False

theorem KeyBefore.ne {v : Value} {key key' : String} (h : KeyBefore v key key') : key ≠ key' := by
  rintro rfl
  cases v with
  | list items =>
    obtain ⟨i, j, hi, hj, hlt⟩ := h
    exact Nat.ne_of_lt hlt (indexKey_inj (hi.symm.trans hj))
  | map members => exact List.lt_irrefl _ h
  | _ => exact h

/-- Siblings of a document at two paths stand in the order of their keys. -/
def SiblingsInOrder (v : Value) (p q : Path) : Prop :=
  ∀ parent w key key', Node v parent w → p = parent.child key → q = parent.child key' →
    KeyBefore w key key'

theorem pairwise_childrenIn_sorted {v : Value} (h : v.UniqueKeys) :
    (childrenIn .sorted v).Pairwise fun m n => KeyBefore v m.1 n.1 := by
  cases v with
  | list items =>
    have hpositions : (items.zipIdx.map Prod.snd).Pairwise (· < ·) := by
      rw [List.zipIdx_map_snd]
      exact List.pairwise_lt_range'
    refine List.pairwise_map.2 ((List.pairwise_map.1 hpositions).imp fun {a b} hlt => ?_)
    exact ⟨a.2, b.2, rfl, rfl, hlt⟩
  | map members =>
    have hsorted := pairwise_arrange members
    have hkeys : ((childrenIn .sorted (.map members)).map Prod.fst).Nodup :=
      ((childrenIn_perm .sorted (.map members)).map Prod.fst).nodup_iff.2 (nodup_children h)
    exact hsorted.and (List.pairwise_map.1 hkeys) |>.imp fun h => bytes_lt_of_byteLE h.1 h.2
  | _ => exact .nil

theorem Path.child_inj {p q : Path} {key key' : String} (h : p.child key = q.child key') :
    p = q ∧ key = key' := by
  obtain ⟨hsegments, hkey⟩ := List.append_inj' (congrArg Path.segments h) rfl
  exact ⟨congrArg Path.mk hsegments, List.singleton_inj.1 hkey⟩

/-- A path at or below a child is that child, or its parent is at or below the child. -/
theorem Path.parent_of_below_child {p q : Path} {key key' : String}
    (h : q.child key = p.child key' ∨ (p.child key').Above (q.child key)) :
    (q = p ∧ key = key') ∨ q = p.child key' ∨ (p.child key').Above q := by
  rcases h with heq | habove
  · exact .inl (child_inj heq)
  · exact .inr ((above_child_iff.1 habove).imp_left Eq.symm)

/-- A path does not lie below one of its own children. -/
theorem Path.not_below_child (p : Path) (key : String) :
    ¬(p = p.child key ∨ (p.child key).Above p) := by
  rintro (heq | habove)
  · have hself := p.above_child key
    rw [← heq] at hself
    exact p.not_above_self hself
  · exact p.not_above_self ((p.above_child key).trans habove)

/-- **Siblings are met in the order of their keys.**  The induction is on the value at which the walk
starts: two siblings are children of that value, or they lie below one and the same child. -/
theorem pairwise_walk {root v : Value} (hroot : root.UniqueKeys) {p : Path} (hv : Node root p v)
    (folded : Path → Bool) :
    (walk folded .sorted p v).Pairwise fun a b => SiblingsInOrder root a.1 b.1 := by
  induction v using inductOnChildren generalizing p with
  | step v ih =>
    have hkeys : v.UniqueKeys := hv.everywhere hroot
    rw [walk_eq, List.pairwise_cons]
    cases folded p with
    | true => exact ⟨nofun, .nil⟩
    | false =>
      rw [if_neg nofun]
      refine ⟨fun b hb parent w key key' _ ha hbkey => ?_, List.pairwise_flatMap.2 ⟨?_, ?_⟩⟩
      · -- what is met below the first node is deeper than its siblings
        obtain ⟨m, -, hwalk⟩ := List.mem_flatMap.1 hb
        have hbelow : p.Above b.1 := by
          rcases eq_or_above_of_mem_walk hwalk with heq | habove
          · exact heq ▸ p.above_child m.1
          · exact (p.above_child m.1).trans habove
        obtain rfl : p = parent.child key := ha
        rw [hbkey, Path.above_child_iff] at hbelow
        exact absurd (hbelow.imp_left Eq.symm) (parent.not_below_child key)
      · intro m hm
        have hchild := mem_childrenIn.1 hm
        exact ih m hchild (hv.child hchild)
      · refine (pairwise_childrenIn_sorted hkeys).imp_of_mem fun {m n} _ _ hbefore => ?_
        intro a ha b hb parent w key key' hw hakey hbkey
        have habelow := eq_or_above_of_mem_walk ha
        have hbbelow := eq_or_above_of_mem_walk hb
        rw [hakey] at habelow
        rw [hbkey] at hbbelow
        rcases Path.parent_of_below_child habelow with ⟨rfl, rfl⟩ | hparent
        · rcases Path.parent_of_below_child hbbelow with ⟨-, rfl⟩ | hparent'
          · rwa [hw.eq hv hroot]
          · exact absurd hparent' (parent.not_below_child n.1)
        · rcases Path.parent_of_below_child hbbelow with ⟨rfl, rfl⟩ | hparent'
          · exact absurd hparent (parent.not_below_child m.1)
          · exact absurd (Path.key_eq_of_below_child hparent hparent') (KeyBefore.ne hbefore)

/-! ## Documents -/

/-- **The tree with sorted members is the tree of the sorted document,** whatever is collapsed.  It has
the lines of the tree as written, in another order, and stands for the same folded containers.  Where
keys are unique, the members of a map come in the order of their keys' bytes, each key strictly before
the next, and the items of a list in the order of their positions. -/
theorem render_sorted (v : Value) (collapsed : Collapse) :
    render v collapsed .sorted = render v.sortKeys collapsed .insertion ∧
    (render v collapsed .sorted).Perm (render v collapsed .insertion) ∧
    (∀ p, (∃ l ∈ render v collapsed .sorted, l.path = p ∧ l.isCollapsed = true) ↔
      ∃ l ∈ render v collapsed .insertion, l.path = p ∧ l.isCollapsed = true) ∧
    (v.UniqueKeys → ((render v collapsed .sorted).filter fun l => !l.isClosed).Pairwise
      fun l l' => SiblingsInOrder v l.path l'.path) := by
  have hperm : (render v collapsed .sorted).Perm (render v collapsed .insertion) :=
    renderNode_perm collapsed .sorted .insertion "" .root 0 v
  refine ⟨(renderNode_sortKeys collapsed "" .root 0 v).symm, hperm, fun p => ?_, fun hkeys => ?_⟩
  · simp only [hperm.mem_iff]
  · rw [filter_render, List.pairwise_map]
    exact pairwise_walk hkeys .root collapsed.contains

/-- A map of which the members stand against the order of their keys, two of them with keys beyond
ASCII, around a list of eleven items: the item at 10 comes behind the item at 9. -/
theorem render_sorted_nested :
    ∃ v : Value, v = .map [("é", .list (List.replicate 11 .null)),
        ("b", .map [("ä", .null), ("z", .bool true)])] ∧
      v.UniqueKeys ∧
      (render v (Collapse.empty.insert ⟨["b"]⟩) .sorted).map (fun l => l.path.segments) =
        [[], ["b"], ["é"], ["é", "0"], ["é", "1"], ["é", "2"], ["é", "3"], ["é", "4"], ["é", "5"],
          ["é", "6"], ["é", "7"], ["é", "8"], ["é", "9"], ["é", "10"], ["é"], []] ∧
      (render v .empty .sorted).filterMap (fun l => l.path.segments[1]?) =
        ["z", "ä", "0", "1", "2", "3", "4", "5", "6", "7", "8", "9", "10"] ∧
      ((render v .empty .sorted).filter fun l => !l.isClosed).Pairwise
        fun l l' => SiblingsInOrder v l.path l'.path := by
  refine ⟨_, rfl, by decide +kernel, ?_, ?_, (render_sorted _ _).2.2.2 (by decide +kernel)⟩
  · rw [(render_sorted _ _).1]
    decide +kernel
  · rw [(render_sorted _ _).1]
    decide +kernel

end LiveJson.Tree
