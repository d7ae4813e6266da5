import LiveJson.Proofs.Json.Values
import LiveJson.Proofs.Text.Digits
import LiveJson.Tree.Render
import Mathlib.Data.List.Flatten
import Mathlib.Data.List.Nodup

/-!
# The nodes of a document

What there is to show of a document, said without lines: its nodes with their paths, and the order
in which one meets them from the top.

## What is here

* `children`, `childrenIn` — the children of a value under their keys, and in the order in which
  they are shown.  Lists and maps are not told apart any more from here on: proofs go by
  `inductOnChildren`.
* `Node` — a value and its path in a document.  Where keys are unique, the path leads there and
  nowhere else (`Node.resolve?_eq`).
* `walk` — the nodes in depth-first order, without those below folded paths; `preorder` is the walk
  in which nothing is folded, and meets every node (`mem_preorder_iff`).  A walk meets nodes in that
  order (`walk_sublist`) and no path twice (`nodup_walk`).
* `Visible` — what a walk that stops at collapsed paths meets (`mem_walk_root_iff`).
-/

set_option autoImplicit false

namespace LiveJson.Tree

open Json Text

/-! ## Children -/

/-- The children of a value under their keys.  Items of a list have their positions for keys. -/
def children : Value → List (String × Value)
  | .list items => items.zipIdx.map fun item => (indexKey item.2, item.1)
  | .map members => members
  | _ => []

/-- The children of a value in the order in which they are shown.  Items stay where they are. -/
def childrenIn (order : KeyOrder) : Value → List (String × Value)
  | .map members => order.arrange members
  | v => children v

theorem arrange_perm {α : Type} (order : KeyOrder) (entries : List (String × α)) :
    (order.arrange entries).Perm entries := by
  cases order with
  | insertion => exact .refl _
  | sorted => exact List.mergeSort_perm _ _

theorem childrenIn_perm (order : KeyOrder) (v : Value) :
    (childrenIn order v).Perm (children v) := by
  cases v with
  | map members => exact arrange_perm order members
  | _ => exact .refl _

theorem mem_childrenIn {order : KeyOrder} {v : Value} {m : String × Value} :
    m ∈ childrenIn order v ↔ m ∈ children v :=
  (childrenIn_perm order v).mem_iff

theorem mem_children_list {items : List Value} {m : String × Value} :
    m ∈ children (.list items) ↔ ∃ i, items[i]? = some m.2 ∧ m.1 = indexKey i := by
  simp only [children, List.mem_map, Prod.exists, List.mem_zipIdx_iff_getElem?]
  constructor
  · rintro ⟨v, i, hi, rfl⟩
    exact ⟨i, hi, rfl⟩
  · rintro ⟨i, hi, hkey⟩
    exact ⟨m.2, i, hi, by rw [← hkey]⟩

/-- A child is an item of its list. -/
theorem mem_of_mem_children_list {items : List Value} {m : String × Value}
    (h : m ∈ children (.list items)) : m.2 ∈ items := by
  obtain ⟨i, hi, -⟩ := mem_children_list.1 h
  exact List.mem_of_getElem? hi

/-- Induction on values by their children. -/
@[elab_as_elim]
theorem inductOnChildren {motive : Value → Prop}
    (step : ∀ v, (∀ m ∈ children v, motive m.2) → motive v) (v : Value) : motive v := by
  induction v using Value.induct with
  | list items ih => exact step _ fun m hm => ih m.2 (mem_of_mem_children_list hm)
  | map members ih => exact step _ ih
  | _ => exact step _ nofun

theorem sizeOf_lt_of_mem_children {v : Value} {m : String × Value} (h : m ∈ children v) :
    sizeOf m.2 < sizeOf v := by
  cases v with
  | list items =>
    have hitem := List.sizeOf_lt_of_mem (mem_of_mem_children_list h)
    rw [Value.list.sizeOf_spec]
    omega
  | map members =>
    have hmember : sizeOf m < sizeOf members := List.sizeOf_lt_of_mem h
    obtain ⟨key, u⟩ := m
    rw [Prod.mk.sizeOf_spec] at hmember
    rw [Value.map.sizeOf_spec]
    dsimp only
    omega
  | _ => cases h

theorem indexKey_inj {i j : Nat} (h : indexKey i = indexKey j) : i = j := by
  have hdigits : Nat.toDigits 10 i = Nat.toDigits 10 j := String.ofList_injective h
  rw [← Nat.ofDigitChars_ten_toDigits (n := i), hdigits, Nat.ofDigitChars_ten_toDigits]

/-- The children of a value with unique keys have different keys. -/
theorem nodup_children {v : Value} (h : v.UniqueKeys) : ((children v).map Prod.fst).Nodup := by
  cases v with
  | list items =>
    have hkeys : (children (.list items)).map Prod.fst =
        (items.zipIdx.map Prod.snd).map indexKey := by
      rw [children, List.map_map, List.map_map]
      rfl
    rw [hkeys, List.zipIdx_map_snd]
    exact List.Pairwise.map _ (fun i j hij heq => hij (indexKey_inj heq)) List.nodup_range'
  | map members => exact (Value.uniqueKeys_map.1 h).1
  | _ => exact List.nodup_nil

/-- A test that holds everywhere in a value holds everywhere in its children. -/
theorem everywhere_of_mem_children {p : Value → Bool} {v : Value} (h : v.everywhere p = true)
    {m : String × Value} (hm : m ∈ children v) : m.2.everywhere p = true := by
  cases v with
  | list items => exact (Value.everywhere_list.1 h).2 m.2 (mem_of_mem_children_list hm)
  | map members => exact (Value.everywhere_map.1 h).2 m hm
  | _ => cases hm

/-- The first value under a key is the only one. -/
theorem get?_of_mem {members : Members} (h : (members.map Prod.fst).Nodup) {m : String × Value}
    (hm : m ∈ members) : Members.get? m.1 members = some m.2 := by
  induction members with
  | nil => cases hm
  | cons n rest ih =>
    obtain ⟨key, u⟩ := n
    rw [List.map_cons, List.nodup_cons] at h
    rcases List.mem_cons.1 hm with rfl | hrest
    · rw [Members.get?, if_pos rfl]
    · have hmem : m.1 ∈ rest.map Prod.fst := List.mem_map.2 ⟨m, hrest, rfl⟩
      have hne : key ≠ m.1 := fun heq => h.1 (heq ▸ hmem)
      rw [Members.get?, if_neg hne, ih h.2 hrest]

/-- **A child is found under its key**, as long as positions are numbers of 64 bits. -/
theorem child?_of_mem_children {v : Value} (hkeys : v.UniqueKeys) {n : Nat}
    (hlists : v.ListsWithin n) (hn : n ≤ UInt64.size) {m : String × Value} (hm : m ∈ children v) :
    v.child? m.1 = some m.2 := by
  cases v with
  | list items =>
    obtain ⟨i, hi, hkey⟩ := mem_children_list.1 hm
    have hlt : i < UInt64.size := by
      have hitems := (Value.listsWithin_list.1 hlists).1
      have hlength := (List.getElem?_eq_some_iff.1 hi).1
      omega
    rw [Value.child?, hkey, indexKey, readNumeral_toDigits hlt]
    exact hi
  | map members => exact get?_of_mem (Value.uniqueKeys_map.1 hkeys).1 hm
  | _ => cases hm

/-! ## Nodes -/

/-- The value `w` stands at the end of a path in the document `v`. -/
inductive Node (v : Value) : Path → Value → Prop
  /-- The document itself. -/
  | root : Node v .root v
  /-- A child of a node, one key further. -/
  | child {p : Path} {w : Value} {m : String × Value} :
    Node v p w → m ∈ children w → Node v (p.child m.1) m.2

/-- What holds everywhere in a document holds everywhere in its nodes. -/
theorem Node.everywhere {test : Value → Bool} {v w : Value} {p : Path} (h : Node v p w)
    (hv : v.everywhere test = true) : w.everywhere test = true := by
  induction h with
  | root => exact hv
  | child _ hm ih => exact everywhere_of_mem_children ih hm

/-- **The path of a node leads to it**, and so to no other node. -/
theorem Node.resolve?_eq {v w : Value} {p : Path} (h : Node v p w) (hkeys : v.UniqueKeys) {n : Nat}
    (hlists : v.ListsWithin n) (hn : n ≤ UInt64.size) : p.resolve? v = some w := by
  induction h with
  | root => rfl
  | child hw hm ih =>
    rw [Path.resolve?_child, ih, Option.bind_some]
    exact child?_of_mem_children (hw.everywhere hkeys) (hw.everywhere hlists) hn hm

/-- A path leads over another one to something further down. -/
def Path.Above (q p : Path) : Prop :=
  ∃ key rest, p.segments = q.segments ++ key :: rest

theorem Path.above_child (p : Path) (key : String) : p.Above (p.child key) :=
  ⟨key, [], rfl⟩

theorem Path.above_child_iff {q p : Path} {key : String} :
    q.Above (p.child key) ↔ q = p ∨ q.Above p := by
  constructor
  · rintro ⟨key', rest, h⟩
    rcases List.eq_nil_or_concat rest with rfl | ⟨front, last, rfl⟩
    · obtain ⟨hsegments, -⟩ := List.append_inj' h rfl
      exact .inl (congrArg Path.mk hsegments.symm)
    · rw [List.concat_eq_append, ← List.cons_append, ← List.append_assoc] at h
      exact .inr ⟨key', front, (List.append_inj' h rfl).1⟩
  · rintro (rfl | ⟨key', rest, h⟩)
    · exact Path.above_child _ key
    · exact ⟨key', rest ++ [key], by rw [Path.child, h, List.append_assoc, List.cons_append]⟩

theorem Path.Above.trans {p q r : Path} (h : p.Above q) (h' : q.Above r) : p.Above r := by
  obtain ⟨key, rest, hq⟩ := h
  obtain ⟨key', rest', hr⟩ := h'
  exact ⟨key, rest ++ key' :: rest', by rw [hr, hq, List.append_assoc, List.cons_append]⟩

theorem Path.not_above_self (p : Path) : ¬p.Above p := by
  rintro ⟨key, rest, h⟩
  have hlength := congrArg List.length h
  rw [List.length_append, List.length_cons] at hlength
  omega

/-- Every path but the root is below the root. -/
theorem Path.eq_root_or_above (p : Path) : p = .root ∨ Path.root.Above p := by
  obtain ⟨segments⟩ := p
  cases segments with
  | nil => exact .inl rfl
  | cons key rest => exact .inr ⟨key, rest, rfl⟩

/-- Of two paths above a third one, one is above the other unless they are the same. -/
theorem Path.above_or_of_above {p q r : Path} (hp : p.Above r) (hq : q.Above r) :
    p = q ∨ p.Above q ∨ q.Above p := by
  obtain ⟨key, rest, hp⟩ := hp
  obtain ⟨key', rest', hq⟩ := hq
  rw [hp] at hq
  rcases List.append_eq_append_iff.1 hq with ⟨middle, hsegments, -⟩ | ⟨middle, hsegments, -⟩
  · cases middle with
    | nil => exact .inl (congrArg Path.mk (by rw [hsegments, List.append_nil]))
    | cons key rest => exact .inr (.inl ⟨key, rest, hsegments⟩)
  · cases middle with
    | nil => exact .inl (congrArg Path.mk (by rw [hsegments, List.append_nil]))
    | cons key rest => exact .inr (.inr ⟨key, rest, hsegments⟩)

/-- What is below one child is not below another. -/
theorem Path.key_eq_of_below_child {p q : Path} {key key' : String}
    (h : q = p.child key ∨ (p.child key).Above q)
    (h' : q = p.child key' ∨ (p.child key').Above q) : key = key' := by
  have hrest : ∀ k, q = p.child k ∨ (p.child k).Above q →
      ∃ rest, q.segments = p.segments ++ k :: rest := by
    rintro k (rfl | ⟨next, rest, hsegments⟩)
    · exact ⟨[], rfl⟩
    · exact ⟨next :: rest, by rw [hsegments, Path.child, List.append_assoc]; rfl⟩
  obtain ⟨rest, hsegments⟩ := hrest key h
  obtain ⟨rest', hsegments'⟩ := hrest key' h'
  rw [hsegments] at hsegments'
  exact (List.cons.inj (List.append_cancel_left hsegments')).1

/-! ## Walks -/

/-- The nodes of `v`, which stands at `p`, in depth-first order, each one before its children.
Nothing below a folded path is met. -/
def walk (folded : Path → Bool) (order : KeyOrder) (p : Path) (v : Value) : List (Path × Value) :=
  (p, v) ::
    if folded p then []
    else (childrenIn order v).attach.flatMap fun m => walk folded order (p.child m.1.1) m.1.2
termination_by sizeOf v
decreasing_by exact sizeOf_lt_of_mem_children (mem_childrenIn.1 m.2)

/-- All nodes of a document in depth-first order, each one before its children. -/
def preorder (order : KeyOrder) (v : Value) : List (Path × Value) :=
  walk (fun _ => false) order .root v

section
variable {folded : Path → Bool} {order : KeyOrder}

/-- A walk starts with its first node and then walks through the children. -/
theorem walk_eq (p : Path) (v : Value) :
    walk folded order p v =
      (p, v) ::
        if folded p then []
        else (childrenIn order v).flatMap fun m => walk folded order (p.child m.1) m.2 := by
  have hattach := List.flatMap_map Subtype.val
    (fun m : String × Value => walk folded order (p.child m.1) m.2) (childrenIn order v).attach
  rw [List.attach_map_subtype_val] at hattach
  rw [walk, hattach]

theorem mem_walk_iff {p q : Path} {v w : Value} :
    (q, w) ∈ walk folded order p v ↔
      q = p ∧ w = v ∨
        folded p = false ∧ ∃ m ∈ children v, (q, w) ∈ walk folded order (p.child m.1) m.2 := by
  rw [walk_eq]
  cases folded p <;> simp [mem_childrenIn]

/-- A walk stays at its start or below it. -/
theorem eq_or_above_of_mem_walk {p q : Path} {v w : Value} (h : (q, w) ∈ walk folded order p v) :
    q = p ∨ p.Above q := by
  induction v using inductOnChildren generalizing p with
  | step v ih =>
    rcases mem_walk_iff.1 h with ⟨rfl, -⟩ | ⟨-, m, hm, hq⟩
    · exact .inl rfl
    · rcases ih m hm hq with rfl | hbelow
      · exact .inr (p.above_child m.1)
      · exact .inr ((p.above_child m.1).trans hbelow)

/-- A walk through a node of a document meets nodes of the document. -/
theorem node_of_mem_walk {root v w : Value} {p q : Path} (hv : Node root p v)
    (h : (q, w) ∈ walk folded order p v) : Node root q w := by
  induction v using inductOnChildren generalizing p with
  | step v ih =>
    rcases mem_walk_iff.1 h with ⟨rfl, rfl⟩ | ⟨-, m, hm, hq⟩
    · exact hv
    · exact ih m hm (hv.child hm) hq

/-- A walk meets the children of a node that is not folded. -/
theorem child_mem_walk {p q : Path} {v w : Value} (h : (q, w) ∈ walk folded order p v)
    (hq : folded q = false) {m : String × Value} (hm : m ∈ children w) :
    (q.child m.1, m.2) ∈ walk folded order p v := by
  induction v using inductOnChildren generalizing p with
  | step v ih =>
    rcases mem_walk_iff.1 h with ⟨rfl, rfl⟩ | ⟨hp, n, hn, hqn⟩
    · have hself : (q.child m.1, m.2) ∈ walk folded order (q.child m.1) m.2 :=
        mem_walk_iff.2 (.inl ⟨rfl, rfl⟩)
      exact mem_walk_iff.2 (.inr ⟨hq, m, hm, hself⟩)
    · exact mem_walk_iff.2 (.inr ⟨hp, n, hn, ih n hn hqn⟩)

/-- No path is folded between the start of a walk and what it meets. -/
theorem folded_eq_false_of_mem_walk {p q r : Path} {v w : Value}
    (h : (q, w) ∈ walk folded order p v) (hr : r = p ∨ p.Above r) (hrq : r.Above q) :
    folded r = false := by
  induction v using inductOnChildren generalizing p with
  | step v ih =>
    rcases mem_walk_iff.1 h with ⟨rfl, -⟩ | ⟨hp, m, hm, hq⟩
    · rcases hr with rfl | hbelow
      · exact absurd hrq r.not_above_self
      · exact absurd (hbelow.trans hrq) q.not_above_self
    · rcases hr with rfl | hbelow
      · exact hp
      · refine ih m hm hq ?_
        -- nothing fits between a path and the next key
        have hbetween : ¬r.Above (p.child m.1) := by
          intro hchild
          rcases Path.above_child_iff.1 hchild with rfl | habove
          · exact r.not_above_self hbelow
          · exact p.not_above_self (hbelow.trans habove)
        rcases eq_or_above_of_mem_walk hq with rfl | hchild
        · exact absurd hrq hbetween
        · rcases Path.above_or_of_above hrq hchild with rfl | hover | hunder
          · exact .inl rfl
          · exact absurd hover hbetween
          · exact .inr hunder

/-- What is met when more is folded is met in the same order. -/
theorem walk_sublist (p : Path) (v : Value) :
    (walk folded order p v).Sublist (walk (fun _ => false) order p v) := by
  induction v using inductOnChildren generalizing p with
  | step v ih =>
    rw [walk_eq, walk_eq]
    refine .cons_cons _ ?_
    cases folded p with
    | true => exact List.nil_sublist _
    | false =>
      exact List.Sublist.flatMap_right _ fun m hm => ih m (mem_childrenIn.1 hm) (p.child m.1)

/-- Walks through different children have no path in common. -/
theorem eq_of_mem_walk_child {p q : Path} {m n : String × Value}
    (hm : q ∈ (walk folded order (p.child m.1) m.2).map Prod.fst)
    (hn : q ∈ (walk folded order (p.child n.1) n.2).map Prod.fst) : m.1 = n.1 := by
  have hbelow : ∀ m : String × Value, q ∈ (walk folded order (p.child m.1) m.2).map Prod.fst →
      q = p.child m.1 ∨ (p.child m.1).Above q := by
    intro m hm
    obtain ⟨⟨r, w⟩, hr, rfl⟩ := List.mem_map.1 hm
    exact eq_or_above_of_mem_walk hr
  exact Path.key_eq_of_below_child (hbelow m hm) (hbelow n hn)

/-- **No path is met twice**, if keys are unique. -/
theorem nodup_walk {v : Value} (hkeys : v.UniqueKeys) (p : Path) :
    ((walk folded order p v).map Prod.fst).Nodup := by
  induction v using inductOnChildren generalizing p with
  | step v ih =>
    rw [walk_eq, List.map_cons, List.nodup_cons]
    cases folded p with
    | true => exact ⟨nofun, List.nodup_nil⟩
    | false =>
      constructor
      · intro hmem
        obtain ⟨⟨q, w⟩, hq, rfl⟩ := List.mem_map.1 hmem
        obtain ⟨m, -, hwalk⟩ := List.mem_flatMap.1 hq
        rcases eq_or_above_of_mem_walk hwalk with heq | habove
        · exact Path.not_above_self _ (heq ▸ Path.above_child _ m.1)
        · exact Path.not_above_self _ ((Path.above_child _ m.1).trans habove)
      · have hchildren : ((childrenIn order v).map Prod.fst).Nodup :=
          ((childrenIn_perm order v).map Prod.fst).nodup_iff.2 (nodup_children hkeys)
        have hwalks : ∀ m ∈ childrenIn order v,
            ((walk folded order (p.child m.1) m.2).map Prod.fst).Nodup := fun m hm =>
          have hchild := mem_childrenIn.1 hm
          ih m hchild (everywhere_of_mem_children hkeys hchild) _
        rw [if_neg nofun, List.map_flatMap, List.nodup_flatMap]
        refine ⟨hwalks, (List.pairwise_map.1 hchildren).imp fun hne => ?_⟩
        refine List.disjoint_left.2 fun q hq hq' => hne ?_
        exact eq_of_mem_walk_child hq hq'

end

/-! ## Visible nodes -/

/-- No container above the path is shown without its children. -/
def Visible (collapsed : Collapse) (v : Value) (p : Path) : Prop :=
  ∀ q w, Node v q w → q.Above p → children w ≠ [] → collapsed.contains q = false

/-- **A walk that stops at collapsed paths meets the visible nodes.** -/
theorem mem_walk_root_iff {collapsed : Collapse} {order : KeyOrder} {v w : Value} {p : Path} :
    (p, w) ∈ walk collapsed.contains order .root v ↔ Node v p w ∧ Visible collapsed v p := by
  constructor
  · intro h
    refine ⟨node_of_mem_walk .root h, fun q u _ habove _ => ?_⟩
    exact folded_eq_false_of_mem_walk h q.eq_root_or_above habove
  · rintro ⟨hnode, hvisible⟩
    induction hnode with
    | root => exact mem_walk_iff.2 (.inl ⟨rfl, rfl⟩)
    | @child q u m hq hm ih =>
      have hwalk := ih fun r t hr habove ht =>
        hvisible r t hr (habove.trans (q.above_child m.1)) ht
      refine child_mem_walk hwalk ?_ hm
      exact hvisible q u hq (q.above_child m.1) (List.ne_nil_of_mem hm)

/-- The whole walk meets every node. -/
theorem mem_preorder_iff {order : KeyOrder} {v w : Value} {p : Path} :
    (p, w) ∈ preorder order v ↔ Node v p w := by
  constructor
  · exact node_of_mem_walk .root
  · intro h
    induction h with
    | root => exact mem_walk_iff.2 (.inl ⟨rfl, rfl⟩)
    | child _ hm ih => exact child_mem_walk ih rfl hm

/-- Where keys are unique, a path has one node. -/
theorem Node.eq {v w w' : Value} {p : Path} (h : Node v p w) (h' : Node v p w')
    (hkeys : v.UniqueKeys) : w = w' := by
  have hpaths : ((preorder .insertion v).map Prod.fst).Nodup := nodup_walk hkeys .root
  exact (Prod.ext_iff.1 (List.inj_on_of_nodup_map hpaths (mem_preorder_iff.2 h)
    (mem_preorder_iff.2 h') rfl)).2

end LiveJson.Tree
