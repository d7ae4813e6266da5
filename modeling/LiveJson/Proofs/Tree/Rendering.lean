import LiveJson.Proofs.Json.Bounds
import LiveJson.Proofs.Json.Faults
import LiveJson.Proofs.Tree.Nodes
import Mathlib.Data.List.Basic

/-!
# The lines of a document are its visible nodes

## What is here

* `renderNode_container` — the lines of a container in terms of its children, whether it is a list or
  a map.
* `lineOf` — the line of a node.  Leaving out the lines that close containers, a document is shown
  by the lines of the nodes that a walk meets (`filter_renderNode`).
* `WellNested` — each line that closes a container belongs to one that opens it
  (`wellNested_renderNode`).
* `render_enumerates` — **what `render` shows** of a document that was read from some text.
-/

set_option autoImplicit false

namespace LiveJson.Tree

open Json

/-! ## The lines of children -/

/-- Arranging looks at keys only. -/
theorem arrange_map {α β : Type} (order : KeyOrder) (f : String × α → β)
    (entries : List (String × α)) :
    order.arrange (entries.map fun m => (m.1, f m)) =
      (order.arrange entries).map fun m => (m.1, f m) := by
  cases order with
  | insertion => rfl
  | sorted =>
    exact (List.map_mergeSort (f := fun m : String × α => (m.1, f m)) fun _ _ _ _ => rfl).symm

section
variable {collapsed : Collapse} {order : KeyOrder}

theorem renderItems_eq (p : Path) (depth i : Nat) (items : List Value) :
    renderItems collapsed order p depth i items =
      (items.zipIdx i).flatMap fun item =>
        renderNode collapsed order (indexKey item.2) (p.child (indexKey item.2)) depth item.1 := by
  induction items generalizing i with
  | nil => rfl
  | cons v rest ih => rw [renderItems, ih, List.zipIdx_cons, List.flatMap_cons]

theorem renderMembers_eq (p : Path) (depth : Nat) (members : Members) :
    renderMembers collapsed order p depth members =
      members.map fun m => (m.1, renderNode collapsed order m.1 (p.child m.1) depth m.2) := by
  induction members with
  | nil => rfl
  | cons m rest ih => rw [renderMembers, ih, List.map_cons]

/-- What kind of container a value is. -/
def container? : Value → Option Container
  | .list _ => some .list
  | .map _ => some .map
  | _ => none

/-- A container is shown around the lines of its children. -/
theorem renderNode_container {v : Value} {container : Container} (h : container? v = some container)
    (key : String) (p : Path) (depth : Nat) :
    renderNode collapsed order key p depth v =
      renderContainer collapsed key p depth container (children v).length
        ((childrenIn order v).flatMap fun m =>
          renderNode collapsed order m.1 (p.child m.1) (depth + 1) m.2) := by
  cases v with
  | list items =>
    cases h
    have hchildren : childrenIn order (.list items) = children (.list items) := rfl
    rw [renderNode, renderItems_eq, hchildren, children, List.flatMap_map, List.length_map,
      List.length_zipIdx]
  | map members =>
    cases h
    rw [renderNode, renderMembers_eq, arrange_map, List.flatMap_map, childrenIn, children]
  | _ => cases h

theorem renderNode_scalar {v : Value} (h : container? v = none) (key : String) (p : Path)
    (depth : Nat) :
    renderNode collapsed order key p depth v = [⟨depth, p, .leaf key ((literal? v).getD "")⟩] := by
  cases v <;> first | rfl | cases h

end

/-! ## The lines of nodes -/

/-- The last key of a path; the root has the empty key. -/
def Path.key (p : Path) : String :=
  p.segments.getLast?.getD ""

@[simp] theorem Path.key_child (p : Path) (key : String) : (p.child key).key = key := by
  simp [Path.key, Path.child]

@[simp] theorem Path.length_segments_child (p : Path) (key : String) :
    (p.child key).segments.length = p.segments.length + 1 := by
  simp [Path.child]

/-- What the line of a node shows. -/
def kindOf (collapsed : Collapse) (p : Path) (v : Value) : LineKind :=
  match container? v with
  | none => .leaf p.key ((literal? v).getD "")
  | some container =>
    if (children v).length = 0 then .empty p.key container
    else if collapsed.contains p then .collapsed p.key container (children v).length
    else .opened p.key container

/-- The line of a node. -/
def lineOf (collapsed : Collapse) (node : Path × Value) : Line :=
  ⟨node.1.segments.length, node.1, kindOf collapsed node.1 node.2⟩

/-- Whether the line closes a container. -/
def Line.isClosed (l : Line) : Bool :=
  match l.kind with
  | .closed _ => true
  | _ => false

/-- **The lines of a node and the nodes below it** are those of a walk, and lines that close
containers. -/
theorem filter_renderNode (collapsed : Collapse) (order : KeyOrder) (p : Path) (v : Value) :
    (renderNode collapsed order p.key p p.segments.length v).filter (fun l => !l.isClosed) =
      (walk collapsed.contains order p v).map (lineOf collapsed) := by
  induction v using inductOnChildren generalizing p with
  | step v ih =>
    rw [walk_eq, List.map_cons]
    cases hcontainer : container? v with
    | none =>
      have hchildren : childrenIn order v = [] := by
        cases v <;> first | rfl | cases hcontainer
      rw [renderNode_scalar hcontainer, hchildren]
      simp [lineOf, kindOf, hcontainer, Line.isClosed]
    | some container =>
      rw [renderNode_container hcontainer, renderContainer]
      by_cases hempty : (children v).length = 0
      · have hchildren : childrenIn order v = [] :=
          List.length_eq_zero_iff.1 ((childrenIn_perm order v).length_eq.trans hempty)
        rw [if_pos hempty, hchildren]
        simp [lineOf, kindOf, hcontainer, hempty, Line.isClosed]
      · cases hfolded : collapsed.contains p with
        | true =>
          rw [if_neg hempty]
          simp [lineOf, kindOf, hcontainer, hempty, hfolded, Line.isClosed]
        | false =>
          have hblocks : ∀ m ∈ childrenIn order v,
              (renderNode collapsed order m.1 (p.child m.1) (p.segments.length + 1) m.2).filter
                  (fun l => !l.isClosed) =
                (walk collapsed.contains order (p.child m.1) m.2).map (lineOf collapsed) := by
            intro m hm
            have hchild := ih m (mem_childrenIn.1 hm) (p.child m.1)
            rwa [Path.key_child, Path.length_segments_child] at hchild
          have hline : lineOf collapsed (p, v) =
              ⟨p.segments.length, p, .opened p.key container⟩ := by
            simp [lineOf, kindOf, hcontainer, hempty, hfolded]
          rw [if_neg hempty, if_neg nofun, if_neg nofun, List.cons_append,
            List.filter_cons_of_pos rfl, List.filter_append,
            List.filter_cons_of_neg (by simp [Line.isClosed]), List.filter_nil, List.append_nil,
            List.filter_flatMap, List.flatMap_congr hblocks, List.map_flatMap, hline]

/-! ## Nesting -/

/-- Each line that closes a container is preceded by the one that opens it, at the same depth and
path, and what stands in between is nested in the same way. -/
inductive WellNested : List Line → Prop
  | nil : WellNested []
  /-- A line that neither opens nor closes a container. -/
  | line {l : Line} {rest : List Line} :
    (∀ key container, l.kind ≠ .opened key container) → l.isClosed = false → WellNested rest →
    WellNested (l :: rest)
  /-- The lines of an opened container. -/
  | block {inner rest : List Line} (depth : Nat) (path : Path) (key : String)
    (container : Container) : WellNested inner → WellNested rest →
    WellNested (⟨depth, path, .opened key container⟩ :: inner ++
      ⟨depth, path, .closed container⟩ :: rest)

theorem WellNested.append {ls ls' : List Line} (h : WellNested ls) (h' : WellNested ls') :
    WellNested (ls ++ ls') := by
  induction h with
  | nil => exact h'
  | line hopened hclosed _ ih => exact .line hopened hclosed ih
  | block depth path key container hinner _ _ ih =>
    rw [List.append_assoc, List.cons_append]
    exact .block depth path key container hinner ih

theorem WellNested.flatMap {α : Type} {f : α → List Line} {entries : List α}
    (h : ∀ a ∈ entries, WellNested (f a)) : WellNested (entries.flatMap f) := by
  induction entries with
  | nil => exact .nil
  | cons a rest ih =>
    rw [List.flatMap_cons]
    exact (h a List.mem_cons_self).append (ih fun b hb => h b (List.mem_cons_of_mem a hb))

/-- Well-nested lines have well-nested lines put around them by a container. -/
theorem wellNested_renderContainer (collapsed : Collapse) (key : String) (p : Path) (depth : Nat)
    (container : Container) (count : Nat) {lines : List Line} (h : WellNested lines) :
    WellNested (renderContainer collapsed key p depth container count lines) := by
  rw [renderContainer]
  split
  · exact .line nofun rfl .nil
  · split
    · exact .line nofun rfl .nil
    · exact .block depth p key container h .nil

/-- **Lines are closed as they were opened.** -/
theorem wellNested_renderNode (collapsed : Collapse) (order : KeyOrder) (key : String) (p : Path)
    (depth : Nat) (v : Value) : WellNested (renderNode collapsed order key p depth v) := by
  induction v using inductOnChildren generalizing key p depth with
  | step v ih =>
    cases hcontainer : container? v with
    | none =>
      rw [renderNode_scalar hcontainer]
      exact .line nofun rfl .nil
    | some container =>
      rw [renderNode_container hcontainer]
      refine wellNested_renderContainer collapsed key p depth container _ (.flatMap ?_)
      exact fun m hm => ih m (mem_childrenIn.1 hm) m.1 (p.child m.1) (depth + 1)

/-! ## Documents -/

/-- **What is shown of a document.**  Leaving out the lines that close containers, there is one line
for each visible node, in the order of the document, and no path has two lines.  The path of a line
leads to its node, as far as positions fit into 64 bits, which is so for every text that fits into
memory.  The lines that close containers match those that open them. -/
theorem render_enumerates {text : String} {v : Value} (h : check text = .ok v)
    (collapsed : Collapse) (order : KeyOrder) :
    ∃ nodes : List (Path × Value),
      nodes.Sublist (preorder order v) ∧
      (∀ p w, (p, w) ∈ nodes ↔ Node v p w ∧ Visible collapsed v p) ∧
      (render v collapsed order).filter (fun l => !l.isClosed) = nodes.map (lineOf collapsed) ∧
      (nodes.map Prod.fst).Nodup ∧
      (text.length < UInt64.size → ∀ p w, (p, w) ∈ nodes → p.resolve? v = some w) ∧
      WellNested (render v collapsed order) := by
  obtain ⟨hfits, hkeys⟩ := readDocument_fits (check_eq_ok_iff.1 h)
  refine ⟨walk collapsed.contains order .root v, walk_sublist _ v, fun p w => mem_walk_root_iff,
    filter_renderNode collapsed order .root v, nodup_walk hkeys _, ?_,
    wellNested_renderNode collapsed order "" .root 0 v⟩
  intro hlength p w hmem
  exact (mem_walk_root_iff.1 hmem).1.resolve?_eq hkeys hfits.lists (Nat.le_of_lt hlength)

/-- Two maps and three lists, with the list under `b` collapsed: seven nodes, of which the item in the
collapsed list has no line. -/
theorem render_enumerates_collapsed :
    ∃ (v : Value) (nodes : List (Path × Value)),
      check "\x7b\"a\":[1,[],\x7b\"a\":\"x\"\x7d],\"b\":[true]\x7d" = .ok v ∧
      (render v (Collapse.empty.insert ⟨["b"]⟩) .insertion).filter (fun l => !l.isClosed) =
        nodes.map (lineOf (Collapse.empty.insert ⟨["b"]⟩)) ∧
      nodes.map Prod.fst =
        [⟨[]⟩, ⟨["a"]⟩, ⟨["a", "0"]⟩, ⟨["a", "1"]⟩, ⟨["a", "2"]⟩, ⟨["a", "2", "a"]⟩, ⟨["b"]⟩] ∧
      ∀ p w, (p, w) ∈ nodes → p.resolve? v = some w := by
  have htest : (check "\x7b\"a\":[1,[],\x7b\"a\":\"x\"\x7d],\"b\":[true]\x7d").toOption.any (fun v =>
      ((render v (Collapse.empty.insert ⟨["b"]⟩) .insertion).filter (fun l => !l.isClosed)).map
        Line.path = [⟨[]⟩, ⟨["a"]⟩, ⟨["a", "0"]⟩, ⟨["a", "1"]⟩, ⟨["a", "2"]⟩, ⟨["a", "2", "a"]⟩,
          ⟨["b"]⟩]) = true := by
    decide +kernel
  obtain ⟨v, hread, hpaths⟩ := exists_check_eq_ok htest
  obtain ⟨nodes, -, -, hlines, -, hresolve, -⟩ :=
    render_enumerates hread (Collapse.empty.insert ⟨["b"]⟩) .insertion
  refine ⟨v, nodes, hread, hlines, ?_, hresolve (by decide)⟩
  rw [hlines, List.map_map] at hpaths
  exact of_decide_eq_true hpaths

end LiveJson.Tree
