import LiveJson.Proofs.Tree.Rendering

/-!
# Folding one container

What a flag changes in the lines of a document, and what it leaves alone.

## What is here

* `renderNode_congr` — lines depend on the flags of the containers that a walk meets, and on no
  others.
* `exists_frame` — the lines of a node that is met stand between lines on which neither its own flag
  nor those below it have any influence.
* `block`, `Inside` — the lines of a container that is shown with its children.
* `render_fold`, `render_unfold` — folding and unfolding replace a block by a line and a line by a
  block.
* `render_collapse_independent` — **what setting and turning over one flag does to the lines.**
-/

set_option autoImplicit false

namespace LiveJson.Tree

open Json

section
variable {collapsed collapsed' : Collapse} {order : KeyOrder}

/-! ## Containers -/

/-- What has children is a container. -/
theorem exists_container {v : Value} (h : children v ≠ []) :
    ∃ container, container? v = some container := by
  cases v with
  | list items => exact ⟨.list, rfl⟩
  | map members => exact ⟨.map, rfl⟩
  | _ => exact absurd rfl h

theorem size?_of_container {v : Value} {container : Container} (h : container? v = some container) :
    v.size? = some (children v).length := by
  cases v with
  | list items => simp [Value.size?, children]
  | map members => rfl
  | _ => cases h

/-- The lines of values under their keys, one after the other. -/
def renderEntries (collapsed : Collapse) (order : KeyOrder) (p : Path) (depth : Nat)
    (entries : List (String × Value)) : List Line :=
  entries.flatMap fun m => renderNode collapsed order m.1 (p.child m.1) depth m.2

/-- The lines of a container that is shown with its children. -/
def block (depth : Nat) (p : Path) (key : String) (container : Container) (inner : List Line) :
    List Line :=
  ⟨depth, p, .opened key container⟩ :: inner ++ [⟨depth, p, .closed container⟩]

theorem renderNode_of_expanded {v : Value} {container : Container}
    (hcontainer : container? v = some container) (hchildren : children v ≠ []) {p : Path}
    (hp : collapsed.contains p = false) (key : String) (depth : Nat) :
    renderNode collapsed order key p depth v =
      block depth p key container
        (renderEntries collapsed order p (depth + 1) (childrenIn order v)) := by
  have hcount : (children v).length ≠ 0 := fun h => hchildren (List.length_eq_zero_iff.1 h)
  rw [renderNode_container hcontainer, renderContainer, if_neg hcount, hp,
    if_neg Bool.false_ne_true, block, renderEntries]

theorem renderNode_of_collapsed {v : Value} {container : Container}
    (hcontainer : container? v = some container) (hchildren : children v ≠ []) {p : Path}
    (hp : collapsed.contains p = true) (key : String) (depth : Nat) :
    renderNode collapsed order key p depth v =
      [⟨depth, p, .collapsed key container (children v).length⟩] := by
  have hcount : (children v).length ≠ 0 := fun h => hchildren (List.length_eq_zero_iff.1 h)
  rw [renderNode_container hcontainer, renderContainer, if_neg hcount, if_pos hp]

/-- A value without children is shown in one line, whatever is collapsed. -/
theorem renderNode_of_children_eq_nil {v : Value} (h : children v = []) (key : String) (p : Path)
    (depth : Nat) :
    renderNode collapsed order key p depth v = renderNode collapsed' order key p depth v := by
  cases hcontainer : container? v with
  | none => rw [renderNode_scalar hcontainer, renderNode_scalar hcontainer]
  | some container =>
    have hcount : (children v).length = 0 := by rw [h]; rfl
    rw [renderNode_container hcontainer, renderNode_container hcontainer, renderContainer,
      renderContainer, if_pos hcount, if_pos hcount]

/-! ## Which flags matter -/

/-- **Lines depend on the flags of the containers that a walk meets.** -/
theorem renderNode_congr {v : Value} {p : Path}
    (h : ∀ q w, (q, w) ∈ walk collapsed.contains order p v → children w ≠ [] →
      collapsed.contains q = collapsed'.contains q) (key : String) (depth : Nat) :
    renderNode collapsed order key p depth v = renderNode collapsed' order key p depth v := by
  induction v using inductOnChildren generalizing key p depth with
  | step v ih =>
    by_cases hchildren : children v = []
    · exact renderNode_of_children_eq_nil hchildren key p depth
    obtain ⟨container, hcontainer⟩ := exists_container hchildren
    have hp := h p v (mem_walk_iff.2 (.inl ⟨rfl, rfl⟩)) hchildren
    cases hfolded : collapsed.contains p with
    | true =>
      rw [renderNode_of_collapsed hcontainer hchildren hfolded,
        renderNode_of_collapsed hcontainer hchildren (hp ▸ hfolded)]
    | false =>
      rw [renderNode_of_expanded hcontainer hchildren hfolded,
        renderNode_of_expanded hcontainer hchildren (hp ▸ hfolded)]
      have hblocks : renderEntries collapsed order p (depth + 1) (childrenIn order v) =
          renderEntries collapsed' order p (depth + 1) (childrenIn order v) := by
        refine List.flatMap_congr fun m hm => ?_
        have hchild := mem_childrenIn.1 hm
        refine ih m hchild (fun q w hq hw => h q w ?_ hw) m.1 (depth + 1)
        exact mem_walk_iff.2 (.inr ⟨hfolded, m, hchild, hq⟩)
      rw [hblocks]

/-- Flags that are all alike give the same lines. -/
theorem render_congr {v : Value} (h : ∀ q, collapsed.contains q = collapsed'.contains q) :
    render v collapsed order = render v collapsed' order :=
  renderNode_congr (fun q _ _ _ => h q) "" 0

/-- Two sets of collapsed paths that differ at most in `q` and in what is below it. -/
def AgreeOutside (q : Path) (collapsed collapsed' : Collapse) : Prop :=
  ∀ r, r ≠ q → ¬q.Above r → collapsed'.contains r = collapsed.contains r

theorem agreeOutside_set (q : Path) (collapsed : Collapse) (flag : Bool) :
    AgreeOutside q collapsed (collapsed.set q flag) := by
  intro r hr _
  rw [Collapse.contains_set, if_neg hr]

/-- Beside a path, what is below it makes no difference. -/
theorem renderEntries_beside {p q : Path} {key : String} (hagree : AgreeOutside q collapsed collapsed')
    (hq : q = p.child key ∨ (p.child key).Above q) {entries : List (String × Value)}
    (hentries : ∀ m ∈ entries, m.1 ≠ key) (depth : Nat) :
    renderEntries collapsed' order p depth entries =
      renderEntries collapsed order p depth entries := by
  refine List.flatMap_congr fun m hm => (renderNode_congr (fun r w hr _ => ?_) _ _).symm
  have hother := hentries m hm
  refine (hagree r ?_ ?_).symm
  · rintro rfl
    exact hother (Path.key_eq_of_below_child (eq_or_above_of_mem_walk hr) hq)
  · intro hbelow
    have hkey : r = p.child key ∨ (p.child key).Above r := by
      rcases hq with rfl | hq
      · exact .inr hbelow
      · exact .inr (hq.trans hbelow)
    exact hother (Path.key_eq_of_below_child (eq_or_above_of_mem_walk hr) hkey)

/-- Where keys are different, those on either side of a member are not its own. -/
theorem forall_ne_of_nodup_append {pre post : List (String × Value)} {m : String × Value}
    (h : ((pre ++ m :: post).map Prod.fst).Nodup) :
    (∀ n ∈ pre, n.1 ≠ m.1) ∧ ∀ n ∈ post, n.1 ≠ m.1 := by
  simp only [List.map_append, List.map_cons, List.nodup_middle, List.nodup_cons, List.mem_append,
    not_or] at h
  obtain ⟨⟨hpre, hpost⟩, -⟩ := h
  constructor
  · intro n hn heq
    exact hpre (heq ▸ List.mem_map_of_mem hn)
  · intro n hn heq
    exact hpost (heq ▸ List.mem_map_of_mem hn)

/-- **The lines around a node** that is met do not depend on its flag, nor on those below it. -/
theorem exists_frame {v w : Value} (hkeys : v.UniqueKeys) {p q : Path}
    (h : (q, w) ∈ walk collapsed.contains order p v) :
    ∃ front back, ∀ collapsed', AgreeOutside q collapsed collapsed' →
      renderNode collapsed' order p.key p p.segments.length v =
        front ++ renderNode collapsed' order q.key q q.segments.length w ++ back := by
  induction v using inductOnChildren generalizing p with
  | step v ih =>
    rcases mem_walk_iff.1 h with ⟨rfl, rfl⟩ | ⟨hp, m, hm, hq⟩
    · exact ⟨[], [], fun _ _ => by rw [List.nil_append, List.append_nil]⟩
    have hchildren : children v ≠ [] := List.ne_nil_of_mem hm
    obtain ⟨container, hcontainer⟩ := exists_container hchildren
    have hbelow : q = p.child m.1 ∨ (p.child m.1).Above q := eq_or_above_of_mem_walk hq
    have hpq : p.Above q := by
      rcases hbelow with rfl | hbelow
      · exact p.above_child m.1
      · exact (p.above_child m.1).trans hbelow
    -- the child on the way to the node, between its siblings
    have hmem : m ∈ childrenIn order v := mem_childrenIn.2 hm
    obtain ⟨pre, post, hsplit⟩ := List.append_of_mem hmem
    have hnodup : ((childrenIn order v).map Prod.fst).Nodup :=
      ((childrenIn_perm order v).map Prod.fst).nodup_iff.2 (nodup_children hkeys)
    rw [hsplit] at hnodup
    obtain ⟨hpre, hpost⟩ := forall_ne_of_nodup_append hnodup
    obtain ⟨front, back, hframe⟩ := ih m hm (everywhere_of_mem_children hkeys hm) hq
    refine ⟨⟨p.segments.length, p, .opened p.key container⟩ ::
        renderEntries collapsed order p (p.segments.length + 1) pre ++ front,
      back ++ renderEntries collapsed order p (p.segments.length + 1) post ++
        [⟨p.segments.length, p, .closed container⟩], fun collapsed' hagree => ?_⟩
    have hp' : collapsed'.contains p = false := by
      have hne : p ≠ q := fun heq => p.not_above_self (heq ▸ hpq)
      rw [hagree p hne fun hqp => p.not_above_self (hpq.trans hqp), hp]
    have hchild := hframe collapsed' hagree
    rw [Path.key_child, Path.length_segments_child] at hchild
    have hentries : renderEntries collapsed' order p (p.segments.length + 1) (childrenIn order v) =
        renderEntries collapsed order p (p.segments.length + 1) pre ++
          (front ++ renderNode collapsed' order q.key q q.segments.length w ++ back) ++
          renderEntries collapsed order p (p.segments.length + 1) post := by
      rw [hsplit, ← hchild, ← renderEntries_beside hagree hbelow hpre,
        ← renderEntries_beside hagree hbelow hpost]
      simp only [renderEntries, List.flatMap_append, List.flatMap_cons, List.append_assoc]
    rw [renderNode_of_expanded hcontainer hchildren hp', hentries, block]
    simp only [List.append_assoc, List.cons_append]

/-! ## The lines of a document -/

/-- The lines inside a container: they are closed as they were opened, and those of nodes below it. -/
structure Inside (p : Path) (inner : List Line) : Prop where
  nested : WellNested inner
  below : ∀ l ∈ inner, p.Above l.path

/-- The lines of a node are its own and those of nodes below it. -/
theorem path_of_mem_renderNode {v : Value} {key : String} {p : Path} {depth : Nat} {l : Line}
    (h : l ∈ renderNode collapsed order key p depth v) : l.path = p ∨ p.Above l.path := by
  induction v using inductOnChildren generalizing key p depth with
  | step v ih =>
    cases hcontainer : container? v with
    | none =>
      rw [renderNode_scalar hcontainer, List.mem_singleton] at h
      exact .inl (by rw [h])
    | some container =>
      rw [renderNode_container hcontainer, renderContainer] at h
      split_ifs at h
      · rw [List.mem_singleton] at h
        exact .inl (by rw [h])
      · rw [List.mem_singleton] at h
        exact .inl (by rw [h])
      · rw [List.mem_append, List.mem_cons, List.mem_flatMap, List.mem_singleton] at h
        rcases h with (rfl | ⟨m, hm, hl⟩) | rfl
        · exact .inl rfl
        · rcases ih m (mem_childrenIn.1 hm) hl with hpath | hbelow
          · exact .inr (hpath ▸ p.above_child m.1)
          · exact .inr ((p.above_child m.1).trans hbelow)
        · exact .inl rfl

theorem inside_renderEntries (p : Path) (depth : Nat) (entries : List (String × Value)) :
    Inside p (renderEntries collapsed order p depth entries) where
  nested := .flatMap fun m _ => wellNested_renderNode collapsed order m.1 (p.child m.1) depth m.2
  below l hl := by
    obtain ⟨m, -, hm⟩ := List.mem_flatMap.1 hl
    rcases path_of_mem_renderNode hm with hpath | hbelow
    · exact hpath ▸ p.above_child m.1
    · exact (p.above_child m.1).trans hbelow

theorem filter_render (v : Value) :
    (render v collapsed order).filter (fun l => !l.isClosed) =
      (walk collapsed.contains order .root v).map (lineOf collapsed) :=
  filter_renderNode collapsed order .root v

/-- A line that closes nothing is that of a node that is met. -/
theorem exists_node_of_mem_render {v : Value} {depth : Nat} {p : Path} {kind : LineKind}
    (h : ⟨depth, p, kind⟩ ∈ render v collapsed order) (hclosed : ∀ c, kind ≠ .closed c) :
    ∃ w, (p, w) ∈ walk collapsed.contains order .root v ∧ depth = p.segments.length ∧
      kindOf collapsed p w = kind := by
  have hopen : Line.isClosed ⟨depth, p, kind⟩ = false := by
    cases kind with
    | closed c => exact absurd rfl (hclosed c)
    | _ => rfl
  have hfilter : ⟨depth, p, kind⟩ ∈ (render v collapsed order).filter (fun l => !l.isClosed) :=
    List.mem_filter.2 ⟨h, by rw [hopen]; rfl⟩
  rw [filter_render] at hfilter
  obtain ⟨⟨q, w⟩, hq, hline⟩ := List.mem_map.1 hfilter
  cases hline
  exact ⟨w, hq, rfl, rfl⟩

/-- A node that is met has its line. -/
theorem lineOf_mem_render {v w : Value} {p : Path}
    (h : (p, w) ∈ walk collapsed.contains order .root v) :
    lineOf collapsed (p, w) ∈ render v collapsed order := by
  have hline := List.mem_map_of_mem (f := lineOf collapsed) h
  rw [← filter_render] at hline
  exact List.mem_of_mem_filter hline

theorem kindOf_eq_opened_iff {p : Path} {v : Value} {key : String} {container : Container} :
    kindOf collapsed p v = .opened key container ↔
      key = p.key ∧ container? v = some container ∧ children v ≠ [] ∧
        collapsed.contains p = false := by
  unfold kindOf
  constructor
  · intro h
    split at h
    · cases h
    · next hcontainer =>
      split_ifs at h with hcount hp
      cases h
      exact ⟨rfl, hcontainer, fun hnil => hcount (List.length_eq_zero_iff.2 hnil),
        Bool.eq_false_iff.2 hp⟩
  · rintro ⟨rfl, hcontainer, hchildren, hp⟩
    simp [hcontainer, hchildren, hp]

theorem kindOf_eq_collapsed_iff {p : Path} {v : Value} {key : String} {container : Container}
    {count : Nat} :
    kindOf collapsed p v = .collapsed key container count ↔
      key = p.key ∧ container? v = some container ∧ children v ≠ [] ∧
        collapsed.contains p = true ∧ count = (children v).length := by
  unfold kindOf
  constructor
  · intro h
    split at h
    · cases h
    · next hcontainer =>
      split_ifs at h with hcount hp
      cases h
      exact ⟨rfl, hcontainer, fun hnil => hcount (List.length_eq_zero_iff.2 hnil), hp, rfl⟩
  · rintro ⟨rfl, hcontainer, hchildren, hp, rfl⟩
    simp [hcontainer, hchildren, hp]

/-! ## Folding and unfolding -/

/-- **Folding replaces a block by a line.** -/
theorem render_fold {v : Value} (hkeys : v.UniqueKeys) {depth : Nat} {p : Path} {key : String}
    {container : Container} (h : ⟨depth, p, .opened key container⟩ ∈ render v collapsed order) :
    ∃ w count front inner back, Node v p w ∧ w.size? = some count ∧ Inside p inner ∧
      render v collapsed order = front ++ block depth p key container inner ++ back ∧
      render v (collapsed.set p true) order =
        front ++ [⟨depth, p, .collapsed key container count⟩] ++ back := by
  obtain ⟨w, hw, rfl, hkind⟩ := exists_node_of_mem_render h nofun
  obtain ⟨rfl, hcontainer, hchildren, hp⟩ := kindOf_eq_opened_iff.1 hkind
  obtain ⟨front, back, hframe⟩ := exists_frame hkeys hw
  have hexpanded := hframe collapsed fun _ _ _ => rfl
  have hset : (collapsed.set p true).contains p = true := by simp
  have hcollapsed := hframe (collapsed.set p true) (agreeOutside_set p collapsed true)
  rw [renderNode_of_expanded hcontainer hchildren hp] at hexpanded
  rw [renderNode_of_collapsed hcontainer hchildren hset] at hcollapsed
  exact ⟨w, _, front, _, back, (mem_walk_root_iff.1 hw).1, size?_of_container hcontainer,
    inside_renderEntries p _ _, hexpanded, hcollapsed⟩

/-- A walk from a node on meets what is below it and has no folded container in between. -/
theorem mem_walk_of_above {v w u : Value} (hkeys : v.UniqueKeys) {folded : Path → Bool} {p q : Path}
    (hp : Node v p w) (hq : Node v q u) (habove : p.Above q)
    (hfree : ∀ r x, Node v r x → r.Above q → children x ≠ [] → folded r = false) :
    (q, u) ∈ walk folded order p w := by
  induction hq with
  | root =>
    obtain ⟨key, rest, hsegments⟩ := habove
    cases p
    simp [Path.root] at hsegments
  | @child r x m hr hm ih =>
    have hr' : folded r = false := hfree r x hr (r.above_child m.1) (List.ne_nil_of_mem hm)
    rcases Path.above_child_iff.1 habove with rfl | habove
    · obtain rfl := hp.eq hr hkeys
      exact child_mem_walk (mem_walk_iff.2 (.inl ⟨rfl, rfl⟩)) hr' hm
    · have hwalk := ih habove fun s y hs hsr => hfree s y hs (hsr.trans (r.above_child m.1))
      exact child_mem_walk hwalk hr' hm

/-- **Unfolding replaces a line by a block.**  A container in the block that is visible is shown folded
if its flag said so while the block was not shown. -/
theorem render_unfold {v : Value} (hkeys : v.UniqueKeys) {depth : Nat} {p : Path} {key : String}
    {container : Container} {count : Nat}
    (h : ⟨depth, p, .collapsed key container count⟩ ∈ render v collapsed order) :
    ∃ front inner back, Inside p inner ∧
      render v collapsed order = front ++ [⟨depth, p, .collapsed key container count⟩] ++ back ∧
      render v (collapsed.set p false) order =
        front ++ block depth p key container inner ++ back ∧
      ∀ q u, Node v q u → p.Above q → children u ≠ [] → collapsed.contains q = true →
        Visible (collapsed.set p false) v q →
        ∃ container, container? u = some container ∧
          ⟨q.segments.length, q, .collapsed q.key container (children u).length⟩ ∈ inner := by
  obtain ⟨w, hw, rfl, hkind⟩ := exists_node_of_mem_render h nofun
  obtain ⟨rfl, hcontainer, hchildren, hp, rfl⟩ := kindOf_eq_collapsed_iff.1 hkind
  obtain ⟨front, back, hframe⟩ := exists_frame hkeys hw
  have hcollapsed := hframe collapsed fun _ _ _ => rfl
  have hset : (collapsed.set p false).contains p = false := by simp
  have hexpanded := hframe (collapsed.set p false) (agreeOutside_set p collapsed false)
  have hblock : renderNode (collapsed.set p false) order p.key p p.segments.length w = _ :=
    renderNode_of_expanded hcontainer hchildren hset p.key p.segments.length
  rw [renderNode_of_collapsed hcontainer hchildren hp] at hcollapsed
  rw [hblock] at hexpanded
  refine ⟨front, _, back, inside_renderEntries p _ _, hcollapsed, hexpanded, ?_⟩
  intro q u hq habove hu hflag hvisible
  have hwalk : (q, u) ∈ walk (collapsed.set p false).contains order p w :=
    mem_walk_of_above hkeys (mem_walk_root_iff.1 hw).1 hq habove hvisible
  have hne : q ≠ p := fun heq => p.not_above_self (heq ▸ habove)
  have hflag' : (collapsed.set p false).contains q = true := by
    rw [Collapse.contains_set, if_neg hne, hflag]
  obtain ⟨inContainer, hin⟩ := exists_container hu
  have hkind : kindOf (collapsed.set p false) q u =
      .collapsed q.key inContainer (children u).length :=
    kindOf_eq_collapsed_iff.2 ⟨rfl, hin, hu, hflag', rfl⟩
  have hmem : lineOf (collapsed.set p false) (q, u) ∈
      renderNode (collapsed.set p false) order p.key p p.segments.length w := by
    have hlines := filter_renderNode (collapsed.set p false) order p w
    exact List.mem_of_mem_filter (hlines ▸ List.mem_map_of_mem hwalk)
  rw [hblock, block, List.mem_append, List.mem_cons, List.mem_singleton, lineOf, hkind] at hmem
  refine ⟨inContainer, hin, ?_⟩
  rcases hmem with (heq | hinner) | heq
  · exact absurd (congrArg Line.path heq) hne
  · exact hinner
  · exact absurd (congrArg Line.path heq) hne

/-- A path without a toggle may be turned over with no effect. -/
theorem render_toggle_of_no_toggle {v : Value} {p : Path}
    (h : ∀ l ∈ render v collapsed order, l.hasToggle = true → l.path ≠ p) :
    render v (collapsed.toggle p) order = render v collapsed order := by
  refine (renderNode_congr (fun q w hq hw => ?_) "" 0).symm
  have hne : q ≠ p := by
    refine h _ (lineOf_mem_render hq) ?_
    obtain ⟨container, hcontainer⟩ := exists_container hw
    cases hflag : collapsed.contains q with
    | true =>
      have hkind := kindOf_eq_collapsed_iff.2 ⟨rfl, hcontainer, hw, hflag, rfl⟩
      simp only [Line.hasToggle, lineOf, hkind]
    | false =>
      have hkind := kindOf_eq_opened_iff.2 ⟨rfl, hcontainer, hw, hflag⟩
      simp only [Line.hasToggle, lineOf, hkind]
  rw [Collapse.contains_toggle, if_neg hne]

/-- A flag that is turned over twice is as it was. -/
theorem render_toggle_toggle (v : Value) (p : Path) :
    render v ((collapsed.toggle p).toggle p) order = render v collapsed order := by
  refine render_congr fun q => ?_
  by_cases hq : q = p <;> simp [hq]

/-! ## The only flag -/

/-- Whether the line is that of a container without its children. -/
def Line.isCollapsed (l : Line) : Bool :=
  match l.kind with
  | .collapsed _ _ _ => true
  | _ => false

/-- No container is shown without its children unless some flag is set. -/
theorem isCollapsed_of_mem_render {v : Value} (hnone : ∀ q, collapsed.contains q = false) {l : Line}
    (h : l ∈ render v collapsed order) : l.isCollapsed = false := by
  obtain ⟨depth, p, kind⟩ := l
  cases kind with
  | collapsed key container count =>
    obtain ⟨w, -, -, hkind⟩ := exists_node_of_mem_render h nofun
    obtain ⟨-, -, -, hp, -⟩ := kindOf_eq_collapsed_iff.1 hkind
    rw [hnone p] at hp
    cases hp
  | _ => rfl

theorem filter_render_of_no_flag {v : Value} (hnone : ∀ q, collapsed.contains q = false) :
    (render v collapsed order).filter Line.isCollapsed = [] := by
  rw [List.filter_eq_nil_iff]
  intro l hl
  rw [isCollapsed_of_mem_render hnone hl]
  exact nofun

/-- The flag of a path without a container has no effect. -/
theorem render_set_of_not_node {v : Value} {p : Path} (h : ∀ w, ¬Node v p w) (flag : Bool) :
    render v (collapsed.set p flag) order = render v collapsed order := by
  refine (renderNode_congr (fun q w hq _ => ?_) "" 0).symm
  have hne : q ≠ p := by
    rintro rfl
    exact h w (mem_walk_root_iff.1 hq).1
  rw [Collapse.contains_set, if_neg hne]

/-- **The only flag folds one container.** -/
theorem filter_render_set {v w : Value} (hkeys : v.UniqueKeys)
    (hnone : ∀ q, collapsed.contains q = false) {p : Path} (hnode : Node v p w)
    (hchildren : children w ≠ []) :
    (render v (collapsed.set p true) order).filter Line.isCollapsed =
      [lineOf (collapsed.set p true) (p, w)] := by
  have hw : (p, w) ∈ walk collapsed.contains order .root v :=
    mem_walk_root_iff.2 ⟨hnode, fun q _ _ _ _ => hnone q⟩
  obtain ⟨container, hcontainer⟩ := exists_container hchildren
  have hopened : ⟨p.segments.length, p, .opened p.key container⟩ ∈ render v collapsed order := by
    have hkind := kindOf_eq_opened_iff.2 ⟨rfl, hcontainer, hchildren, hnone p⟩
    rw [← hkind]
    exact lineOf_mem_render hw
  obtain ⟨u, count, front, inner, back, hu, hcount, -, hexpanded, hcollapsed⟩ :=
    render_fold hkeys hopened
  obtain rfl := hnode.eq hu hkeys
  obtain rfl := Option.some.inj ((size?_of_container hcontainer).symm.trans hcount)
  have hfront : front.filter Line.isCollapsed = [] ∧ back.filter Line.isCollapsed = [] := by
    have hfilter : (render v collapsed order).filter Line.isCollapsed = [] :=
      filter_render_of_no_flag hnone
    rw [hexpanded, List.filter_append, List.filter_append, List.append_eq_nil_iff,
      List.append_eq_nil_iff] at hfilter
    exact ⟨hfilter.1.1, hfilter.2⟩
  have hset : (collapsed.set p true).contains p = true := by simp
  have hkind := kindOf_eq_collapsed_iff.2 ⟨rfl, hcontainer, hchildren, hset, rfl⟩
  rw [hcollapsed, List.filter_append, List.filter_append, hfront.1, hfront.2, List.append_nil,
    List.nil_append, lineOf, hkind]
  rfl

end

/-- **One flag changes one container.**  Folding a container that is shown with its children replaces
its block by one line, and unfolding one that is shown without them replaces this line by a block in
which flags set before are still good.  Every other line stays.  A path that has no toggle changes
nothing, and a flag that is turned over twice is as it was. -/
theorem render_collapse_independent {v : Value} (hkeys : v.UniqueKeys) (collapsed : Collapse)
    (order : KeyOrder) (p : Path) :
    (∀ depth key container, ⟨depth, p, .opened key container⟩ ∈ render v collapsed order →
      ∃ w count front inner back, Node v p w ∧ w.size? = some count ∧ Inside p inner ∧
        render v collapsed order = front ++ block depth p key container inner ++ back ∧
        render v (collapsed.set p true) order =
          front ++ [⟨depth, p, .collapsed key container count⟩] ++ back) ∧
    (∀ depth key container count,
      ⟨depth, p, .collapsed key container count⟩ ∈ render v collapsed order →
      ∃ front inner back, Inside p inner ∧
        render v collapsed order = front ++ [⟨depth, p, .collapsed key container count⟩] ++ back ∧
        render v (collapsed.set p false) order =
          front ++ block depth p key container inner ++ back ∧
        ∀ q u, Node v q u → p.Above q → children u ≠ [] → collapsed.contains q = true →
          Visible (collapsed.set p false) v q →
          ∃ container, container? u = some container ∧
            ⟨q.segments.length, q, .collapsed q.key container (children u).length⟩ ∈ inner) ∧
    ((∀ l ∈ render v collapsed order, l.hasToggle = true → l.path ≠ p) →
      render v (collapsed.toggle p) order = render v collapsed order) ∧
    render v ((collapsed.toggle p).toggle p) order = render v collapsed order :=
  ⟨fun _ _ _ => render_fold hkeys, fun _ _ _ _ => render_unfold hkeys, render_toggle_of_no_toggle,
    render_toggle_toggle v p⟩

/-- Two maps in a list, one in the other and both folded: unfolding the outer one shows the inner one
folded, as it was before it went out of sight. -/
theorem render_collapse_independent_hidden :
    ∃ v collapsed front inner back,
      v = .list [.map [("a", .map [("b", .null)])], .null] ∧
      collapsed = (Collapse.empty.insert ⟨["0"]⟩).insert ⟨["0", "a"]⟩ ∧
      v.UniqueKeys ∧
      render v collapsed .sorted = front ++ [⟨1, ⟨["0"]⟩, .collapsed "0" .map 1⟩] ++ back ∧
      render v (collapsed.set ⟨["0"]⟩ false) .sorted =
        front ++ block 1 ⟨["0"]⟩ "0" .map inner ++ back ∧
      ⟨2, ⟨["0", "a"]⟩, .collapsed "a" .map 1⟩ ∈ inner := by
  have hkeys : Value.UniqueKeys (.list [.map [("a", .map [("b", .null)])], .null]) := by decide
  obtain ⟨-, hunfold, -⟩ := render_collapse_independent hkeys
    ((Collapse.empty.insert ⟨["0"]⟩).insert ⟨["0", "a"]⟩) .sorted ⟨["0"]⟩
  obtain ⟨front, inner, back, -, hcollapsed, hexpanded, hflagged⟩ :=
    hunfold 1 "0" .map 1 (by decide +kernel)
  have hnode : Node (.list [.map [("a", .map [("b", .null)])], .null])
      ((Path.root.child "0").child "a") (.map [("b", .null)]) :=
    .child (m := ("a", _)) (.child (m := ("0", _)) .root List.mem_cons_self) List.mem_cons_self
  have hvisible : Visible (((Collapse.empty.insert ⟨["0"]⟩).insert ⟨["0", "a"]⟩).set ⟨["0"]⟩ false)
      (.list [.map [("a", .map [("b", .null)])], .null]) ((Path.root.child "0").child "a") := by
    intro q w _ habove _
    rcases Path.above_child_iff.1 habove with rfl | habove
    · decide
    · rcases Path.above_child_iff.1 habove with rfl | habove
      · decide
      · obtain ⟨key, rest, hsegments⟩ := habove
        simp [Path.root] at hsegments
  obtain ⟨container, hcontainer, hinner⟩ := hflagged _ _ hnode
    ((Path.root.child "0").above_child "a") nofun (by decide) hvisible
  cases hcontainer
  exact ⟨_, _, front, inner, back, rfl, rfl, hkeys, hcollapsed, hexpanded, hinner⟩

end LiveJson.Tree
