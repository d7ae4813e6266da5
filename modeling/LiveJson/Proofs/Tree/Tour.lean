import LiveJson.Proofs.Json.Characters
import LiveJson.Proofs.Tree.Folding

/-!
# The tree and the text, line by line

A document is written with one line for each scalar and each empty container, and two for any other
container; and so it is shown, as long as nothing is collapsed and members stand as they were written.
Both printers go through the document in the same way, which is said here once: a *tour* visits every
node, and a container with children a second time when they are done.

## What is here

* `Place` — a node with its path and its surroundings: the key in front of it, and whether a sibling
  follows.
* `Visit`, `tour` — the tour.  A visit has a line of the tree (`Visit.line`) and a line of the text
  (`Visit.text`), which is told from the line of the tree and the surroundings.
* `map_line_tour`, `flatMap_text_tour` — what the two printers make of the tour of a node.
* `render_agrees_with_text` — **the lines of the text and the lines of the tree are those of one tour.**
-/

set_option autoImplicit false

namespace LiveJson.Tree

open Json

/-! ## The tour -/

/-- A node in its surroundings. -/
structure Place where
  path : Path
  value : Value
  /-- The key of the node, if it is a member of a map. -/
  key? : Option String
  /-- Whether a sibling follows. -/
  followed : Bool

/-- The document, which is no member and has no siblings. -/
def Place.document (v : Value) : Place :=
  ⟨.root, v, none, false⟩

/-- The children of a node in their surroundings. -/
def Place.children (q : Place) : List Place :=
  (Tree.children q.value).zipIdx.map fun child =>
    { path := q.path.child child.1.1
      value := child.1.2
      key? := if container? q.value = some .map then some child.1.1 else none
      followed := decide (child.2 + 1 < (Tree.children q.value).length) }

/-- A node is visited once, or twice if it is a container with children. -/
inductive Visit where
  | first (place : Place)
  | last (place : Place) (container : Container)

theorem Place.map_children (q : Place) :
    q.children.map (fun r => (r.path.key, r.value)) = Tree.children q.value := by
  rw [children, List.map_map]
  have hfst : ∀ child : (String × Value) × Nat,
      ((q.path.child child.1.1).key, child.1.2) = child.1 := fun child => by rw [Path.key_child]
  exact (List.map_congr_left fun child _ => hfst child).trans (List.zipIdx_map_fst 0 _)

theorem Place.path_of_mem_children {q r : Place} (h : r ∈ q.children) :
    r.path = q.path.child r.path.key := by
  obtain ⟨child, -, rfl⟩ := List.mem_map.1 h
  rw [Path.key_child]

theorem Place.mem_children_value {q r : Place} (h : r ∈ q.children) :
    (r.path.key, r.value) ∈ Tree.children q.value :=
  q.map_children ▸ List.mem_map_of_mem h

/-- Induction on places by their children. -/
@[elab_as_elim]
theorem Place.induct {motive : Place → Prop}
    (step : ∀ q, (∀ r ∈ q.children, motive r) → motive q) (q : Place) : motive q :=
  step q fun r _ => Place.induct step r
termination_by sizeOf q.value
decreasing_by exact sizeOf_lt_of_mem_children (Place.mem_children_value ‹_›)

theorem Place.children_eq_nil_iff {q : Place} : q.children = [] ↔ Tree.children q.value = [] := by
  rw [← q.map_children, List.map_eq_nil_iff]

/-- **The visits of a node and of what is below it.** -/
def tour (q : Place) : List Visit :=
  match container? q.value with
  | none => [.first q]
  | some container =>
    if q.children.isEmpty then [.first q]
    else .first q :: q.children.attach.flatMap (fun r => tour r.1) ++ [.last q container]
termination_by sizeOf q.value
decreasing_by exact sizeOf_lt_of_mem_children (Place.mem_children_value r.2)

theorem tour_of_children_eq_nil {q : Place} (h : q.children = []) : tour q = [.first q] := by
  rw [tour, h]
  split <;> rfl

theorem tour_container {q : Place} {container : Container} (hq : container? q.value = some container)
    (h : q.children ≠ []) :
    tour q = .first q :: q.children.flatMap tour ++ [.last q container] := by
  have hattach := List.flatMap_map Subtype.val tour q.children.attach
  rw [List.attach_map_subtype_val] at hattach
  have hempty : ¬q.children.isEmpty = true := fun hnil => h (List.isEmpty_iff.1 hnil)
  rw [tour, hq]
  simp only [if_neg hempty, hattach]

/-! ## What is shown at a visit -/

/-- The node that is visited. -/
def Visit.place : Visit → Place
  | .first q | .last q _ => q

/-- The line of the tree. -/
def Visit.line : Visit → Line
  | .first q => lineOf .empty (q.path, q.value)
  | .last q container => ⟨q.path.segments.length, q.path, .closed container⟩

/-- What stands in front of a value in the text: the key of a member, in front of its first line. -/
def Visit.keyText : Visit → List Char
  | .first q =>
    match q.key? with
    | some key => writeString key ++ [':', ' ']
    | none => []
  | .last _ _ => []

/-- What the text has for a line of the tree, but for what is around it.  Strings are escaped, and
other scalars are written as the tree shows them. -/
def bodyText (v : Value) : LineKind → List Char
  | .leaf _ literal =>
    match v with
    | .string s => writeString s
    | _ => literal.toList
  | .opened _ container => [container.opener]
  | .closed container => [container.closer]
  | .empty _ container | .collapsed _ container _ => [container.opener, container.closer]

/-- Whether it is the last visit of the node. -/
def Visit.isLast : Visit → Bool
  | .first q => q.children.isEmpty
  | .last _ _ => true

/-- **The line of the text,** told from the line of the tree and the surroundings of the node. -/
def Visit.text (x : Visit) : List Char :=
  indent x.line.depth ++ x.keyText ++ bodyText x.place.value x.line.kind ++
    if x.isLast && x.place.followed then [','] else []

/-! ## The tree -/

theorem childrenIn_insertion (v : Value) : childrenIn .insertion v = Tree.children v := by
  cases v <;> rfl

/-- A node without children has one line. -/
theorem renderNode_eq_lineOf {v : Value} (h : Tree.children v = []) (p : Path) :
    renderNode .empty .insertion p.key p p.segments.length v = [lineOf .empty (p, v)] := by
  rw [lineOf, kindOf]
  cases hcontainer : container? v with
  | none => exact renderNode_scalar hcontainer _ _ _
  | some container =>
    have hcount : (Tree.children v).length = 0 := by rw [h]; rfl
    rw [renderNode_container hcontainer, renderContainer, if_pos hcount]
    simp only [if_pos hcount]

/-- **The tree shows the visits of a tour.** -/
theorem map_line_tour (q : Place) :
    (tour q).map Visit.line =
      renderNode .empty .insertion q.path.key q.path q.path.segments.length q.value := by
  induction q using Place.induct with
  | step q ih =>
    by_cases hchildren : q.children = []
    · rw [tour_of_children_eq_nil hchildren,
        renderNode_eq_lineOf (Place.children_eq_nil_iff.1 hchildren)]
      rfl
    · have hvalue : Tree.children q.value ≠ [] := fun h => hchildren (Place.children_eq_nil_iff.2 h)
      obtain ⟨container, hcontainer⟩ := exists_container hvalue
      have hfirst : (Visit.first q).line =
          ⟨q.path.segments.length, q.path, .opened q.path.key container⟩ := by
        have hcount : (Tree.children q.value).length ≠ 0 :=
          fun h => hvalue (List.length_eq_zero_iff.1 h)
        simp [Visit.line, lineOf, kindOf, hcontainer, hcount]
      have hinner : (q.children.flatMap tour).map Visit.line =
          renderEntries .empty .insertion q.path (q.path.segments.length + 1)
            (Tree.children q.value) := by
        rw [renderEntries, ← q.map_children, List.flatMap_map, List.map_flatMap]
        refine List.flatMap_congr fun r hr => ?_
        rw [ih r hr, ← Place.path_of_mem_children hr]
        rw [Place.path_of_mem_children hr, Path.length_segments_child]
      rw [tour_container hcontainer hchildren, List.map_append, List.map_cons, hfirst, hinner,
        renderNode_of_expanded hcontainer hvalue (Collapse.contains_empty q.path),
        childrenIn_insertion, block]
      rfl

/-! ## The text -/

/-- What is written for a node, from the line feed in front of it on. -/
def Place.entry (q : Place) : List Char :=
  newline q.path.segments.length ++ (Visit.first q).keyText ++
    writeValue q.path.segments.length q.value

/-- Items are written with commas between them. -/
theorem writeItems_eq_intercalate (depth : Nat) (v : Value) (rest : List Value) :
    newline depth ++ writeValue depth v ++ writeItems depth rest =
      [','].intercalate ((v :: rest).map fun w => newline depth ++ writeValue depth w) := by
  induction rest generalizing v with
  | nil => simp [writeItems]
  | cons w rest ih =>
    have hrest := ih w
    rw [List.map_cons] at hrest
    rw [List.map_cons, List.map_cons, List.intercalate_cons_cons, ← hrest, writeItems]
    simp

/-- Members are written with commas between them. -/
theorem writeMembers_eq_intercalate (depth : Nat) (m : String × Value) (rest : Members) :
    newline depth ++ writeString m.1 ++ [':', ' '] ++ writeValue depth m.2 ++
        writeMembers depth rest =
      [','].intercalate ((m :: rest).map fun n =>
        newline depth ++ writeString n.1 ++ [':', ' '] ++ writeValue depth n.2) := by
  induction rest generalizing m with
  | nil => simp [writeMembers]
  | cons n rest ih =>
    have hrest := ih n
    rw [List.map_cons] at hrest
    rw [List.map_cons, List.map_cons, List.intercalate_cons_cons, ← hrest, writeMembers]
    simp

/-- What is written for the children of a node, told from the node. -/
theorem map_entry_children (q : Place) :
    q.children.map Place.entry = (Tree.children q.value).map fun m =>
      newline (q.path.segments.length + 1) ++
        (if container? q.value = some .map then writeString m.1 ++ [':', ' '] else []) ++
        writeValue (q.path.segments.length + 1) m.2 := by
  rw [← q.map_children, List.map_map]
  refine List.map_congr_left fun r hr => ?_
  obtain ⟨child, -, rfl⟩ := List.mem_map.1 hr
  simp only [Place.entry, Visit.keyText, Path.length_segments_child, Function.comp_apply,
    Path.key_child]
  split_ifs <;> rfl

/-- A container is written around its children, which have commas between them. -/
theorem writeValue_container {q : Place} {container : Container}
    (hq : container? q.value = some container) (h : q.children ≠ []) :
    writeValue q.path.segments.length q.value =
      container.opener :: [','].intercalate (q.children.map Place.entry) ++
        newline q.path.segments.length ++ [container.closer] := by
  rw [map_entry_children]
  rw [Ne, Place.children_eq_nil_iff] at h
  obtain ⟨p, v, key?, followed⟩ := q
  cases v with
  | list items =>
    cases hq
    cases items with
    | nil => exact absurd rfl h
    | cons v rest =>
      have hitems : (Tree.children (.list (v :: rest))).map Prod.snd = v :: rest := by
        rw [Tree.children, List.map_map]
        exact List.zipIdx_map_fst 0 _
      have hkind : container? (.list (v :: rest)) ≠ some .map := fun h => by cases h
      have hentries := writeItems_eq_intercalate (p.segments.length + 1) v rest
      rw [← hitems, List.map_map] at hentries
      simp only [if_neg hkind, List.append_nil]
      rw [writeValue, List.cons_append, List.cons_append, hentries]
      rfl
  | map members =>
    cases hq
    cases members with
    | nil => exact absurd rfl h
    | cons m rest =>
      have hkind : container? (.map (m :: rest)) = some .map := rfl
      have hentries := writeMembers_eq_intercalate (p.segments.length + 1) m rest
      simp only [if_pos hkind, ← List.append_assoc]
      rw [Tree.children, ← hentries, writeValue]
      simp [Container.opener, Container.closer]
  | _ => cases hq

/-- Commas between the elements of a list, put behind each one that another follows. -/
theorem flatMap_followed {α : Type} (f : α → List Char) (l : List α) (i : Nat) :
    ((l.zipIdx i).flatMap fun x => f x.1 ++ if decide (x.2 + 1 < i + l.length) then [','] else []) =
      [','].intercalate (l.map f) := by
  induction l generalizing i with
  | nil => rfl
  | cons a rest ih =>
    rw [List.zipIdx_cons, List.flatMap_cons]
    cases rest with
    | nil => simp
    | cons b rest =>
      have hlength : i + 1 + (b :: rest).length = i + (a :: b :: rest).length := by
        simp only [List.length_cons]
        omega
      have hfollowed : i + 1 < i + (a :: b :: rest).length := by
        simp only [List.length_cons]
        omega
      have hrest := ih (i + 1)
      rw [hlength, List.map_cons] at hrest
      rw [hrest, decide_eq_true hfollowed, if_pos rfl, List.map_cons, List.map_cons,
        List.intercalate_cons_cons]

theorem flatMap_entry_children (q : Place) :
    (q.children.flatMap fun r => r.entry ++ if r.followed then [','] else []) =
      [','].intercalate (q.children.map Place.entry) := by
  have hentry := flatMap_followed (fun m : String × Value =>
    newline (q.path.segments.length + 1) ++
      (if container? q.value = some .map then writeString m.1 ++ [':', ' '] else []) ++
      writeValue (q.path.segments.length + 1) m.2) (Tree.children q.value) 0
  rw [Nat.zero_add] at hentry
  rw [map_entry_children, ← hentry, Place.children, List.flatMap_map]
  refine List.flatMap_congr fun child _ => ?_
  simp only [Place.entry, Visit.keyText, Path.length_segments_child]
  split_ifs <;> rfl

/-- A value without children is written on one line. -/
theorem bodyText_kindOf {v : Value} (h : Tree.children v = []) (p : Path) (depth : Nat) :
    bodyText v (kindOf .empty p v) = writeValue depth v := by
  cases v with
  | null => rfl
  | bool b => cases b <;> rfl
  | number n => simp [kindOf, container?, bodyText, literal?, Number.text, writeValue]
  | string s => rfl
  | list items =>
    obtain rfl : items = [] := by simpa [Tree.children] using h
    rfl
  | map members =>
    obtain rfl : members = [] := h
    rfl

/-- **The text has the visits of a tour,** each on a line of its own. -/
theorem flatMap_text_tour (q : Place) :
    ((tour q).flatMap fun x => '\n' :: x.text) =
      q.entry ++ if q.followed then [','] else [] := by
  induction q using Place.induct with
  | step q ih =>
    by_cases hchildren : q.children = []
    · have hvalue := Place.children_eq_nil_iff.1 hchildren
      have htext : (Visit.first q).text =
          indent q.path.segments.length ++ (Visit.first q).keyText ++
            writeValue q.path.segments.length q.value ++ if q.followed then [','] else [] := by
        have hbody := bodyText_kindOf hvalue q.path q.path.segments.length
        simp [Visit.text, Visit.line, lineOf, Visit.place, Visit.isLast, hchildren, hbody]
      rw [tour_of_children_eq_nil hchildren, List.flatMap_singleton, htext, Place.entry, newline]
      simp
    · have hvalue : Tree.children q.value ≠ [] := fun h => hchildren (Place.children_eq_nil_iff.2 h)
      obtain ⟨container, hcontainer⟩ := exists_container hvalue
      have hcount : (Tree.children q.value).length ≠ 0 :=
        fun h => hvalue (List.length_eq_zero_iff.1 h)
      have hfirst : (Visit.first q).text =
          indent q.path.segments.length ++ (Visit.first q).keyText ++ [container.opener] := by
        simp [Visit.text, Visit.line, lineOf, Visit.place, Visit.isLast, hchildren, kindOf,
          hcontainer, hcount, bodyText]
      have hlast : (Visit.last q container).text =
          indent q.path.segments.length ++ [container.closer] ++
            if q.followed then [','] else [] := by
        simp [Visit.text, Visit.line, Visit.place, Visit.isLast, Visit.keyText, bodyText]
      have hinner : ((q.children.flatMap tour).flatMap fun x => '\n' :: x.text) =
          [','].intercalate (q.children.map Place.entry) := by
        rw [List.flatMap_assoc, List.flatMap_congr ih, flatMap_entry_children]
      rw [tour_container hcontainer hchildren, List.flatMap_append, List.flatMap_cons, hinner,
        List.flatMap_singleton, hfirst, hlast, Place.entry, writeValue_container hcontainer hchildren]
      simp [newline]

/-! ## Documents -/

/-- Lines of which none has a line feed are read back from the text that they make. -/
theorem splitOn_of_flatMap {text : List Char} {lines : List (List Char)}
    (h : (lines.flatMap fun l => '\n' :: l) = '\n' :: text) (hlines : ∀ l ∈ lines, '\n' ∉ l) :
    text.splitOn '\n' = lines := by
  have hintercalate : ∀ (l : List Char) (ls : List (List Char)),
      ((l :: ls).flatMap fun l => '\n' :: l) = '\n' :: ['\n'].intercalate (l :: ls) := by
    intro l ls
    induction ls generalizing l with
    | nil => simp
    | cons m ls ih => rw [List.flatMap_cons, ih m, List.intercalate_cons_cons]; simp
  cases lines with
  | nil => cases h
  | cons l ls =>
    rw [hintercalate] at h
    rw [← (List.cons.inj h).2, List.splitOn_intercalate _ hlines (List.cons_ne_nil l ls)]

/-- What the text has for a node has no controls. -/
theorem noControls_bodyText (x : Visit) : NoControls (bodyText x.place.value x.line.kind) := by
  cases x with
  | last q container =>
    simp only [Visit.line, bodyText]
    cases container <;> decide
  | first q =>
    change NoControls (bodyText q.value (kindOf .empty q.path q.value))
    cases hcontainer : container? q.value with
    | some container =>
      rw [kindOf, hcontainer]
      dsimp only
      split_ifs <;> simp only [bodyText] <;> cases container <;> decide
    | none =>
      have hchildren : Tree.children q.value = [] := by
        by_contra h
        obtain ⟨container, h⟩ := exists_container h
        rw [hcontainer] at h
        cases h
      rw [bodyText_kindOf hchildren q.path 0]
      cases hvalue : q.value with
      | null => rw [writeValue]; decide
      | bool b => rw [writeValue]; cases b <;> decide
      | number n => exact noControls_chars n
      | string s => exact noControls_writeString s
      | list items => rw [hvalue] at hcontainer; cases hcontainer
      | map members => rw [hvalue] at hcontainer; cases hcontainer

/-- **A line of the text has no controls,** whatever the strings and keys of the document hold. -/
theorem noControls_text (x : Visit) : NoControls x.text := by
  have hindent : NoControls (indent x.line.depth) := noControls_replicate rfl _
  have hkey : NoControls x.keyText := by
    cases x with
    | first q =>
      rw [Visit.keyText]
      split
      · exact noControls_append.2 ⟨noControls_writeString _, by decide⟩
      · exact noControls_nil
    | last q container => exact noControls_nil
  have hcomma : NoControls (if x.isLast && x.place.followed then [','] else []) := by
    split <;> decide
  rw [Visit.text]
  simp only [noControls_append]
  exact ⟨⟨⟨hindent, hkey⟩, noControls_bodyText x⟩, hcomma⟩

/-- **The text and the tree agree line by line.**  With nothing collapsed and members as they were
written, both have one line for each visit of the tour of the document.  A line of the text is indented
by the depth of the line of the tree; on it stand the key, if it is the first line of a member, then the
brackets or the scalar that the tree shows there, with strings escaped, and a comma if it is the last
line of a node that a sibling follows (`Visit.text`). -/
theorem render_agrees_with_text (v : Value) :
    (v.text.toList.splitOn '\n').length = (render v .empty .insertion).length ∧
    render v .empty .insertion = (tour (.document v)).map Visit.line ∧
    v.text.toList.splitOn '\n' = (tour (.document v)).map Visit.text := by
  have htree : render v .empty .insertion = (tour (.document v)).map Visit.line :=
    (map_line_tour (.document v)).symm
  have hentry : ((tour (.document v)).flatMap fun x => '\n' :: x.text) =
      '\n' :: v.text.toList := by
    rw [flatMap_text_tour, Value.text, String.toList_ofList]
    simp [Place.entry, Place.document, Visit.keyText, newline, indent, Path.root]
  have htext : v.text.toList.splitOn '\n' = (tour (.document v)).map Visit.text := by
    refine splitOn_of_flatMap (by rw [List.flatMap_map, hentry]) fun l hl => ?_
    obtain ⟨x, -, rfl⟩ := List.mem_map.1 hl
    exact (noControls_text x).newline_notMem
  exact ⟨by rw [htree, htext, List.length_map, List.length_map], htree, htext⟩

end LiveJson.Tree
