import LiveJson.Proofs.Tree.Escapes
import LiveJson.Proofs.Tree.Folding
import Mathlib.Data.List.DropRight

/-!
# Paths that can be written

Slashes at the ends of a written path mean nothing, so an empty key at either end of a path cannot be
written down: there is nothing between the slash that would stand beside it and the end of the text.
Every other path can.

## What is here

* `head?_intercalate_eq_some_iff`, `getLast?_intercalate_eq_some_iff` — a text that is put together
  with slashes has one at its end exactly if what stands there is empty.
* `Path.Writable` — **the paths that some text names:** `parse_text` and `writable_parse`.
* `parse_text_eq_self_iff` — **which paths are read back from their texts.**
* `exists_parse_eq_path_iff` — **which containers of a document have a name.**
-/

set_option autoImplicit false

namespace LiveJson.Tree

open Json

/-! ## Slashes at the ends -/

namespace Path

theorem trimSlashes_slash_cons (cs : List Char) : trimSlashes ('/' :: cs) = trimSlashes cs := rfl

theorem trimSlashes_of_ends {cs : List Char} (hhead : cs.head? ≠ some '/')
    (hlast : cs.getLast? ≠ some '/') : trimSlashes cs = cs := by
  have hfront : cs.dropWhile (· == '/') = cs := by
    cases cs with
    | nil => rfl
    | cons x rest =>
      refine List.dropWhile_cons_of_neg fun hx => hhead ?_
      rw [List.head?_cons, eq_of_beq hx]
  have hback : cs.rdropWhile (· == '/') = cs := by
    refine List.rdropWhile_eq_self_iff.2 fun hne hx => hlast ?_
    rw [List.getLast?_eq_some_getLast hne, eq_of_beq hx]
  rw [trimSlashes, hfront]
  exact hback

theorem getLast?_trimSlashes (cs : List Char) : (trimSlashes cs).getLast? ≠ some '/' := by
  intro h
  have hne : (cs.dropWhile (· == '/')).rdropWhile (· == '/') ≠ [] := by
    rintro hnil
    rw [trimSlashes, ← List.rdropWhile, hnil] at h
    cases h
  refine List.rdropWhile_last_not _ _ hne (beq_iff_eq.2 (Option.some.inj ?_))
  rw [← List.getLast?_eq_some_getLast hne]
  exact h

theorem head?_trimSlashes (cs : List Char) : (trimSlashes cs).head? ≠ some '/' := by
  intro h
  obtain ⟨back, hback⟩ : trimSlashes cs <+: cs.dropWhile (· == '/') :=
    List.rdropWhile_prefix _ _
  have hhead : (cs.dropWhile (· == '/')).head? = some '/' := by
    rw [← hback, List.head?_append, h]
    rfl
  have hnot := List.head?_dropWhile_not (· == '/') cs
  rw [hhead] at hnot
  cases hnot

end Path

/-! ## Texts that are put together -/

section

variable {α : Type} {x : α} {ls : List (List α)}

theorem intercalate_eq_nil_iff : [x].intercalate ls = [] ↔ ls = [] ∨ ls = [[]] := by
  match ls with
  | [] => simp
  | [l] => simp
  | l :: m :: rest => simp [List.intercalate_cons_cons]

/-- A text that is put together begins with a separator exactly if its first part is empty. -/
theorem head?_intercalate_eq_some_iff (hx : ∀ l ∈ ls, x ∉ l) (hne : [x].intercalate ls ≠ []) :
    ([x].intercalate ls).head? = some x ↔ ls.head? = some [] := by
  match ls with
  | [] => simp
  | [] :: rest =>
    match rest with
    | [] => exact absurd rfl hne
    | m :: rest => simp [List.intercalate_cons_cons]
  | (y :: l) :: rest =>
    have hy : y ≠ x := fun h => hx _ List.mem_cons_self (h ▸ List.mem_cons_self)
    match rest with
    | [] => simp [hy]
    | m :: rest => simp [List.intercalate_cons_cons, hy]

/-- A text that is put together ends with a separator exactly if its last part is empty. -/
theorem getLast?_intercalate_eq_some_iff (hx : ∀ l ∈ ls, x ∉ l) (hne : [x].intercalate ls ≠ []) :
    ([x].intercalate ls).getLast? = some x ↔ ls.getLast? = some [] := by
  induction ls with
  | nil => simp
  | cons l rest ih =>
    cases rest with
    | nil =>
      rw [List.intercalate_singleton] at hne ⊢
      have hlast : l.getLast? ≠ some x := fun h =>
        hx l List.mem_cons_self (List.mem_of_getLast? h)
      simp [hne, hlast]
    | cons m rest =>
      rw [List.intercalate_cons_cons, List.getLast?_append, List.getLast?_cons_cons]
      by_cases hrest : [x].intercalate (m :: rest) = []
      · obtain ⟨rfl, rfl⟩ : m = [] ∧ rest = [] := by
          simpa using intercalate_eq_nil_iff.1 hrest
        simp
      · have hsome : (([x].intercalate (m :: rest)).getLast?).isSome = true := by
          simpa using hrest
        rw [Option.or_of_isSome hsome]
        exact ih (fun l hl => hx l (List.mem_cons_of_mem _ hl)) hrest

/-- No part of a text that is split has a separator. -/
theorem not_mem_of_mem_splitOn [BEq α] [LawfulBEq α] {xs l : List α} (h : l ∈ xs.splitOn x) :
    x ∉ l := by
  induction xs generalizing l with
  | nil =>
    obtain rfl := List.mem_singleton.1 h
    exact List.not_mem_nil
  | cons y xs ih =>
    rw [List.splitOn_cons_eq_if_modifyHead] at h
    split at h
    · rcases List.mem_cons.1 h with rfl | h
      · exact List.not_mem_nil
      · exact ih h
    · next hy =>
      obtain ⟨first, rest, hsplit⟩ := List.exists_cons_of_ne_nil (List.splitOn_ne_nil x xs)
      rw [hsplit, List.modifyHead_cons] at h
      rw [hsplit] at ih
      rcases List.mem_cons.1 h with rfl | h
      · rw [List.mem_cons, not_or]
        exact ⟨fun hxy => hy (beq_iff_eq.2 hxy.symm), ih List.mem_cons_self⟩
      · exact ih (List.mem_cons_of_mem _ h)

end

/-! ## Paths and their texts -/

namespace Path

/-- Neither the first key of the path nor the last one is empty. -/
def Writable (p : Path) : Prop :=
  p.segments.head? ≠ some "" ∧ p.segments.getLast? ≠ some ""

instance (p : Path) : Decidable p.Writable :=
  inferInstanceAs (Decidable (_ ∧ _))

/-- The keys of a path as they stand between the slashes of its text. -/
def written (p : Path) : List (List Char) :=
  p.segments.map fun key => escape key.toList

theorem slash_not_mem_written {p : Path} {l : List Char} (h : l ∈ p.written) : '/' ∉ l := by
  obtain ⟨key, -, rfl⟩ := List.mem_map.1 h
  exact slash_not_mem_escape _

theorem map_unescape_written (p : Path) :
    p.written.map (fun segment => String.ofList (unescape segment)) = p.segments := by
  rw [written, List.map_map]
  refine List.map_id'' (fun key => ?_) _
  rw [Function.comp_apply, unescape_escape, String.ofList_toList]

theorem writable_iff_written {p : Path} :
    p.Writable ↔ p.written.head? ≠ some [] ∧ p.written.getLast? ≠ some [] := by
  simp [Writable, written, List.head?_map, List.getLast?_map, Option.map_eq_some_iff]

/-- **A path is read back from its text,** if neither its first key nor its last one is empty. -/
theorem parse_text {p : Path} (h : p.Writable) : parse p.text = p := by
  obtain ⟨hhead, hlast⟩ := writable_iff_written.1 h
  have hslash : ∀ l ∈ p.written, '/' ∉ l := fun _ => slash_not_mem_written
  have htrim : trimSlashes p.text.toList = trimSlashes (['/'].intercalate p.written) := by
    rw [text, String.toList_ofList, trimSlashes_slash_cons, written]
  by_cases hnil : ['/'].intercalate p.written = []
  · -- one empty key looks like no key at all, and is not writable
    rcases intercalate_eq_nil_iff.1 hnil with hwritten | hwritten
    · have hroot : p = root := congrArg Path.mk (List.map_eq_nil_iff.1 hwritten)
      rw [hroot]
      rfl
    · rw [hwritten] at hhead
      exact absurd rfl hhead
  · have hends : trimSlashes (['/'].intercalate p.written) = ['/'].intercalate p.written :=
      trimSlashes_of_ends (mt (head?_intercalate_eq_some_iff hslash hnil).1 hhead)
        (mt (getLast?_intercalate_eq_some_iff hslash hnil).1 hlast)
    have hwritten : p.written ≠ [] := fun hw => hnil (intercalate_eq_nil_iff.2 (.inl hw))
    simp only [parse, htrim, hends]
    rw [if_neg (by simpa using hnil), List.splitOn_intercalate '/' hslash hwritten,
      map_unescape_written]

/-- **A text names no path with an empty key at an end.** -/
theorem writable_parse (text : String) : (parse text).Writable := by
  simp only [parse]
  split
  · decide
  · next htrimmed =>
    have hne : ['/'].intercalate ((trimSlashes text.toList).splitOn '/') ≠ [] := by
      rw [List.intercalate_splitOn]
      simpa using htrimmed
    have hslash : ∀ l ∈ (trimSlashes text.toList).splitOn '/', '/' ∉ l :=
      fun _ => not_mem_of_mem_splitOn
    have hhead := (head?_intercalate_eq_some_iff hslash hne).not
    have hlast := (getLast?_intercalate_eq_some_iff hslash hne).not
    rw [List.intercalate_splitOn] at hhead hlast
    simpa [Writable, List.head?_map, List.getLast?_map, Option.map_eq_some_iff] using
      And.intro (hhead.1 (head?_trimSlashes _)) (hlast.1 (getLast?_trimSlashes _))

/-- **The paths that some text names.** -/
theorem exists_parse_eq_iff {p : Path} : (∃ text, parse text = p) ↔ p.Writable := by
  constructor
  · rintro ⟨text, rfl⟩
    exact writable_parse text
  · exact fun h => ⟨p.text, parse_text h⟩

theorem writable_iff {p : Path} :
    p.Writable ↔ p = root ∨
      ∃ h : p.segments ≠ [], p.segments.head h ≠ "" ∧ p.segments.getLast h ≠ "" := by
  obtain ⟨segments⟩ := p
  cases segments with
  | nil => simp [Writable, root]
  | cons key rest =>
    have hne : key :: rest ≠ [] := List.cons_ne_nil key rest
    have hroot : (⟨key :: rest⟩ : Path) ≠ root := fun h => hne (congrArg segments h)
    rw [or_iff_right hroot, exists_prop_of_true hne, Writable, List.head?_eq_some_head hne,
      List.getLast?_eq_some_getLast hne, Ne, Ne, Option.some_inj, Option.some_inj]

/-- **What is read back from the text of a path.**  It is the path itself exactly if this is the root, or
neither its first key nor its last one is empty.  All paths that are read from a text are such, so that
they are read back from their own texts. -/
theorem parse_text_eq_self_iff (p : Path) (text : String) :
    (parse p.text = p ↔ p = root ∨
      ∃ h : p.segments ≠ [], p.segments.head h ≠ "" ∧ p.segments.getLast h ≠ "") ∧
    (parse text = root ∨ ∃ h : (parse text).segments ≠ [],
      (parse text).segments.head h ≠ "" ∧ (parse text).segments.getLast h ≠ "") ∧
    parse (parse text).text = parse text := by
  have hread : (parse text).Writable := writable_parse text
  refine ⟨?_, writable_iff.1 hread, parse_text hread⟩
  rw [← writable_iff]
  constructor
  · intro h
    rw [← h]
    exact writable_parse p.text
  · exact parse_text

end Path

/-! ## Containers of a document -/

/-- With nothing collapsed, every node has one line. -/
theorem eq_lineOf_of_mem_render {v w : Value} {p : Path} {order : KeyOrder} (hkeys : v.UniqueKeys)
    (hnode : Node v p w) {l : Line} (h : l ∈ render v .empty order) (hpath : l.path = p)
    (hopen : l.isClosed = false) : l = lineOf .empty (p, w) := by
  obtain ⟨depth, q, kind⟩ := l
  obtain rfl : q = p := hpath
  obtain ⟨u, hu, rfl, rfl⟩ := exists_node_of_mem_render h (by rintro c rfl; cases hopen)
  rw [hnode.eq (mem_walk_root_iff.1 hu).1 hkeys]
  rfl

/-- **Which containers have a name.**  With nothing collapsed, a container of a document has one line,
apart from the one that closes it.  Some text names the path of this line, exactly if neither the first
key on it nor the last one is empty. -/
theorem exists_parse_eq_path_iff {text : String} {v w : Value} {p : Path} {container : Container}
    (h : check text = .ok v) (hnode : Node v p w) (hcontainer : container? w = some container)
    (order : KeyOrder) :
    ∃ kind, (kind = .opened p.key container ∨ kind = .empty p.key container) ∧
      ⟨p.segments.length, p, kind⟩ ∈ render v .empty order ∧
      (∀ l ∈ render v .empty order, l.path = p → l.isClosed = false →
        l = ⟨p.segments.length, p, kind⟩) ∧
      ((∃ argument, Path.parse argument = p) ↔
        p.segments.head? ≠ some "" ∧ p.segments.getLast? ≠ some "") := by
  have hkeys : v.UniqueKeys := (readDocument_fits (check_eq_ok_iff.1 h)).2
  have hline : lineOf .empty (p, w) ∈ render v .empty order :=
    lineOf_mem_render (mem_walk_root_iff.2 ⟨hnode, fun q _ _ _ _ => Collapse.contains_empty q⟩)
  have hkind : kindOf .empty p w = .opened p.key container ∨
      kindOf .empty p w = .empty p.key container := by
    rw [kindOf, hcontainer]
    by_cases hcount : (children w).length = 0 <;> simp [hcount]
  exact ⟨_, hkind, hline, fun _ hl hpath => eq_lineOf_of_mem_render hkeys hnode hl hpath,
    Path.exists_parse_eq_iff⟩

/-- A path whose line opens a container is that of a container. -/
theorem exists_container_of_opened (text : String) (depth : Nat) (p : Path) (container : Container)
    (h : (check text).toOption.any (fun v =>
      decide (⟨depth, p, .opened p.key container⟩ ∈ render v .empty .insertion)) = true) :
    ∃ v w, check text = .ok v ∧ Node v p w ∧ container? w = some container ∧
      ⟨depth, p, .opened p.key container⟩ ∈ render v .empty .insertion := by
  obtain ⟨v, hcheck, htest⟩ := exists_check_eq_ok h
  have hline := of_decide_eq_true htest
  obtain ⟨w, hw, -, hkind⟩ := exists_node_of_mem_render hline nofun
  exact ⟨v, w, hcheck, (mem_walk_root_iff.1 hw).1, (kindOf_eq_opened_iff.1 hkind).2.1, hline⟩

/-- A list under a key with a tilde, in an item of a list under the empty key, in a map under a
slash. -/
theorem exists_parse_eq_path_iff_escaped :
    ∃ v w, check "\x7b\"/\":\x7b\"\":[\x7b\"~1\":[0]\x7d]\x7d\x7d" = .ok v ∧
      Node v ⟨["/", "", "0", "~1"]⟩ w ∧ container? w = some .list ∧
      (∃ kind, ⟨4, ⟨["/", "", "0", "~1"]⟩, kind⟩ ∈ render v .empty .sorted) ∧
      ∃ argument, Path.parse argument = ⟨["/", "", "0", "~1"]⟩ := by
  obtain ⟨v, w, hcheck, hnode, hcontainer, -⟩ :=
    exists_container_of_opened "\x7b\"/\":\x7b\"\":[\x7b\"~1\":[0]\x7d]\x7d\x7d" 4
      ⟨["/", "", "0", "~1"]⟩ .list (by decide +kernel)
  obtain ⟨kind, -, hline, -, hiff⟩ := exists_parse_eq_path_iff hcheck hnode hcontainer .sorted
  exact ⟨v, w, hcheck, hnode, hcontainer, ⟨kind, hline⟩, hiff.2 (by decide)⟩

/-- The list under the empty key in the map under `a` has no name; `a/` names the map. -/
theorem not_exists_parse_eq_empty_last_key :
    ∃ v w, check "\x7b\"a\":\x7b\"\":[1]\x7d\x7d" = .ok v ∧
      Node v ⟨["a", ""]⟩ w ∧ container? w = some .list ∧
      ⟨2, ⟨["a", ""]⟩, .opened "" .list⟩ ∈ render v .empty .insertion ∧
      Path.parse "a/" = ⟨["a"]⟩ ∧ ¬∃ argument, Path.parse argument = ⟨["a", ""]⟩ := by
  obtain ⟨v, w, hcheck, hnode, hcontainer, hline⟩ :=
    exists_container_of_opened "\x7b\"a\":\x7b\"\":[1]\x7d\x7d" 2 ⟨["a", ""]⟩ .list
      (by decide +kernel)
  refine ⟨v, w, hcheck, hnode, hcontainer, hline, by decide +kernel, fun hname => ?_⟩
  exact absurd (Path.exists_parse_eq_iff.1 hname) (by decide)

end LiveJson.Tree
