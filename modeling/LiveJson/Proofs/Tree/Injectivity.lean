import LiveJson.Proofs.Tree.Tour

/-!
# A tree shows one document

With nothing collapsed and members as they were written, the lines of a document tell what document it
is, as long as it has no doubles.  There is no mark for the end of a node among its lines, and a string is
shown as it is, whatever it looks like.  But the first line of a node says what kind of value it is and
whether lines for children come behind it; and these end at the first line that closes a container, since
no node starts with such a line.

## What is here

* `eq_of_literal?_eq` — scalars that are shown alike are the same.  The first character tells their kind
  (`kindOfMark`).
* `nodeLines` — the lines of a node, and `of_lineOf_eq`, what the first of them says.
* `Told` — the lines of a node tell it, and where they end, whatever comes behind them
  (`told_of_floatFree`).
* `render_injective` — **documents that are shown alike are the same.**
-/

set_option autoImplicit false

namespace LiveJson.Tree

open Json

/-! ## Scalars -/

/-- An integer starts with a digit or with a minus sign. -/
theorem exists_chars_eq_cons {n : Number} (h : n.isFloat = false) :
    ∃ c cs, n.chars = c :: cs ∧ (c.isDigit = true ∨ c = '-') := by
  cases n with
  | natural n _ =>
    obtain ⟨c, cs, hcs⟩ := List.exists_cons_of_ne_nil (Nat.toDigits_ne_nil (b := 10) (n := n))
    exact ⟨c, cs, hcs, .inl (Text.isDigit_of_mem_toDigits (hcs ▸ List.mem_cons_self))⟩
  | negative m _ => exact ⟨'-', _, rfl, .inr rfl⟩
  | float x _ => cases h

/-- Integers with the same digits and the same sign are the same. -/
theorem eq_of_chars_eq {m n : Number} (hm : m.isFloat = false) (hn : n.isFloat = false)
    (h : m.chars = n.chars) : m = n := by
  have hdigits : ∀ {a b : Nat}, Nat.toDigits 10 a = Nat.toDigits 10 b → a = b :=
    fun h => indexKey_inj (congrArg String.ofList h)
  have hsign : ∀ {a : Nat} {cs : List Char}, Nat.toDigits 10 a ≠ '-' :: cs := fun h =>
    absurd (Text.isDigit_of_mem_toDigits (h ▸ List.mem_cons_self)) (by decide)
  cases m with
  | float x _ => cases hm
  | natural a _ =>
    cases n with
    | float x _ => cases hn
    | natural b _ =>
      obtain rfl := hdigits h
      rfl
    | negative b _ => exact absurd h hsign
  | negative a _ =>
    cases n with
    | float x _ => cases hn
    | natural b _ => exact absurd h.symm hsign
    | negative b _ =>
      obtain rfl := hdigits (List.cons.inj h).2
      rfl

theorem isFloat_of_floatFree {n : Number} (h : (Value.number n).FloatFree) : n.isFloat = false := by
  simpa [Value.FloatFree, Value.everywhere] using h

/-- The kind of the scalars that are shown with a certain first character. -/
def kindOfMark (c : Char) : String :=
  if c = 'n' then "null"
  else if c = 't' ∨ c = 'f' then "boolean"
  else if c = '"' then "string"
  else "number"

/-- **The first character of a scalar tells its kind.** -/
theorem exists_literal?_eq_cons {v : Value} (hv : v.FloatFree) {text : String}
    (h : literal? v = some text) :
    ∃ c cs, text.toList = c :: cs ∧ kindOfMark c = v.kind := by
  cases v with
  | null => cases h; exact ⟨'n', _, rfl, rfl⟩
  | bool b => cases h; cases b <;> exact ⟨_, _, rfl, rfl⟩
  | number n =>
    cases h
    obtain ⟨c, cs, hcs, hc⟩ := exists_chars_eq_cons (isFloat_of_floatFree hv)
    have hletters : c ≠ 'n' ∧ c ≠ 't' ∧ c ≠ 'f' ∧ c ≠ '"' := by
      refine ⟨?_, ?_, ?_, ?_⟩ <;> rintro rfl <;> exact absurd hc (by decide)
    refine ⟨c, cs, by rw [Number.text, String.toList_ofList, hcs], ?_⟩
    simp [kindOfMark, hletters, Value.kind]
  | string s => cases h; exact ⟨'"', s.toList ++ ['"'], by simp, rfl⟩
  | list items => cases h
  | map members => cases h

/-- **Scalars that are shown alike are the same.** -/
theorem eq_of_literal?_eq {v w : Value} (hv : v.FloatFree) (hw : w.FloatFree) {text : String}
    (h : literal? v = some text) (h' : literal? w = some text) : v = w := by
  have hkind : v.kind = w.kind := by
    obtain ⟨c, cs, htext, hc⟩ := exists_literal?_eq_cons hv h
    obtain ⟨d, ds, htext', hd⟩ := exists_literal?_eq_cons hw h'
    rw [htext] at htext'
    rw [← hc, ← hd, (List.cons.inj htext').1]
  have htext : literal? v = literal? w := h.trans h'.symm
  cases v with
  | null => cases w <;> first | rfl | simp [Value.kind] at hkind
  | bool b =>
    cases w with
    | bool b' => cases b <;> cases b' <;> first | rfl | simp [literal?] at htext
    | _ => simp [Value.kind] at hkind
  | number n =>
    cases w with
    | number n' =>
      have hchars : n.chars = n'.chars := String.ofList_injective (Option.some.inj htext)
      rw [eq_of_chars_eq (isFloat_of_floatFree hv) (isFloat_of_floatFree hw) hchars]
    | _ => simp [Value.kind] at hkind
  | string s =>
    cases w with
    | string s' => simpa [literal?] using htext
    | _ => simp [Value.kind] at hkind
  | list items => cases h
  | map members => cases h

/-! ## Containers -/

/-- A container is told by its kind and its children. -/
theorem eq_of_children_eq {v w : Value} {container : Container} (hv : container? v = some container)
    (hw : container? w = some container) (h : children v = children w) : v = w := by
  cases v with
  | list items =>
    cases hv
    cases w with
    | list items' =>
      have hitems := congrArg (List.map Prod.snd) h
      simp only [children, List.map_map, Function.comp_def, List.zipIdx_map_fst] at hitems
      rw [hitems]
    | _ => cases hw
  | map members =>
    cases hv
    cases w with
    | map members' => exact congrArg Value.map h
    | _ => cases hw
  | _ => cases hv

/-! ## Lines -/

/-- The lines of a node, with nothing collapsed and members as they were written. -/
def nodeLines (p : Path) (v : Value) : List Line :=
  renderNode .empty .insertion p.key p p.segments.length v

/-- A node with children is shown around them. -/
theorem nodeLines_container {v : Value} {container : Container}
    (hcontainer : container? v = some container) (hchildren : children v ≠ []) (p : Path) :
    nodeLines p v =
      lineOf .empty (p, v) :: ((children v).flatMap fun m => nodeLines (p.child m.1) m.2) ++
        [⟨p.segments.length, p, .closed container⟩] := by
  have hcount : (children v).length ≠ 0 := fun h => hchildren (List.length_eq_zero_iff.1 h)
  have hline : lineOf .empty (p, v) = ⟨p.segments.length, p, .opened p.key container⟩ := by
    simp [lineOf, kindOf, hcontainer, hcount]
  rw [nodeLines, renderNode_of_expanded hcontainer hchildren (Collapse.contains_empty p), block,
    renderEntries, childrenIn_insertion, hline]
  simp only [nodeLines, Path.key_child, Path.length_segments_child]

theorem nodeLines_of_children_eq_nil {v : Value} (h : children v = []) (p : Path) :
    nodeLines p v = [lineOf .empty (p, v)] :=
  renderNode_eq_lineOf h p

/-- The first line of a node is its own. -/
theorem exists_nodeLines_eq_cons (p : Path) (v : Value) :
    ∃ ls, nodeLines p v = lineOf .empty (p, v) :: ls := by
  by_cases hchildren : children v = []
  · exact ⟨[], nodeLines_of_children_eq_nil hchildren p⟩
  · obtain ⟨container, hcontainer⟩ := exists_container hchildren
    rw [nodeLines_container hcontainer hchildren]
    exact ⟨_, rfl⟩

/-- No node starts with a line that closes a container. -/
theorem lineOf_kind_ne_closed (node : Path × Value) (container : Container) :
    (lineOf .empty node).kind ≠ .closed container := by
  rw [lineOf, kindOf]
  split
  · exact fun h => by cases h
  · split_ifs <;> exact fun h => by cases h

/-- What is no container is shown by a literal. -/
theorem exists_literal?_eq {v : Value} (h : container? v = none) :
    ∃ text, literal? v = some text := by
  cases v <;> first | exact ⟨_, rfl⟩ | cases h

/-- **What the line of a node says:** which scalar it is, or which kind of container, and whether that
has children. -/
theorem of_lineOf_eq {v w : Value} {p q : Path} (hv : v.FloatFree) (hw : w.FloatFree)
    (h : lineOf .empty (p, v) = lineOf .empty (q, w)) :
    p = q ∧ (v = w ∨ ∃ container, container? v = some container ∧ container? w = some container ∧
      (children v = [] ↔ children w = [])) := by
  rw [lineOf, lineOf, Line.mk.injEq] at h
  obtain ⟨-, rfl, hkind⟩ := h
  refine ⟨rfl, ?_⟩
  simp only [kindOf, Collapse.contains_empty, List.length_eq_zero_iff, Bool.false_eq_true,
    if_false] at hkind
  cases hcv : container? v with
  | none =>
    obtain ⟨text, htext⟩ := exists_literal?_eq hcv
    cases hcw : container? w with
    | none =>
      obtain ⟨text', htext'⟩ := exists_literal?_eq hcw
      rw [hcv, hcw, htext, htext'] at hkind
      obtain rfl : text = text' := (LineKind.leaf.inj hkind).2
      exact .inl (eq_of_literal?_eq hv hw htext htext')
    | some container =>
      rw [hcv, hcw] at hkind
      dsimp only at hkind
      split_ifs at hkind
  | some container =>
    cases hcw : container? w with
    | none =>
      rw [hcv, hcw] at hkind
      dsimp only at hkind
      split_ifs at hkind
    | some container' =>
      rw [hcv, hcw] at hkind
      dsimp only at hkind
      split_ifs at hkind with hnil hnil' hnil'
      · cases hkind
        exact .inr ⟨container, rfl, rfl, iff_of_true hnil hnil'⟩
      · cases hkind
        exact .inr ⟨container, rfl, rfl, iff_of_false hnil hnil'⟩

/-- The lines of the node tell it, and where they end, whatever comes behind them. -/
def Told (v : Value) : Prop :=
  ∀ ⦃w : Value⦄ ⦃p q : Path⦄ ⦃rest rest' : List Line⦄, w.FloatFree →
    nodeLines p v ++ rest = nodeLines q w ++ rest' → p = q ∧ v = w ∧ rest = rest'

/-- The lines of nodes below one path tell the nodes, up to the first line that closes a container. -/
theorem eq_of_entryLines_append {p : Path} {close : Line} {container : Container}
    (hclose : close.kind = .closed container) {entries entries' : List (String × Value)}
    (htold : ∀ m ∈ entries, Told m.2) (hfloat : ∀ m ∈ entries', m.2.FloatFree)
    {rest rest' : List Line}
    (h : (entries.flatMap fun m => nodeLines (p.child m.1) m.2) ++ close :: rest =
      (entries'.flatMap fun m => nodeLines (p.child m.1) m.2) ++ close :: rest') :
    entries = entries' ∧ rest = rest' := by
  -- the line that closes the container is not the first line of one more node
  have hfirst : ∀ (q : Path) (v : Value) (ls ls' : List Line),
      close :: ls ≠ nodeLines q v ++ ls' := by
    intro q v ls ls' heq
    obtain ⟨tail, htail⟩ := exists_nodeLines_eq_cons q v
    rw [htail, List.cons_append] at heq
    exact lineOf_kind_ne_closed (q, v) container ((List.cons.inj heq).1 ▸ hclose)
  induction entries generalizing entries' with
  | nil =>
    cases entries' with
    | nil => exact ⟨rfl, (List.cons.inj h).2⟩
    | cons n after =>
      rw [List.flatMap_cons, List.append_assoc] at h
      exact absurd h (hfirst _ _ _ _)
  | cons m before ih =>
    cases entries' with
    | nil =>
      rw [List.flatMap_cons, List.append_assoc] at h
      exact absurd h.symm (hfirst _ _ _ _)
    | cons n after =>
      rw [List.forall_mem_cons] at htold hfloat
      rw [List.flatMap_cons, List.flatMap_cons, List.append_assoc, List.append_assoc] at h
      obtain ⟨hpath, hvalue, hbehind⟩ := htold.1 hfloat.1 h
      have hkey : m.1 = n.1 := by
        rw [← p.key_child m.1, hpath, p.key_child]
      obtain ⟨rfl, hrest⟩ := ih htold.2 hfloat.2 hbehind
      exact ⟨by rw [Prod.ext hkey hvalue], hrest⟩

/-- **The lines of a node tell the node and where they end.** -/
theorem told_of_floatFree {v : Value} (hv : v.FloatFree) : Told v := by
  induction v using inductOnChildren with
  | step v ih =>
    intro w p q rest rest' hw h
    have hline : lineOf .empty (p, v) = lineOf .empty (q, w) := by
      obtain ⟨ls, hls⟩ := exists_nodeLines_eq_cons p v
      obtain ⟨ls', hls'⟩ := exists_nodeLines_eq_cons q w
      rw [hls, hls'] at h
      exact (List.cons.inj h).1
    obtain ⟨rfl, rfl | ⟨container, hcv, hcw, hnil⟩⟩ := of_lineOf_eq hv hw hline
    · exact ⟨rfl, rfl, List.append_cancel_left h⟩
    by_cases hchildren : children v = []
    · obtain rfl := eq_of_children_eq hcv hcw (hchildren.trans (hnil.1 hchildren).symm)
      exact ⟨rfl, rfl, List.append_cancel_left h⟩
    · rw [nodeLines_container hcv hchildren,
        nodeLines_container hcw (fun hw => hchildren (hnil.2 hw)), List.append_assoc,
        List.append_assoc] at h
      obtain ⟨hentries, hrest⟩ := eq_of_entryLines_append rfl
        (fun m hm => ih m hm (everywhere_of_mem_children hv hm))
        (fun m hm => everywhere_of_mem_children hw hm) (List.cons.inj h).2
      exact ⟨rfl, eq_of_children_eq hcv hcw hentries, hrest⟩

/-! ## Documents -/

/-- **Documents that are shown alike are the same,** if nothing is collapsed, members are shown as they
were written, and there are no doubles in them. -/
theorem render_injective {v w : Value} (hv : v.FloatFree) (hw : w.FloatFree)
    (h : render v .empty .insertion = render w .empty .insertion) : v = w := by
  have hlines : nodeLines .root v ++ [] = nodeLines .root w ++ [] := congrArg (· ++ []) h
  exact (told_of_floatFree hv hw hlines).2.1

/-- A document that is written in two ways, with a repeated key in one of them, an empty map behind an
empty list, a string that looks like a word and a key that is empty. -/
theorem render_injective_two_ways :
    ∃ v w, check "\x7b\"a\":0,\"\":[[],\x7b\x7d,-1],\"a\":\"null\"\x7d" = .ok v ∧
      check " \x7b \"\\u0061\" : \"null\", \"\" : [ [ ], \x7b \x7d, -1 ] \x7d" = .ok w ∧
      v.FloatFree ∧ w.FloatFree ∧ render v .empty .insertion = render w .empty .insertion ∧ v = w := by
  obtain ⟨v, hread, hv⟩ : ∃ v, check "\x7b\"a\":0,\"\":[[],\x7b\x7d,-1],\"a\":\"null\"\x7d" = .ok v ∧
      (check " \x7b \"\\u0061\" : \"null\", \"\" : [ [ ], \x7b \x7d, -1 ] \x7d").toOption.any
        (fun w => decide (v.FloatFree ∧ w.FloatFree ∧
          render v .empty .insertion = render w .empty .insertion)) = true :=
    exists_check_eq_ok (by decide +kernel)
  obtain ⟨w, hread', hw⟩ := exists_check_eq_ok hv
  obtain ⟨hfloat, hfloat', hlines⟩ := of_decide_eq_true hw
  exact ⟨v, w, hread, hread', hfloat, hfloat', hlines, render_injective hfloat hfloat' hlines⟩

end LiveJson.Tree
