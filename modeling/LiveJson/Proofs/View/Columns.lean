import LiveJson.Proofs.Text.Lines
import LiveJson.View
import Mathlib.Data.List.DropRight
import Mathlib.Tactic.SplitIfs

/-!
# Panes side by side

Every row of panes that stand side by side is cut off behind its last character that is not blank.
The cut may go through the last pane and into the gap in front of it, but never beyond the bar in
that gap.  So all but the last pane are found where the widths of those before them say.

## What is here

* `trimBlankEnd_append` — how far the blanks at the end of a text go, told from two parts of it.
* `Pane.cell`, `Pane.width`, `startOf` — what a pane has in a row, and where its column is.
* `fullRow` — a row before it is cut off; `getElem?_columnRows` says that the rows are these, and
  `exists_fullRow_eq` finds a pane in one.
* `columns_lose_nothing` — **each pane is where its column is.**
-/

set_option autoImplicit false

namespace LiveJson

open Text View

/-! ## Blanks at the end -/

/-- Blanks at the end of a text go into its first part only if the second part is blank. -/
theorem trimBlankEnd_append (cs ds : List Char) :
    trimBlankEnd (cs ++ ds) =
      if (trimBlankEnd ds).isEmpty then trimBlankEnd cs else cs ++ trimBlankEnd ds := by
  simp only [trimBlankEnd, List.reverse_append, List.dropWhile_append, List.isEmpty_reverse]
  split_ifs <;> simp

theorem length_trimBlankEnd_le (cs : List Char) : (trimBlankEnd cs).length ≤ cs.length :=
  (List.rdropWhile_prefix isBlank cs).length_le

/-- What is left of the second part of a text. -/
theorem drop_trimBlankEnd_append (cs ds : List Char) :
    (trimBlankEnd (cs ++ ds)).drop cs.length = trimBlankEnd ds := by
  rw [trimBlankEnd_append]
  split_ifs with hblank
  · rw [List.isEmpty_iff.1 hblank, List.drop_eq_nil_iff]
    exact length_trimBlankEnd_le cs
  · rw [List.drop_left]

/-- Blanks at the end do not go beyond a character that is not blank. -/
theorem trimBlankEnd_append_cons {c : Char} (hc : isBlank c = false) (cs ds : List Char) :
    trimBlankEnd (cs ++ c :: ds) = cs ++ c :: trimBlankEnd ds := by
  have hself : trimBlankEnd (cs ++ [c]) = cs ++ [c] :=
    List.rdropWhile_concat_neg isBlank cs c (by simp [hc])
  rw [List.append_cons, trimBlankEnd_append, hself]
  split_ifs with hblank
  · rw [List.isEmpty_iff.1 hblank]
  · simp

/-- What is left behind a space starts with it, and is not blank. -/
theorem trimBlankEnd_space_cons (ds : List Char) :
    trimBlankEnd (' ' :: ds) = [] ∨
      ∃ tail, trimBlankEnd (' ' :: ds) = ' ' :: tail ∧ ∃ c ∈ tail, isBlank c = false := by
  rw [← List.singleton_append, trimBlankEnd_append]
  split_ifs with hblank
  · exact .inl rfl
  · refine .inr ⟨trimBlankEnd ds, rfl, ?_⟩
    have hne : trimBlankEnd ds ≠ [] := fun h => hblank (List.isEmpty_iff.2 h)
    exact ⟨_, List.getLast_mem hne, Bool.eq_false_iff.2 (List.rdropWhile_last_not isBlank ds hne)⟩

/-! ## Columns -/

/-- What a pane has in a row: nothing below its end. -/
def Pane.cell (p : Pane) (i : Nat) : List Char :=
  (p.rows[i]?.getD "").toList

/-- How many characters the widest row of a pane has. -/
def Pane.width (p : Pane) : Nat :=
  (p.rows.map String.length).max?.getD 0

/-- Where the column of a pane starts: each pane before it takes its width and a gap of three. -/
def startOf : List Pane → Nat → Nat
  | p :: rest, k + 1 => p.width + 3 + startOf rest k
  | _, _ => 0

theorem foldl_max_eq (l : List Nat) : l.foldl max 0 = l.max?.getD 0 := by
  rw [List.foldl_max, Nat.zero_max]

namespace Pane

variable (p : Pane)

/-- The rows of a pane as they are laid out. -/
def chars : List (List Char) :=
  p.rows.map String.toList

theorem length_chars : p.chars.length = p.lines.length + 2 := by
  rw [chars, List.length_map]
  rfl

theorem width_chars : View.width p.chars = p.width := by
  rw [View.width, foldl_max_eq, chars, List.map_map]
  rfl

/-- **A pane is as wide as its widest row,** so there is room for each row. -/
theorem length_cell_le (i : Nat) : (p.cell i).length ≤ p.width := by
  rw [cell]
  cases hrow : p.rows[i]? with
  | none => exact Nat.zero_le _
  | some text =>
    exact List.le_max?_getD_of_mem (List.mem_map_of_mem (List.mem_of_getElem? hrow))

theorem length_pad_cell (i : Nat) : (pad p.width (p.cell i)).length = p.width :=
  length_pad (p.length_cell_le i)

/-- A pane that is filled up with empty rows has its cells in them. -/
theorem getElem?_fillDown {height i : Nat} (hi : i < height) :
    (fillDown height p.chars)[i]? = some (p.cell i) := by
  rw [fillDown, cell, chars]
  cases hrow : p.rows[i]? with
  | none =>
    have hlength := List.getElem?_eq_none_iff.1 hrow
    rw [List.getElem?_append_right (by simpa using hlength),
      List.getElem?_replicate_of_lt (by simp; omega)]
    rfl
  | some text =>
    rw [List.getElem?_append_left (by simpa using (List.getElem?_eq_some_iff.1 hrow).1),
      List.getElem?_map, hrow]
    rfl

end Pane

/-! ## Rows -/

/-- A row of panes side by side, before the blanks at its end are cut off. -/
def fullRow (i : Nat) : List Pane → List Char
  | [] => []
  | [p] => p.cell i
  | p :: rest => pad p.width (p.cell i) ++ gap ++ fullRow i rest

theorem fullRow_cons {rest : List Pane} (hrest : rest ≠ []) (i : Nat) (p : Pane) :
    fullRow i (p :: rest) = pad p.width (p.cell i) ++ gap ++ fullRow i rest := by
  cases rest with
  | nil => exact absurd rfl hrest
  | cons q rest => rfl

theorem sideBySide_cons {rest : List Pane} (hrest : rest ≠ []) (height : Nat) (p : Pane) :
    sideBySide height ((p :: rest).map Pane.chars) =
      List.zipWith (fun row right => pad p.width row ++ gap ++ right) (fillDown height p.chars)
        (sideBySide height (rest.map Pane.chars)) := by
  cases rest with
  | nil => exact absurd rfl hrest
  | cons q rest =>
    rw [List.map_cons, List.map_cons, sideBySide, p.width_chars]
    exact List.cons_ne_nil _ _

theorem length_sideBySide {height : Nat} {panes : List Pane}
    (h : ∀ p ∈ panes, p.chars.length ≤ height) :
    (sideBySide height (panes.map Pane.chars)).length = height := by
  induction panes with
  | nil => exact List.length_replicate
  | cons p rest ih =>
    rw [List.forall_mem_cons] at h
    by_cases hrest : rest = []
    · subst hrest
      exact length_fillDown h.1
    · rw [sideBySide_cons hrest, List.length_zipWith, length_fillDown h.1, ih h.2, Nat.min_self]

/-- **The rows of panes side by side.** -/
theorem getElem?_sideBySide {height i : Nat} (hi : i < height) (panes : List Pane) :
    (sideBySide height (panes.map Pane.chars))[i]? = some (fullRow i panes) := by
  induction panes with
  | nil => exact List.getElem?_replicate_of_lt hi
  | cons p rest ih =>
    by_cases hrest : rest = []
    · subst hrest
      exact p.getElem?_fillDown hi
    · rw [sideBySide_cons hrest, fullRow_cons hrest, List.getElem?_zipWith', p.getElem?_fillDown hi,
        ih]
      rfl

/-- A pane in a row: what is in front of it, and the panes behind it. -/
theorem exists_fullRow_eq {panes : List Pane} {k : Nat} {p : Pane} (h : panes[k]? = some p)
    (i : Nat) :
    ∃ front rest, front.length = startOf panes k ∧ k + 1 + rest.length = panes.length ∧
      fullRow i panes = front ++ fullRow i (p :: rest) := by
  induction panes generalizing k with
  | nil => cases h
  | cons q panes ih =>
    cases k with
    | zero =>
      cases h
      exact ⟨[], panes, rfl, by simp [Nat.add_comm], rfl⟩
    | succ k =>
      rw [List.getElem?_cons_succ] at h
      obtain ⟨front, rest, hfront, hrest, hrow⟩ := ih h
      have hne : panes ≠ [] := List.ne_nil_of_mem (List.mem_of_getElem? h)
      refine ⟨pad q.width (q.cell i) ++ gap ++ front, rest, ?_, ?_, ?_⟩
      · rw [List.length_append, List.length_append, q.length_pad_cell, hfront]
        rfl
      · rw [List.length_cons, ← hrest]
        omega
      · rw [fullRow_cons hne, hrow, List.append_assoc _ front]

/-- A row after the blanks at its end are cut off.  All but the last pane are still there, with the bar
behind them. -/
theorem exists_trimBlankEnd_fullRow_eq {panes : List Pane} {k : Nat} {p : Pane}
    (h : panes[k]? = some p) (hk : k + 1 < panes.length) (i : Nat) :
    ∃ front rest, front.length = startOf panes k ∧
      trimBlankEnd (fullRow i panes) = front ++ (pad p.width (p.cell i) ++ ' ' :: '│' :: rest) ∧
      (rest = [] ∨ ∃ tail, rest = ' ' :: tail ∧ ∃ c ∈ tail, isBlank c = false) := by
  obtain ⟨front, rest, hfront, hrest, hrow⟩ := exists_fullRow_eq h i
  have hne : rest ≠ [] := by
    rintro rfl
    exact Nat.ne_of_lt hk hrest
  have hsplit : fullRow i panes =
      (front ++ pad p.width (p.cell i) ++ [' ']) ++ '│' :: ' ' :: fullRow i rest := by
    rw [hrow, fullRow_cons hne]
    simp [gap]
  refine ⟨front, trimBlankEnd (' ' :: fullRow i rest), hfront, ?_, trimBlankEnd_space_cons _⟩
  -- the bar is not blank, so the cut is behind it
  rw [hsplit, trimBlankEnd_append_cons (by decide)]
  simp

/-- The last pane in a row whose blanks at the end are cut off. -/
theorem drop_trimBlankEnd_fullRow {panes : List Pane} {k : Nat} {p : Pane} (h : panes[k]? = some p)
    (hk : k + 1 = panes.length) (i : Nat) :
    (trimBlankEnd (fullRow i panes)).drop (startOf panes k) = trimBlankEnd (p.cell i) := by
  obtain ⟨front, rest, hfront, hrest, hrow⟩ := exists_fullRow_eq h i
  obtain rfl : rest = [] := List.length_eq_zero_iff.1 (by omega)
  rw [← hfront, hrow, drop_trimBlankEnd_append]
  rfl

/-! ## Line feeds -/

/-- There is no line feed in a pane. -/
def Pane.NoLineFeeds (p : Pane) : Prop :=
  ∀ text ∈ p.title :: p.lines, '\n' ∉ text.toList

instance (p : Pane) : Decidable p.NoLineFeeds :=
  List.decidableBAll (fun text : String => '\n' ∉ text.toList) (p.title :: p.lines)

theorem Pane.NoLineFeeds.cell {p : Pane} (h : p.NoLineFeeds) (i : Nat) : '\n' ∉ p.cell i := by
  rw [NoLineFeeds, List.forall_mem_cons] at h
  have hrule : '\n' ∉ (rule '─' p.title).toList := by simp [rule]
  have hrows : ∀ text ∈ p.rows, '\n' ∉ text.toList := by
    rw [rows, List.forall_mem_cons, List.forall_mem_cons]
    exact ⟨h.1, hrule, h.2⟩
  rw [Pane.cell]
  cases hrow : p.rows[i]? with
  | none => exact List.not_mem_nil
  | some text => exact hrows text (List.mem_of_getElem? hrow)

theorem lineFeed_notMem_fullRow {panes : List Pane} (h : ∀ p ∈ panes, p.NoLineFeeds) (i : Nat) :
    '\n' ∉ fullRow i panes := by
  induction panes with
  | nil => exact List.not_mem_nil
  | cons p rest ih =>
    rw [List.forall_mem_cons] at h
    by_cases hrest : rest = []
    · subst hrest
      exact h.1.cell i
    · rw [fullRow_cons hrest]
      simp [pad, gap, h.1.cell i, ih h.2]

/-! ## The layout -/

/-- The rows of a layout in columns. -/
def columnLines (panes : List Pane) : List (List Char) :=
  (compose panes .columns).toList.splitOn '\n'

theorem height_chars (panes : List Pane) :
    View.height (panes.map Pane.chars) = (panes.map fun p => p.lines.length + 2).max?.getD 0 := by
  rw [View.height, foldl_max_eq, List.map_map]
  simp only [Function.comp_def, Pane.length_chars]

theorem length_chars_le_height {panes : List Pane} {p : Pane} (h : p ∈ panes) :
    p.chars.length ≤ View.height (panes.map Pane.chars) := by
  rw [height_chars, p.length_chars]
  exact List.le_max?_getD_of_mem (List.mem_map_of_mem h)

theorem length_columnRows (panes : List Pane) :
    (columnRows (panes.map Pane.chars)).length = View.height (panes.map Pane.chars) := by
  rw [columnRows, List.length_map, length_sideBySide fun p => length_chars_le_height]

/-- Each row is cut off behind its last character that is not blank. -/
theorem getElem?_columnRows {panes : List Pane} {i : Nat} {row : List Char}
    (h : (columnRows (panes.map Pane.chars))[i]? = some row) :
    row = trimBlankEnd (fullRow i panes) := by
  have hi := (List.getElem?_eq_some_iff.1 h).1
  rw [length_columnRows] at hi
  rw [columnRows, List.getElem?_map, getElem?_sideBySide hi] at h
  exact (Option.some.inj h).symm

/-- The rows are read back from the layout, in which there is at least one. -/
theorem columnLines_eq {panes : List Pane} (hne : panes ≠ []) (h : ∀ p ∈ panes, p.NoLineFeeds) :
    columnLines panes = columnRows (panes.map Pane.chars) := by
  have hrows : columnRows (panes.map Pane.chars) ≠ [] := by
    obtain ⟨p, hp⟩ := List.exists_mem_of_ne_nil panes hne
    have hheight := length_chars_le_height hp
    rw [← length_columnRows, p.length_chars] at hheight
    exact List.ne_nil_of_length_pos (by omega)
  have hfeed : ∀ row ∈ columnRows (panes.map Pane.chars), '\n' ∉ row := by
    intro row hrow hmem
    obtain ⟨i, hi⟩ := List.getElem?_of_mem hrow
    rw [getElem?_columnRows hi] at hmem
    exact lineFeed_notMem_fullRow h i ((List.rdropWhile_prefix isBlank _).mem hmem)
  have hchars : ∀ row : List Char, (String.ofList row).toList = row := fun _ => String.toList_ofList
  change (joinLines ((columnRows (panes.map Pane.chars)).map String.ofList)).toList.splitOn '\n' = _
  rw [splitOn_joinLines (by simpa using hrows) (by simpa [hchars] using hfeed), List.map_map]
  simp [Function.comp_def, hchars]

/-- **Panes side by side lose nothing.**  There are as many rows as the tallest pane has with its title
and its rule.  In every row each pane but the last is found at its column, filled up with spaces to the
width of its widest row, for which there is always room; then comes the bar, and a space unless nothing
but blanks would follow.  The last pane is found at its column without the blanks at its end. -/
theorem columns_lose_nothing {panes : List Pane} (hne : panes ≠ [])
    (hfeed : ∀ p ∈ panes, p.NoLineFeeds) :
    (panes.map fun p => p.lines.length + 2).max? = some (columnLines panes).length ∧
    ∀ i row, (columnLines panes)[i]? = some row → ∀ k p, panes[k]? = some p →
      (p.cell i).length ≤ p.width ∧
      (k + 1 < panes.length →
        (row.drop (startOf panes k)).take p.width =
          p.cell i ++ List.replicate (p.width - (p.cell i).length) ' ' ∧
        ∃ rest, row.drop (startOf panes k + p.width) = ' ' :: '│' :: rest ∧
          (rest = [] ∨ ∃ tail, rest = ' ' :: tail ∧ ∃ c ∈ tail, isBlank c = false)) ∧
      (k + 1 = panes.length → row.drop (startOf panes k) = trimBlankEnd (p.cell i)) := by
  rw [columnLines_eq hne hfeed]
  constructor
  · have hheights : (panes.map fun p => p.lines.length + 2) ≠ [] := by simpa using hne
    obtain ⟨height, hheight⟩ := Option.isSome_iff_exists.1 (List.isSome_max?_of_ne_nil hheights)
    rw [length_columnRows, height_chars, hheight]
    rfl
  · intro i row hrow k p hp
    rw [getElem?_columnRows hrow]
    refine ⟨p.length_cell_le i, fun hk => ?_, fun hk => drop_trimBlankEnd_fullRow hp hk i⟩
    obtain ⟨front, rest, hfront, hcut, hrest⟩ := exists_trimBlankEnd_fullRow_eq hp hk i
    have hcolumn : (trimBlankEnd (fullRow i panes)).drop (startOf panes k) =
        pad p.width (p.cell i) ++ ' ' :: '│' :: rest := by
      rw [hcut, ← hfront, List.drop_left]
    have hwidth := p.length_pad_cell i
    rw [← List.drop_drop, hcolumn]
    exact ⟨List.take_left' hwidth, rest, List.drop_left' hwidth, hrest⟩

/-- Three panes of different heights and widths, in a row that is below the end of two of them and in
which the third has an empty line: the row ends at the second bar. -/
theorem columns_lose_nothing_blank_end :
    ∃ panes row, panes = [⟨"in", ["wide"]⟩, ⟨"é", []⟩, ⟨"out", ["x ", "", "y"]⟩] ∧
      (columnLines panes)[3]? = some row ∧ (columnLines panes).length = 5 ∧
      (row.drop 7).take 1 = [' '] ∧ row.drop 11 = [] ∧ ∃ rest, row.drop 8 = ' ' :: '│' :: rest := by
  obtain ⟨hcount, hrows⟩ := @columns_lose_nothing
    [⟨"in", ["wide"]⟩, ⟨"é", []⟩, ⟨"out", ["x ", "", "y"]⟩] (by decide) (by decide)
  have hrow : (columnLines [⟨"in", ["wide"]⟩, ⟨"é", []⟩, ⟨"out", ["x ", "", "y"]⟩])[3]? =
      some "     │   │".toList := by decide +kernel
  obtain ⟨-, hsecond, -⟩ := hrows 3 _ hrow 1 ⟨"é", []⟩ rfl
  obtain ⟨-, -, hlast⟩ := hrows 3 _ hrow 2 ⟨"out", ["x ", "", "y"]⟩ rfl
  obtain ⟨hcell, rest, hbar, -⟩ := hsecond (by decide)
  have hfive : some 5 = some _ := hcount
  exact ⟨_, _, rfl, hrow, (Option.some.inj hfive).symm, hcell, hlast rfl, rest, hbar⟩

end LiveJson
