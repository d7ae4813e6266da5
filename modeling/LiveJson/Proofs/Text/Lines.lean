import LiveJson.Text.Blank

/-!
# Lines that make a text again

Taking a text apart into lines and putting the lines together again loses two things: carriage
returns at the ends of lines, and a line feed at the end of the text.  A text without them comes back
as it was.

## What is here

* `intercalate_lines`, `joinLines_linesOf` — such a text comes back from its lines.
* `splitOn_joinLines` — lines without line feeds come back from the text that they make.  There must
  be one at least: no lines and one empty line make the same text.
* `splitOn_joinLines_eq_flatMap` — other lines come back in pieces, and so there are more of them
  (`length_flatMap_splitOn_eq_iff`).
-/

set_option autoImplicit false

namespace LiveJson.Text

/-! ## The text of its lines -/

/-- Only a text without characters has no lines. -/
theorem lines_ne_nil {cs : List Char} (h : cs ≠ []) : lines cs ≠ [] := by
  fun_cases lines cs <;> simp_all

/-- A character that neither ends a line nor goes with its end stands at the start of a line. -/
theorem intercalate_lines_cons {c : Char} {cs : List Char} (hfeed : c ≠ '\n') (hreturn : c ≠ '\r') :
    ['\n'].intercalate (lines (c :: cs)) = c :: ['\n'].intercalate (lines cs) := by
  cases hlines : lines cs with
  | nil => simp [lines, hreturn, hlines]
  | cons l ls => cases ls <;> simp [lines, hreturn, hlines]

/-- **A text comes back from its lines** if it has no carriage returns and does not end in a line
feed. -/
theorem intercalate_lines {cs : List Char} (hreturn : '\r' ∉ cs) (hlast : cs.getLast? ≠ some '\n') :
    ['\n'].intercalate (lines cs) = cs := by
  induction cs with
  | nil => rfl
  | cons c cs ih =>
    rw [List.mem_cons, not_or] at hreturn
    have hrest : cs.getLast? ≠ some '\n' := by
      cases cs with
      | nil => simp
      | cons d ds => rwa [List.getLast?_cons_cons] at hlast
    by_cases hfeed : c = '\n'
    · subst hfeed
      have hcs : cs ≠ [] := by
        rintro rfl
        exact hlast rfl
      rw [lines, List.intercalate_cons_of_ne_nil (lines_ne_nil hcs), ih hreturn.2 hrest]
      rfl
    · rw [intercalate_lines_cons hfeed (Ne.symm hreturn.1), ih hreturn.2 hrest]

/-- What lines make, as a list of characters. -/
theorem toList_joinLines (ls : List String) :
    (joinLines ls).toList = ['\n'].intercalate (ls.map String.toList) := by
  rw [joinLines, String.toList_intercalate]
  rfl

/-- A text without carriage returns that does not end in a line feed comes back from its lines. -/
theorem joinLines_linesOf {text : String} (hreturn : '\r' ∉ text.toList)
    (hlast : text.toList.getLast? ≠ some '\n') : joinLines (linesOf text) = text := by
  rw [← String.toList_inj, toList_joinLines, linesOf, List.map_map]
  simp only [Function.comp_def, String.toList_ofList, List.map_id']
  exact intercalate_lines hreturn hlast

/-! ## The lines of a text -/

/-- **Lines without line feeds come back from the text that they make.** -/
theorem splitOn_joinLines {ls : List String} (hne : ls ≠ []) (hfeed : ∀ l ∈ ls, '\n' ∉ l.toList) :
    (joinLines ls).toList.splitOn '\n' = ls.map String.toList := by
  rw [toList_joinLines]
  refine List.splitOn_intercalate '\n' ?_ (by simpa using hne)
  simpa using hfeed

/-- No line of a text has a line feed in it. -/
theorem lineFeed_notMem_of_mem_lines {cs l : List Char} (h : l ∈ lines cs) : '\n' ∉ l := by
  induction cs using lines.induct generalizing l with
  | case1 => cases h
  | case2 cs ih =>
    rw [lines] at h
    rcases List.mem_cons.1 h with rfl | h
    · exact List.not_mem_nil
    · exact ih h
  | case3 cs ih =>
    rw [lines] at h
    rcases List.mem_cons.1 h with rfl | h
    · exact List.not_mem_nil
    · exact ih h
  | case4 c cs hfeed hreturn hlines =>
    have hc : c ≠ '\n' := hfeed
    rw [lines, hlines] at h
    · obtain rfl := List.mem_singleton.1 h
      simpa using hc.symm
    · exact hfeed
    · exact hreturn
  | case5 c cs hfeed hreturn first rest hlines ih =>
    have hc : c ≠ '\n' := hfeed
    rw [hlines] at ih
    rw [lines, hlines] at h
    · rcases List.mem_cons.1 h with rfl | h
      · rw [List.mem_cons, not_or]
        exact ⟨hc.symm, ih List.mem_cons_self⟩
      · exact ih (List.mem_cons_of_mem first h)
    · exact hfeed
    · exact hreturn

/-! ## Lines with line feeds -/

/-- Lines come back in the pieces that they have of their own. -/
theorem splitOn_intercalate_eq_flatMap {ls : List (List Char)} (hne : ls ≠ []) :
    (['\n'].intercalate ls).splitOn '\n' = ls.flatMap fun l => l.splitOn '\n' := by
  induction ls with
  | nil => exact absurd rfl hne
  | cons l rest ih =>
    cases rest with
    | nil => simp
    | cons l' rest =>
      rw [List.intercalate_cons_cons, List.append_assoc, List.singleton_append,
        List.splitOn_append_cons_self, ih (List.cons_ne_nil l' rest)]
      rfl

theorem splitOn_joinLines_eq_flatMap {ls : List String} (hne : ls ≠ []) :
    (joinLines ls).toList.splitOn '\n' = ls.flatMap fun l => l.toList.splitOn '\n' := by
  rw [toList_joinLines, splitOn_intercalate_eq_flatMap (by simpa using hne), List.flatMap_map]

/-- A line is in one piece if it has no line feed. -/
theorem length_splitOn_eq_one_iff {cs : List Char} :
    (cs.splitOn '\n').length = 1 ↔ '\n' ∉ cs := by
  constructor
  · intro hlength hmem
    obtain ⟨front, back, rfl⟩ := List.append_of_mem hmem
    rw [List.splitOn_append_cons_self, List.length_append] at hlength
    have hfront := List.length_pos_iff.2 (List.splitOn_ne_nil '\n' front)
    have hback := List.length_pos_iff.2 (List.splitOn_ne_nil '\n' back)
    omega
  · intro h
    rw [List.splitOn_eq_singleton h]
    rfl

/-- **There are as many pieces as lines** if no line has a line feed, and more of them otherwise. -/
theorem length_flatMap_splitOn_eq_iff {ls : List (List Char)} :
    (ls.flatMap fun l => l.splitOn '\n').length = ls.length ↔ ∀ l ∈ ls, '\n' ∉ l := by
  have hle : ∀ ls : List (List Char), ls.length ≤ (ls.flatMap fun l => l.splitOn '\n').length := by
    intro ls
    induction ls with
    | nil => exact Nat.le_refl 0
    | cons l rest ih =>
      have hpos := List.length_pos_iff.2 (List.splitOn_ne_nil '\n' l)
      rw [List.flatMap_cons, List.length_append, List.length_cons]
      omega
  induction ls with
  | nil => simp
  | cons l rest ih =>
    have hpos := List.length_pos_iff.2 (List.splitOn_ne_nil '\n' l)
    have hrest := hle rest
    rw [List.flatMap_cons, List.length_append, List.length_cons, List.forall_mem_cons]
    refine Iff.trans ?_ (and_congr length_splitOn_eq_one_iff ih)
    omega

end LiveJson.Text
