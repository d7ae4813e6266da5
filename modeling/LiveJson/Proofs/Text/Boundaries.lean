import LiveJson.Text.Position

/-!
# Boundaries of characters

A text can be cut where a character starts, and at its end.  These offsets are the lengths of the front
parts of the text; core calls them valid positions.

## What is here

* `isValid_iff` — the two descriptions of a boundary.
* `boundaryBefore_le`, `exists_append_boundaryBefore`, `le_boundaryBefore` — `boundaryBefore` is the last
  boundary that is not beyond an offset.
* `walkBack?` — the boundary that is met on the way back from an offset, one byte at a time.  It is the
  same one (`walkBack?_eq`), so the way never leads beyond the start of the text.
* `Span.Sliceable` — the spans that a text can be cut at: a character, or nothing at the end of the text.
  The span at any boundary is one (`spanAt_sliceable`).
* `linesLength_ofOffset` — an offset is what the lines before it take, and its column.
* `offsetOf_ofOffset_succ` — **from a byte to the position behind it, and back.**  This leads to the
  start of the character, unless the character is a line feed: the position behind that one is the start
  of a line, and there is nothing on this line to step back to.
-/

set_option autoImplicit false

namespace LiveJson.Text

/-! ## Lengths -/

theorem byteLength_pos {cs : List Char} (h : cs ≠ []) : 0 < byteLength cs := by
  cases cs with
  | nil => exact absurd rfl h
  | cons c cs => exact Nat.add_pos_left c.utf8Size_pos _

theorem byteLength_toList (text : String) : byteLength text.toList = text.utf8ByteSize := by
  suffices hlist : ∀ cs, byteLength cs = (String.ofList cs).utf8ByteSize by
    rw [hlist, String.ofList_toList]
  intro cs
  induction cs with
  | nil => rfl
  | cons c cs ih =>
    rw [byteLength_cons, ih, String.ofList_cons, String.utf8ByteSize_append,
      String.utf8ByteSize_singleton]

/-! ## Boundaries -/

/-- The boundaries of a text are the lengths of its front parts. -/
theorem isValid_iff {text : String} {offset : Nat} :
    String.Pos.Raw.IsValid text ⟨offset⟩ ↔
      ∃ front back, text.toList = front ++ back ∧ byteLength front = offset := by
  rw [String.Pos.Raw.isValid_iff_exists_append]
  constructor
  · rintro ⟨s, t, rfl, h⟩
    refine ⟨s.toList, t.toList, String.toList_append, ?_⟩
    rw [byteLength_toList]
    exact (congrArg String.Pos.Raw.byteIdx h).symm
  · rintro ⟨front, back, h, rfl⟩
    refine ⟨String.ofList front, String.ofList back, ?_, ?_⟩
    · rw [← String.ofList_append, ← h, String.ofList_toList]
    · rw [← String.toList_ofList (l := front), byteLength_toList, String.toList_ofList]
      rfl

/-- Boundaries in the back part of a text. -/
theorem boundaryBefore_append (cs ds : List Char) (k : Nat) :
    boundaryBefore (cs ++ ds) (byteLength cs + k) = byteLength cs + boundaryBefore ds k := by
  induction cs with
  | nil => simp
  | cons c cs ih =>
    have hge : ¬ c.utf8Size + byteLength cs + k < c.utf8Size := by omega
    have hsub : c.utf8Size + byteLength cs + k - c.utf8Size = byteLength cs + k := by omega
    rw [List.cons_append, byteLength_cons, boundaryBefore, if_neg hge, hsub, ih, Nat.add_assoc]

theorem boundaryBefore_zero (cs : List Char) : boundaryBefore cs 0 = 0 := by
  cases cs with
  | nil => rfl
  | cons c cs => rw [boundaryBefore, if_pos c.utf8Size_pos]

theorem boundaryBefore_byteLength (front back : List Char) :
    boundaryBefore (front ++ back) (byteLength front) = byteLength front := by
  have h := boundaryBefore_append front back 0
  rwa [boundaryBefore_zero] at h

theorem boundaryBefore_le (cs : List Char) (k : Nat) : boundaryBefore cs k ≤ k := by
  induction cs generalizing k with
  | nil => exact Nat.zero_le k
  | cons c cs ih =>
    rw [boundaryBefore]
    split
    · exact Nat.zero_le k
    · have := ih (k - c.utf8Size)
      omega

theorem exists_append_boundaryBefore (cs : List Char) (k : Nat) :
    ∃ front back, cs = front ++ back ∧ byteLength front = boundaryBefore cs k := by
  induction cs generalizing k with
  | nil => exact ⟨[], [], rfl, rfl⟩
  | cons c cs ih =>
    rw [boundaryBefore]
    split
    · exact ⟨[], c :: cs, rfl, rfl⟩
    · obtain ⟨front, back, heq, hlength⟩ := ih (k - c.utf8Size)
      exact ⟨c :: front, back, congrArg (c :: ·) heq, by rw [byteLength_cons, hlength]⟩

/-- No boundary lies between `boundaryBefore` and the offset. -/
theorem le_boundaryBefore {front back : List Char} {k : Nat} (h : byteLength front ≤ k) :
    byteLength front ≤ boundaryBefore (front ++ back) k := by
  obtain ⟨j, rfl⟩ := Nat.exists_eq_add_of_le h
  rw [boundaryBefore_append]
  exact Nat.le_add_right _ _

section

variable (text : String) {k j : Nat}

theorem isValid_boundaryBefore (k : Nat) :
    String.Pos.Raw.IsValid text ⟨boundaryBefore text.toList k⟩ :=
  isValid_iff.2 (exists_append_boundaryBefore text.toList k)

theorem le_boundaryBefore_of_isValid (h : String.Pos.Raw.IsValid text ⟨j⟩) (hle : j ≤ k) :
    j ≤ boundaryBefore text.toList k := by
  obtain ⟨front, back, heq, rfl⟩ := isValid_iff.1 h
  rw [heq]
  exact le_boundaryBefore hle

theorem boundaryBefore_eq_self_iff :
    boundaryBefore text.toList k = k ↔ String.Pos.Raw.IsValid text ⟨k⟩ := by
  constructor
  · intro h
    have hvalid := isValid_boundaryBefore text k
    rwa [h] at hvalid
  · intro h
    obtain ⟨front, back, heq, rfl⟩ := isValid_iff.1 h
    rw [heq, boundaryBefore_byteLength]

/-! ## The way back -/

/-- The first boundary on the way back from an offset, a byte at a time.  There is none if the way
leads beyond the start of the text. -/
def walkBack? (offset : Nat) : Option Nat :=
  if String.Pos.Raw.IsValid text ⟨offset⟩ then some offset
  else
    match offset with
    | 0 => none
    | offset + 1 => walkBack? offset

/-- **The way back ends at a boundary,** the last one that is not beyond the offset. -/
theorem walkBack?_eq (k : Nat) : walkBack? text k = some (boundaryBefore text.toList k) := by
  induction k with
  | zero =>
    have hzero : String.Pos.Raw.IsValid text ⟨0⟩ :=
      (boundaryBefore_eq_self_iff text).1 (boundaryBefore_zero _)
    rw [walkBack?, if_pos hzero, boundaryBefore_zero]
  | succ k ih =>
    rw [walkBack?]
    split
    · next h => rw [(boundaryBefore_eq_self_iff text).2 h]
    · next h =>
      have hne : boundaryBefore text.toList (k + 1) ≠ k + 1 :=
        mt (boundaryBefore_eq_self_iff text).1 h
      have hle := boundaryBefore_le text.toList (k + 1)
      have hup : boundaryBefore text.toList (k + 1) ≤ boundaryBefore text.toList k :=
        le_boundaryBefore_of_isValid text (isValid_boundaryBefore text (k + 1)) (by omega)
      have hdown : boundaryBefore text.toList k ≤ boundaryBefore text.toList (k + 1) :=
        le_boundaryBefore_of_isValid text (isValid_boundaryBefore text k)
          (Nat.le_succ_of_le (boundaryBefore_le _ k))
      rw [ih, Nat.le_antisymm hdown hup]

end

/-! ## Spans -/

theorem dropBytes_append (front back : List Char) :
    dropBytes (front ++ back) (byteLength front) = back := by
  induction front with
  | nil => cases back <;> rfl
  | cons c front ih =>
    have hne : c.utf8Size + byteLength front ≠ 0 := by
      have := c.utf8Size_pos
      omega
    rw [List.cons_append, byteLength_cons, dropBytes, if_neg hne, Nat.add_sub_cancel_left, ih]

/-- The span at a boundary is that of the next character, and empty if there is none. -/
theorem spanAt_append (front back : List Char) :
    spanAt (front ++ back) (byteLength front) =
      ⟨byteLength front, (back.head?.map Char.utf8Size).getD 0⟩ := by
  rw [spanAt, dropBytes_append]

/-- A span that a text can be cut at.  It is one character, or it is empty and at the end of the text. -/
structure Span.Sliceable (text : String) (s : Span) : Prop where
  offset_le : s.offset ≤ text.utf8ByteSize
  isValid_offset : String.Pos.Raw.IsValid text ⟨s.offset⟩
  isValid_end : String.Pos.Raw.IsValid text ⟨s.offset + s.length⟩
  length_eq_zero_iff : s.length = 0 ↔ s.offset = text.utf8ByteSize
  length_eq : ∀ front c back, text.toList = front ++ c :: back → byteLength front = s.offset →
    s.length = c.utf8Size

/-- The span at any boundary. -/
theorem spanAt_sliceable {text : String} {offset : Nat}
    (h : String.Pos.Raw.IsValid text ⟨offset⟩) : (spanAt text.toList offset).Sliceable text := by
  obtain ⟨front, back, heq, rfl⟩ := isValid_iff.1 h
  have hsize : text.utf8ByteSize = byteLength front + byteLength back := by
    rw [← byteLength_toList, heq, byteLength_append]
  have hspan : spanAt text.toList (byteLength front) = _ := heq ▸ spanAt_append front back
  refine ⟨hsize ▸ Nat.le_add_right _ _, h, ?_, ?_, ?_⟩
  · rw [hspan]
    cases back with
    | nil => exact h
    | cons c back =>
      refine isValid_iff.2 ⟨front ++ [c], back, ?_, ?_⟩
      · rw [heq, List.append_cons]
      · rw [byteLength_append]
        rfl
  · rw [hspan, hsize]
    cases back with
    | nil => exact ⟨fun _ => rfl, fun _ => rfl⟩
    | cons c back =>
      have hpos := c.utf8Size_pos
      show c.utf8Size = 0 ↔ byteLength front = byteLength front + (c.utf8Size + byteLength back)
      omega
  · intro front' c back' heq' hlength
    change byteLength front' = byteLength front at hlength
    rw [← hlength, heq', spanAt_append]
    rfl

/-! ## Lines and columns -/

theorem linesLength_le (n : Nat) (cs : List Char) : linesLength n cs ≤ byteLength cs := by
  induction cs generalizing n with
  | nil => cases n <;> exact Nat.le_refl 0
  | cons c cs ih =>
    cases n with
    | zero => exact Nat.zero_le _
    | succ n => exact Nat.add_le_add_left (ih _) _

/-- A line and a column lead to a boundary. -/
theorem isValid_offsetOf (text : String) (p : Position) :
    String.Pos.Raw.IsValid text ⟨offsetOf text.toList p⟩ :=
  isValid_boundaryBefore text _

theorem offsetOf_le (text : String) (p : Position) :
    offsetOf text.toList p ≤ text.utf8ByteSize := by
  rw [← byteLength_toList]
  exact Nat.le_trans (boundaryBefore_le _ _) (Nat.min_le_right _ _)

theorem Position.after_append (p : Position) (cs ds : List Char) (k : Nat) :
    p.after (cs ++ ds) (byteLength cs + k) = (cs.foldl Position.advance p).after ds k := by
  induction cs generalizing p with
  | nil => simp
  | cons c cs ih =>
    have hge : ¬ c.utf8Size + byteLength cs + k < c.utf8Size := by omega
    have hsub : c.utf8Size + byteLength cs + k - c.utf8Size = byteLength cs + k := by omega
    rw [List.cons_append, byteLength_cons, after, if_neg hge, hsub, ih, List.foldl_cons]

theorem Position.after_zero (p : Position) (cs : List Char) : p.after cs 0 = p := by
  cases cs with
  | nil => rfl
  | cons c cs => rw [after, if_pos c.utf8Size_pos]; rfl

/-- Lines are counted upwards.  The lines in between and the column make up for the offset; on the
line of the start, its column is counted in. -/
theorem Position.linesLength_after (p : Position) (cs : List Char) (k : Nat) :
    p.line ≤ (p.after cs k).line ∧
      linesLength ((p.after cs k).line - p.line) cs + (p.after cs k).column =
        k + if (p.after cs k).line = p.line then p.column else 0 := by
  induction cs generalizing p k with
  | nil => simp [after, linesLength, Nat.add_comm]
  | cons c cs ih =>
    rw [after]
    split
    · simp [linesLength, Nat.add_comm]
    · next hge =>
      obtain ⟨hle, hlength⟩ := ih (p.advance c) (k - c.utf8Size)
      generalize (p.advance c).after cs (k - c.utf8Size) = q at hle hlength
      by_cases hc : c = '\n'
      · subst hc
        have hsize : ('\n' : Char).utf8Size = 1 := rfl
        obtain ⟨n, hn⟩ : ∃ n, q.line = p.line + 1 + n := Nat.exists_eq_add_of_le hle
        simp only [advance, if_true] at hlength
        have hlines : q.line - p.line = n + 1 := by omega
        have hlines' : q.line - (p.line + 1) = n := by omega
        rw [hlines'] at hlength
        rw [hlines, linesLength, if_pos rfl, if_neg (by omega)]
        split at hlength <;> omega
      · simp only [advance, if_neg hc] at hle hlength
        refine ⟨hle, ?_⟩
        split at hlength
        · next heq =>
          rw [heq, Nat.sub_self, linesLength] at hlength ⊢
          rw [if_pos rfl]
          omega
        · next hne =>
          obtain ⟨n, hn⟩ : ∃ n, q.line - p.line = n + 1 := ⟨q.line - p.line - 1, by omega⟩
          rw [hn] at hlength ⊢
          rw [linesLength, if_neg hc, if_neg hne]
          omega

/-- **An offset is what the lines before it take, and its column.** -/
theorem linesLength_ofOffset (text : List Char) (k : Nat) :
    linesLength ((Position.ofOffset text k).line - 1) text + (Position.ofOffset text k).column = k := by
  have h : linesLength ((Position.ofOffset text k).line - 1) text + (Position.ofOffset text k).column =
      k + if (Position.ofOffset text k).line = 1 then 0 else 0 :=
    (Position.start.linesLength_after text k).2
  rwa [ite_self, Nat.add_zero] at h

section

variable {front back : List Char} {c : Char} {b : Nat}

/-- A column is zero only at the start of the text and behind a line feed. -/
theorem column_ofOffset_succ_eq_zero_iff (hle : byteLength front ≤ b)
    (hlt : b < byteLength front + c.utf8Size) :
    (Position.ofOffset (front ++ c :: back) (b + 1)).column = 0 ↔ c = '\n' := by
  obtain ⟨j, rfl⟩ := Nat.exists_eq_add_of_le hle
  rw [Position.ofOffset, Nat.add_assoc, Position.after_append, Position.after]
  split
  · next hinside =>
    constructor
    · intro h
      exact absurd h (Nat.succ_ne_zero _)
    · rintro rfl
      exact absurd hinside (Nat.not_lt.2 (Nat.le_add_left 1 j))
  · have hend : j + 1 - c.utf8Size = 0 := by omega
    have hsize := c.utf8Size_pos
    rw [hend, Position.after_zero, Position.advance]
    split
    · next hc => simp [hc]
    · next hc =>
      constructor
      · intro h
        exact absurd h (Nat.ne_of_gt (Nat.add_pos_right _ hsize))
      · exact fun h => absurd h hc

/-- A line feed is one byte, and the boundary behind it is right behind this byte. -/
theorem byteLength_append_newline (hle : byteLength front ≤ b)
    (hlt : b < byteLength front + c.utf8Size) (hc : c = '\n') :
    byteLength (front ++ [c]) = b + 1 := by
  have hsize : c.utf8Size = 1 := by rw [hc]; rfl
  rw [byteLength_append, byteLength_cons, byteLength_nil]
  omega

/-- **From a byte to the position behind it, and back.** -/
theorem offsetOf_ofOffset_succ (hle : byteLength front ≤ b)
    (hlt : b < byteLength front + c.utf8Size) :
    offsetOf (front ++ c :: back) (Position.ofOffset (front ++ c :: back) (b + 1)) =
      if c = '\n' then b + 1 else byteLength front := by
  have hsum := linesLength_ofOffset (front ++ c :: back) (b + 1)
  have hcolumn : (Position.ofOffset (front ++ c :: back) (b + 1)).column = 0 ↔ c = '\n' :=
    column_ofOffset_succ_eq_zero_iff hle hlt
  have hlength : byteLength (front ++ c :: back) = byteLength front + c.utf8Size + byteLength back := by
    rw [byteLength_append, byteLength_cons, Nat.add_assoc]
  rw [offsetOf, hlength]
  generalize Position.ofOffset (front ++ c :: back) (b + 1) = p at hsum hcolumn
  split
  · next hc =>
    have hzero := hcolumn.2 hc
    have hend := byteLength_append_newline hle hlt hc
    have hstart : min (linesLength (p.line - 1) (front ++ c :: back) + (p.column - 1))
        (byteLength front + c.utf8Size + byteLength back) = b + 1 := by omega
    rw [hstart, ← hend, List.append_cons, boundaryBefore_byteLength]
  · next hc =>
    have hpos : p.column ≠ 0 := mt hcolumn.1 hc
    obtain ⟨j, rfl⟩ := Nat.exists_eq_add_of_le hle
    have hstart : min (linesLength (p.line - 1) (front ++ c :: back) + (p.column - 1))
        (byteLength front + c.utf8Size + byteLength back) = byteLength front + j := by omega
    rw [hstart, boundaryBefore_append, boundaryBefore, if_pos (by omega), Nat.add_zero]

/-- The span for a position behind a byte. -/
theorem spanAt_offsetOf_ofOffset {text : List Char}
    (heq : text = front ++ c :: back) (hle : byteLength front ≤ b)
    (hlt : b < byteLength front + c.utf8Size) :
    spanAt text (offsetOf text (Position.ofOffset text (b + 1))) =
      if c = '\n' then ⟨b + 1, (back.head?.map Char.utf8Size).getD 0⟩
      else ⟨byteLength front, c.utf8Size⟩ := by
  rw [heq, offsetOf_ofOffset_succ hle hlt]
  split
  · next hc =>
    have hb := byteLength_append_newline hle hlt hc
    rw [← hb, List.append_cons, spanAt_append]
  · rw [spanAt_append]
    rfl

end

end LiveJson.Text
