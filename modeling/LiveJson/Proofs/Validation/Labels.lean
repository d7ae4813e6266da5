import LiveJson.Proofs.Json.Faults

/-!
# The marked character

A malformed text is shown with a mark at one of its characters.  Where it goes is not taken from the
reader's offset, but found again from the line and the column of the message.

## What is here

* `check_span_sliceable` — **every mark is such a span,** and so it would be at any other line and column.
* `check_span_eq_character_iff` — **which character is marked.**  It is the one that reading stopped at,
  unless this is a line feed, whose place is taken by the character behind it.
-/

set_option autoImplicit false

namespace LiveJson

open Json Json.Document Text

/-! ## Cutting the text -/

/-- **Every mark is a span that the text can be cut at.**  More than that, any line and any column lead
to a boundary: from the byte on the left of the column, or from the end of the text, it is reached before
the start of the text is passed.  The sum on the way there is at most twice the length of the text, as
long as the column is within that length. -/
theorem check_span_sliceable (text : String) :
    (∀ m, check text = .error m → m.span.Sliceable text) ∧
    ∀ line column, column ≤ text.utf8ByteSize →
      linesLength (line - 1) text.toList + (column - 1) ≤ 2 * text.utf8ByteSize ∧
      walkBack? text
          (min (linesLength (line - 1) text.toList + (column - 1)) text.utf8ByteSize) =
        some (offsetOf text.toList ⟨line, column⟩) ∧
      offsetOf text.toList ⟨line, column⟩ ≤ text.utf8ByteSize ∧
      String.Pos.Raw.IsValid text ⟨offsetOf text.toList ⟨line, column⟩⟩ := by
  constructor
  · intro m h
    obtain ⟨fault, -, rfl⟩ := check_eq_error_iff.1 h
    exact spanAt_sliceable (isValid_offsetOf text _)
  · intro line column hcolumn
    have hlines := linesLength_le (line - 1) text.toList
    refine ⟨?_, ?_, offsetOf_le text _, isValid_offsetOf text _⟩
    · rw [byteLength_toList] at hlines
      omega
    · rw [walkBack?_eq, offsetOf, byteLength_toList]

/-- The mark at a character of two bytes, and a column that points between them. -/
theorem check_span_sliceable_two_bytes :
    ∃ m, check "[1 é]" = .error m ∧ m.span = ⟨3, 2⟩ ∧ m.span.Sliceable "[1 é]" ∧
      5 ≤ "[1 é]".utf8ByteSize ∧ walkBack? "[1 é]" 4 = some 3 ∧
      String.Pos.Raw.IsValid "[1 é]" ⟨3⟩ := by
  obtain ⟨m, hcheck, hspan⟩ : ∃ m, check "[1 é]" = .error m ∧ decide (m.span = ⟨3, 2⟩) = true :=
    exists_check_eq_error (by decide +kernel)
  obtain ⟨hspans, hpositions⟩ := check_span_sliceable "[1 é]"
  have hcolumn : 5 ≤ "[1 é]".utf8ByteSize := by decide +kernel
  obtain ⟨-, hwalk, -, hvalid⟩ := hpositions 1 5 hcolumn
  have hstart : min (linesLength (1 - 1) "[1 é]".toList + (5 - 1)) "[1 é]".utf8ByteSize = 4 := by
    decide +kernel
  have hoffset : offsetOf "[1 é]".toList ⟨1, 5⟩ = 3 := by decide +kernel
  rw [hstart, hoffset] at hwalk
  rw [hoffset] at hvalid
  exact ⟨m, hcheck, of_decide_eq_true hspan, hspans m hcheck, hcolumn, hwalk, hvalid⟩

/-! ## Finding the character again -/

/-- **Which character is marked.**  A text that is malformed, but does not end too early, has been looked
at up to one of its bytes, and the position of the error is right behind it.  The mark is on the character
of this byte exactly if that is no line feed.  Behind a line feed, it is on the first character of the
next line, and empty if the text ends there. -/
theorem check_span_eq_character_iff {text : String} {m : Malformed} (h : check text = .error m)
    (hcause : m.cause.isEnd = false) :
    (∃ b < text.utf8ByteSize, readDocument text.toList = .error ⟨m.cause, b + 1⟩ ∧
      m.position = Position.ofOffset text.toList (b + 1)) ∧
    ∀ b front c back, m.position = Position.ofOffset text.toList (b + 1) →
      text.toList = front ++ c :: back → byteLength front ≤ b →
      b < byteLength front + c.utf8Size →
      (m.span = ⟨byteLength front, c.utf8Size⟩ ↔ c ≠ '\n') ∧
      (c = '\n' → m.span = ⟨b + 1, (back.head?.map Char.utf8Size).getD 0⟩) := by
  obtain ⟨fault, hread, rfl⟩ := check_eq_error_iff.1 h
  constructor
  · obtain ⟨b, hb, hoffset⟩ := exists_byte_of_isEnd hread hcause
    obtain ⟨cause, offset⟩ := fault
    cases hoffset
    exact ⟨b, byteLength_toList text ▸ hb, hread, rfl⟩
  · intro b front c back hposition heq hle hlt
    have hspan := spanAt_offsetOf_ofOffset heq hle hlt
    rw [← hposition] at hspan
    change (Malformed.ofFault text.toList fault).span = _ at hspan
    rw [hspan]
    by_cases hc : c = '\n'
    · rw [if_pos hc]
      refine ⟨⟨fun hspans => ?_, fun hne => absurd hc hne⟩, fun _ => rfl⟩
      have hoffset : b + 1 = byteLength front := congrArg Span.offset hspans
      omega
    · rw [if_neg hc]
      exact ⟨⟨fun _ => hc, fun _ => rfl⟩, fun hnewline => absurd hnewline hc⟩

/-- On the second line, at a character of two bytes. -/
theorem check_span_eq_character_iff_second_line :
    ∃ m, check "[\n 1 é]" = .error m ∧ m.cause.isEnd = false ∧
      m.position = Position.ofOffset "[\n 1 é]".toList (5 + 1) ∧
      "[\n 1 é]".toList = "[\n 1 ".toList ++ 'é' :: "]".toList ∧ m.span = ⟨5, 2⟩ := by
  obtain ⟨m, hcheck, htest⟩ : ∃ m, check "[\n 1 é]" = .error m ∧
      decide (m.cause.isEnd = false ∧ m.position = Position.ofOffset "[\n 1 é]".toList (5 + 1)) = true :=
    exists_check_eq_error (by decide +kernel)
  obtain ⟨hcause, hposition⟩ := of_decide_eq_true htest
  have heq : "[\n 1 é]".toList = "[\n 1 ".toList ++ 'é' :: "]".toList := by decide +kernel
  obtain ⟨hiff, -⟩ := (check_span_eq_character_iff hcheck hcause).2 5 _ _ _ hposition heq
    (by decide +kernel) (by decide +kernel)
  exact ⟨m, hcheck, hcause, hposition, heq, hiff.2 (by decide)⟩

/-- A line feed in a string: the error is right behind the line feed at byte 3, and the mark is on the
`b` behind it. -/
theorem check_marks_behind_line_feed :
    ∃ m, check "[\"a\nb\"]" = .error m ∧ m.cause = .controlCharacter ∧ m.cause.isEnd = false ∧
      m.position = Position.ofOffset "[\"a\nb\"]".toList (3 + 1) ∧
      "[\"a\nb\"]".toList = "[\"a".toList ++ '\n' :: "b\"]".toList ∧
      byteLength "[\"a".toList = 3 ∧ m.span = ⟨4, 1⟩ ∧ m.span ≠ ⟨3, ('\n').utf8Size⟩ := by
  obtain ⟨m, hcheck, htest⟩ : ∃ m, check "[\"a\nb\"]" = .error m ∧
      decide (m.cause = .controlCharacter ∧
        m.position = Position.ofOffset "[\"a\nb\"]".toList (3 + 1) ∧ m.span = ⟨4, 1⟩) = true :=
    exists_check_eq_error (by decide +kernel)
  obtain ⟨hcause, hposition, hspan⟩ := of_decide_eq_true htest
  refine ⟨m, hcheck, hcause, by rw [hcause]; rfl, hposition, by decide +kernel, by decide +kernel,
    hspan, ?_⟩
  rw [hspan]
  decide

end LiveJson
