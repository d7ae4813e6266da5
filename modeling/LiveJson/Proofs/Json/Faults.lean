import LiveJson.Proofs.Json.Runs
import LiveJson.Proofs.Text.Boundaries
import LiveJson.Validation

/-!
# Where reading a document stops

A document is malformed at a character, or at its end, and the causes of the two kinds are different
ones.

## What is here

* `Document.isEnd_of_fails` — no character is answered with a cause that says that the text ends too
  early.  A numeral is the one lexeme that is looked at again after its last character, and by then
  it can only be out of range (`NumeralPhase.fault_of_ended`).
* `Document.exists_runs_of_isEnd` — a text with such a cause has been read to its end.
* `Document.exists_byte_of_isEnd` — a text with any other cause has been looked at up to the end of
  one of its bytes, since no character is looked at beyond its own end
  (`Document.offset_le_of_fails`).
* `check_eq_ok_iff`, `check_eq_error_iff` — what `check` makes of reading.
-/

set_option autoImplicit false

namespace LiveJson.Json

open Text

/-! ## Lexemes -/

theorem NumeralPhase.fault_of_step {phase : NumeralPhase} {c : Char} {cause : Cause}
    (h : phase.step c = .fault cause) : cause = .invalidNumber ∨ cause = .numberOutOfRange := by
  cases phase <;> grind [step, afterWhole, powerDigit]

/-- A numeral that may end before a character can still be out of range. -/
theorem NumeralPhase.fault_of_ended {phase : NumeralPhase} {c : Char} {isNegative : Bool}
    {cause : Cause} (h : phase.step c = .ended) (hfinish : phase.finish isNegative = .error cause) :
    cause = .numberOutOfRange := by
  cases phase <;> grind [step, finish, powerDigit, numberOfParts, numberOfInteger]

theorem LiteralPhase.isEnd_of_step {phase : LiteralPhase} {c : Char} {cause : Cause} {advance : Nat}
    (h : phase.step c = .fault cause advance) : cause.isEnd = false := by
  cases phase <;> grind [step, digitStep, Cause.isEnd]

theorem Lexeme.isEnd_of_step {lexeme : Lexeme} {c : Char} {cause : Cause} {advance : Nat}
    (h : lexeme.step c = .fault cause advance) : cause.isEnd = false := by
  cases lexeme with
  | word next rest meaning =>
    simp only [step] at h
    split at h
    · split at h <;> cases h
    · cases h; rfl
  | number isNegative phase =>
    rw [step] at h
    split at h
    · cases h
    · next hstep =>
      cases h
      rcases NumeralPhase.fault_of_step hstep with rfl | rfl <;> rfl
    · next hstep =>
      split at h
      · cases h
      · next hfinish =>
        cases h
        rw [NumeralPhase.fault_of_ended hstep hfinish]
        rfl
  | string read phase =>
    rw [step] at h
    split at h
    · cases h
    · cases h
    · next hstep =>
      cases h
      exact LiteralPhase.isEnd_of_step hstep

theorem LiteralPhase.advance_le_of_step {phase : LiteralPhase} {c : Char} {cause : Cause}
    {advance : Nat} (h : phase.step c = .fault cause advance) : advance ≤ c.utf8Size := by
  have hsize := c.utf8Size_pos
  cases phase <;> grind [step, digitStep, HexDigits.push]

/-- A lexeme is looked at no further than to the end of the character. -/
theorem Lexeme.advance_le_of_step {lexeme : Lexeme} {c : Char} {cause : Cause} {advance : Nat}
    (h : lexeme.step c = .fault cause advance) : advance ≤ c.utf8Size := by
  have hsize := c.utf8Size_pos
  cases lexeme with
  | word next rest meaning => cases rest <;> grind [step]
  | number isNegative phase => grind [step]
  | string read phase => grind [step, → LiteralPhase.advance_le_of_step]

namespace Document

/-! ## Characters between lexemes -/

theorem beginValue_isEnd {outer : List Frame} {c : Char} {cause : Cause} {advance : Nat}
    (h : beginValue outer c = .fail cause advance) : cause.isEnd = false := by
  grind [beginValue, Cause.isEnd]

theorem react_isEnd {state : State} {c : Char} {cause : Cause} {advance : Nat}
    (h : react state c = .fail cause advance) : cause.isEnd = false := by
  cases state <;> grind [react, beginValue_isEnd, Cause.isEnd]

theorem fill_isEnd {slot : Slot} {v : Scalar} {cause : Cause} (h : fill slot v = .error cause) :
    cause.isEnd = false := by
  cases slot <;> cases v <;> cases h <;> rfl

/-- **No character says that the text ends too early.** -/
theorem isEnd_of_fails {config : Config State Slot} {c : Char} {fault : SyntaxFault}
    (h : grammar.Fails c config fault) : fault.error.isEnd = false := by
  induction h with
  | mark hreact => exact react_isEnd hreact
  | malformed hstep => exact Lexeme.isEnd_of_step hstep
  | closed _ hfill => exact fill_isEnd hfill
  | ended _ hfill => exact fill_isEnd hfill
  | behind _ _ _ ih => exact ih

/-- Repeated keys do not make a text malformed. -/
theorem readMembers_eq_error {text : List Char} {fault : SyntaxFault}
    (h : readDocument text = .error fault) : readMembers text = .error fault := by
  rw [readDocument] at h
  cases hread : readMembers text with
  | error f => rw [hread] at h; exact h
  | ok v => rw [hread] at h; cases h

/-- A text that ends too early has been read to its end. -/
theorem exists_runs_of_isEnd {text : List Char} {fault : SyntaxFault}
    (h : readDocument text = .error fault) (hend : fault.error.isEnd = true) :
    ∃ last, grammar.Runs (.between (.value [])) text last ∧
      grammar.close last = .error fault.error ∧ fault.offset = byteLength text := by
  rcases Grammar.read_eq_error_iff.1 (readMembers_eq_error h) with hlast | hfeed
  · exact hlast
  · obtain ⟨front, c, back, middle, here, -, -, hstep, rfl⟩ := Grammar.feed_eq_error_iff.1 hfeed
    rw [isEnd_of_fails (Grammar.fails_of_step hstep)] at hend
    cases hend

/-! ## How far a text has been looked at -/

/-- Between lexemes, one byte is looked at. -/
theorem react_advance {state : State} {c : Char} {cause : Cause} {advance : Nat}
    (h : react state c = .fail cause advance) : advance = 1 := by
  cases state <;> grind [react, beginValue]

/-- No character is looked at beyond its end. -/
theorem offset_le_of_fails {config : Config State Slot} {c : Char} {fault : SyntaxFault}
    (h : grammar.Fails c config fault) : fault.offset ≤ c.utf8Size := by
  induction h with
  | mark hreact =>
    rw [react_advance hreact]
    exact c.utf8Size_pos
  | malformed hstep => exact Lexeme.advance_le_of_step hstep
  | closed => exact Nat.le_refl _
  | ended => exact Nat.zero_le _
  | behind _ _ _ ih => exact ih

/-- The first byte of a text is looked at in any case. -/
theorem offset_pos_of_fails {front : List Char} {middle : Config State Slot} {c : Char}
    {fault : SyntaxFault} (hruns : grammar.Runs (.between (.value [])) front middle)
    (h : grammar.Fails c middle fault) : 0 < byteLength front + fault.offset := by
  cases hruns with
  | nil =>
    cases h with
    | mark hreact =>
      change react (.value []) c = _ at hreact
      rw [react_advance hreact]
      exact Nat.succ_pos _
  | cons _ _ => exact Nat.add_pos_left (byteLength_pos (List.cons_ne_nil _ _)) _

/-- **What is malformed is so at one of its bytes,** if it does not end too early.  A number that is out
of range is noticed behind its last digit. -/
theorem exists_byte_of_isEnd {text : List Char} {fault : SyntaxFault}
    (h : readDocument text = .error fault) (hend : fault.error.isEnd = false) :
    ∃ b < byteLength text, fault.offset = b + 1 := by
  suffices hbounds : 0 < fault.offset ∧ fault.offset ≤ byteLength text from
    ⟨fault.offset - 1, by omega, by omega⟩
  rcases Grammar.read_eq_error_iff.1 (readMembers_eq_error h) with
    ⟨last, hruns, hclose, hoffset⟩ | hfeed
  · -- the empty text ends too early
    refine ⟨?_, Nat.le_of_eq hoffset⟩
    rw [hoffset]
    refine byteLength_pos ?_
    rintro rfl
    cases hruns
    have hcause : Cause.endInValue = fault.error := Except.error.inj hclose
    rw [← hcause] at hend
    cases hend
  · obtain ⟨front, c, back, middle, here, rfl, hruns, hstep, rfl⟩ :=
      Grammar.feed_eq_error_iff.1 hfeed
    have hfails := Grammar.fails_of_step hstep
    have hpos := offset_pos_of_fails hruns hfails
    have hle := offset_le_of_fails hfails
    rw [byteLength_append, byteLength_cons]
    dsimp only
    omega

end Document

end LiveJson.Json

namespace LiveJson

open Json

/-! ## Validation -/

/-- A text is a document when it is read. -/
theorem check_eq_ok_iff {text : String} {v : Value} :
    check text = .ok v ↔ readDocument text.toList = .ok v := by
  rw [check]
  split
  · next hread => rw [hread, Except.ok.injEq, Except.ok.injEq]
  · next hread => simp [hread]

/-- What is known about a text that is no document comes from the fault of its reader. -/
theorem check_eq_error_iff {text : String} {m : Malformed} :
    check text = .error m ↔
      ∃ fault, readDocument text.toList = .error fault ∧ m = .ofFault text.toList fault := by
  rw [check]
  split
  · next hread => simp [hread]
  · next fault hread => simp [hread, eq_comm]

/-- A test of what a text is read as gives a document that passes it. -/
theorem exists_check_eq_ok {text : String} {p : Value → Bool}
    (h : (check text).toOption.any p = true) : ∃ v, check text = .ok v ∧ p v = true := by
  cases hcheck : check text with
  | error m => rw [hcheck] at h; cases h
  | ok v => rw [hcheck] at h; exact ⟨v, rfl, h⟩

/-- A test of what is wrong with a text gives an error that passes it. -/
theorem exists_check_eq_error {text : String} {p : Malformed → Bool}
    (h : (match check text with | .ok _ => false | .error m => p m) = true) :
    ∃ m, check text = .error m ∧ p m = true := by
  cases hcheck : check text with
  | error m => rw [hcheck] at h; exact ⟨m, rfl, h⟩
  | ok v => rw [hcheck] at h; cases h

end LiveJson
