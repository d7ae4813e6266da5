import LiveJson.Proofs.Json.Scalars
import LiveJson.Proofs.Validation.Completion
import Mathlib.Tactic.ByContra
import Mathlib.Tactic.SplitIfs

/-!
# When the advice is to close a string

A text that ends inside a string should be answered with the advice to close the string, and no other
text should.  The second half is true.  The first fails in one place, where the scan behind the advice
and the reader part: a `\u` escape that the end of the text cuts short.  The reader waits for four
bytes, whatever they are; the scan takes a quote among them for the end of the string.

## What is here

* `UnitEscape` — the phases of a `\u` escape, which are the same for a first and for a second unit.
* `CutShort` — a text that ends in such an escape, with the characters that stand behind its `\u`
  (`UnitEscape.exists_cutShort`: the reader is in the digits of a unit behind such texts only).
* `leavesString` — characters that lead the scan out of a string.
* `check_closeString_iff_endInString_iff` — **the advice is right unless a `\u` escape is cut short
  behind characters of that kind.**
-/

set_option autoImplicit false

namespace LiveJson

open Json Json.Document Text Validation

/-! ## Escapes for a unit -/

namespace Json

/-- The phases of a `\u` escape: in front of it, behind its backslash, and in its digits. -/
inductive UnitEscape : LiteralPhase → LiteralPhase → (HexDigits → LiteralPhase) → Prop
  /-- The unit is a character, or the first half of a surrogate pair. -/
  | first : UnitEscape .plain .escape .unit
  /-- The unit is the second half of a surrogate pair. -/
  | second (high : Nat) : UnitEscape (.half high) (.halfEscape high) (.lowUnit high)

variable {before behind : LiteralPhase} {inDigits : HexDigits → LiteralPhase}

theorem UnitEscape.step_backslash (h : UnitEscape before behind inDigits) :
    before.step '\\' = .more none behind := by
  cases h <;> rfl

theorem UnitEscape.step_u (h : UnitEscape before behind inDigits) :
    behind.step 'u' = .more none (inDigits .start) := by
  cases h <;> rfl

/-- As long as there are fewer than four bytes, no digit is looked at. -/
theorem UnitEscape.step_digit (h : UnitEscape before behind inDigits) {digits : HexDigits} {c : Char}
    (hwidth : (digits.push c).bytes < HexDigits.width) :
    (inDigits digits).step c = .more none (inDigits (digits.push c)) := by
  cases h <;> simp only [LiteralPhase.step, digitStep, if_pos hwidth]

/-- Only a backslash leads behind the backslash. -/
theorem UnitEscape.eq_of_step_behind (h : UnitEscape before behind inDigits) {phase : LiteralPhase}
    {c : Char} {read : Option Char} (hstep : phase.step c = .more read behind) :
    phase = before ∧ c = '\\' := by
  cases h <;> cases phase <;> grind [LiteralPhase.step, digitStep]

/-- Into the digits leads the `u`, or a digit. -/
theorem UnitEscape.eq_of_step_inDigits (h : UnitEscape before behind inDigits) {phase : LiteralPhase}
    {c : Char} {read : Option Char} {digits : HexDigits}
    (hstep : phase.step c = .more read (inDigits digits)) :
    (phase = behind ∧ c = 'u' ∧ digits = .start) ∨
      ∃ fewer : HexDigits, phase = inDigits fewer ∧ digits = fewer.push c ∧
        digits.bytes < HexDigits.width := by
  cases h <;> cases phase <;> grind [LiteralPhase.step, digitStep]

theorem UnitEscape.ne_plain (h : UnitEscape before behind inDigits) :
    behind ≠ .plain ∧ ∀ digits, inDigits digits ≠ .plain := by
  cases h <;> exact ⟨nofun, nofun⟩

/-- Only a string goes on as a string. -/
theorem Lexeme.exists_of_step_string {lexeme : Lexeme} {c : Char} {read : List Char}
    {phase : LiteralPhase} (h : lexeme.step c = .more (.string read phase)) :
    ∃ read' phase' d, lexeme = .string read' phase' ∧ phase'.step c = .more d phase := by
  cases lexeme with
  | string read' phase' =>
    simp only [step] at h
    split at h
    · next hstep =>
      cases h
      exact ⟨read', phase', _, rfl, hstep⟩
    · cases h
    · cases h
  | word next rest meaning => cases rest <;> grind [step]
  | number isNegative phase' => grind [step]

end Json

/-! ## Inside a string -/

namespace Json.Document

/-- The reader that has just come into a string stands between characters. -/
theorem eq_plain_of_enters {state : State} {c : Char} {read : List Char} {phase : LiteralPhase}
    {slot : Slot} (h : grammar.Enters state c (.within (.string read phase) slot)) :
    phase = .plain := by
  cases h with
  | start _ hreact =>
    cases react_eq_begin_iff.1 hreact with
    | value _ hc => grind [Lexeme.start?]
    | firstKey outer => rfl
    | nextKey members outer => rfl

/-- The reader that stands anywhere else in a string was in it one character before. -/
theorem exists_of_step_string {config : Config State Slot} {c : Char} {read : List Char}
    {phase : LiteralPhase} {slot : Slot}
    (h : grammar.step config c = .ok (.within (.string read phase) slot)) (hphase : phase ≠ .plain) :
    ∃ read' phase' d, config = .within (.string read' phase') slot ∧
      phase'.step c = .more d phase := by
  cases config with
  | between state => exact absurd (eq_plain_of_enters (Grammar.enter_eq_ok_iff.1 h)) hphase
  | within lexeme slot' =>
    cases Grammar.step_within_eq_ok_iff.1 h with
    | more hstep =>
      obtain ⟨read', phase', d, rfl, hphase'⟩ := Lexeme.exists_of_step_string hstep
      exact ⟨read', phase', d, rfl, hphase'⟩
    | ended _ _ hnext => exact absurd (eq_plain_of_enters hnext) hphase

/-- The same for the text that leads there: there is a last character, and the text in front of it. -/
theorem exists_of_runs_string {text read : List Char} {phase : LiteralPhase} {slot : Slot}
    (h : grammar.Runs (.between (.value [])) text (.within (.string read phase) slot))
    (hphase : phase ≠ .plain) :
    ∃ front c read' phase' d, text = front ++ [c] ∧
      grammar.Runs (.between (.value [])) front (.within (.string read' phase') slot) ∧
      phase'.step c = .more d phase := by
  rcases List.eq_nil_or_concat text with rfl | ⟨front, c, rfl⟩
  · cases h
  · rw [List.concat_eq_append] at h ⊢
    obtain ⟨middle, hfront, hlast⟩ := Grammar.runs_append_iff.1 h
    obtain ⟨read', phase', d, rfl, hstep⟩ :=
      exists_of_step_string (Grammar.runs_singleton_iff.1 hlast) hphase
    exact ⟨front, c, read', phase', d, rfl, hfront, hstep⟩

/-! ## Texts that end in an escape -/

/-- The text ends in a `\u` escape that is cut short.  Behind the `\u` stand fewer than four bytes,
those of `tail`. -/
inductive CutShort : List Char → List Char → Prop
  | intro {front tail read : List Char} {slot : Slot} {before behind : LiteralPhase}
    {inDigits : HexDigits → LiteralPhase} :
    grammar.Runs (.between (.value [])) front (.within (.string read before) slot) →
    UnitEscape before behind inDigits → byteLength tail < HexDigits.width →
    CutShort (front ++ '\\' :: 'u' :: tail) tail

/-- The digits of a unit are read, whatever they are, as long as there are fewer than four bytes. -/
theorem runs_unit {before behind : LiteralPhase} {inDigits : HexDigits → LiteralPhase}
    (h : UnitEscape before behind inDigits) {tail read : List Char} {digits : HexDigits} {slot : Slot}
    (hwidth : digits.bytes + byteLength tail < HexDigits.width) :
    grammar.Runs (.within (.string read (inDigits digits)) slot) tail
      (.within (.string read (inDigits (tail.foldl HexDigits.push digits))) slot) := by
  induction tail generalizing digits with
  | nil => exact .nil _
  | cons c tail ih =>
    rw [byteLength_cons, ← Nat.add_assoc] at hwidth
    have hpush : (digits.push c).bytes = digits.bytes + c.utf8Size := rfl
    have hstep : (inDigits digits).step c = .more none (inDigits (digits.push c)) :=
      h.step_digit (by omega)
    exact .cons (Grammar.step_string hstep) (ih hwidth)

/-- Behind a text that ends in an escape the reader is in a string. -/
theorem CutShort.exists_runs {text tail : List Char} (h : CutShort text tail) :
    ∃ read phase slot,
      grammar.Runs (.between (.value [])) text (.within (.string read phase) slot) := by
  cases h with
  | @intro front _ read slot before behind inDigits hfront hescape hwidth =>
    have htail : grammar.Runs (.within (.string read (inDigits .start)) slot) tail _ :=
      runs_unit hescape (by rw [HexDigits.start, Nat.zero_add]; exact hwidth)
    have hu : grammar.step (.within (.string read behind) slot) 'u' =
        .ok (.within (.string read (inDigits .start)) slot) := Grammar.step_string hescape.step_u
    have hbackslash : grammar.step (.within (.string read before) slot) '\\' =
        .ok (.within (.string read behind) slot) := Grammar.step_string hescape.step_backslash
    exact ⟨_, _, _, hfront.append (.cons hbackslash (.cons hu htail))⟩

/-- **Behind no other text is the reader in the digits of a unit.** -/
theorem exists_cutShort {before behind : LiteralPhase} {inDigits : HexDigits → LiteralPhase}
    (h : UnitEscape before behind inDigits) {text read : List Char} {digits : HexDigits} {slot : Slot}
    (hruns : grammar.Runs (.between (.value [])) text
      (.within (.string read (inDigits digits)) slot)) :
    ∃ tail, CutShort text tail ∧ byteLength tail = digits.bytes := by
  obtain ⟨hbehind, hinDigits⟩ := h.ne_plain
  induction hlength : text.length generalizing text read digits with
  | zero =>
    rw [List.length_eq_zero_iff.1 hlength] at hruns
    cases hruns
  | succ n ih =>
    obtain ⟨front, c, read', phase', d, rfl, hfront, hstep⟩ :=
      exists_of_runs_string hruns (hinDigits digits)
    rcases h.eq_of_step_inDigits hstep with ⟨rfl, rfl, rfl⟩ | ⟨fewer, rfl, rfl, hwidth⟩
    · obtain ⟨start, c, read', phase', d, rfl, hstart, hstep⟩ :=
        exists_of_runs_string hfront hbehind
      obtain ⟨rfl, rfl⟩ := h.eq_of_step_behind hstep
      have hcut : CutShort (start ++ '\\' :: 'u' :: []) [] := .intro hstart h (by decide)
      rw [List.append_assoc]
      exact ⟨[], hcut, rfl⟩
    · rw [List.length_append, List.length_singleton] at hlength
      obtain ⟨tail, hcut, hbytes⟩ := ih hfront (Nat.succ.inj hlength)
      have hpush : byteLength (tail ++ [c]) = (fewer.push c).bytes := by
        rw [byteLength_append, hbytes]
        rfl
      refine ⟨tail ++ [c], ?_, hpush⟩
      cases hcut with
      | intro hstart hescape _ =>
        rw [List.append_assoc, List.cons_append, List.cons_append]
        exact .intro hstart hescape (by rw [hpush]; exact hwidth)

/-- Only inside a string does the end of a text have this cause. -/
theorem eq_string_of_close {config : Config State Slot}
    (h : grammar.close config = .error .endInString) :
    ∃ read phase slot, config = .within (.string read phase) slot := by
  have hfinish : ∀ state, finish state ≠ .error .endInString := by
    intro state
    cases state <;> exact nofun
  cases config with
  | between state => exact absurd h (hfinish state)
  | within lexeme slot =>
    cases lexeme with
    | string read phase => exact ⟨read, phase, slot, rfl⟩
    | word next rest meaning => cases h
    | number isNegative phase =>
      exfalso
      cases hnumber : phase.finish isNegative with
      | error cause =>
        simp only [Grammar.close, Lexeme.finish, hnumber] at h
        cases h
        cases phase <;> grind [NumeralPhase.finish, numberOfParts, numberOfInteger]
      | ok n =>
        simp only [Grammar.close, Lexeme.finish, hnumber] at h
        cases slot with
        | value outer => exact hfinish _ h
        | key members outer => cases h

end Json.Document

/-! ## The scan of the digits -/

namespace Validation

/-- Where the scan stands, whatever brackets are open. -/
def Scan.bare : Scan → Scan
  | .outside _ => .outside []
  | .inside _ => .inside []
  | .escaping _ => .escaping []

/-- Whether the scan, standing in a string, is outside strings behind the characters. -/
def leavesString (tail : List Char) : Bool :=
  (tail.foldl Scan.step (.inside [])).bare == .outside []

theorem Scan.bare_step (scan : Scan) (c : Char) : (scan.step c).bare = (scan.bare.step c).bare := by
  cases scan <;> simp only [Scan.step, Scan.bare] <;> split_ifs <;> rfl

/-- The brackets have no influence on where strings begin and end. -/
theorem Scan.bare_foldl (tail : List Char) (scan : Scan) :
    (tail.foldl Scan.step scan).bare = (tail.foldl Scan.step scan.bare).bare := by
  induction tail generalizing scan with
  | nil => cases scan <;> rfl
  | cons c tail ih =>
    rw [List.foldl_cons, List.foldl_cons, ih, Scan.bare_step, ← ih]

theorem Scan.help_eq_closeString_iff {scan : Scan} :
    scan.help = .closeString ↔ scan.bare ≠ .outside [] := by
  cases scan with
  | outside opened => cases opened <;> simp [Scan.help, Scan.bare]
  | inside opened => simp [Scan.help, Scan.bare]
  | escaping opened => simp [Scan.help, Scan.bare]

/-- In front of an escape the scan stands where the reader does, and it takes what is behind the `\u`
for characters like any other. -/
theorem help_of_cutShort {text tail : List Char} (h : CutShort text tail) :
    (scan text).help = .closeString ↔ leavesString tail = false := by
  cases h with
  | @intro front _ read slot before _ _ hfront hescape _ =>
    have hscan : scan front = .inside (bracketsOf slot.stack) := by
      cases agrees_scan hfront with
      | string hfollows => cases hescape <;> exact hfollows
    have htail : scan (front ++ '\\' :: 'u' :: tail) =
        tail.foldl Scan.step (.inside (bracketsOf slot.stack)) := by
      rw [scan, List.foldl_append, ← scan, hscan]
      rfl
    rw [htail, Scan.help_eq_closeString_iff, Scan.bare_foldl, leavesString, beq_eq_false_iff_ne]
    rfl

/-- In a string the scan is outside only behind an escape whose bytes have led it out. -/
theorem help_of_runs_string {text read : List Char} {phase : LiteralPhase} {slot : Slot}
    (h : grammar.Runs (.between (.value [])) text (.within (.string read phase) slot)) :
    (scan text).help = .closeString ↔ ∀ tail, CutShort text tail → leavesString tail = false := by
  constructor
  · intro hhelp tail hcut
    exact (help_of_cutShort hcut).1 hhelp
  · intro hcut
    have hunit : ∀ {before behind inDigits digits}, UnitEscape before behind inDigits →
        phase = inDigits digits → (scan text).help = .closeString := by
      rintro before behind inDigits digits hescape rfl
      obtain ⟨tail, htail, -⟩ := exists_cutShort hescape h
      exact (help_of_cutShort htail).2 (hcut tail htail)
    cases agrees_scan h with
    | string hfollows =>
      cases phase with
      | plain => rw [hfollows]; rfl
      | escape => rw [hfollows]; rfl
      | half high => rw [hfollows]; rfl
      | halfEscape high => rw [hfollows]; rfl
      | unit digits => exact hunit .first rfl
      | lowUnit high digits => exact hunit (.second high) rfl

end Validation

/-! ## The advice -/

theorem Validation.Help.message_eq_closeString_iff {help : Help} :
    help.message = Help.closeString.message ↔ help = .closeString := by
  constructor
  · intro h
    by_contra hne
    exact Help.message_ne_closeString hne h
  · rintro rfl
    rfl

/-- **When the advice is to close a string.**  Let a text end too early.  If the user is told to close
a string, then the text ends inside one.  The converse holds, and with it the equivalence, exactly if
the text does not end in a `\u` escape whose bytes, few as they are, lead the scan out of the
string. -/
theorem check_closeString_iff_endInString_iff {text : String} {m : Malformed}
    (h : check text = .error m) (hend : m.cause.isEnd = true) :
    (m.help.message = Help.closeString.message → m.cause = .endInString) ∧
    ((m.help.message = Help.closeString.message ↔ m.cause = .endInString) ↔
      ∀ tail, CutShort text.toList tail → leavesString tail = false) := by
  obtain ⟨fault, hread, rfl⟩ := check_eq_error_iff.1 h
  obtain ⟨last, hruns, hclose, -⟩ := exists_runs_of_isEnd hread hend
  have hcause : (Malformed.ofFault text.toList fault).cause = fault.error := rfl
  rw [Help.message_eq_closeString_iff, Malformed.help_ofFault hend, hcause]
  have honly : (scan text.toList).help = .closeString → fault.error = .endInString := by
    intro hhelp
    by_contra hne
    rw [(agrees_scan hruns).help_eq hclose hne] at hhelp
    split at hhelp <;> cases hhelp
  refine ⟨honly, ?_⟩
  constructor
  · intro hiff tail hcut
    obtain ⟨read, phase, slot, hstring⟩ := hcut.exists_runs
    have hlast := hruns.eq hstring
    subst hlast
    exact (help_of_cutShort hcut).1 (hiff.2 (close_string hclose))
  · intro hcut
    refine ⟨honly, fun hstring => ?_⟩
    rw [hstring] at hclose
    obtain ⟨read, phase, slot, rfl⟩ := eq_string_of_close hclose
    exact (help_of_runs_string hruns).2 hcut

/-- The second half of a surrogate pair is cut short, and the quote and the bracket behind it are for
the reader two of its four bytes.  The scan sees a list that is closed. -/
theorem check_closeString_iff_endInString_iff_pair :
    ∃ m tail, check "[\"\\ud83d\\u0\"]" = .error m ∧ m.cause.isEnd = true ∧
      m.cause = .endInString ∧ m.help.message = "the document ended before a value was complete" ∧
      CutShort "[\"\\ud83d\\u0\"]".toList tail ∧ leavesString tail = true := by
  obtain ⟨m, hcheck, htest⟩ : ∃ m, check "[\"\\ud83d\\u0\"]" = .error m ∧
      decide (m.cause = .endInString ∧ m.help = .unfinished) = true :=
    exists_check_eq_error (by decide +kernel)
  obtain ⟨hcause, hhelp⟩ := of_decide_eq_true htest
  have hend : m.cause.isEnd = true := by rw [hcause]; rfl
  obtain ⟨-, hiff⟩ := check_closeString_iff_endInString_iff hcheck hend
  have hdiffer : ¬∀ tail, CutShort "[\"\\ud83d\\u0\"]".toList tail → leavesString tail = false := by
    intro hcut
    have hmessage := (hiff.2 hcut).2 hcause
    rw [Help.message_eq_closeString_iff, hhelp] at hmessage
    cases hmessage
  simp only [Classical.not_forall, Bool.not_eq_false] at hdiffer
  obtain ⟨tail, hcut, hleaves⟩ := hdiffer
  exact ⟨m, tail, hcheck, hend, hcause, by rw [hhelp]; rfl, hcut, hleaves⟩

/-- The shortest text that ends inside a string and is not answered with the advice to close it. -/
theorem check_quote_in_unit :
    ∃ m, check "\"\\u\"" = .error m ∧ m.cause.isEnd = true ∧
      ¬(m.help.message = Help.closeString.message ↔ m.cause = .endInString) := by
  obtain ⟨m, hcheck, htest⟩ : ∃ m, check "\"\\u\"" = .error m ∧
      decide (m.cause = .endInString ∧ m.help = .unfinished) = true :=
    exists_check_eq_error (by decide +kernel)
  obtain ⟨hcause, hhelp⟩ := of_decide_eq_true htest
  refine ⟨m, hcheck, by rw [hcause]; rfl, fun hiff => ?_⟩
  have hmessage := hiff.2 hcause
  rw [Help.message_eq_closeString_iff, hhelp] at hmessage
  cases hmessage

end LiveJson
