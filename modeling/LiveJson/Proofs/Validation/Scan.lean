import LiveJson.Proofs.Json.Moves
import LiveJson.Proofs.Json.Runs
import LiveJson.Validation.Hint

/-!
# The scan follows the reader

The scan behind the advice knows strings, escapes and brackets and nothing else.  On a text that the
reader accepts so far, this is enough: it has the same brackets open, and it is inside a string or
behind a backslash exactly when the reader is.

## What is here

* `Agrees` — the scan stands where the reader stands.
* `Agrees.step` and `Agrees.runs` — one character, and a run, keep them together.

There is one place where the two part, and the relation says nothing of it: the four bytes of a `\u`
escape, once one of them is no digit.  The reader takes them as they come, the scan sees a quote among
them as the end of the string.  The reader does not come back from there, so the two agree again
wherever it stands outside strings.
-/

set_option autoImplicit false

namespace LiveJson.Validation

open LiveJson.Json LiveJson.Json.Document

/-! ## Standing at the same place -/

/-- The bracket that opened a container. -/
def bracketOf : Frame → Bracket
  | .list _ => .square
  | .map _ _ => .curly

/-- The brackets that opened the containers, innermost first. -/
def bracketsOf (stack : List Frame) : List Bracket :=
  stack.map bracketOf

/-- The characters that the scan looks at outside strings. -/
def marks : List Char := ['"', '[', '{', ']', '}']

/-- The scan of a string, with the brackets `opened` around it, stands where the reader does.  Nothing
is said once the digits of a unit are spoilt. -/
def FollowsString (opened : List Bracket) : LiteralPhase → Scan → Prop
  | .plain, scan | .half _, scan => scan = .inside opened
  | .escape, scan | .halfEscape _, scan => scan = .escaping opened
  | .unit digits, scan | .lowUnit _ digits, scan => digits.value ≠ none → scan = .inside opened

/-- The scan stands where the reader does. -/
inductive Agrees : Config State Slot → Scan → Prop
  | between (state : State) : Agrees (.between state) (.outside (bracketsOf state.stack))
  | word {next : Char} {rest : List Char} {v : Scalar} (slot : Slot) :
    (∀ c ∈ next :: rest, c ∉ marks) →
    Agrees (.within (.word next rest v) slot) (.outside (bracketsOf slot.stack))
  | number (isNegative : Bool) (phase : NumeralPhase) (slot : Slot) :
    Agrees (.within (.number isNegative phase) slot) (.outside (bracketsOf slot.stack))
  | string {read : List Char} {phase : LiteralPhase} {slot : Slot} {scan : Scan} :
    FollowsString (bracketsOf slot.stack) phase scan →
    Agrees (.within (.string read phase) slot) scan

theorem map_closer_bracketsOf (stack : List Frame) :
    (bracketsOf stack).map Bracket.closer = stack.map Frame.closer := by
  rw [bracketsOf, List.map_map]
  refine List.map_congr_left fun frame _ => ?_
  cases frame <;> rfl

/-! ## Outside strings -/

/-- The scan passes over what is no mark. -/
theorem step_outside {c : Char} (h : c ∉ marks) (opened : List Bracket) :
    (Scan.outside opened).step c = .outside opened := by
  simp only [marks, List.mem_cons, List.not_mem_nil, or_false, not_or] at h
  obtain ⟨hquote, hsquare, hcurly, hsquare', hcurly'⟩ := h
  simp only [Scan.step, if_neg hquote, if_neg hsquare, if_neg hcurly,
    if_neg (not_or.2 ⟨hsquare', hcurly'⟩)]

theorem notMem_marks_of_isSpace {c : Char} (h : isSpace c = true) : c ∉ marks := by
  intro hmem
  simp only [marks, List.mem_cons, List.not_mem_nil, or_false] at hmem
  rcases hmem with rfl | rfl | rfl | rfl | rfl <;> cases h

/-- No mark goes on with a numeral. -/
theorem notMem_marks_of_numeral {phase next : NumeralPhase} {c : Char}
    (h : phase.step c = .more next) : c ∉ marks := by
  intro hmem
  simp only [marks, List.mem_cons, List.not_mem_nil, or_false] at hmem
  rcases hmem with rfl | rfl | rfl | rfl | rfl <;> cases phase <;> cases h

/-- A complete value changes nothing about the open containers. -/
theorem bracketsOf_attach (outer : List Frame) (v : Value) :
    bracketsOf (attach outer v).stack = bracketsOf outer := by
  cases outer with
  | nil => rfl
  | cons frame outer => cases frame <;> rfl

theorem bracketsOf_fill {slot : Slot} {v : Scalar} {state : State} (h : fill slot v = .ok state) :
    bracketsOf state.stack = bracketsOf slot.stack := by
  cases slot with
  | value outer =>
    cases h
    exact bracketsOf_attach outer v.toValue
  | key members outer =>
    cases v <;> cases h
    rfl

/-- A mark opens or closes for the scan what it opens or closes for the reader. -/
theorem Agrees.move {state next : State} {c : Char} (h : Document.Move state c next) :
    Agrees (.between next) ((Scan.outside (bracketsOf state.stack)).step c) := by
  have hnext := Agrees.between next
  cases h with
  | openList hs _ => rw [hs.stack_eq]; exact hnext
  | openMap hs _ => rw [hs.stack_eq]; exact hnext
  | closeEmptyList outer => rw [bracketsOf_attach] at hnext; exact hnext
  | closeList items outer => rw [bracketsOf_attach] at hnext; exact hnext
  | closeEmptyMap outer => rw [bracketsOf_attach] at hnext; exact hnext
  | closeMap members outer => rw [bracketsOf_attach] at hnext; exact hnext
  | item items outer => exact hnext
  | member members outer => exact hnext
  | colon members key outer => exact hnext

/-- What a first character starts: a word without marks in it, a number or a string. -/
theorem Agrees.startValue {c : Char} {lexeme : Lexeme} {slot : Slot}
    (h : Lexeme.start? c = some lexeme) :
    Agrees (.within lexeme slot) ((Scan.outside (bracketsOf slot.stack)).step c) := by
  unfold Lexeme.start? at h
  split at h
  · next hc => subst hc; cases h; exact .word slot (by simp [marks])
  split at h
  · next hc => subst hc; cases h; exact .word slot (by simp [marks])
  split at h
  · next hc => subst hc; cases h; exact .word slot (by simp [marks])
  split at h
  · next hc => subst hc; cases h; exact .string rfl
  split at h
  · next hc => subst hc; cases h; exact .number true .sign slot
  split at h
  · next hc => subst hc; cases h; exact .number false .zero slot
  split at h
  · next hdigit =>
    cases h
    have hmarks : c ∉ marks := by
      intro hmem
      simp only [marks, List.mem_cons, List.not_mem_nil, or_false] at hmem
      rcases hmem with rfl | rfl | rfl | rfl | rfl <;> cases hdigit
    rw [step_outside hmarks]
    exact .number false _ slot
  · cases h

theorem Agrees.start {state : State} {c : Char} {lexeme : Lexeme} {slot : Slot}
    (h : Start state c lexeme slot) :
    Agrees (.within lexeme slot) ((Scan.outside (bracketsOf state.stack)).step c) := by
  cases h with
  | value hs hc => rw [hs.stack_eq]; exact Agrees.startValue hc
  | firstKey outer => exact .string rfl
  | nextKey members outer => exact .string rfl

/-- A character between lexemes. -/
theorem Agrees.enter {state : State} {c : Char} {next : Config State Slot}
    (h : grammar.Enters state c next) :
    Agrees next ((Scan.outside (bracketsOf state.stack)).step c) := by
  cases h with
  | space hspace =>
    rw [step_outside (notMem_marks_of_isSpace hspace)]
    exact .between state
  | goto _ hreact => exact Agrees.move (react_eq_goto_iff.1 hreact)
  | start _ hreact => exact Agrees.start (react_eq_begin_iff.1 hreact)

/-! ## Strings -/

/-- Digits that are worth something, with one more, were worth something and got a digit. -/
theorem of_push_value {digits : HexDigits} {c : Char} (h : (digits.push c).value ≠ none) :
    digits.value ≠ none ∧ c ≠ '"' ∧ c ≠ '\\' := by
  obtain ⟨bytes, value⟩ := digits
  cases value with
  | none => exact absurd rfl h
  | some v =>
    refine ⟨nofun, ?_, ?_⟩ <;> rintro rfl <;> exact absurd rfl h

/-- The scan passes over a digit of a unit. -/
theorem step_inside_digit {digits : HexDigits} {c : Char} {opened : List Bracket} {scan : Scan}
    (h : digits.value ≠ none → scan = .inside opened) (hpush : (digits.push c).value ≠ none) :
    scan.step c = .inside opened := by
  obtain ⟨hvalue, hquote, hbackslash⟩ := of_push_value hpush
  simp only [h hvalue, Scan.step, if_neg hbackslash, if_neg hquote]

/-- The digits of a unit either go on or are complete. -/
theorem digitStep_eq_more {digits : HexDigits} {c : Char} {collecting : HexDigits → LiteralPhase}
    {settle : Nat → LiteralStep} {d : Option Char} {next : LiteralPhase}
    (h : digitStep digits c collecting settle = .more d next) :
    next = collecting (digits.push c) ∨
      (digits.push c).value ≠ none ∧ ∃ unit, settle unit = .more d next := by
  simp only [digitStep] at h
  split at h
  · cases h; exact .inl rfl
  · split at h
    · cases h
    · next unit hvalue => exact .inr ⟨by rw [hvalue]; exact nofun, unit, h⟩

/-- A character of a string that goes on. -/
theorem FollowsString.more {opened : List Bracket} {phase next : LiteralPhase} {scan : Scan}
    (h : FollowsString opened phase scan) {c : Char} {d : Option Char}
    (hstep : phase.step c = .more d next) : FollowsString opened next (scan.step c) := by
  cases phase with
  | plain =>
    cases h
    simp only [LiteralPhase.step] at hstep
    split at hstep
    · cases hstep
    · next hquote =>
      split at hstep
      · next hbackslash => subst hbackslash; cases hstep; rfl
      · next hbackslash =>
        split at hstep <;> cases hstep
        simp [FollowsString, Scan.step, hquote, hbackslash]
  | escape =>
    cases h
    simp only [LiteralPhase.step] at hstep
    split at hstep
    · cases hstep; exact fun _ => rfl
    · split at hstep <;> cases hstep
      rfl
  | unit digits =>
    rcases digitStep_eq_more hstep with rfl | ⟨hpush, unit, hsettle⟩
    · exact fun hpush => step_inside_digit h hpush
    · have hinside := step_inside_digit h hpush
      split at hsettle
      · cases hsettle
      · split at hsettle <;> cases hsettle <;> exact hinside
  | half high =>
    cases h
    simp only [LiteralPhase.step] at hstep
    split at hstep
    · next hc => subst hc; cases hstep; rfl
    · cases hstep
  | halfEscape high =>
    cases h
    simp only [LiteralPhase.step] at hstep
    split at hstep
    · cases hstep; exact fun _ => rfl
    · cases hstep
  | lowUnit high digits =>
    rcases digitStep_eq_more hstep with rfl | ⟨hpush, unit, hsettle⟩
    · exact fun hpush => step_inside_digit h hpush
    · have hinside := step_inside_digit h hpush
      split at hsettle <;> cases hsettle
      exact hinside

/-- Only a quote between characters closes a string. -/
theorem eq_of_step_closed {phase : LiteralPhase} {c : Char} (h : phase.step c = .closed) :
    phase = .plain ∧ c = '"' := by
  cases phase <;> grind [LiteralPhase.step, digitStep]

/-! ## Keeping together -/

/-- A character of a word. -/
theorem Agrees.stepWord {d : Char} {rest : List Char} {v : Scalar} {slot : Slot}
    (hword : ∀ c ∈ d :: rest, c ∉ marks) {c : Char} {next : Config State Slot}
    (h : grammar.step (.within (.word d rest v) slot) c = .ok next) :
    Agrees next ((Scan.outside (bracketsOf slot.stack)).step c) := by
  by_cases hc : c = d
  · subst hc
    rw [step_outside (hword c List.mem_cons_self)]
    cases rest with
    | nil =>
      simp only [Grammar.step, Lexeme.step, if_true] at h
      split at h
      · next hfill => cases h; rw [← bracketsOf_fill hfill]; exact .between _
      · cases h
    | cons d rest =>
      simp only [Grammar.step, Lexeme.step, if_true] at h
      cases h
      exact .word slot fun e he => hword e (List.mem_cons_of_mem c he)
  · simp only [Grammar.step, Lexeme.step, if_neg hc] at h
    cases h

/-- A character of a number, or the one after it. -/
theorem Agrees.stepNumber {isNegative : Bool} {phase : NumeralPhase} {slot : Slot} {c : Char}
    {next : Config State Slot}
    (h : grammar.step (.within (.number isNegative phase) slot) c = .ok next) :
    Agrees next ((Scan.outside (bracketsOf slot.stack)).step c) := by
  simp only [Grammar.step, Lexeme.step] at h
  cases hstep : phase.step c with
  | more later =>
    rw [hstep] at h
    cases h
    rw [step_outside (notMem_marks_of_numeral hstep)]
    exact .number isNegative later slot
  | fault cause => rw [hstep] at h; cases h
  | ended =>
    rw [hstep] at h
    cases hfinish : phase.finish isNegative with
    | error cause => simp only [hfinish] at h; cases h
    | ok n =>
      simp only [hfinish] at h
      split at h
      · next hfill =>
        rw [← bracketsOf_fill hfill]
        exact Agrees.enter (Grammar.enter_eq_ok_iff.1 h)
      · cases h

/-- A character of a string. -/
theorem Agrees.stepString {read : List Char} {phase : LiteralPhase} {slot : Slot} {scan : Scan}
    (hfollows : FollowsString (bracketsOf slot.stack) phase scan) {c : Char}
    {next : Config State Slot}
    (h : grammar.step (.within (.string read phase) slot) c = .ok next) :
    Agrees next (scan.step c) := by
  simp only [Grammar.step, Lexeme.step] at h
  cases hstep : phase.step c with
  | more d later =>
    rw [hstep] at h
    cases h
    exact .string (hfollows.more hstep)
  | closed =>
    obtain ⟨rfl, rfl⟩ := eq_of_step_closed hstep
    cases hfollows
    simp only [hstep] at h
    split at h
    · next state hfill =>
      cases h
      have hnext := Agrees.between state
      rw [bracketsOf_fill hfill] at hnext
      exact hnext
    · cases h
  | fault cause advance => rw [hstep] at h; cases h

/-- **One character keeps the scan and the reader together.** -/
theorem Agrees.step {config next : Config State Slot} {scan : Scan} (h : Agrees config scan)
    {c : Char} (hstep : grammar.step config c = .ok next) : Agrees next (scan.step c) := by
  cases h with
  | between state => exact Agrees.enter (Grammar.enter_eq_ok_iff.1 hstep)
  | word slot hword => exact Agrees.stepWord hword hstep
  | number isNegative phase slot => exact Agrees.stepNumber hstep
  | string hfollows => exact Agrees.stepString hfollows hstep

/-- A stretch of text keeps them together. -/
theorem Agrees.runs {first last : Config State Slot} {text : List Char} {scan : Scan}
    (h : Agrees first scan) (hruns : grammar.Runs first text last) :
    Agrees last (text.foldl Scan.step scan) := by
  induction hruns generalizing scan with
  | nil => exact h
  | cons hstep _ ih => exact ih (h.step hstep)

/-- **At the end of what the reader accepts, the scan stands where the reader does.** -/
theorem agrees_scan {text : List Char} {last : Config State Slot}
    (h : grammar.Runs (.between (.value [])) text last) : Agrees last (scan text) :=
  Agrees.runs (.between (.value [])) h

end LiveJson.Validation
