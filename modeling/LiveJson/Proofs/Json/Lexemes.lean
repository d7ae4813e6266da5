import LiveJson.Proofs.Json.Notation

/-!
# What has been read of a lexeme

Words, numbers and strings are read character by character.  What has been read of a lexeme is said of
each phase of its reader: the escapes behind it and the one it stands in, and the digits of the unit it
stands in.

## What is here

* `HexDigits.ReadFrom` — the digits of a unit; the last one makes a unit (`digitStep_eq_more`).
* `LiteralPhase.ReadFrom`, `Lexeme.ReadFrom` — a string, and any lexeme, each with what another character
  makes of it (`LiteralPhase.ReadFrom.step`, `Lexeme.ReadFrom.step`).
* `Lexeme.ReadFrom.closed`, `.ended` and `.finish` — **a lexeme that is complete is a way to write its
  value,** whichever way it was completed.
-/

set_option autoImplicit false

namespace LiveJson.Json

/-! ## Units -/

theorem hexNumeral?_append_singleton (digits : List Char) (c : Char) :
    hexNumeral? (digits ++ [c]) =
      (hexNumeral? digits).bind fun n => (hexValue? c).map (n * 16 + ·) := by
  simp [hexNumeral?, List.foldlM_append]

/-- A hexadecimal digit is one byte. -/
theorem utf8Size_of_hexValue? {c : Char} {n : Nat} (h : hexValue? c = some n) : c.utf8Size = 1 := by
  refine Char.utf8Size_eq_one_iff.2 ?_
  unfold hexValue? at h
  split at h
  · next hdigit =>
    simp only [Char.isDigit, Bool.and_eq_true, decide_eq_true_eq] at hdigit
    exact UInt32.le_trans hdigit.2 (by decide)
  split at h
  · next hlower => exact UInt32.le_trans hlower.2 (by decide)
  split at h
  · next hupper => exact UInt32.le_trans hupper.2 (by decide)
  · cases h

/-- The digits that have been read of a unit.  Fewer than four bytes have been read; if they are digits,
their number is known. -/
structure HexDigits.ReadFrom (text : List Char) (digits : HexDigits) : Prop where
  bytes_lt : digits.bytes < HexDigits.width
  length_eq : ∀ n, digits.value = some n → text.length = digits.bytes
  value_eq : ∀ n, digits.value = some n → hexNumeral? text = some n

theorem HexDigits.readFrom_start : HexDigits.start.ReadFrom [] :=
  ⟨by decide, fun _ _ => rfl, fun _ h => h⟩

theorem HexDigits.push_value_eq_some_iff {digits : HexDigits} {c : Char} {n : Nat} :
    (digits.push c).value = some n ↔
      ∃ m d, digits.value = some m ∧ hexValue? c = some d ∧ m * 16 + d = n := by
  simp [push, Option.bind_eq_some_iff]

section
variable {text : List Char} {digits : HexDigits} {c : Char}

/-- One more digit is counted as one byte. -/
theorem HexDigits.ReadFrom.push (h : digits.ReadFrom text) {n : Nat}
    (hn : (digits.push c).value = some n) :
    (text ++ [c]).length = (digits.push c).bytes ∧ hexNumeral? (text ++ [c]) = some n ∧
      (digits.push c).bytes ≤ HexDigits.width := by
  obtain ⟨m, d, hm, hd, rfl⟩ := push_value_eq_some_iff.1 hn
  have hbytes : (digits.push c).bytes = digits.bytes + 1 := by
    rw [HexDigits.push, utf8Size_of_hexValue? hd]
  refine ⟨?_, ?_, hbytes ▸ h.bytes_lt⟩
  · rw [hbytes, List.length_append, h.length_eq m hm, List.length_singleton]
  · rw [hexNumeral?_append_singleton, h.value_eq m hm, hd]
    rfl

/-- A digit that is not the last one. -/
theorem HexDigits.ReadFrom.push_of_lt (h : digits.ReadFrom text)
    (hlt : (digits.push c).bytes < HexDigits.width) : (digits.push c).ReadFrom (text ++ [c]) :=
  ⟨hlt, fun _ hn => (h.push hn).1, fun _ hn => (h.push hn).2.1⟩

/-- The last digit makes a unit. -/
theorem HexDigits.ReadFrom.unit?_eq (h : digits.ReadFrom text)
    (hge : ¬ (digits.push c).bytes < HexDigits.width) {n : Nat}
    (hn : (digits.push c).value = some n) : unit? (text ++ [c]) = some n := by
  obtain ⟨hlength, hvalue, hle⟩ := h.push hn
  rw [unit?, if_pos (hlength.trans (Nat.le_antisymm hle (Nat.le_of_not_lt hge))), hvalue]

/-- What a character among the digits does, when reading goes on: it is another digit, or the last one. -/
theorem digitStep_eq_more {collecting : HexDigits → LiteralPhase} {settle : Nat → LiteralStep}
    {d : Option Char} {next : LiteralPhase} (h : digits.ReadFrom text)
    (hstep : digitStep digits c collecting settle = .more d next) :
    (d = none ∧ ∃ digits', next = collecting digits' ∧ digits'.ReadFrom (text ++ [c])) ∨
      ∃ unit, unit? (text ++ [c]) = some unit ∧ settle unit = .more d next := by
  rw [digitStep] at hstep
  split at hstep
  · next hlt =>
    cases hstep
    exact .inl ⟨rfl, _, rfl, h.push_of_lt hlt⟩
  · next hge =>
    split at hstep
    · cases hstep
    · next unit hunit => exact .inr ⟨unit, h.unit?_eq hge hunit, hstep⟩

theorem digitStep_ne_closed {collecting : HexDigits → LiteralPhase} {settle : Nat → LiteralStep}
    (hsettle : ∀ unit, settle unit ≠ .closed) : digitStep digits c collecting settle ≠ .closed := by
  rw [digitStep]
  split
  · nofun
  · split
    · nofun
    · exact hsettle _

end

/-! ## Strings -/

/-- The characters of a string, and the digits of the first half of a pair. -/
def HalfText (text chars : List Char) (high : Nat) : Prop :=
  ∃ front digits, CharsText front chars ∧ unit? digits = some high ∧ isHighSurrogate high = true ∧
    text = front ++ '\\' :: 'u' :: digits

/-- What has been read of a string: its characters, and the escape that is being read. -/
def LiteralPhase.ReadFrom (text chars : List Char) : LiteralPhase → Prop
  | .plain => CharsText text chars
  | .escape => ∃ front, CharsText front chars ∧ text = front ++ ['\\']
  | .unit digits =>
    ∃ front here, CharsText front chars ∧ digits.ReadFrom here ∧ text = front ++ '\\' :: 'u' :: here
  | .half high => HalfText text chars high
  | .halfEscape high => ∃ front, HalfText front chars high ∧ text = front ++ ['\\']
  | .lowUnit high digits =>
    ∃ front here, HalfText front chars high ∧ digits.ReadFrom here ∧
      text = front ++ '\\' :: 'u' :: here

/-- **Another character of a string.** -/
theorem LiteralPhase.ReadFrom.step {text chars : List Char} {phase next : LiteralPhase} {c : Char}
    {d : Option Char} (h : phase.ReadFrom text chars) (hstep : phase.step c = .more d next) :
    next.ReadFrom (text ++ [c]) (chars ++ d.toList) := by
  cases phase with
  | plain =>
    rw [LiteralPhase.step] at hstep
    split at hstep
    · cases hstep
    next hquote =>
    split at hstep
    · next hbackslash =>
      cases hstep
      exact ⟨text, by rwa [Option.toList_none, List.append_nil], by rw [hbackslash]⟩
    next hbackslash =>
    split at hstep
    · cases hstep
    · next hcontrol =>
      cases hstep
      exact .snoc h (.plain hquote hbackslash (Nat.le_of_not_lt hcontrol))
  | escape =>
    obtain ⟨front, hfront, rfl⟩ := h
    rw [LiteralPhase.step] at hstep
    split at hstep
    · next hu =>
      cases hstep
      exact ⟨front, [], by rwa [Option.toList_none, List.append_nil], HexDigits.readFrom_start,
        by simp [hu]⟩
    · split at hstep
      · next d hletter =>
        cases hstep
        rw [List.append_assoc]
        exact .snoc hfront (.letter hletter)
      · cases hstep
  | unit digits =>
    obtain ⟨front, here, hfront, hdigits, rfl⟩ := h
    rw [LiteralPhase.step] at hstep
    rcases digitStep_eq_more hdigits hstep with ⟨rfl, digits', rfl, hread⟩ | ⟨unit, hunit, hsettle⟩
    · exact ⟨front, _, by rwa [Option.toList_none, List.append_nil], hread, by simp⟩
    · split at hsettle
      · cases hsettle
      next hlow =>
      split at hsettle
      · next hhigh =>
        cases hsettle
        exact ⟨front, _, by rwa [Option.toList_none, List.append_nil], hunit, hhigh, by simp⟩
      · next hhigh =>
        cases hsettle
        rw [List.append_assoc]
        exact .snoc hfront
          (.unit hunit (Bool.eq_false_iff.2 hhigh) (Bool.eq_false_iff.2 hlow))
  | half high =>
    rw [LiteralPhase.step] at hstep
    split at hstep
    · next hbackslash =>
      cases hstep
      exact ⟨text, by rwa [Option.toList_none, List.append_nil], by rw [hbackslash]⟩
    · cases hstep
  | halfEscape high =>
    obtain ⟨front, hfront, rfl⟩ := h
    rw [LiteralPhase.step] at hstep
    split at hstep
    · next hu =>
      cases hstep
      exact ⟨front, [], by rwa [Option.toList_none, List.append_nil], HexDigits.readFrom_start,
        by simp [hu]⟩
    · cases hstep
  | lowUnit high digits =>
    obtain ⟨front, here, hfront, hdigits, rfl⟩ := h
    rw [LiteralPhase.step] at hstep
    rcases digitStep_eq_more hdigits hstep with ⟨rfl, digits', rfl, hread⟩ | ⟨unit, hunit, hsettle⟩
    · exact ⟨front, _, by rwa [Option.toList_none, List.append_nil], hread, by simp⟩
    · split at hsettle
      · next hlow =>
        cases hsettle
        obtain ⟨front, digits, hchars, hdigit, hhigh, rfl⟩ := hfront
        have hpair := CharsText.snoc hchars (.pair hdigit hhigh hunit hlow)
        change CharsText _ _
        simpa using hpair
      · cases hsettle

/-- Only the quote behind the last character closes a string. -/
theorem LiteralPhase.step_eq_closed {phase : LiteralPhase} {c : Char} (h : phase.step c = .closed) :
    phase = .plain ∧ c = '"' := by
  cases phase with
  | plain =>
    rw [LiteralPhase.step] at h
    split at h
    · next hquote => exact ⟨rfl, hquote⟩
    split at h
    · cases h
    split at h <;> cases h
  | escape =>
    rw [LiteralPhase.step] at h
    split at h
    · cases h
    · split at h <;> cases h
  | unit digits =>
    refine absurd h (digitStep_ne_closed fun unit => ?_)
    split
    · nofun
    · split <;> nofun
  | half high =>
    rw [LiteralPhase.step] at h
    split at h <;> cases h
  | halfEscape high =>
    rw [LiteralPhase.step] at h
    split at h <;> cases h
  | lowUnit high digits =>
    refine absurd h (digitStep_ne_closed fun unit => ?_)
    split <;> nofun

/-! ## Lexemes -/

/-- What has been read of a lexeme. -/
def Lexeme.ReadFrom (text : List Char) : Lexeme → Prop
  | .word next rest meaning => ValueText (text ++ next :: rest) meaning.toValue
  | .number isNegative phase =>
    ∃ c rest first, text = c :: rest ∧ Lexeme.start? c = some (.number isNegative first) ∧
      first.Reads rest phase
  | .string read phase => ∃ rest, text = '"' :: rest ∧ phase.ReadFrom rest read.reverse

/-- The first character of a lexeme. -/
theorem Lexeme.readFrom_start {c : Char} {lexeme : Lexeme} (h : Lexeme.start? c = some lexeme) :
    lexeme.ReadFrom [c] := by
  cases lexeme with
  | number isNegative phase => exact ⟨c, [], phase, rfl, h, .nil phase⟩
  | word next rest meaning =>
    unfold Lexeme.start? at h
    split at h
    · next hc => cases h; cases hc; exact .null
    split at h
    · next hc => cases h; cases hc; exact .bool true
    split at h
    · next hc => cases h; cases hc; exact .bool false
    repeat' split at h
    all_goals cases h
  | string read phase =>
    unfold Lexeme.start? at h
    split at h
    · cases h
    split at h
    · cases h
    split at h
    · cases h
    split at h
    · next hc => cases h; cases hc; exact ⟨[], rfl, .nil⟩
    repeat' split at h
    all_goals cases h

section
variable {text : List Char} {lexeme next : Lexeme} {c : Char} {v : Scalar}

/-- The number that has been read, when it ends. -/
theorem Lexeme.ReadFrom.numeral {isNegative : Bool} {phase : NumeralPhase} {n : Number}
    (h : (Lexeme.number isNegative phase).ReadFrom text) (hn : phase.finish isNegative = .ok n) :
    ValueText text (.number n) := by
  obtain ⟨c, rest, first, rfl, hstart, hreads⟩ := h
  exact .number (.mk hstart hreads hn)

/-- **Another character of a lexeme.** -/
theorem Lexeme.ReadFrom.step (h : lexeme.ReadFrom text) (hstep : lexeme.step c = .more next) :
    next.ReadFrom (text ++ [c]) := by
  cases lexeme with
  | word d rest meaning =>
    cases rest with
    | nil =>
      rw [Lexeme.step] at hstep
      split at hstep <;> cases hstep
    | cons e rest =>
      rw [Lexeme.step] at hstep
      split at hstep
      · next hc =>
        cases hc
        cases hstep
        have hword : ValueText (text ++ [c] ++ e :: rest) meaning.toValue := by
          rw [List.append_assoc]
          exact h
        exact hword
      · cases hstep
  | number isNegative phase =>
    obtain ⟨d, rest, first, rfl, hstart, hreads⟩ := h
    rw [Lexeme.step] at hstep
    split at hstep
    · next hnext => cases hstep; exact ⟨d, rest ++ [c], first, rfl, hstart, .snoc hreads hnext⟩
    · cases hstep
    · split at hstep <;> cases hstep
  | string read phase =>
    obtain ⟨rest, rfl, hread⟩ := h
    rw [Lexeme.step] at hstep
    split at hstep
    · next d phase' hnext =>
      cases hstep
      refine ⟨rest ++ [c], rfl, ?_⟩
      have hnextRead := hread.step hnext
      cases d <;> simpa using hnextRead
    · cases hstep
    · cases hstep

/-- The last character of a lexeme. -/
theorem Lexeme.ReadFrom.closed (h : lexeme.ReadFrom text) (hstep : lexeme.step c = .closed v) :
    ValueText (text ++ [c]) v.toValue := by
  cases lexeme with
  | word d rest meaning =>
    cases rest with
    | nil =>
      rw [Lexeme.step] at hstep
      split at hstep
      · next hc => cases hc; cases hstep; exact h
      · cases hstep
    | cons e rest =>
      rw [Lexeme.step] at hstep
      split at hstep <;> cases hstep
  | number isNegative phase =>
    rw [Lexeme.step] at hstep
    split at hstep
    · cases hstep
    · cases hstep
    · split at hstep <;> cases hstep
  | string read phase =>
    obtain ⟨rest, rfl, hread⟩ := h
    rw [Lexeme.step] at hstep
    split at hstep
    · cases hstep
    · next hclosed =>
      cases hstep
      obtain ⟨rfl, rfl⟩ := LiteralPhase.step_eq_closed hclosed
      refine .string (.mk ?_)
      rwa [String.toList_ofList]
    · cases hstep

/-- A lexeme that has ended before a character. -/
theorem Lexeme.ReadFrom.ended (h : lexeme.ReadFrom text) (hstep : lexeme.step c = .ended v) :
    ValueText text v.toValue := by
  cases lexeme with
  | word d rest meaning =>
    cases rest <;> rw [Lexeme.step] at hstep <;> split at hstep <;> cases hstep
  | number isNegative phase =>
    rw [Lexeme.step] at hstep
    split at hstep
    · cases hstep
    · cases hstep
    · split at hstep
      · next n hn => cases hstep; exact h.numeral hn
      · cases hstep
  | string read phase =>
    rw [Lexeme.step] at hstep
    split at hstep <;> cases hstep

/-- A lexeme that ends with the text. -/
theorem Lexeme.ReadFrom.finish (h : lexeme.ReadFrom text) (hfinish : lexeme.finish = .ok v) :
    ValueText text v.toValue := by
  cases lexeme with
  | number isNegative phase =>
    rw [Lexeme.finish] at hfinish
    cases hn : phase.finish isNegative with
    | error cause => rw [hn] at hfinish; cases hfinish
    | ok n => rw [hn] at hfinish; cases hfinish; exact h.numeral hn
  | _ => cases hfinish

end

end LiveJson.Json
