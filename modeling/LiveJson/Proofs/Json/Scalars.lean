import LiveJson.Json.Printer
import LiveJson.Proofs.Json.Runs
import LiveJson.Proofs.Text.Digits

/-!
# Scalars read back

Words, integers and strings as they are written are read as what they were, in any grammar and for
any slot.

## What is here

* `Grammar.Rests` — a numeral has no closing character, so behind a number the reader is still in it.
  A place *rests* in a state when that makes no difference: what cannot go on with a numeral is taken
  there as it is taken in the state, and so is the end of the text.
* `Spells` — a text spells a scalar when reading it fills the scalar into any slot.
* `spells_null`, `spells_bool`, `spells_number` and `spells_string` — what is written spells what it
  was written for.  A double need not be read back, since reading rounds twice.
* `runs_writeString` — a string is read back where a grammar wants nothing but a string.
-/

set_option autoImplicit false

namespace LiveJson.Json

open Text

variable {σ ω ε α : Type} {G : Grammar σ ω ε α}

/-! ## Resting -/

/-- Whether a character cannot go on with a numeral that could end before it. -/
def endsNumeral (c : Char) : Bool :=
  !c.isDigit && c != '.' && !isExponentMark c

/-- A place that is as good as the state, for all that can follow a value. -/
structure Grammar.Rests (G : Grammar σ ω ε α) (config : Config σ ω) (state : σ) : Prop where
  /-- A character that cannot go on with a numeral. -/
  step_eq : ∀ {c : Char}, endsNumeral c = true → G.step config c = G.enter state c
  /-- The end of the text. -/
  close_eq : G.close config = G.finish state

theorem Grammar.rests_between (state : σ) : G.Rests (.between state) state :=
  ⟨fun _ => rfl, rfl⟩

/-- A numeral that may end does end where no character goes on with it. -/
theorem NumeralPhase.step_of_finish {phase : NumeralPhase} {isNegative : Bool} {n : Number}
    (h : phase.finish isNegative = .ok n) {c : Char} (hc : endsNumeral c = true) :
    phase.step c = .ended := by
  simp only [endsNumeral, Bool.and_eq_true, Bool.not_eq_true', bne_iff_ne] at hc
  cases phase <;> first | cases h | simp [NumeralPhase.step, afterWhole, hc]

/-- A number rests where its value goes. -/
theorem Grammar.rests_number {isNegative : Bool} {phase : NumeralPhase} {slot : ω} {n : Number}
    {state : σ} (hfill : G.fill slot (.number n) = .ok state)
    (hfinish : phase.finish isNegative = .ok n) :
    G.Rests (.within (.number isNegative phase) slot) state := by
  constructor
  · intro c hc
    simp only [Grammar.step, Lexeme.step, NumeralPhase.step_of_finish hfinish hc, hfinish, hfill]
  · simp only [Grammar.close, Lexeme.finish, hfinish, Except.map, hfill, Except.bind]

/-- The text is read as the scalar, whatever slot it is for. -/
def Spells (text : List Char) (v : Scalar) : Prop :=
  ∃ c cs lexeme, text = c :: cs ∧ Lexeme.start? c = some lexeme ∧
    ∀ {σ ω ε α : Type} {G : Grammar σ ω ε α} {slot : ω} {state : σ}, G.fill slot v = .ok state →
      ∃ config, G.Runs (.within lexeme slot) cs config ∧ G.Rests config state

/-! ## Words -/

/-- The rest of a word is read. -/
theorem runs_word {next : Char} {rest : List Char} {v : Scalar} {slot : ω} {state : σ}
    (hfill : G.fill slot v = .ok state) :
    G.Runs (.within (.word next rest v) slot) (next :: rest) (.between state) := by
  induction rest generalizing next with
  | nil => exact .single (Grammar.step_within_eq_ok_iff.2 (.closed (by simp [Lexeme.step]) hfill))
  | cons c rest ih => exact .cons (Grammar.step_within_eq_ok_iff.2 (.more (by simp [Lexeme.step]))) ih

theorem spells_word {c next : Char} {rest : List Char} {v : Scalar}
    (h : Lexeme.start? c = some (.word next rest v)) : Spells (c :: next :: rest) v :=
  ⟨c, next :: rest, _, rfl, h, fun hfill => ⟨_, runs_word hfill, Grammar.rests_between _⟩⟩

theorem spells_null : Spells ['n', 'u', 'l', 'l'] .null :=
  spells_word rfl

theorem spells_bool (b : Bool) : Spells (writeBool b) (.bool b) := by
  cases b <;> exact spells_word rfl

/-! ## Integers -/

/-- Digits are read as long as the number fits into 64 bits. -/
theorem runs_digits {isNegative : Bool} {slot : ω} {cs : List Char}
    (hdigit : ∀ c ∈ cs, c.isDigit = true) {s : Significand}
    (hlt : Nat.ofDigitChars 10 cs s.val < UInt64.size) :
    G.Runs (.within (.number isNegative (.whole s)) slot) cs
      (.within (.number isNegative (.whole ⟨Nat.ofDigitChars 10 cs s.val, hlt⟩)) slot) := by
  induction cs generalizing s with
  | nil => exact .nil _
  | cons c cs ih =>
    simp only [Nat.ofDigitChars_cons, Nat.mul_comm 10] at hlt ⊢
    have hfits : s.val * 10 + digitValue c < UInt64.size :=
      Nat.lt_of_le_of_lt (le_ofDigitChars cs _) hlt
    have hc : c.isDigit = true := hdigit c List.mem_cons_self
    have hstep : (Lexeme.number isNegative (.whole s)).step c =
        .more (.number isNegative (.whole ⟨s.val * 10 + digitValue c, hfits⟩)) := by
      simp [Lexeme.step, NumeralPhase.step, hc, appendDigit, hfits]
    exact .cons (Grammar.step_within_eq_ok_iff.2 (.more hstep))
      (ih (fun d hd => hdigit d (List.mem_cons_of_mem c hd)) hlt)

/-- The phase in which the integer part of a numeral ends. -/
def wholePhase (n : Nat) (h : n < UInt64.size) : NumeralPhase :=
  if n = 0 then .zero else .whole ⟨n, h⟩

theorem wholePhase_finish {n : Nat} (h : n < UInt64.size) (isNegative : Bool) :
    (wholePhase n h).finish isNegative = numberOfInteger isNegative ⟨n, h⟩ := by
  unfold wholePhase
  split
  · next hn => subst hn; rfl
  · rfl

/-- A digit other than zero starts the integer part. -/
theorem start?_digit {c : Char} (hc : c.isDigit = true) (hzero : c ≠ '0') :
    Lexeme.start? c = some (.number false (.whole (.ofDigit c))) := by
  have hne : ∀ d : Char, d.isDigit = false → c ≠ d := by
    rintro d hd rfl
    rw [hc] at hd
    cases hd
  simp [Lexeme.start?, hne 'n' (by decide), hne 't' (by decide), hne 'f' (by decide),
    hne '"' (by decide), hne '-' (by decide), hzero, hc]

/-- The value of the first digit, as a significand. -/
theorem val_ofDigit {c : Char} (hc : c.isDigit = true) :
    (Significand.ofDigit c).val = Nat.ofDigitChars 10 [c] 0 := by
  have hbounds := Char.isDigit_iff_toNat.1 hc
  have hsize : (10 : Nat) < UInt64.size := by decide
  simp only [Significand.ofDigit, digitValue, Nat.ofDigitChars_cons, Nat.ofDigitChars_nil]
  rw [Nat.mod_eq_of_lt]
  · simp
  · have : '9'.toNat = 57 := rfl
    have : '0'.toNat = 48 := rfl
    omega

/-- The digits of a positive number, from the first one on. -/
theorem exists_runs_toDigits {n : Nat} (h : n < UInt64.size) (hpos : 0 < n) :
    ∃ c cs, Nat.toDigits 10 n = c :: cs ∧ c.isDigit = true ∧ c ≠ '0' ∧
      ∀ {σ ω ε α : Type} {G : Grammar σ ω ε α} {isNegative : Bool} {slot : ω},
        G.Runs (.within (.number isNegative (.whole (.ofDigit c))) slot) cs
          (.within (.number isNegative (wholePhase n h)) slot) := by
  obtain ⟨c, cs, hcs, hzero⟩ := exists_toDigits_eq_cons hpos
  have hdigit : ∀ d ∈ c :: cs, d.isDigit = true := fun d hd =>
    isDigit_of_mem_toDigits (hcs ▸ hd)
  have hc : c.isDigit = true := hdigit c List.mem_cons_self
  have hvalue : Nat.ofDigitChars 10 cs (Significand.ofDigit c).val = n := by
    rw [val_ofDigit hc, ← Nat.ofDigitChars_append, List.singleton_append, ← hcs,
      Nat.ofDigitChars_ten_toDigits]
  have hlt : Nat.ofDigitChars 10 cs (Significand.ofDigit c).val < UInt64.size := by
    rw [hvalue]
    exact h
  refine ⟨c, cs, hcs, hc, hzero, fun {σ ω ε α G isNegative slot} => ?_⟩
  have hruns : G.Runs (.within (.number isNegative (.whole (.ofDigit c))) slot) cs
      (.within (.number isNegative (.whole ⟨_, hlt⟩)) slot) :=
    runs_digits (fun d hd => hdigit d (List.mem_cons_of_mem c hd)) hlt
  rw [wholePhase, if_neg (Nat.ne_of_gt hpos)]
  simpa only [hvalue] using hruns

/-- An integer is read back: a natural number from its digits, a negative one behind its sign. -/
theorem spells_number {n : Number} (hfloat : n.isFloat = false) :
    Spells n.chars (.number n) := by
  cases n with
  | float x hx => cases hfloat
  | natural n h =>
    have hfinish : (wholePhase n h).finish false = .ok (.natural n h) := wholePhase_finish h false
    rcases Nat.eq_zero_or_pos n with rfl | hpos
    · exact ⟨'0', [], .number false (wholePhase 0 h), Nat.toDigits_zero 10, rfl, fun hfill =>
        ⟨_, .nil _, Grammar.rests_number hfill hfinish⟩⟩
    · obtain ⟨c, cs, hcs, hc, hzero, hruns⟩ := exists_runs_toDigits h hpos
      exact ⟨c, cs, _, hcs, start?_digit hc hzero, fun hfill =>
        ⟨_, hruns, Grammar.rests_number hfill hfinish⟩⟩
  | negative m bounds =>
    have h : m < UInt64.size := by
      have : UInt64.size / 2 < UInt64.size := by decide
      omega
    have hfinish : (wholePhase m h).finish true = .ok (.negative m bounds) := by
      rw [wholePhase_finish, numberOfInteger, Number.ofInteger?, if_pos rfl, dif_pos bounds]
    obtain ⟨c, cs, hcs, hc, hzero, hruns⟩ := exists_runs_toDigits h bounds.1
    have hsign : (Lexeme.number true .sign).step c =
        .more (.number true (.whole (.ofDigit c))) := by
      simp [Lexeme.step, NumeralPhase.step, hc, hzero]
    exact ⟨'-', c :: cs, .number true .sign, congrArg _ hcs, rfl, fun hfill =>
      ⟨_, .cons (Grammar.step_within_eq_ok_iff.2 (.more hsign)) hruns,
        Grammar.rests_number hfill hfinish⟩⟩

/-! ## Strings -/

/-- A character of a string that goes on. -/
theorem Grammar.step_string {read : List Char} {phase next : LiteralPhase} {slot : ω} {c : Char}
    {d : Option Char} (h : phase.step c = .more d next) :
    G.step (.within (.string read phase) slot) c =
      .ok (.within (.string (d.toList ++ read) next) slot) :=
  Grammar.step_within_eq_ok_iff.2 (.more (by simp only [Lexeme.step, h]))

/-- An escape of one letter. -/
theorem runs_letter {read : List Char} {slot : ω} {letter c : Char} (hu : letter ≠ 'u')
    (h : escaped? letter = some c) :
    G.Runs (.within (.string read .plain) slot) ['\\', letter]
      (.within (.string (c :: read) .plain) slot) := by
  have hletter : LiteralPhase.escape.step letter = .more (some c) .plain := by
    simp [LiteralPhase.step, hu, h]
  exact .cons (Grammar.step_string rfl) (.single (Grammar.step_string hletter))

/-- A hexadecimal digit counts as one byte and with its value. -/
theorem HexDigits.push_hexDigit {k : Nat} (hk : k < 16) (bytes value : Nat) :
    (HexDigits.mk bytes (some value)).push (hexDigit k) = ⟨bytes + 1, some (value * 16 + k)⟩ := by
  have hdigit : ∀ k < 16, hexValue? (hexDigit k) = some k ∧ (hexDigit k).utf8Size = 1 := by decide
  obtain ⟨hvalue, hsize⟩ := hdigit k hk
  simp [push, hvalue, hsize]

/-- The first three digits of a unit. -/
theorem unit_step_more {k bytes value : Nat} (hk : k < 16) (hbytes : bytes < 3) :
    (LiteralPhase.unit ⟨bytes, some value⟩).step (hexDigit k) =
      .more none (.unit ⟨bytes + 1, some (value * 16 + k)⟩) := by
  have hwidth : bytes + 1 < HexDigits.width := Nat.succ_lt_succ hbytes
  simp only [LiteralPhase.step, digitStep, HexDigits.push_hexDigit hk, if_pos hwidth]

/-- The last digit of a unit that is a character of its own. -/
theorem unit_step_settle {k value : Nat} (hk : k < 16) (hunit : value * 16 + k < 0xD800) :
    (LiteralPhase.unit ⟨3, some value⟩).step (hexDigit k) =
      .more (some (Char.ofNat (value * 16 + k))) .plain := by
  have hlow : isLowSurrogate (value * 16 + k) = false := by
    simp only [isLowSurrogate, Bool.and_eq_false_iff, decide_eq_false_iff_not]
    omega
  have hhigh : isHighSurrogate (value * 16 + k) = false := by
    simp only [isHighSurrogate, Bool.and_eq_false_iff, decide_eq_false_iff_not]
    omega
  have hwidth : ¬ 3 + 1 < HexDigits.width := by decide
  simp only [LiteralPhase.step, digitStep, HexDigits.push_hexDigit hk, if_neg hwidth, hlow, hhigh,
    Bool.false_eq_true, if_false]

/-- A control is read back from its code point. -/
theorem runs_control {read : List Char} {slot : ω} {c : Char} (hc : c.toNat < 0x20) :
    G.Runs (.within (.string read .plain) slot)
      ['\\', 'u', '0', '0', hexDigit (c.toNat / 16), hexDigit (c.toNat % 16)]
      (.within (.string (c :: read) .plain) slot) := by
  have hvalue : c.toNat / 16 * 16 + c.toNat % 16 = c.toNat := by omega
  have hthird : (LiteralPhase.unit ⟨2, some 0⟩).step (hexDigit (c.toNat / 16)) =
      .more none (.unit ⟨3, some (c.toNat / 16)⟩) := by
    rw [unit_step_more (by omega) (by decide), Nat.zero_mul, Nat.zero_add]
  have hfourth : (LiteralPhase.unit ⟨3, some (c.toNat / 16)⟩).step (hexDigit (c.toNat % 16)) =
      .more (some c) .plain := by
    rw [unit_step_settle (Nat.mod_lt _ (by decide)) (by omega), hvalue, Char.ofNat_toNat]
  exact .cons (Grammar.step_string rfl) <| .cons (Grammar.step_string rfl) <|
    .cons (Grammar.step_string (unit_step_more (k := 0) (by decide) (by decide))) <|
    .cons (Grammar.step_string (unit_step_more (k := 0) (by decide) (by decide))) <|
    .cons (Grammar.step_string hthird) <| .single (Grammar.step_string hfourth)

/-- **A character of a string is read back from what is written for it.** -/
theorem runs_escapeChar (c : Char) {read : List Char} {slot : ω} :
    G.Runs (.within (.string read .plain) slot) (escapeChar c)
      (.within (.string (c :: read) .plain) slot) := by
  unfold escapeChar
  split
  · next h => subst h; exact runs_letter (by decide) rfl
  split
  · next h => subst h; exact runs_letter (by decide) rfl
  split
  · next h => subst h; exact runs_letter (by decide) rfl
  split
  · next h => subst h; exact runs_letter (by decide) rfl
  split
  · next h => subst h; exact runs_letter (by decide) rfl
  split
  · next h => subst h; exact runs_letter (by decide) rfl
  split
  · next h => subst h; exact runs_letter (by decide) rfl
  split
  · next h => exact runs_control h
  · next hquote hbackslash _ _ _ _ _ hcontrol =>
    have hplain : LiteralPhase.plain.step c = .more (some c) .plain := by
      simp [LiteralPhase.step, hquote, hbackslash, hcontrol]
    exact .single (Grammar.step_string hplain)

/-- The characters of a string are read back one after the other. -/
theorem runs_flatMap_escapeChar (cs : List Char) {read : List Char} {slot : ω} :
    G.Runs (.within (.string read .plain) slot) (cs.flatMap escapeChar)
      (.within (.string (cs.reverse ++ read) .plain) slot) := by
  induction cs generalizing read with
  | nil => exact .nil _
  | cons c cs ih =>
    rw [List.flatMap_cons, List.reverse_cons, List.append_assoc]
    exact (runs_escapeChar c).append ih

/-- A string is read back behind its opening quote. -/
theorem runs_writeString {s : String} {slot : ω} {state : σ}
    (hfill : G.fill slot (.string s) = .ok state) :
    G.Runs (.within (.string [] .plain) slot) (s.toList.flatMap escapeChar ++ ['"'])
      (.between state) := by
  have hclosed : (Lexeme.string (s.toList.reverse ++ []) .plain).step '"' =
      .closed (.string s) := by
    simp [Lexeme.step, LiteralPhase.step]
  have hstep := Grammar.step_within_eq_ok_iff.2 (.closed hclosed hfill)
  exact (runs_flatMap_escapeChar s.toList).append (.single hstep)

theorem spells_string (s : String) : Spells (writeString s) (.string s) :=
  ⟨'"', _, .string [] .plain, rfl, rfl, fun hfill =>
    ⟨_, runs_writeString hfill, Grammar.rests_between _⟩⟩

end LiveJson.Json
