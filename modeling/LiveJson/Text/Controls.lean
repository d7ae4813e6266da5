/-!
# Texts without the controls of a terminal

A text that comes from outside may hold characters that steer a terminal.  `withoutControls` takes
them out, together with the sequences that an escape character begins, so that what is left shows
the same on a screen and in a file.

## What is here

* `isSpacing`, `isShown` — the ASCII controls that only move on, and the characters that are kept.
* `ControlSequence` — a sequence that has begun, by what may follow in it; `after?` is one more
  character of it.
* `Display` — whether characters are shown or skipped; `Display.step` is one more character.
* `withoutControls` — what is left of a text.  A text of characters that are shown is left as it
  is (`withoutControls_eq_self`).
-/

set_option autoImplicit false

namespace LiveJson.Text

/-! ## Characters -/

/-- The controls that are kept: tabulator, line feed, form feed and carriage return. -/
def isSpacing (c : Char) : Bool :=
  decide (c = '\t') || decide (c = '\n') || decide (c = '\x0c') || decide (c = '\r')

/-- The characters that are kept: all but the ASCII controls, and those of them that only move on.
The controls above ASCII are kept too, as a terminal takes them for text. -/
def isShown (c : Char) : Bool :=
  isSpacing c || (decide (0x20 ≤ c.toNat) && decide (c.toNat ≠ 0x7F))

/-- Whether a code point lies in a range, both ends included. -/
def liesIn (first last : Nat) (c : Char) : Bool :=
  decide (first ≤ c.toNat) && decide (c.toNat ≤ last)

/-! ## Sequences -/

/-- A sequence that steers a terminal, by what may follow in it. -/
inductive ControlSequence where
  /-- The escape character alone. -/
  | escape
  /-- The escape character and characters from the space to `/`. -/
  | intermediate
  /-- Parameters, opened by `[`. -/
  | parameters
  /-- A command to the terminal, opened by `]` and closed by a bell. -/
  | command
  /-- What stands before a string for a device, opened by `P`. -/
  | header
  /-- The parameters of a string for a device. -/
  | headerParameters
  /-- The last part before a string for a device, characters from the space to `/`. -/
  | headerEnd
  /-- A string, which is closed by the byte 9C. -/
  | string
deriving DecidableEq, Repr

/-- What the character behind the escape character begins; `none` if that is all of the
sequence. -/
def ControlSequence.opened? (c : Char) : Option ControlSequence :=
  if liesIn 0x20 0x2F c then some .intermediate
  else if c = '[' then some .parameters
  else if c = ']' then some .command
  else if c = 'P' then some .header
  else if c = 'X' ∨ c = '^' ∨ c = '_' then some .string
  else if liesIn 0x30 0x7E c then none
  else some .escape

/-- What stands before a string for a device, with one more character of it.  The string begins with
a character from `@` on, or where a character is out of place. -/
def ControlSequence.inHeader (c : Char) (isParameter : Bool) (s : ControlSequence) :
    ControlSequence :=
  if liesIn 0x20 0x2F c then .headerEnd
  else if isParameter then .headerParameters
  else if liesIn 0x30 0x7E c then .string
  else s

/-- The sequence with one more character, `none` if the character ends it.  A character that means
nothing in a sequence is skipped with it.  The byte that closes a string does so inside a character
as well. -/
def ControlSequence.after? : ControlSequence → Char → Option ControlSequence
  | .escape, c => opened? c
  | .intermediate, c => if liesIn 0x30 0x7E c then none else some .intermediate
  | .parameters, c => if liesIn 0x40 0x7E c then none else some .parameters
  | .command, c => if c = '\x07' then none else some .command
  | .header, c => some (inHeader c (liesIn 0x30 0x3F c && c != ':') .header)
  | .headerParameters, c => some (inHeader c (c.isDigit || c == ';') .headerParameters)
  | .headerEnd, c => some (inHeader c false .headerEnd)
  | .string, c => if (String.utf8EncodeChar c).contains 0x9C then none else some .string

/-- Whether a control that is kept is shown in the midst of the sequence.  In commands and strings
it belongs to them. -/
def ControlSequence.isInterruptible : ControlSequence → Bool
  | .escape | .intermediate | .parameters => true
  | .command | .header | .headerParameters | .headerEnd | .string => false

/-! ## Texts -/

/-- Whether characters are shown or skipped. -/
inductive Display where
  /-- Characters are shown; there may be a sequence that was interrupted and waits. -/
  | showing (waiting : Option ControlSequence)
  /-- Characters are skipped as part of a sequence. -/
  | skipping (s : ControlSequence)
deriving DecidableEq, Repr

/-- Nothing has begun. -/
def Display.start : Display := .showing none

/-- What follows where a sequence goes on, or is at its end. -/
def Display.ofSequence? : Option ControlSequence → Display
  | some s => .skipping s
  | none => .start

/-- One more character, and whether it is shown.  Everywhere an escape character begins a sequence,
and the controls 18 and 1A drop the one that has begun.  A sequence that waits is taken up again at
the next control that is not kept, unless a character beyond ASCII came before. -/
def Display.step (d : Display) (c : Char) : Display × Bool :=
  if c = '\x1b' then (.skipping .escape, false)
  else if c = '\x18' ∨ c = '\x1a' then (.start, false)
  else
    match d with
    | .showing waiting =>
      if isShown c then (.showing (if c.toNat < 0x80 then waiting else none), true)
      else (.ofSequence? waiting, false)
    | .skipping s =>
      if s.isInterruptible && isSpacing c then (.showing (some s), true)
      else (.ofSequence? (s.after? c), false)

/-- The characters that are shown. -/
def Display.shown : Display → List Char → List Char
  | _, [] => []
  | d, c :: cs =>
    if (d.step c).2 then c :: Display.shown (d.step c).1 cs else Display.shown (d.step c).1 cs

/-- **What is left of a text without the controls of a terminal.** -/
def withoutControls (text : String) : String :=
  String.ofList (Display.start.shown text.toList)

theorem Display.step_start {c : Char} (h : isShown c = true) :
    Display.start.step c = (.start, true) := by
  have h₁ : c ≠ '\x1b' := by rintro rfl; revert h; decide
  have h₂ : ¬(c = '\x18' ∨ c = '\x1a') := by rintro (rfl | rfl) <;> revert h <;> decide
  simp [step, start, h₁, h₂, h]

/-- A text of characters that are shown is left as it is. -/
theorem withoutControls_eq_self {text : String} (h : text.toList.all isShown = true) :
    withoutControls text = text := by
  have key : ∀ cs : List Char, cs.all isShown = true → Display.start.shown cs = cs := by
    intro cs
    induction cs with
    | nil => intro _; rfl
    | cons c cs ih =>
      intro hcs
      rw [List.all_cons, Bool.and_eq_true] at hcs
      simp [Display.shown, Display.step_start hcs.1, ih hcs.2]
  rw [withoutControls, key _ h, String.ofList_toList]

end LiveJson.Text
