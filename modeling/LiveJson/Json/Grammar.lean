import LiveJson.Json.Lexeme

/-!
# Reading a text by a grammar

A text is read from left to right, one character at a time, without looking ahead or going back.
Between lexemes a *state* `σ` says what may come next; while a lexeme is being read, a *slot* `ω`
says where its value will go.

## What is here

* `Grammar` — what a character between lexemes does, where a value goes, and what the end of the
  text means.
* `Grammar.step`, `Grammar.feed` — one character, and a stretch of them.  A text may be fed in
  parts (`Grammar.feed_append`).
* `Grammar.read` — a whole text: its result, or a `Fault` with the byte offset up to which the text
  was looked at.

White space of four kinds is skipped between lexemes (`isSpace`), whatever the grammar.
-/

set_option autoImplicit false

namespace LiveJson.Json

/-- The white space between lexemes. -/
def isSpace (c : Char) : Bool :=
  c == ' ' || c == '\n' || c == '\t' || c == '\r'

/-- An error, and the number of bytes from the start of the text up to where it was noticed. -/
structure Fault (ε : Type) where
  error : ε
  offset : Nat

/-- What a character between lexemes does. -/
inductive Reaction (σ ω ε : Type) where
  /-- It is a mark of its own. -/
  | goto (next : σ)
  /-- It starts a lexeme, whose value is for the slot. -/
  | begin (lexeme : Lexeme) (slot : ω)
  /-- It cannot stand there; reading stops `advance` bytes behind its start. -/
  | fail (error : ε) (advance : Nat)

/-- The rules by which a text is read: its states `σ`, its slots `ω`, its errors `ε` and its results
`α`. -/
structure Grammar (σ ω ε α : Type) where
  /-- What a character other than white space does between lexemes. -/
  react : σ → Char → Reaction σ ω ε
  /-- What the value of a lexeme does in its slot. -/
  fill : ω → Scalar → Except ε σ
  /-- What the text means if it ends between lexemes. -/
  finish : σ → Except ε α
  /-- The error for a malformed lexeme. -/
  malformed : Cause → ε

/-- Where a reader stands: between lexemes or within one. -/
inductive Config (σ ω : Type) where
  | between (state : σ)
  | within (lexeme : Lexeme) (slot : ω)

namespace Grammar

variable {σ ω ε α : Type} (G : Grammar σ ω ε α)

/-- A character between lexemes.  The offset of a fault is counted from the character's start. -/
def enter (state : σ) (c : Char) : Except (Fault ε) (Config σ ω) :=
  if isSpace c then .ok (.between state)
  else
    match G.react state c with
    | .goto next => .ok (.between next)
    | .begin lexeme slot => .ok (.within lexeme slot)
    | .fail error advance => .error ⟨error, advance⟩

/-- One character.  The offset of a fault is counted from the character's start. -/
def step : Config σ ω → Char → Except (Fault ε) (Config σ ω)
  | .between state, c => G.enter state c
  | .within lexeme slot, c =>
    match lexeme.step c with
    | .more next => .ok (.within next slot)
    | .closed value =>
      match G.fill slot value with
      | .ok state => .ok (.between state)
      | .error error => .error ⟨error, c.utf8Size⟩
    | .ended value =>
      match G.fill slot value with
      | .ok state => G.enter state c
      | .error error => .error ⟨error, 0⟩
    | .fault cause advance => .error ⟨G.malformed cause, advance⟩

/-- A stretch of text that starts `offset` bytes behind the start of the whole text: where the
reader stands after it, and at which offset. -/
def feed : Config σ ω → Nat → List Char → Except (Fault ε) (Config σ ω × Nat)
  | config, offset, [] => .ok (config, offset)
  | config, offset, c :: cs =>
    match G.step config c with
    | .ok next => feed next (offset + c.utf8Size) cs
    | .error fault => .error ⟨fault.error, offset + fault.offset⟩

/-- Two stretches are fed one after the other. -/
theorem feed_append (config : Config σ ω) (offset : Nat) (cs ds : List Char) :
    G.feed config offset (cs ++ ds) =
      (G.feed config offset cs).bind fun after => G.feed after.1 after.2 ds := by
  induction cs generalizing config offset with
  | nil => rfl
  | cons c cs ih =>
    simp only [List.cons_append, feed]
    split
    · exact ih _ _
    · rfl

/-- The end of the text. -/
def close : Config σ ω → Except ε α
  | .between state => G.finish state
  | .within lexeme slot =>
    match lexeme.finish with
    | .error cause => .error (G.malformed cause)
    | .ok value => (G.fill slot value).bind G.finish

/-- **A whole text, read from a state.** -/
def read (start : σ) (text : List Char) : Except (Fault ε) α :=
  match G.feed (.between start) 0 text with
  | .error fault => .error fault
  | .ok (config, offset) =>
    match G.close config with
    | .ok result => .ok result
    | .error error => .error ⟨error, offset⟩

end Grammar

end LiveJson.Json
