import LiveJson.Proofs.Json.Faults
import LiveJson.Proofs.Validation.Scan

/-!
# What would complete a document

The advice for a text that ends too early, outside strings, names the closing brackets of the
containers that the reader has entered and not left.

## What is here

* `Nests` and `Document.nests_closers_of_step` — the closing brackets of a reader are a stack.  One
  character pushes one, or is the top one and takes it off, or leaves the stack as it is.
* `Agrees.help_message` — the advice of a scan that stands where the reader does.
* `check_help_names_closers` — the two together, for a text whose end comes too early.

Only the end of a text inside a string is answered differently: its cause is another one, and so is
the advice.
-/

set_option autoImplicit false

namespace LiveJson

open Json Json.Document Text Validation

/-! ## The open containers are a stack -/

/-- What a character may do to the closing brackets of the open containers, innermost first. -/
inductive Nests : List Char → Char → List Char → Prop
  /-- No container is opened or closed. -/
  | same (closers : List Char) (c : Char) : Nests closers c closers
  /-- A list is opened. -/
  | list (closers : List Char) : Nests closers '[' (']' :: closers)
  /-- A map is opened. -/
  | map (closers : List Char) : Nests closers '{' ('}' :: closers)
  /-- The innermost container is closed by its own bracket. -/
  | close (c : Char) (closers : List Char) : Nests (c :: closers) c closers

namespace Json.Document

theorem closers_attach (outer : List Frame) (v : Value) :
    (attach outer v).closers = outer.map Frame.closer := by
  cases outer with
  | nil => rfl
  | cons frame outer => cases frame <;> rfl

theorem State.Awaits.closers_eq {state : State} {outer : List Frame} (h : state.Awaits outer) :
    state.closers = outer.map Frame.closer := by
  rw [state.closers_eq, h.stack_eq]

/-- The value of a lexeme opens and closes nothing. -/
theorem closers_of_fill {slot : Slot} {v : Scalar} {state : State} (h : fill slot v = .ok state) :
    state.closers = slot.closers := by
  cases slot with
  | value outer =>
    cases h
    exact closers_attach outer v.toValue
  | key members outer =>
    cases v <;> cases h
    rfl

theorem nests_of_move {state next : State} {c : Char} (h : Move state c next) :
    Nests state.closers c next.closers := by
  cases h with
  | openList hs _ => rw [hs.closers_eq]; exact .list _
  | openMap hs _ => rw [hs.closers_eq]; exact .map _
  | closeEmptyList outer => rw [closers_attach]; exact .close ']' _
  | closeList items outer => rw [closers_attach]; exact .close ']' _
  | closeEmptyMap outer => rw [closers_attach]; exact .close '}' _
  | closeMap members outer => rw [closers_attach]; exact .close '}' _
  | item items outer => exact .same _ _
  | member members outer => exact .same _ _
  | colon members key outer => exact .same _ _

theorem nests_of_start {state : State} {c : Char} {lexeme : Lexeme} {slot : Slot}
    (h : Start state c lexeme slot) : Nests state.closers c slot.closers := by
  cases h with
  | value hs _ => rw [hs.closers_eq]; exact .same _ _
  | firstKey outer => exact .same _ _
  | nextKey members outer => exact .same _ _

theorem nests_of_enter {state : State} {c : Char} {next : Config State Slot}
    (h : grammar.Enters state c next) : Nests state.closers c (closers next) := by
  cases h with
  | space _ => exact .same _ _
  | goto _ hreact => exact nests_of_move (react_eq_goto_iff.1 hreact)
  | start _ hreact => exact nests_of_start (react_eq_begin_iff.1 hreact)

/-- **One character opens one container, closes the innermost one, or leaves them as they are.** -/
theorem nests_closers_of_step {config next : Config State Slot} {c : Char}
    (h : grammar.step config c = .ok next) : Nests (closers config) c (closers next) := by
  cases config with
  | between state => exact nests_of_enter (Grammar.enter_eq_ok_iff.1 h)
  | within lexeme slot =>
    cases Grammar.step_within_eq_ok_iff.1 h with
    | more _ => exact .same _ _
    | closed _ hfill =>
      show Nests slot.closers c (State.closers _)
      rw [closers_of_fill hfill]
      exact .same _ _
    | ended _ hfill hnext =>
      have hnests := nests_of_enter hnext
      rwa [closers_of_fill hfill] at hnests

/-- What the end of a text inside a string is called. -/
theorem close_string {read : List Char} {phase : LiteralPhase} {slot : Slot} {cause : Cause}
    (h : grammar.close (.within (.string read phase) slot) = .error cause) :
    cause = .endInString := by
  cases h
  rfl

end Json.Document

/-! ## The advice -/

/-- Other advice is worded differently from the advice to close a string. -/
theorem Validation.Help.message_ne_closeString {help : Help} (h : help ≠ .closeString) :
    help.message ≠ Help.closeString.message := by
  cases help with
  | closeString => exact absurd rfl h
  | addClosers closers =>
    have hfirst : (Help.addClosers closers).message.toList.head? = some 'a' := by
      simp [Help.message]
    intro heq
    rw [heq] at hfirst
    exact absurd hfirst (by decide)
  | checkPunctuation => decide
  | unfinished => decide

/-- The advice for a text that ends outside strings, inside these containers. -/
theorem Validation.help_outside_bracketsOf (stack : List Frame) :
    (Scan.outside (bracketsOf stack)).help =
      if stack.map Frame.closer = [] then .unfinished
      else .addClosers (stack.map Frame.closer) := by
  rw [← map_closer_bracketsOf]
  cases stack <;> rfl

/-- **The advice of a scan that stands where the reader does**, outside strings. -/
theorem Validation.Agrees.help_eq {last : Config State Slot} {scan : Scan} (h : Agrees last scan)
    {cause : Cause} (hclose : grammar.close last = .error cause) (hcause : cause ≠ .endInString) :
    scan.help = if closers last = [] then .unfinished else .addClosers (closers last) := by
  cases h with
  | between state => rw [help_outside_bracketsOf, closers, state.closers_eq]
  | word slot _ => rw [help_outside_bracketsOf, closers, slot.closers_eq]
  | number isNegative phase slot => rw [help_outside_bracketsOf, closers, slot.closers_eq]
  | string hfollows => exact absurd (close_string hclose) hcause

/-- The advice for a text that ends too early is that of the scan. -/
theorem Malformed.help_ofFault {text : List Char} {fault : SyntaxFault}
    (hend : fault.error.isEnd = true) : (Malformed.ofFault text fault).help = (scan text).help := by
  simp only [Malformed.ofFault, helpFor, if_pos hend, completionHelp]

/-- **The advice names what is missing.**  A text that ends inside a list or a map or where a value
is needed, outside strings, has been read to its end.  The user is not told to close a string, but
to write the closing brackets of the containers entered and not left, innermost first; or, if there
are none, that a value is not complete. -/
theorem check_help_names_closers {text : String} {m : Malformed} (h : check text = .error m)
    (hcause : m.cause = .endInList ∨ m.cause = .endInMap ∨ m.cause = .endInValue) :
    ∃ last,
      grammar.feed (.between (.value [])) 0 text.toList = .ok (last, byteLength text.toList) ∧
      m.help.message ≠ Help.closeString.message ∧
      (closers last ≠ [] →
        m.help.message = "add `" ++ String.ofList (closers last) ++ "` at the end") ∧
      (closers last = [] →
        m.help.message = "the document ended before a value was complete") := by
  obtain ⟨fault, hread, rfl⟩ := check_eq_error_iff.1 h
  have hfault : fault.error = .endInList ∨ fault.error = .endInMap ∨ fault.error = .endInValue :=
    hcause
  have hend : fault.error.isEnd = true := by
    rcases hfault with h | h | h <;> rw [h] <;> rfl
  have hstring : fault.error ≠ .endInString := by
    rcases hfault with h | h | h <;> rw [h] <;> exact nofun
  obtain ⟨last, hruns, hclose, -⟩ := exists_runs_of_isEnd hread hend
  have hhelp : (Malformed.ofFault text.toList fault).help =
      if closers last = [] then .unfinished else .addClosers (closers last) := by
    have hscan : helpFor text.toList fault.error = (scan text.toList).help := by
      rw [helpFor, if_pos hend, completionHelp]
    exact hscan.trans ((agrees_scan hruns).help_eq hclose hstring)
  refine ⟨last, Grammar.feed_eq_ok_iff.2 ⟨hruns, (Nat.zero_add _).symm⟩, ?_, ?_, ?_⟩
  · refine Help.message_ne_closeString ?_
    rw [hhelp]
    split <;> exact nofun
  · intro hopen
    rw [hhelp, if_neg hopen]
    rfl
  · intro hnone
    rw [hhelp, if_pos hnone]
    rfl

/-- The advice for a text that ends behind a comma, in a list in a map in a list; a bracket in a key
is not counted, nor the escaped quote behind it. -/
theorem check_help_names_closers_nested :
    ∃ m last, check "[\x7b\"[\\\"\":[1," = .error m ∧ m.cause = .endInValue ∧
      grammar.feed (.between (.value [])) 0 "[\x7b\"[\\\"\":[1,".toList = .ok (last, 11) ∧
      closers last = [']', '}', ']'] ∧ m.help.message = "add `]\x7d]` at the end" := by
  obtain ⟨m, hcheck, hcause⟩ : ∃ m, check "[\x7b\"[\\\"\":[1," = .error m ∧
      decide (m.cause = .endInValue) = true := exists_check_eq_error (by decide +kernel)
  have hend : m.cause = .endInValue := of_decide_eq_true hcause
  obtain ⟨last, hfeed, -, hopen, -⟩ := check_help_names_closers hcheck (.inr (.inr hend))
  have hclosers : (grammar.feed (.between (.value [])) 0 "[\x7b\"[\\\"\":[1,".toList).toOption.any
      (fun after => closers after.1 = [']', '}', ']']) = true := by decide +kernel
  rw [hfeed] at hclosers
  have hlast : closers last = [']', '}', ']'] := of_decide_eq_true hclosers
  have hmessage := hopen (by rw [hlast]; exact List.cons_ne_nil _ _)
  rw [hlast] at hmessage
  exact ⟨m, last, hcheck, hend, hfeed, hlast, hmessage⟩

end LiveJson
