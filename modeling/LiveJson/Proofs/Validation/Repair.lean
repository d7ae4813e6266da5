import LiveJson.Proofs.Json.RoundTrip
import LiveJson.Proofs.Validation.Completion

/-!
# Following the advice

A text that ends in a list, where the list could be closed, becomes a document once the closing brackets
are written that the advice names.

## What is here

* `Frame.close` and `runs_closers` — behind a complete value, the brackets of the containers around it are
  read one after the other, and each makes a complete value of its container.
* `exists_rests_of_endInList` — the places in which the end of a text has this cause: the list has just
  been opened, or an item of it is complete, be it a number that might have gone on.
* `check_append_closers` — **the text with the closing brackets is a document.**
-/

set_option autoImplicit false

namespace LiveJson

open Json Json.Document Text Validation

namespace Json.Document

/-! ## Closing all containers -/

/-- The container that is closed behind its last value. -/
def Frame.close : Frame → Value → Value
  | .list items, v => .list (v :: items).reverse
  | .map members key, v => .map ((key, v) :: members).reverse

/-- Behind a value, the closing bracket of the container around it makes another one. -/
theorem Frame.move_close (frame : Frame) (outer : List Frame) (v : Value) :
    Document.Move (attach (frame :: outer) v) frame.closer (attach outer (frame.close v)) := by
  cases frame with
  | list items => exact .closeList (v :: items) outer
  | map members key => exact .closeMap ((key, v) :: members) outer

/-- **Behind a value, the closing brackets of all containers around it lead to the end of the
document.** -/
theorem runs_closers (stack : List Frame) (v : Value) :
    grammar.Runs (.between (attach stack v)) (stack.map Frame.closer)
      (.between (.done (stack.foldl (fun w frame => frame.close w) v))) := by
  induction stack generalizing v with
  | nil => exact .nil _
  | cons frame outer ih =>
    exact .cons (step_of_move (Grammar.rests_between _) (frame.move_close outer v)) (ih _)

/-! ## The end of a text in a list -/

/-- A list may be closed here: nothing is in it, or an item is complete. -/
theorem exists_move_of_endInList {state : State} (h : finish state = .error .endInList) :
    ∃ items outer, Document.Move state ']' (attach outer (.list items)) ∧
      state.closers = ']' :: outer.map Frame.closer := by
  cases state with
  | firstItem outer => exact ⟨[], outer, .closeEmptyList outer, rfl⟩
  | afterItem items outer => exact ⟨items.reverse, outer, .closeList items outer, rfl⟩
  | _ => cases h

/-- Where the end of a text has this cause, the reader rests between lexemes, with the same containers
open. -/
theorem exists_rests_of_endInList {last : Config State Slot}
    (h : grammar.close last = .error .endInList) :
    ∃ state, grammar.Rests last state ∧ finish state = .error .endInList ∧
      closers last = state.closers := by
  cases last with
  | between state => exact ⟨state, Grammar.rests_between state, h, rfl⟩
  | within lexeme slot =>
    cases lexeme with
    | word next rest meaning => cases h
    | string read phase => cases h
    | number isNegative phase =>
      cases hnumber : phase.finish isNegative with
      | error cause =>
        -- a number that may not end, or is out of range, is no matter of the list
        simp only [Grammar.close, Lexeme.finish, hnumber] at h
        cases h
        cases phase <;> grind [NumeralPhase.finish, numberOfParts, numberOfInteger]
      | ok n =>
        cases hfill : fill slot (.number n) with
        | error cause =>
          simp only [Grammar.close, Lexeme.finish, hnumber] at h
          cases slot <;> cases hfill
          cases h
        | ok state =>
          have hrests : grammar.Rests (.within (.number isNegative phase) slot) state :=
            Grammar.rests_number hfill hnumber
          exact ⟨state, hrests, hrests.close_eq.symm.trans h, (closers_of_fill hfill).symm⟩

/-- The closing brackets of all open containers complete the document. -/
theorem exists_runs_closers {last : Config State Slot}
    (h : grammar.close last = .error .endInList) :
    ∃ outer v, closers last = ']' :: outer ∧
      grammar.Runs last (closers last) (.between (.done v)) := by
  obtain ⟨state, hrests, hfinish, hclosers⟩ := exists_rests_of_endInList h
  obtain ⟨items, outer, hmove, hstate⟩ := exists_move_of_endInList hfinish
  rw [hclosers, hstate]
  exact ⟨_, _, rfl, .cons (step_of_move hrests hmove) (runs_closers outer (.list items))⟩

end Json.Document

/-! ## The advice is good -/

/-- **A list that is cut short is completed by the advice.**  The user is told to write some closing
brackets, the first of which is that of a list, and the text with these brackets is a document. -/
theorem check_append_closers {text : String} {m : Malformed} (h : check text = .error m)
    (hcause : m.cause = .endInList) :
    ∃ brackets v, m.help = .addClosers (']' :: brackets) ∧
      m.help.message = "add `" ++ String.ofList (']' :: brackets) ++ "` at the end" ∧
      check (text ++ String.ofList (']' :: brackets)) = .ok v := by
  obtain ⟨fault, hread, rfl⟩ := check_eq_error_iff.1 h
  have hfault : fault.error = .endInList := hcause
  have hend : fault.error.isEnd = true := by rw [hfault]; rfl
  obtain ⟨last, hruns, hclose, -⟩ := exists_runs_of_isEnd hread hend
  rw [hfault] at hclose
  obtain ⟨brackets, v, hclosers, hrest⟩ := exists_runs_closers hclose
  rw [hclosers] at hrest
  have hhelp : (Malformed.ofFault text.toList fault).help = .addClosers (']' :: brackets) := by
    have hne : Cause.endInList ≠ .endInString := by decide
    rw [Malformed.help_ofFault hend, (agrees_scan hruns).help_eq hclose hne, hclosers]
    rfl
  have hread : readMembers (text.toList ++ ']' :: brackets) = .ok v :=
    Grammar.read_eq_ok_iff.2 ⟨_, hruns.append hrest, rfl⟩
  refine ⟨brackets, v.unique, hhelp, by rw [hhelp]; rfl, check_eq_ok_iff.2 ?_⟩
  rw [String.toList_append, String.toList_ofList, readDocument, hread]
  rfl

/-- A number at the end, in a list in a map in a list; the number might have gone on. -/
theorem check_append_closers_nested :
    ∃ m v, check "[null,\x7b\"a]\":[[],-0" = .error m ∧ m.cause = .endInList ∧
      m.help.message = "add `]\x7d]` at the end" ∧
      check ("[null,\x7b\"a]\":[[],-0" ++ "]\x7d]") = .ok v := by
  obtain ⟨m, hcheck, htest⟩ : ∃ m, check "[null,\x7b\"a]\":[[],-0" = .error m ∧
      decide (m.cause = .endInList ∧ m.help = .addClosers [']', '}', ']']) = true :=
    exists_check_eq_error (by decide +kernel)
  obtain ⟨hcause, hhelp⟩ := of_decide_eq_true htest
  obtain ⟨brackets, v, hadvice, -, hrepaired⟩ := check_append_closers hcheck hcause
  rw [hhelp] at hadvice
  cases hadvice
  exact ⟨m, v, hcheck, hcause, by rw [hhelp]; rfl, hrepaired⟩

end LiveJson
