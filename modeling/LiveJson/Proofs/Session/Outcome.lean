import LiveJson.Proofs.Json.Characters
import LiveJson.Proofs.Session.Replay
import LiveJson.View

/-!
# What a session shows

The output of a session has three parts, the formatted text, the document and the error, and each of
them may be absent.  However the session has come about, it shows one of three outcomes, and the text
of its last pass decides which.

## What is here

* `Session.Observation.passed?`, `lastPassed` — the text of a pass, and of the last one in a history.
* `Clocked.output_run?` — the output of a session is that of the last text that had a pass.
* `Validation.Shows` — the outcomes, told from the parts of an output; `Validation.shows_iff` finds the
  one that a pass shows.
* `Validation.tree_ne_nil_iff`, `Validation.forall_outputPane_eq_body_iff` and its companions — what the
  tree and the output pane make of an output.
* `Clocked.shows_one_outcome` — **one outcome is shown after any history.**
-/

set_option autoImplicit false

namespace LiveJson

open LiveJson.Json LiveJson.Tree

/-! ## Passes -/

/-- The text that had a pass, if there was one: what was submitted, or what had been waiting when a tick
or a flush handed back that there was one. -/
def Session.Observation.passed? (o : Session.Observation) : Option String :=
  match o.event, o.flag with
  | .submit text, _ => some text
  | .tick, some true => o.before.pending.pending.map Pending.value
  | .flush, some true => o.before.pending.pending.map Pending.value
  | _, _ => none

/-- The texts that had a pass, first to last. -/
def passedTexts (history : List Session.Observation) : List String :=
  history.filterMap Session.Observation.passed?

/-- The text of the last pass; empty before the first. -/
def lastPassed (history : List Session.Observation) : String :=
  (passedTexts history).getLastD ""

namespace Clocked

/-- **A text that has a pass becomes the output,** and without one the output stays. -/
theorem Step.passed {c next : Clocked} {e : Session.Event} {flag : Option Bool}
    (h : c.Step e next flag) :
    (∃ text, Session.Observation.passed? ⟨e, c.session, flag, next.session⟩ = some text ∧
      next.session.output = validate text ∧ next.session.passes = c.session.passes + 1) ∨
    Session.Observation.passed? ⟨e, c.session, flag, next.session⟩ = none ∧
      next.session.output = c.session.output ∧ next.session.passes = c.session.passes := by
  cases h with
  | submit text => exact .inl ⟨text, rfl, rfl, rfl⟩
  | tick hp _ => exact .inl ⟨_, by simp only [Session.Observation.passed?, hp]; rfl, rfl, rfl⟩
  | flush hp => exact .inl ⟨_, by simp only [Session.Observation.passed?, hp]; rfl, rfl, rfl⟩
  | _ => exact .inr ⟨rfl, rfl, rfl⟩

/-- The output after a history is that of the last text that had a pass, or what it was before if none
had one.  The session has counted the passes. -/
theorem output_run? {c last : Clocked} {events : List Session.Event}
    (h : c.run? events = some last) :
    last.session.output =
        ((passedTexts (c.observe events)).getLast?.map validate).getD c.session.output ∧
      last.session.passes = c.session.passes + (passedTexts (c.observe events)).length := by
  induction events generalizing c with
  | nil => cases h; exact ⟨rfl, rfl⟩
  | cons e rest ih =>
    rw [run?, Option.bind_eq_some_iff] at h
    obtain ⟨⟨next, flag⟩, hnext, h⟩ := h
    obtain ⟨houtput, hpasses⟩ := ih h
    rw [observe, hnext]
    rcases (after?_eq_some_iff.1 hnext).passed with ⟨text, htext, hout, hcount⟩ | ⟨hnone, hout, hcount⟩
    · have htexts : ∀ history, passedTexts (⟨e, c.session, flag, next.session⟩ :: history) =
          text :: passedTexts history := fun history => List.filterMap_cons_some htext
      rw [htexts, houtput, hpasses, hout, hcount, List.getLast?_cons, List.length_cons]
      refine ⟨?_, by omega⟩
      cases (passedTexts (next.observe rest)).getLast? <;> rfl
    · have htexts : ∀ history, passedTexts (⟨e, c.session, flag, next.session⟩ :: history) =
          passedTexts history := fun history => List.filterMap_cons_none hnone
      rw [htexts, houtput, hpasses, hout, hcount]
      exact ⟨rfl, rfl⟩

/-- A new session shows what it would show after a pass over the empty text. -/
theorem output_run?_new {quiet start : Duration} {events : List Session.Event} {c : Clocked}
    (h : Clocked.run? ⟨.new quiet, start⟩ events = some c) :
    c.session.output = validate (lastPassed (Clocked.observe ⟨.new quiet, start⟩ events)) := by
  have hblank : validate "" = .blank := by rw [validate, if_pos]; rfl
  rw [(output_run? h).1, lastPassed, List.getLastD_eq_getLast?]
  cases (passedTexts (Clocked.observe ⟨.new quiet, start⟩ events)).getLast? with
  | none => exact hblank.symm
  | some text => rfl

end Clocked

/-! ## Outcomes -/

/-- The kinds of outcomes. -/
inductive Outcome where
  | blank
  | valid
  | malformed
deriving DecidableEq, Repr

namespace Validation

/-- **What the parts of an output are,** in each of the outcomes for a text.  A part that is absent is the
empty text, or `none`. -/
def Shows (output : Validation) (text : String) : Outcome → Prop
  | .blank =>
    (∀ c ∈ text.toList, Text.isBlank c = true) ∧ output.formatted = "" ∧ output.value? = none ∧
      output.error? = none ∧ output.message = ""
  | .valid =>
    ∃ v, output.value? = some v ∧ output.formatted = v.text ∧ output.formatted ≠ "" ∧
      output.error? = none ∧ output.message = ""
  | .malformed =>
    ∃ m cause, output.error? = some m ∧ output.message = m.message ∧
      m.message = "Invalid JSON: " ++ cause ∧ output.formatted = "" ∧ output.value? = none

/-- The kind of an output. -/
def outcome : Validation → Outcome
  | .blank => .blank
  | .valid _ => .valid
  | .malformed _ => .malformed

/-- A pass over a text shows the outcome of its kind. -/
theorem shows_outcome (text : String) : (validate text).Shows text (validate text).outcome := by
  rw [validate]
  split
  · next hblank => exact ⟨List.all_eq_true.1 hblank, rfl, rfl, rfl, rfl⟩
  · cases check text with
    | ok v => exact ⟨v, rfl, rfl, v.text_ne_empty, rfl, rfl⟩
    | error m => exact ⟨m, atPosition m.cause.message m.position, rfl, rfl, rfl, rfl, rfl⟩

/-- No output shows an outcome of another kind. -/
theorem outcome_eq_of_shows {output : Validation} {text : String} {k : Outcome}
    (h : output.Shows text k) : output.outcome = k := by
  cases k with
  | blank =>
    obtain ⟨-, -, hvalue, herror, -⟩ := h
    cases output with
    | blank => rfl
    | valid v => cases hvalue
    | malformed m => cases herror
  | valid =>
    obtain ⟨v, hvalue, -⟩ := h
    cases output with
    | valid v => rfl
    | _ => cases hvalue
  | malformed =>
    obtain ⟨m, -, herror, -⟩ := h
    cases output with
    | malformed m => rfl
    | _ => cases herror

theorem shows_iff {text : String} {k : Outcome} :
    (validate text).Shows text k ↔ (validate text).outcome = k :=
  ⟨outcome_eq_of_shows, fun h => h ▸ shows_outcome text⟩

/-! ## The tree and the pane -/

/-- A document has a line. -/
theorem render_ne_nil (v : Value) (collapsed : Collapse) (order : KeyOrder) :
    render v collapsed order ≠ [] :=
  List.ne_nil_of_mem (lineOf_mem_render (mem_walk_iff.2 (.inl ⟨rfl, rfl⟩)))

/-- There is a tree for the documents. -/
theorem tree_ne_nil_iff (s : Session) : s.tree ≠ [] ↔ s.output.outcome = .valid := by
  rw [Session.tree]
  cases s.output with
  | valid v => exact ⟨fun _ => rfl, fun _ => render_ne_nil v _ _⟩
  | _ => exact ⟨fun h => absurd rfl h, fun h => by cases h⟩

variable (locale : Locale) (output : Validation)

/-- What is to be shown for a document is shown for no other output. -/
theorem forall_outputPane_eq_body_iff :
    (∀ body, (outputPane locale output body).lines = body) ↔ output.outcome = .valid := by
  cases output with
  | blank => exact ⟨fun h => (nomatch h [""]), nofun⟩
  | valid v => exact ⟨fun _ => rfl, fun _ _ => rfl⟩
  | malformed m => exact ⟨fun h => (nomatch h []), nofun⟩

/-- A blank input has an empty pane, whatever there is to show. -/
theorem forall_outputPane_eq_nil_iff :
    (∀ body, (outputPane locale output body).lines = []) ↔ output.outcome = .blank := by
  cases output with
  | blank => exact ⟨fun _ => rfl, fun _ _ => rfl⟩
  | valid v => exact ⟨fun h => (nomatch h [""]), nofun⟩
  | malformed m => exact ⟨fun h => (nomatch h []), nofun⟩

/-- A malformed input has the two lines of its error, whatever there is to show. -/
theorem forall_outputPane_eq_error_iff :
    (∀ body, (outputPane locale output body).lines = ["! " ++ locale.error, output.message]) ↔
      output.outcome = .malformed := by
  cases output with
  | blank => exact ⟨fun h => (nomatch h []), nofun⟩
  | valid v => exact ⟨fun h => (nomatch h []), nofun⟩
  | malformed m => exact ⟨fun _ => rfl, fun _ _ => rfl⟩

end Validation

/-! ## Sessions -/

/-- **A session shows one outcome.**  After any history of events the output is that of the text that
had the last pass, and it is blank, a document or an error, and only one of these.  There is a tree if it
is a document; then the pane of the output shows what it is given, and otherwise nothing or the two lines
of the error. -/
theorem Clocked.shows_one_outcome {quiet start : Duration} {events : List Session.Event} {c : Clocked}
    (h : Clocked.run? ⟨.new quiet, start⟩ events = some c) :
    let text := lastPassed (Clocked.observe ⟨.new quiet, start⟩ events)
    let output := c.session.output
    output = validate text ∧
    c.session.passes = (passedTexts (Clocked.observe ⟨.new quiet, start⟩ events)).length ∧
    (∃! k, output.Shows text k) ∧
    (c.session.tree ≠ [] ↔ output.Shows text .valid) ∧
    ∀ locale : Locale,
      ((∀ body, (outputPane locale output body).lines = body) ↔ output.Shows text .valid) ∧
      ((∀ body, (outputPane locale output body).lines = []) ↔ output.Shows text .blank) ∧
      ((∀ body, (outputPane locale output body).lines = ["! " ++ locale.error, output.message]) ↔
        output.Shows text .malformed) := by
  intro text output
  have houtput : output = validate text := output_run?_new h
  have hshows : ∀ k, output.Shows text k ↔ output.outcome = k := fun k => by
    rw [houtput]
    exact Validation.shows_iff
  simp only [hshows]
  refine ⟨houtput, ?_, existsUnique_eq', Validation.tree_ne_nil_iff c.session, fun locale =>
    ⟨?_, ?_, ?_⟩⟩
  · rw [(output_run? h).2]
    exact Nat.zero_add _
  · exact Validation.forall_outputPane_eq_body_iff locale output
  · exact Validation.forall_outputPane_eq_nil_iff locale output
  · exact Validation.forall_outputPane_eq_error_iff locale output

/-- The text of the last pass decides, and not the input: after an error has been mended, the document
stays while the next edit waits. -/
theorem Clocked.shows_one_outcome_waiting :
    ∃ c, Clocked.run? ⟨.new defaultQuiet, .zero⟩ [.submit "[1", .edit "[1]",
        .advance (.ofMillis ⟨300, by decide⟩), .tick, .edit "]"] = some c ∧
      c.session.input = "]" ∧ c.session.passes = 2 ∧ c.session.output.Shows "[1]" .valid ∧
      c.session.tree ≠ [] := by
  have hsome : ((Clocked.run? ⟨.new defaultQuiet, .zero⟩ [.submit "[1", .edit "[1]",
      .advance (.ofMillis ⟨300, by decide⟩), .tick, .edit "]"]).any
        fun c => c.session.input == "]") = true := by decide
  obtain ⟨c, hc, hinput⟩ := (Option.any_eq_true _ _).1 hsome
  obtain ⟨houtput, hpasses, -, htree, -⟩ := shows_one_outcome hc
  have hlast : c.session.output = validate "[1]" := houtput
  have hread : ∃ v, check "[1]" = .ok v ∧ true = true :=
    exists_check_eq_ok (p := fun _ => true) (by decide +kernel)
  obtain ⟨v, hv, -⟩ := hread
  have hshows : c.session.output.Shows "[1]" .valid := by
    have hkind : (validate "[1]").outcome = .valid := by rw [validate, hv]; rfl
    rw [hlast]
    exact Validation.shows_iff.2 hkind
  exact ⟨c, hc, by simpa using hinput, hpasses, hshows, htree.2 hshows⟩

end LiveJson
