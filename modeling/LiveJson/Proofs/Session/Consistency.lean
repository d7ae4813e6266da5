import LiveJson.Proofs.Session.Steps

/-!
# Input, waiting text and output

A session holds the same text up to three times: as its input, as the text that waits, and in the
outcome of the last pass.  `Session.Consistent` says how the three go together: a text that waits is
the input, and if none waits, the outcome is that of the input.

## What is here

* `Session.Consistent` is kept by every step (`Clocked.Step.consistent`), and a pass over the text
  that waits establishes it again.
* `Clocked.Step.input_eq` — the input is whatever was entered last.
* `Clocked.Step.eq_pass` — a step that counts a pass is one pass over the input.
* `Clocked.session_consistent` — **all of it after any history.**
-/

set_option autoImplicit false

namespace LiveJson

open LiveJson.Json LiveJson.Tree

/-- The text that waits is the input, and while none waits, the output is that of the input. -/
structure Session.Consistent (s : Session) : Prop where
  waiting : ∀ p, s.pending.pending = some p → p.value = s.input
  settled : s.pending.pending = none → s.output = validate s.input

/-- The text that an event enters. -/
def Session.Event.entered? : Session.Event → Option String
  | .edit text | .submit text => some text
  | _ => none

/-- The text that was entered last; empty if none was. -/
def lastEntered (events : List Session.Event) : String :=
  (events.filterMap Session.Event.entered?).getLastD ""

namespace Session

theorem consistent_new (quiet : Duration) : (new quiet).Consistent where
  waiting p hp := nomatch hp
  settled _ := by
    have hblank : validate "" = .blank := by rw [validate, if_pos]; rfl
    exact hblank.symm

/-- A pass over the input, with nothing waiting any more. -/
theorem consistent_pass {s : Session} (h : s.pending.pending = none) :
    (s.pass s.input).Consistent where
  waiting p hp := by
    have hnone : (none : Option (Pending String)) = some p := h.symm.trans hp
    cases hnone
  settled _ := rfl

/-- Only the flags and the order of members have changed. -/
theorem Consistent.congr {s t : Session} (h : s.Consistent) (hinput : t.input = s.input)
    (hpending : t.pending = s.pending) (houtput : t.output = s.output) : t.Consistent where
  waiting p hp := hinput ▸ h.waiting p (hpending ▸ hp)
  settled hp := by rw [houtput, hinput, h.settled (hpending ▸ hp)]

/-- **The tree, while no text waits:** that of the input. -/
theorem Consistent.tree_eq {s : Session} (h : s.Consistent) (hpending : s.pending.pending = none) :
    s.tree = match (validate s.input).value? with
      | some v => render v s.collapsed s.keyOrder
      | none => [] := by
  rw [← h.settled hpending]
  rfl

end Session

namespace Clocked

/-- **Every step keeps a session consistent.** -/
theorem Step.consistent {c next : Clocked} {e : Session.Event} {flag : Option Bool}
    (h : c.Step e next flag) (hc : c.session.Consistent) : next.session.Consistent := by
  cases h with
  | edit _ => exact ⟨fun p hp => by cases hp; rfl, fun hp => nomatch hp⟩
  | submit text => exact Session.consistent_pass rfl
  | tick hp _ => rw [hc.waiting _ hp]; exact Session.consistent_pass rfl
  | idleTick _ => exact hc
  | flush hp => rw [hc.waiting _ hp]; exact Session.consistent_pass rfl
  | idleFlush _ => exact hc
  | toggle p => exact hc.congr rfl rfl rfl
  | setCollapsed flag _ => exact hc.congr rfl rfl rfl
  | noContainer flag _ => exact hc
  | setKeyOrder order => exact hc.congr rfl rfl rfl
  | advance _ => exact hc

/-- Nothing but entering a text changes the input. -/
theorem Step.input_eq {c next : Clocked} {e : Session.Event} {flag : Option Bool}
    (h : c.Step e next flag) : next.session.input = e.entered?.getD c.session.input := by
  cases h <;> rfl

/-- **A step that counts a pass is one pass over the input,** with nothing waiting any more. -/
theorem Step.eq_pass {c next : Clocked} {e : Session.Event} {flag : Option Bool}
    (h : c.Step e next flag) (hc : c.session.Consistent)
    (hpasses : next.session.passes ≠ c.session.passes) :
    next.session = { c.session.withoutPending with input := next.session.input }.pass
      next.session.input := by
  cases h with
  | submit text => rfl
  | tick hp _ => rw [hc.waiting _ hp]; rfl
  | flush hp => rw [hc.waiting _ hp]; rfl
  | _ => exact absurd rfl hpasses

theorem consistent_run? {quiet start : Duration} {events : List Session.Event} {c : Clocked}
    (h : Clocked.run? ⟨.new quiet, start⟩ events = some c) : c.session.Consistent :=
  run?_induction (P := fun _ c => c.session.Consistent) (Session.consistent_new quiet)
    (fun hc hstep => hstep.consistent hc) h

/-- The input after a history is the text that was entered last. -/
theorem input_run? {quiet start : Duration} {events : List Session.Event} {c : Clocked}
    (h : Clocked.run? ⟨.new quiet, start⟩ events = some c) :
    c.session.input = lastEntered events := by
  refine run?_induction (P := fun events c => c.session.input = lastEntered events) rfl ?_ h
  intro events c e next flag hc hstep
  rw [hstep.input_eq, lastEntered, List.filterMap_append]
  cases hentered : e.entered? with
  | none => rwa [List.filterMap_cons_none hentered, List.filterMap_nil, List.append_nil]
  | some text => simp [hentered]

/-- **What a session shows is that of its input.**  After any history of events, the input is the
text that was entered last.  If a text waits, it is the input; if none waits, the output and the tree
are those of the input.  Whatever event comes next, a pass that it causes is a pass over what is the
input then, and over no text from before. -/
theorem session_consistent {quiet start : Duration} {events : List Session.Event} {c : Clocked}
    (h : Clocked.run? ⟨.new quiet, start⟩ events = some c) :
    c.session.input = lastEntered events ∧
    (∀ p, c.session.pending.pending = some p → p.value = c.session.input) ∧
    (c.session.pending.isPending = false →
      c.session.output = validate c.session.input ∧
      c.session.tree = match (validate c.session.input).value? with
        | some v => render v c.session.collapsed c.session.keyOrder
        | none => []) ∧
    ∀ e next flag, c.after? e = some (next, flag) →
      next.session.passes ≠ c.session.passes →
        next.session.input = e.entered?.getD c.session.input ∧
        next.session = { c.session.withoutPending with input := next.session.input }.pass
          next.session.input := by
  have hc := consistent_run? h
  refine ⟨input_run? h, hc.waiting, fun hpending => ?_, fun e next flag hnext hpasses => ?_⟩
  · have hnone : c.session.pending.pending = none := Option.not_isSome_iff_eq_none.1 (by
      rw [← Debouncer.isPending, hpending]; exact Bool.false_ne_true)
    exact ⟨hc.settled hnone, hc.tree_eq hnone⟩
  · have hstep := after?_eq_some_iff.1 hnext
    exact ⟨hstep.input_eq, hstep.eq_pass hc hpasses⟩

/-- A text that is superseded while it waits is never shown: the tick passes over the later one. -/
theorem session_consistent_superseded :
    ∃ c, Clocked.run? ⟨.new defaultQuiet, .zero⟩ [.edit "[1", .advance (.ofMillis ⟨200, by decide⟩),
        .edit "[1]", .advance (.ofMillis ⟨300, by decide⟩), .tick] = some c ∧
      c.session.pending.isPending = false ∧ c.session.input = "[1]" ∧
      c.session.output = validate "[1]" := by
  have hsome : (Clocked.run? ⟨.new defaultQuiet, .zero⟩ [.edit "[1",
      .advance (.ofMillis ⟨200, by decide⟩), .edit "[1]", .advance (.ofMillis ⟨300, by decide⟩),
      .tick]).isSome = true := by decide
  obtain ⟨c, hc⟩ := Option.isSome_iff_exists.1 hsome
  obtain ⟨hinput, -, hsettled, -⟩ := session_consistent hc
  have hpending : c.session.pending.isPending = false := by
    have hdecide : (Clocked.run? ⟨.new defaultQuiet, .zero⟩ [.edit "[1",
        .advance (.ofMillis ⟨200, by decide⟩), .edit "[1]", .advance (.ofMillis ⟨300, by decide⟩),
        .tick]).all (fun c => !c.session.pending.isPending) = true := by decide
    rw [hc] at hdecide
    simpa using hdecide
  have hlast : c.session.input = "[1]" := hinput
  exact ⟨c, hc, hpending, hlast, hlast ▸ (hsettled hpending).1⟩

end Clocked

end LiveJson
