import LiveJson.Debouncer

/-!
# What the calls of a debouncer hand back

A debouncer holds one value at most, and each of its four operations may be the one that takes it out.
A value that is armed leaves again in exactly one way: it is handed back by a later call, or it still
waits at the end.

## What is here

* `Debouncer.Step`, and `Debouncer.after?_eq_some_iff` — the ways in which a call can go, one for each
  operation and outcome, and that the list is complete.
* `Debouncer.observe` — a history with what each of its calls handed back;
  `Debouncer.run?_induction` carries what every step keeps along it.
* `Debouncer.Event.inTime`, `Debouncer.exists_run?` — a history has a result if the deadlines in it are
  within time.
* `Debouncer.handed_back_eq_armed` — **no value is lost, and none is made up.**
-/

set_option autoImplicit false

namespace LiveJson.Debouncer

variable {α : Type}

/-! ## One call -/

/-- The value that waits, if any. -/
def waiting (d : Debouncer α) : Option α :=
  d.pending.map Pending.value

theorem poll_of_due {d : Debouncer α} {p : Pending α} {now : Duration} (h : d.pending = some p)
    (hdue : p.deadline ≤ now) : d.poll now = (.new d.quiet, some p.value) := by
  simp only [poll, h, if_pos hdue, cancel, Option.map_some]
  rfl

theorem poll_of_not_due {d : Debouncer α} {now : Duration}
    (h : ∀ p, d.pending = some p → ¬ p.deadline ≤ now) : d.poll now = (d, none) := by
  rw [poll]
  split
  · next p hp => rw [if_neg (h p hp)]
  · rfl

/-- What a call does to a debouncer, and what it hands back. -/
inductive Step (d : Debouncer α) : Event α → Debouncer α → Option α → Prop
  /-- A value is armed, in place of the one that waited. -/
  | arm (value : α) {now deadline : Duration} : now.add? d.quiet = some deadline →
    Step d (.arm value now) ⟨d.quiet, some ⟨value, deadline⟩⟩ d.waiting
  /-- The value that waits is due. -/
  | poll {p : Pending α} {now : Duration} : d.pending = some p → p.deadline ≤ now →
    Step d (.poll now) (.new d.quiet) (some p.value)
  /-- No value is due. -/
  | idlePoll {now : Duration} : (∀ p, d.pending = some p → ¬ p.deadline ≤ now) →
    Step d (.poll now) d none
  /-- The value that waits is not wanted any more. -/
  | cancel : Step d .cancel (.new d.quiet) d.waiting
  /-- The value that waits is wanted now. -/
  | flush : Step d .flush (.new d.quiet) d.waiting

/-- **The steps are what the calls do.** -/
theorem after?_eq_some_iff {d next : Debouncer α} {e : Event α} {out : Option α} :
    d.after? e = some (next, out) ↔ d.Step e next out := by
  constructor
  · intro h
    rcases e with ⟨value, now⟩ | ⟨now⟩ | _ | _
    · rw [after?, arm?, Option.map_eq_some_iff] at h
      obtain ⟨deadline, hadd, h⟩ := h
      cases h
      exact .arm value hadd
    · rw [after?, Option.some.injEq] at h
      by_cases hdue : ∃ p, d.pending = some p ∧ p.deadline ≤ now
      · obtain ⟨p, hp, hle⟩ := hdue
        rw [poll_of_due hp hle] at h
        cases h
        exact .poll hp hle
      · have hidle : ∀ p, d.pending = some p → ¬ p.deadline ≤ now :=
          fun p hp hle => hdue ⟨p, hp, hle⟩
        rw [poll_of_not_due hidle] at h
        cases h
        exact .idlePoll hidle
    · cases h
      exact .cancel
    · cases h
      exact .flush
  · intro h
    cases h with
    | arm value hadd => simp only [after?, arm?, hadd, Option.map_some, waiting]
    | poll hp hdue => rw [after?, poll_of_due hp hdue]
    | idlePoll hidle => rw [after?, poll_of_not_due hidle]
    | cancel => rfl
    | flush => rfl

/-- Whether the deadline that a call sets, if it sets one, is within time. -/
def Event.inTime (quiet : Duration) : Event α → Bool
  | .arm _ now => (now.add? quiet).isSome
  | _ => true

/-- Only arming with a deadline beyond the end of time has no result. -/
theorem exists_step {d : Debouncer α} {e : Event α} (h : e.inTime d.quiet = true) :
    ∃ next out, d.Step e next out := by
  cases e with
  | arm value now =>
    obtain ⟨deadline, hadd⟩ := Option.isSome_iff_exists.1 h
    exact ⟨_, _, .arm value hadd⟩
  | poll now => exact ⟨_, _, after?_eq_some_iff.1 rfl⟩
  | cancel => exact ⟨_, _, .cancel⟩
  | flush => exact ⟨_, _, .flush⟩

/-- The quiet period stays what it was. -/
theorem Step.quiet_eq {d next : Debouncer α} {e : Event α} {out : Option α}
    (h : d.Step e next out) : next.quiet = d.quiet := by
  rcases h <;> rfl

/-! ## Histories -/

/-- A call, and what it handed back. -/
structure Call (α : Type) where
  event : Event α
  handed : Option α

/-- A history with what each of its calls handed back.  It is over when a call has no result. -/
def observe (d : Debouncer α) : List (Event α) → List (Call α)
  | [] => []
  | e :: rest =>
    match d.after? e with
    | some (next, out) => ⟨e, out⟩ :: next.observe rest
    | none => []

/-- A run is a step, and the run of what is left. -/
theorem run?_cons_eq_some_iff {d last : Debouncer α} {e : Event α} {rest : List (Event α)}
    {outs : List α} :
    d.run? (e :: rest) = some (last, outs) ↔
      ∃ next out later, d.Step e next out ∧ next.run? rest = some (last, later) ∧
        out.toList ++ later = outs := by
  simp only [run?, Option.bind_eq_bind, Option.bind_eq_some_iff, Option.pure_def, Option.some.injEq,
    Prod.mk.injEq, Prod.exists, after?_eq_some_iff]
  constructor
  · rintro ⟨next, out, hstep, _, later, hrun, rfl, rfl⟩
    exact ⟨next, out, later, hstep, hrun, rfl⟩
  · rintro ⟨next, out, later, hstep, hrun, rfl⟩
    exact ⟨next, out, hstep, last, later, hrun, rfl, rfl⟩

/-- A step is seen first. -/
theorem Step.observe_cons {d next : Debouncer α} {e : Event α} {out : Option α}
    (h : d.Step e next out) (rest : List (Event α)) :
    d.observe (e :: rest) = ⟨e, out⟩ :: next.observe rest := by
  rw [observe, after?_eq_some_iff.2 h]

section
variable {start last : Debouncer α} {events : List (Event α)} {outs : List α}

/-- What is observed is the history, and what it hands back. -/
theorem observe_of_run? (h : start.run? events = some (last, outs)) :
    (start.observe events).map Call.event = events ∧
      (start.observe events).filterMap Call.handed = outs := by
  induction events generalizing start outs with
  | nil =>
    cases h
    exact ⟨rfl, rfl⟩
  | cons e rest ih =>
    obtain ⟨next, out, later, hstep, hrun, rfl⟩ := run?_cons_eq_some_iff.1 h
    obtain ⟨hevents, houts⟩ := ih hrun
    rw [hstep.observe_cons, List.map_cons, hevents, ← houts]
    refine ⟨rfl, ?_⟩
    cases out <;> rfl

/-- What every step keeps, every history keeps. -/
theorem run?_induction {P : List (Call α) → Debouncer α → Prop} (h0 : P [] start)
    (hstep : ∀ {log d e next out}, P log d → d.Step e next out → P (log ++ [⟨e, out⟩]) next)
    (h : start.run? events = some (last, outs)) : P (start.observe events) last := by
  suffices hgen : ∀ log d outs, P log d → d.run? events = some (last, outs) →
      P (log ++ d.observe events) last from hgen [] start outs h0 h
  clear h
  induction events with
  | nil =>
    intro log d outs hd h
    cases h
    rwa [observe, List.append_nil]
  | cons e rest ih =>
    intro log d outs hd h
    obtain ⟨next, out, later, hnext, hrun, -⟩ := run?_cons_eq_some_iff.1 h
    rw [hnext.observe_cons, List.append_cons]
    exact ih _ next later (hstep hd hnext) hrun

/-- A history has a result if the deadlines in it are within time. -/
theorem exists_run? (h : ∀ e ∈ events, e.inTime start.quiet = true) :
    ∃ last outs, start.run? events = some (last, outs) := by
  induction events generalizing start with
  | nil => exact ⟨start, [], rfl⟩
  | cons e rest ih =>
    obtain ⟨hfirst, hrest⟩ := List.forall_mem_cons.1 h
    obtain ⟨next, out, hstep⟩ := exists_step hfirst
    rw [← hstep.quiet_eq] at hrest
    obtain ⟨last, later, hrun⟩ := ih hrest
    exact ⟨last, _, run?_cons_eq_some_iff.2 ⟨next, out, later, hstep, hrun, rfl⟩⟩

end

/-! ## What goes in comes out -/

/-- The value that a call arms, if it arms one. -/
def Event.armed? : Event α → Option α
  | .arm value _ => some value
  | _ => none

/-- The values that are armed, first to last. -/
def armed (events : List (Event α)) : List α :=
  events.filterMap Event.armed?

/-- What waited and what a call arms is what the call hands back and what waits afterwards. -/
theorem Step.accounts {d next : Debouncer α} {e : Event α} {out : Option α}
    (h : d.Step e next out) :
    d.waiting.toList ++ armed [e] = out.toList ++ next.waiting.toList := by
  cases h with
  | poll hp _ => simp [waiting, armed, Event.armed?, new, hp]
  | _ => simp [waiting, armed, Event.armed?, new]

/-- **What goes in comes out.**  After any history whose deadlines are all within time, the values that
its calls handed back, in the order of the calls, and the value that still waits are the armed values in
the order in which they were armed. -/
theorem handed_back_eq_armed (quiet : Duration) {events : List (Event α)}
    (h : ∀ e ∈ events, e.inTime quiet = true) :
    ∃ last outs, (new quiet).run? events = some (last, outs) ∧
      outs ++ last.waiting.toList = armed events := by
  obtain ⟨last, outs, hrun⟩ : ∃ last outs, (new quiet).run? events = some (last, outs) :=
    exists_run? h
  obtain ⟨hevents, houts⟩ := observe_of_run? hrun
  have haccounts : ((new quiet).observe events).filterMap Call.handed ++ last.waiting.toList =
      armed (((new quiet).observe events).map Call.event) := by
    refine run?_induction (P := fun log d =>
      log.filterMap Call.handed ++ d.waiting.toList = armed (log.map Call.event)) rfl ?_ hrun
    intro log d e next out hlog hstep
    have hout : [Call.mk e out].filterMap Call.handed = out.toList := by cases out <;> rfl
    calc (log ++ [Call.mk e out]).filterMap Call.handed ++ next.waiting.toList
        = log.filterMap Call.handed ++ (d.waiting.toList ++ armed [e]) := by
          rw [List.filterMap_append, hout, List.append_assoc, hstep.accounts]
      _ = armed (log.map Call.event) ++ armed [e] := by rw [← List.append_assoc, hlog]
      _ = armed ((log ++ [Call.mk e out]).map Call.event) := by
          rw [List.map_append, armed, armed, armed, List.filterMap_append]
          rfl
  rw [houts, hevents] at haccounts
  exact ⟨last, outs, hrun, haccounts⟩

/-- Each of the four operations takes a value out, one poll comes too early, and the last value waits. -/
theorem handed_back_eq_armed_each_way :
    ∃ last, (new defaultQuiet).run? [.arm "a" .zero, .arm "b" .zero, .poll .zero,
        .poll defaultQuiet, .arm "c" .zero, .cancel, .arm "d" .zero, .flush, .arm "e" .zero] =
          some (last, ["a", "b", "c", "d"]) ∧
      ["a", "b", "c", "d"] ++ last.waiting.toList = ["a", "b", "c", "d", "e"] := by
  have hfits : ∀ e ∈ [Event.arm "a" .zero, .arm "b" .zero, .poll .zero, .poll defaultQuiet,
      .arm "c" .zero, .cancel, .arm "d" .zero, .flush, .arm "e" .zero],
        e.inTime defaultQuiet = true := by decide
  obtain ⟨last, outs, hrun, hall⟩ := handed_back_eq_armed defaultQuiet hfits
  have houts : ((new defaultQuiet).run? [.arm "a" .zero, .arm "b" .zero, .poll .zero,
      .poll defaultQuiet, .arm "c" .zero, .cancel, .arm "d" .zero, .flush, .arm "e" .zero]).map
        Prod.snd = some ["a", "b", "c", "d"] := by decide
  rw [hrun, Option.map_some, Option.some.injEq] at houts
  obtain rfl : outs = ["a", "b", "c", "d"] := houts
  exact ⟨last, hrun, hall⟩

end LiveJson.Debouncer
