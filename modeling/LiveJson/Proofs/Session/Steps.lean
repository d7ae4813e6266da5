import LiveJson.Session

/-!
# What can happen to a session

`Clocked.after?` answers what an event does.  `Clocked.Step` lists the ways in which something can
happen at all, one for each event and outcome, so that what every event keeps is proved by cases on
the list and not by opening the operations again.

## What is here

* `Clocked.Step`, and `Clocked.after?_eq_some_iff` — the list is complete, and nothing on it is made
  up.
* `Clocked.run?_induction` — what every step keeps, every history keeps.
-/

set_option autoImplicit false

namespace LiveJson

open LiveJson.Json LiveJson.Tree

namespace Session

/-- The session with nothing waiting. -/
def withoutPending (s : Session) : Session :=
  { s with pending := .new s.pending.quiet }

theorem withoutPending_eq_self {s : Session} (h : s.pending.pending = none) :
    s.withoutPending = s := by
  obtain ⟨input, ⟨quiet, pending⟩, output, collapsed, keyOrder, passes⟩ := s
  cases h
  rfl

/-- A text that is entered waits for one quiet period. -/
theorem edit?_eq (s : Session) (text : String) (now : Duration) :
    s.edit? text now = (now.add? s.pending.quiet).map fun deadline =>
      { s with input := text, pending := ⟨s.pending.quiet, some ⟨text, deadline⟩⟩ } := by
  rw [edit?, Debouncer.arm?, Option.map_map]
  rfl

theorem tick_of_due {s : Session} {p : Pending String} {now : Duration}
    (h : s.pending.pending = some p) (hdue : p.deadline ≤ now) :
    s.tick now = (s.withoutPending.pass p.value, true) := by
  simp only [tick, Debouncer.poll, h, if_pos hdue, Debouncer.cancel, Option.map_some]
  rfl

theorem tick_of_not_due {s : Session} {now : Duration}
    (h : ∀ p, s.pending.pending = some p → ¬ p.deadline ≤ now) : s.tick now = (s, false) := by
  rw [tick, Debouncer.poll]
  split
  · next p hp =>
    rw [if_neg (h p hp)]
    rfl
  · rfl

/-- A tick has the pass over a waiting text that is due, or nothing happens. -/
theorem tick_cases (s : Session) (now : Duration) :
    (∃ p, s.pending.pending = some p ∧ p.deadline ≤ now ∧
      s.tick now = (s.withoutPending.pass p.value, true)) ∨
    (∀ p, s.pending.pending = some p → ¬ p.deadline ≤ now) ∧ s.tick now = (s, false) := by
  by_cases hdue : ∃ p, s.pending.pending = some p ∧ p.deadline ≤ now
  · obtain ⟨p, hp, hle⟩ := hdue
    exact .inl ⟨p, hp, hle, tick_of_due hp hle⟩
  · have hidle : ∀ p, s.pending.pending = some p → ¬ p.deadline ≤ now :=
      fun p hp hle => hdue ⟨p, hp, hle⟩
    exact .inr ⟨hidle, tick_of_not_due hidle⟩

theorem flush_of_pending {s : Session} {p : Pending String} (h : s.pending.pending = some p) :
    s.flush = (s.withoutPending.pass p.value, true) := by
  simp only [flush, Debouncer.flush, Debouncer.cancel, h, Option.map_some]
  rfl

theorem flush_of_none {s : Session} (h : s.pending.pending = none) : s.flush = (s, false) := by
  simp only [flush, Debouncer.flush, Debouncer.cancel, h, Option.map_none]
  exact congrArg (·, false) (withoutPending_eq_self h)

end Session

namespace Clocked

/-- What an event does to a session and its clock, and what it hands back. -/
inductive Step (c : Clocked) : Session.Event → Clocked → Option Bool → Prop
  /-- A text is entered and waits. -/
  | edit {text : String} {deadline : Duration} :
    c.now.add? c.session.pending.quiet = some deadline →
    Step c (.edit text)
      { c with session :=
        { c.session with
          input := text, pending := ⟨c.session.pending.quiet, some ⟨text, deadline⟩⟩ } } none
  /-- A text is entered and has its pass at once. -/
  | submit (text : String) :
    Step c (.submit text)
      { c with session := { c.session.withoutPending with input := text }.pass text } none
  /-- The waiting text is due and has its pass. -/
  | tick {p : Pending String} :
    c.session.pending.pending = some p → p.deadline ≤ c.now →
    Step c .tick { c with session := c.session.withoutPending.pass p.value } (some true)
  /-- No text is due. -/
  | idleTick : (∀ p, c.session.pending.pending = some p → ¬ p.deadline ≤ c.now) →
    Step c .tick c (some false)
  /-- The waiting text has its pass, due or not. -/
  | flush {p : Pending String} :
    c.session.pending.pending = some p →
    Step c .flush { c with session := c.session.withoutPending.pass p.value } (some true)
  /-- No text is waiting. -/
  | idleFlush : c.session.pending.pending = none → Step c .flush c (some false)
  /-- A flag is turned over. -/
  | toggle (p : Path) :
    Step c (.toggle p)
      { c with session := { c.session with collapsed := c.session.collapsed.toggle p } }
      (some ((c.session.collapsed.toggle p).contains p))
  /-- The flag of a container is set. -/
  | setCollapsed {p : Path} (flag : Bool) : c.session.namesContainer p = true →
    Step c (.setCollapsed p flag)
      { c with session := { c.session with collapsed := c.session.collapsed.set p flag } }
      (some true)
  /-- There is no container whose flag could be set. -/
  | noContainer {p : Path} (flag : Bool) : c.session.namesContainer p = false →
    Step c (.setCollapsed p flag) c (some false)
  /-- The order of members is set. -/
  | setKeyOrder (order : KeyOrder) :
    Step c (.setKeyOrder order) { c with session := { c.session with keyOrder := order } } none
  /-- Time goes by. -/
  | advance {time now : Duration} : c.now.add? time = some now →
    Step c (.advance time) { c with now := now } none

/-- **The steps are what the events do.** -/
theorem after?_eq_some_iff {c next : Clocked} {e : Session.Event} {flag : Option Bool} :
    c.after? e = some (next, flag) ↔ c.Step e next flag := by
  constructor
  · intro h
    cases e with
    | edit text =>
      rw [after?, Session.edit?_eq, Option.map_map, Option.map_eq_some_iff] at h
      obtain ⟨deadline, hadd, h⟩ := h
      cases h
      exact .edit hadd
    | submit text => cases h; exact .submit text
    | tick =>
      rw [after?] at h
      rcases c.session.tick_cases c.now with ⟨p, hp, hdue, htick⟩ | ⟨hidle, htick⟩
      · rw [htick] at h
        cases h
        exact .tick hp hdue
      · rw [htick] at h
        cases h
        exact .idleTick hidle
    | flush =>
      rw [after?] at h
      cases hp : c.session.pending.pending with
      | none => rw [Session.flush_of_none hp] at h; cases h; exact .idleFlush hp
      | some p => rw [Session.flush_of_pending hp] at h; cases h; exact .flush hp
    | toggle p => cases h; exact .toggle p
    | setCollapsed p flag =>
      rw [after?, Session.setCollapsed] at h
      split at h
      · next hp =>
        split at hp
        · next hcontainer => cases hp; cases h; exact .setCollapsed flag hcontainer
        · next hcontainer =>
          cases hp; cases h; exact .noContainer flag (Bool.eq_false_iff.2 hcontainer)
    | setKeyOrder order => cases h; exact .setKeyOrder order
    | advance time =>
      rw [after?, Option.map_eq_some_iff] at h
      obtain ⟨now, hadd, h⟩ := h
      cases h
      exact .advance hadd
  · intro h
    cases h with
    | edit hadd => rw [after?, Session.edit?_eq, hadd]; rfl
    | submit text => rfl
    | tick hp hdue => rw [after?, Session.tick_of_due hp hdue]
    | idleTick hdue => rw [after?, Session.tick_of_not_due hdue]
    | flush hp => rw [after?, Session.flush_of_pending hp]
    | idleFlush hp => rw [after?, Session.flush_of_none hp]
    | toggle p => rfl
    | setCollapsed flag hp => rw [after?, Session.setCollapsed, if_pos hp]
    | noContainer flag hp => rw [after?, Session.setCollapsed, if_neg (Bool.eq_false_iff.1 hp)]
    | setKeyOrder order => rfl
    | advance hadd => rw [after?, hadd]; rfl

/-- What every step keeps, every history keeps. -/
theorem run?_induction {P : List Session.Event → Clocked → Prop} {start : Clocked} (h0 : P [] start)
    (hstep : ∀ {events c e next flag}, P events c → c.Step e next flag → P (events ++ [e]) next)
    {events : List Session.Event} {last : Clocked} (h : start.run? events = some last) :
    P events last := by
  suffices hgen : ∀ before c, P before c → c.run? events = some last → P (before ++ events) last from
    hgen [] start h0 h
  clear h
  induction events with
  | nil =>
    intro before c hc h
    cases h
    rwa [List.append_nil]
  | cons e rest ih =>
    intro before c hc h
    rw [run?, Option.bind_eq_some_iff] at h
    obtain ⟨⟨next, flag⟩, hnext, h⟩ := h
    rw [List.append_cons]
    exact ih _ next (hstep hc (after?_eq_some_iff.1 hnext)) h

end Clocked

end LiveJson
