import LiveJson.Proofs.Debouncer.Calls

/-!
# When a poll fires

A debouncer keeps one value and a deadline that was computed when the value was armed.  Its history says
the same in other words: what waits is the value that was armed last, unless a call has taken it out
since, and it is due a quiet period after it was armed.

## What is here

* `Debouncer.LastArm` — the last call of a history that arms a value, and the calls since.
* `Debouncer.Held` — a value that was armed last and has not been taken out since;
  `Debouncer.held_concat_iff` says what one more call does to it.
* `Debouncer.Tells` — the debouncer keeps what its history holds.  Every step keeps that so.
* `Debouncer.poll_fires_iff` — **a poll hands a value back exactly if its history says so.**

Times need not increase along a history, and the quiet period may be zero.
-/

set_option autoImplicit false

namespace LiveJson.Debouncer

variable {α : Type}

/-! ## Polls -/

theorem poll_eq_some_iff {d : Debouncer α} {now : Duration} {value : α} :
    (d.poll now).2 = some value ↔
      ∃ deadline, d.pending = some ⟨value, deadline⟩ ∧ deadline ≤ now := by
  constructor
  · intro h
    by_cases hdue : ∃ p, d.pending = some p ∧ p.deadline ≤ now
    · obtain ⟨p, hp, hle⟩ := hdue
      rw [poll_of_due hp hle] at h
      cases h
      exact ⟨p.deadline, hp, hle⟩
    · rw [poll_of_not_due fun p hp hle => hdue ⟨p, hp, hle⟩] at h
      cases h
  · rintro ⟨deadline, hp, hle⟩
    rw [poll_of_due hp hle]

/-- A poll that hands nothing back does nothing. -/
theorem poll_eq_self {d : Debouncer α} {now : Duration} (h : (d.poll now).2 = none) :
    (d.poll now).1 = d := by
  rw [poll_of_not_due]
  intro p hp hle
  rw [poll_of_due hp hle] at h
  cases h

/-! ## What a history holds -/

/-- Whether a call takes out what waits.  A poll does if it hands a value back. -/
def Call.takes (c : Call α) : Bool :=
  match c.event with
  | .arm _ _ => false
  | .poll _ => c.handed.isSome
  | .cancel => true
  | .flush => true

/-- The last call of a history that arms a value arms `value` at `time`, and `since` are the calls
behind it. -/
def LastArm (log : List (Call α)) (value : α) (time : Duration) (since : List (Call α)) : Prop :=
  (∃ earlier superseded, log = earlier ++ ⟨.arm value time, superseded⟩ :: since) ∧
    ∀ c ∈ since, c.event.armed? = none

/-- The value that was armed last was armed at `time`, and no call has taken it out since. -/
def Held (log : List (Call α)) (value : α) (time : Duration) : Prop :=
  ∃ since, LastArm log value time since ∧ ∀ c ∈ since, c.takes = false

theorem not_held_nil (value : α) (time : Duration) : ¬ Held [] value time := by
  rintro ⟨since, ⟨⟨earlier, superseded, hlog⟩, -⟩, -⟩
  simp at hlog

/-- **What one more call does to what a history holds.**  It arms a value, or it leaves the value that
is held where it is. -/
theorem held_concat_iff {log : List (Call α)} {c : Call α} {value : α} {time : Duration} :
    Held (log ++ [c]) value time ↔
      c.event = .arm value time ∨
        c.event.armed? = none ∧ c.takes = false ∧ Held log value time := by
  constructor
  · rintro ⟨since, ⟨⟨earlier, superseded, hlog⟩, harm⟩, htake⟩
    rcases List.eq_nil_or_concat since with rfl | ⟨since, d, rfl⟩
    · obtain ⟨-, hc⟩ := List.append_inj' hlog rfl
      exact .inl (by rw [List.singleton_inj.1 hc])
    · have hsplit : log ++ [c] = (earlier ++ ⟨.arm value time, superseded⟩ :: since) ++ [d] := by
        simpa using hlog
      obtain ⟨rfl, hc⟩ := List.append_inj' hsplit rfl
      obtain rfl := List.singleton_inj.1 hc
      simp only [List.concat_eq_append, List.forall_mem_append, List.forall_mem_singleton]
        at harm htake
      exact .inr ⟨harm.2, htake.2, since, ⟨⟨earlier, superseded, rfl⟩, harm.1⟩, htake.1⟩
  · rintro (hc | ⟨harm, htake, since, ⟨⟨earlier, superseded, rfl⟩, hsince⟩, hnone⟩)
    · refine ⟨[], ⟨⟨log, c.handed, ?_⟩, by simp⟩, by simp⟩
      rw [← hc]
    · refine ⟨since ++ [c], ⟨⟨earlier, superseded, by simp⟩, ?_⟩, ?_⟩
      · simpa [or_imp, forall_and] using ⟨hsince, harm⟩
      · simpa [or_imp, forall_and] using ⟨hnone, htake⟩

/-! ## What a debouncer keeps -/

/-- The debouncer keeps what the history holds, with the deadline that follows. -/
structure Tells (quiet : Duration) (log : List (Call α)) (d : Debouncer α) : Prop where
  quiet_eq : d.quiet = quiet
  pending_of_held : ∀ {value time}, Held log value time →
    ∃ deadline, time.add? quiet = some deadline ∧ d.pending = some ⟨value, deadline⟩
  held_of_pending : ∀ {p}, d.pending = some p →
    ∃ time, Held log p.value time ∧ time.add? quiet = some p.deadline

section
variable {quiet : Duration} {log : List (Call α)} {d next : Debouncer α} {e : Event α}
  {out : Option α}

theorem tells_new (quiet : Duration) : Tells quiet [] (.new quiet : Debouncer α) where
  quiet_eq := rfl
  pending_of_held h := absurd h (not_held_nil _ _)
  held_of_pending h := by cases h

/-- A call that takes out what waits leaves nothing behind. -/
theorem tells_of_takes {c : Call α} (hquiet : d.quiet = quiet) (harm : c.event.armed? = none)
    (htake : c.takes = true) : Tells quiet (log ++ [c]) (.new d.quiet) where
  quiet_eq := hquiet
  pending_of_held h := by
    rcases held_concat_iff.1 h with hc | ⟨-, hnone, -⟩
    · rw [hc] at harm
      cases harm
    · rw [htake] at hnone
      cases hnone
  held_of_pending h := by cases h

/-- **Every step keeps it so.** -/
theorem Tells.step (h : Tells quiet log d) (hstep : d.Step e next out) :
    Tells quiet (log ++ [⟨e, out⟩]) next := by
  cases hstep with
  | arm value hadd =>
    rw [h.quiet_eq] at hadd
    refine ⟨h.quiet_eq, fun hheld => ?_, fun hp => ?_⟩
    · rcases held_concat_iff.1 hheld with hc | ⟨hnone, -⟩
      · cases hc
        exact ⟨_, hadd, rfl⟩
      · cases hnone
    · cases hp
      exact ⟨_, held_concat_iff.2 (.inl rfl), hadd⟩
  | poll hp hdue => exact tells_of_takes h.quiet_eq rfl rfl
  | idlePoll hidle =>
    refine ⟨h.quiet_eq, fun hheld => ?_, fun hp => ?_⟩
    · rcases held_concat_iff.1 hheld with hc | ⟨-, -, hheld⟩
      · cases hc
      · exact h.pending_of_held hheld
    · obtain ⟨time, hheld, hadd⟩ := h.held_of_pending hp
      exact ⟨time, held_concat_iff.2 (.inr ⟨rfl, rfl, hheld⟩), hadd⟩
  | cancel => exact tells_of_takes h.quiet_eq rfl rfl
  | flush => exact tells_of_takes h.quiet_eq rfl rfl

/-- What is kept is handed back a quiet period after it was armed. -/
theorem Tells.poll_eq_some_iff (h : Tells quiet log d) {now : Duration} {value : α} :
    (d.poll now).2 = some value ↔
      ∃ time, Held log value time ∧ time.toNanos + quiet.toNanos ≤ now.toNanos := by
  rw [Debouncer.poll_eq_some_iff]
  constructor
  · rintro ⟨deadline, hp, hle⟩
    obtain ⟨time, hheld, hadd⟩ := h.held_of_pending hp
    refine ⟨time, hheld, ?_⟩
    rw [← Duration.add?_eq_some_iff.1 hadd]
    exact hle
  · rintro ⟨time, hheld, hle⟩
    obtain ⟨deadline, hadd, hp⟩ := h.pending_of_held hheld
    rw [← Duration.add?_eq_some_iff.1 hadd] at hle
    exact ⟨deadline, hp, hle⟩

end

/-- **When a poll fires.**  After any history whose deadlines are all within time, a poll hands a value
back exactly if that value was armed last, if no call since has taken it out, and if the quiet period
that began when it was armed is over.  A poll that hands nothing back does nothing. -/
theorem poll_fires_iff (quiet : Duration) {events : List (Event α)}
    (h : ∀ e ∈ events, e.inTime quiet = true) :
    ∃ last outs, (new quiet).run? events = some (last, outs) ∧
      ((new quiet).observe events).map Call.event = events ∧
      ∀ now,
        (∀ value, (last.poll now).2 = some value ↔
          ∃ time since, LastArm ((new quiet).observe events) value time since ∧
            (∀ c ∈ since, c.takes = false) ∧ time.toNanos + quiet.toNanos ≤ now.toNanos) ∧
        ((last.poll now).2 = none → (last.poll now).1 = last) := by
  obtain ⟨last, outs, hrun⟩ : ∃ last outs, (new quiet).run? events = some (last, outs) :=
    exists_run? h
  have htells : Tells quiet ((new quiet).observe events) last :=
    run?_induction (tells_new quiet) Tells.step hrun
  refine ⟨last, outs, hrun, (observe_of_run? hrun).1, fun now => ⟨fun value => ?_, poll_eq_self⟩⟩
  rw [htells.poll_eq_some_iff]
  constructor
  · rintro ⟨time, ⟨since, hlast, hnone⟩, hle⟩
    exact ⟨time, since, hlast, hnone, hle⟩
  · rintro ⟨time, since, hlast, hnone, hle⟩
    exact ⟨time, ⟨since, hlast, hnone⟩, hle⟩

/-- A value is armed in place of one that would be due later, with nanoseconds that make a second
together with those of the quiet period.  A nanosecond before the deadline a poll does nothing. -/
theorem poll_fires_iff_carry :
    ∃ last outs, (new ⟨0, 600000000, by decide, by decide⟩).run?
        [.arm "a" ⟨5, 0, by decide, by decide⟩, .poll ⟨3, 0, by decide, by decide⟩,
          .arm "b" ⟨1, 700000000, by decide, by decide⟩,
          .poll ⟨2, 299999999, by decide, by decide⟩] = some (last, outs) ∧
      (last.poll ⟨2, 300000000, by decide, by decide⟩).2 = some "b" := by
  have hfits : ∀ e ∈ [Event.arm "a" ⟨5, 0, by decide, by decide⟩,
      .poll ⟨3, 0, by decide, by decide⟩, .arm "b" ⟨1, 700000000, by decide, by decide⟩,
      .poll ⟨2, 299999999, by decide, by decide⟩],
        e.inTime ⟨0, 600000000, by decide, by decide⟩ = true := by decide
  obtain ⟨last, outs, hrun, -, hpoll⟩ := poll_fires_iff ⟨0, 600000000, by decide, by decide⟩ hfits
  refine ⟨last, outs, hrun, ((hpoll _).1 "b").2 ?_⟩
  exact ⟨⟨1, 700000000, by decide, by decide⟩, [⟨.poll ⟨2, 299999999, by decide, by decide⟩, none⟩],
    ⟨⟨[⟨.arm "a" ⟨5, 0, by decide, by decide⟩, none⟩, ⟨.poll ⟨3, 0, by decide, by decide⟩, none⟩],
      some "a", rfl⟩, by simp [Event.armed?]⟩, by simp [Call.takes], by decide⟩

end LiveJson.Debouncer
