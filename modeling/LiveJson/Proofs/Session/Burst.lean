import LiveJson.Proofs.Session.Steps
import Mathlib.Data.List.Chain
import Mathlib.Data.List.Induction

/-!
# Bursts of edits

Somebody who types enters one text after the other, each before the one before it is due.  Such a
burst comes to one pass, over the text that was entered last, whatever waited before it and however
often the session is asked for a pass in between.

## What is here

* `Session.Call` and `Session.runAt?` — a session whose time is told with every event.
* `IsBurst` — edits with less than a quiet period between any two that follow each other, and ticks
  before the last of them is due.  A burst without its last call is a burst (`IsBurst.front`).
* `IsBurst.runAt?_eq` — a burst leaves a session as its last edit alone would.
* `IsBurst.runs_one_pass` — **a burst comes to one pass.**
-/

set_option autoImplicit false

namespace LiveJson

/-! ## Calls at given times -/

/-- An event, and when it happens. -/
structure Session.Call where
  event : Session.Event
  time : Duration

/-- The text that a call enters to wait, and when. -/
def Session.Call.edit? (call : Session.Call) : Option (String × Duration) :=
  match call.event with
  | .edit text => some (text, call.time)
  | _ => none

/-- The edits among calls, first to last. -/
def editsOf (calls : List Session.Call) : List (String × Duration) :=
  calls.filterMap Session.Call.edit?

/-- The session after calls.  There is no result if a deadline is beyond the end of time. -/
def Session.runAt? (s : Session) : List Session.Call → Option Session
  | [] => some s
  | call :: rest =>
    (Clocked.after? ⟨s, call.time⟩ call.event).bind fun (next, _) => next.session.runAt? rest

namespace Session

theorem runAt?_append (s : Session) (front back : List Call) :
    s.runAt? (front ++ back) = (s.runAt? front).bind fun mid => mid.runAt? back := by
  induction front generalizing s with
  | nil => rfl
  | cons call rest ih =>
    rw [List.cons_append, runAt?, runAt?, Option.bind_assoc]
    exact congrArg _ (funext fun next => ih next.1.session)

theorem runAt?_edit (s : Session) (text : String) (now : Duration) :
    s.runAt? [⟨.edit text, now⟩] = s.edit? text now := by
  rw [runAt?, Clocked.after?]
  cases s.edit? text now <;> rfl

theorem runAt?_tick (s : Session) (now : Duration) :
    s.runAt? [⟨.tick, now⟩] = some (s.tick now).1 := rfl

/-- Of two texts that are entered, the second is as good as alone. -/
theorem edit?_edit? {s mid : Session} {first second : String} {earlier now : Duration}
    (h : s.edit? first earlier = some mid) : mid.edit? second now = s.edit? second now := by
  rw [edit?_eq, Option.map_eq_some_iff] at h
  obtain ⟨deadline, -, rfl⟩ := h
  rw [edit?_eq, edit?_eq]

/-- A text that was entered less than a quiet period ago is not due. -/
theorem tick_of_edit? {s waiting : Session} {text : String} {time now : Duration}
    (h : s.edit? text time = some waiting)
    (hnow : now.toNanos < time.toNanos + s.pending.quiet.toNanos) :
    waiting.tick now = (waiting, false) := by
  rw [edit?_eq, Option.map_eq_some_iff] at h
  obtain ⟨deadline, hadd, rfl⟩ := h
  refine tick_of_not_due fun p hp hdue => ?_
  cases hp
  have hle : deadline.toNanos ≤ now.toNanos := hdue
  rw [Duration.add?_eq_some_iff.1 hadd] at hle
  omega

/-- A text that was entered a quiet period ago has its pass, and nothing waits any more. -/
theorem tick_of_edit?_of_due {s waiting : Session} {text : String} {time deadline now : Duration}
    (h : s.edit? text time = some waiting) (hadd : time.add? s.pending.quiet = some deadline)
    (hnow : deadline ≤ now) :
    waiting.tick now = ({ s.withoutPending with input := text }.pass text, true) := by
  rw [edit?_eq, hadd, Option.map_some, Option.some.injEq] at h
  subst h
  rw [tick_of_due (p := ⟨text, deadline⟩) rfl hnow]
  rfl

end Session

/-- If a quiet period from a time on is within time, so it is from every earlier time on. -/
theorem Duration.exists_add?_of_le {earlier time quiet deadline : Duration} (hle : earlier ≤ time)
    (hadd : time.add? quiet = some deadline) : ∃ sooner, earlier.add? quiet = some sooner := by
  have hsum := add?_eq_some_iff.1 hadd
  have hle : earlier.toNanos ≤ time.toNanos := hle
  have hseconds : (earlier.toNanos + quiet.toNanos) / nanosPerSecond < UInt64.size := by
    refine Nat.div_lt_of_lt_mul ?_
    have := deadline.seconds_lt
    have hnanos := deadline.nanos_lt
    rw [toNanos] at hsum
    simp only [nanosPerSecond] at *
    omega
  exact ⟨_, dif_pos hseconds⟩

/-! ## Bursts -/

/-- Calls that are a burst, the last edit of which enters `text` at `time`. -/
structure IsBurst (quiet : Duration) (calls : List Session.Call) (text : String)
    (time : Duration) : Prop where
  /-- It begins with an edit. -/
  begins : ∃ first rest, calls = first :: rest ∧ first.edit?.isSome = true
  /-- It is made of edits and ticks. -/
  plain : ∀ call ∈ calls, call.edit?.isSome = true ∨ call.event = .tick
  /-- This is its last edit. -/
  last : (editsOf calls).getLast? = some (text, time)
  /-- Time does not go back. -/
  ordered : calls.Pairwise fun a b => a.time ≤ b.time
  /-- No edit comes a quiet period or more after the edit before it. -/
  dense : (editsOf calls).IsChain fun a b => b.2.toNanos < a.2.toNanos + quiet.toNanos
  /-- No tick comes a quiet period or more after the last edit. -/
  early : ∀ call ∈ calls, call.event = .tick → call.time.toNanos < time.toNanos + quiet.toNanos

theorem Session.Call.edit?_eq_some_iff {call : Session.Call} {text : String} {time : Duration} :
    call.edit? = some (text, time) ↔ call = ⟨.edit text, time⟩ := by
  obtain ⟨event, now⟩ := call
  cases event <;> simp [Session.Call.edit?]

theorem editsOf_append (front back : List Session.Call) :
    editsOf (front ++ back) = editsOf front ++ editsOf back :=
  List.filterMap_append

namespace IsBurst

variable {quiet : Duration} {calls : List Session.Call} {call : Session.Call} {text : String}
  {time : Duration}

/-- A burst that is one call is one edit. -/
theorem eq_of_singleton (h : IsBurst quiet [call] text time) : call = ⟨.edit text, time⟩ := by
  obtain ⟨first, rest, hcalls, hfirst⟩ := h.begins
  cases hcalls
  obtain ⟨edit, hedit⟩ := Option.isSome_iff_exists.1 hfirst
  have hlast := h.last
  rw [editsOf, List.filterMap_cons_some hedit] at hlast
  cases hlast
  exact Session.Call.edit?_eq_some_iff.1 hedit

/-- **A burst without its last call is a burst.**  That call comes before the last edit of the rest is
due.  It is an edit, or a tick that leaves the last edit what it was. -/
theorem front (h : IsBurst quiet (calls ++ [call]) text time) (hcalls : calls ≠ []) :
    ∃ text' time', IsBurst quiet calls text' time' ∧ time' ≤ time ∧
      call.time.toNanos < time'.toNanos + quiet.toNanos ∧
      (call = ⟨.edit text, time⟩ ∨ call.event = .tick ∧ text' = text ∧ time' = time) := by
  obtain ⟨first, rest, hcons, hfirst⟩ := h.begins
  obtain ⟨first, rest, rfl⟩ := List.exists_cons_of_ne_nil hcalls
  cases hcons
  obtain ⟨hordered, -, hbefore⟩ := List.pairwise_append.1 h.ordered
  have hplain : ∀ other ∈ first :: rest, other.edit?.isSome = true ∨ other.event = .tick :=
    fun other hother => h.plain other (List.mem_append_left _ hother)
  have hcall : call ∈ first :: rest ++ [call] := List.mem_concat_self
  have hlast := h.last
  have hdense := h.dense
  rw [editsOf_append] at hlast hdense
  rcases h.plain call hcall with hedit | htick
  · obtain ⟨⟨text, now⟩, hedit⟩ := Option.isSome_iff_exists.1 hedit
    have hback : editsOf [call] = [(text, now)] := List.filterMap_cons_some hedit
    rw [hback] at hlast hdense
    rw [List.getLast?_concat] at hlast
    cases hlast
    obtain rfl := Session.Call.edit?_eq_some_iff.1 hedit
    -- the burst begins with an edit, so there is one before this
    obtain ⟨edit, hedit⟩ := Option.isSome_iff_exists.1 hfirst
    have hne : editsOf (first :: rest) ≠ [] := by
      rw [editsOf, List.filterMap_cons_some hedit]
      exact List.cons_ne_nil _ _
    obtain ⟨⟨text', time'⟩, hlast⟩ := Option.isSome_iff_exists.1 (List.getLast?_isSome.2 hne)
    obtain ⟨hdense, -, hclose⟩ := List.isChain_append.1 hdense
    have hclose := hclose _ hlast _ rfl
    obtain ⟨before, hmem, hedit⟩ := List.mem_filterMap.1 (List.mem_of_getLast? hlast)
    obtain rfl := Session.Call.edit?_eq_some_iff.1 hedit
    have hle := hbefore _ hmem _ List.mem_cons_self
    refine ⟨text', time', ⟨⟨first, rest, rfl, hfirst⟩, hplain, hlast, hordered, hdense, ?_⟩,
      hle, hclose, .inl rfl⟩
    intro other hother _
    have hle := hbefore other hother _ List.mem_cons_self
    exact Nat.lt_of_le_of_lt hle hclose
  · have hback : editsOf [call] = [] := by
      rw [editsOf, List.filterMap_cons_none (by rw [Session.Call.edit?, htick]), List.filterMap_nil]
    rw [hback, List.append_nil] at hlast hdense
    refine ⟨text, time, ⟨⟨first, rest, rfl, hfirst⟩, hplain, hlast, hordered, hdense, ?_⟩,
      Nat.le_refl _, h.early call hcall htick, .inr ⟨htick, rfl, rfl⟩⟩
    exact fun other hother => h.early other (List.mem_append_left _ hother)

/-- Whatever a burst begins with is a burst. -/
theorem start {rest : List Session.Call} (h : IsBurst quiet (calls ++ rest) text time)
    (hcalls : calls ≠ []) :
    ∃ text' time', IsBurst quiet calls text' time' ∧ time' ≤ time := by
  induction rest using List.reverseRecOn generalizing text time with
  | nil =>
    rw [List.append_nil] at h
    exact ⟨text, time, h, Nat.le_refl _⟩
  | append_singleton rest call ih =>
    rw [← List.append_assoc] at h
    obtain ⟨text', time', hfront, hle, -⟩ := h.front (List.append_ne_nil_of_left_ne_nil hcalls rest)
    obtain ⟨text'', time'', hstart, hle'⟩ := ih hfront
    exact ⟨text'', time'', hstart, Nat.le_trans hle' hle⟩

variable {s : Session} {deadline : Duration}

/-- **A burst leaves a session as its last edit alone would.** -/
theorem runAt?_eq (h : IsBurst s.pending.quiet calls text time)
    (hadd : time.add? s.pending.quiet = some deadline) : s.runAt? calls = s.edit? text time := by
  induction calls using List.reverseRecOn generalizing text time deadline with
  | nil =>
    obtain ⟨first, rest, hcalls, -⟩ := h.begins
    cases hcalls
  | append_singleton calls call ih =>
    by_cases hcalls : calls = []
    · subst hcalls
      obtain rfl := h.eq_of_singleton
      exact Session.runAt?_edit s text time
    obtain ⟨text', time', hfront, hle, hearly, hcall⟩ := h.front hcalls
    obtain ⟨sooner, hsooner⟩ := Duration.exists_add?_of_le hle hadd
    obtain ⟨mid, hmid⟩ : ∃ mid, s.edit? text' time' = some mid := by
      rw [Session.edit?_eq, hsooner]
      exact ⟨_, rfl⟩
    rw [Session.runAt?_append, ih hfront hsooner, hmid, Option.bind_some]
    rcases hcall with rfl | ⟨htick, rfl, rfl⟩
    · rw [Session.runAt?_edit, Session.edit?_edit? hmid]
    · obtain ⟨event, now⟩ := call
      cases htick
      rw [Session.runAt?_tick, Session.tick_of_edit? hmid hearly, hmid]

/-- No tick within a burst does anything. -/
theorem tick_eq {before after : List Session.Call} {now : Duration}
    (h : IsBurst s.pending.quiet (before ++ ⟨.tick, now⟩ :: after) text time)
    (hadd : time.add? s.pending.quiet = some deadline) :
    ∃ mid, s.runAt? before = some mid ∧ mid.tick now = (mid, false) := by
  have hbefore : before ≠ [] := by
    rintro rfl
    obtain ⟨first, rest, hcalls, hfirst⟩ := h.begins
    cases hcalls
    cases hfirst
  rw [List.append_cons] at h
  obtain ⟨_, _, hstart, hle⟩ := h.start (List.append_ne_nil_of_left_ne_nil hbefore _)
  obtain ⟨text', time', hfront, hle', hearly, -⟩ := hstart.front hbefore
  obtain ⟨sooner, hsooner⟩ := Duration.exists_add?_of_le (Nat.le_trans hle' hle) hadd
  obtain ⟨mid, hmid⟩ : ∃ mid, s.edit? text' time' = some mid := by
    rw [Session.edit?_eq, hsooner]
    exact ⟨_, rfl⟩
  exact ⟨mid, (hfront.runAt?_eq hsooner).trans hmid, Session.tick_of_edit? hmid hearly⟩

end IsBurst

/-- **A burst comes to one pass,** whatever the session was before, and whatever waited in it.  No
tick within the burst does anything.  After it the session is what the last edit alone would have made
of it.  The first tick at the deadline of that edit or later has one pass, over its text, and no tick
after that does anything. -/
theorem Session.burst_runs_one_pass {s : Session} {calls : List Session.Call} {text : String}
    {time deadline : Duration} (h : IsBurst s.pending.quiet calls text time)
    (hadd : time.add? s.pending.quiet = some deadline) :
    (∀ before now after, calls = before ++ ⟨.tick, now⟩ :: after →
      ∃ mid, s.runAt? before = some mid ∧ mid.tick now = (mid, false)) ∧
    ∃ waiting done, s.runAt? calls = some waiting ∧ s.edit? text time = some waiting ∧
      done = { s.withoutPending with input := text }.pass text ∧
      done.passes = s.passes + 1 ∧ done.pending.isPending = false ∧
      (∀ now, deadline ≤ now → waiting.tick now = (done, true)) ∧
      ∀ now, done.tick now = (done, false) := by
  obtain ⟨waiting, hwaiting⟩ : ∃ waiting, s.edit? text time = some waiting := by
    rw [edit?_eq, hadd]
    exact ⟨_, rfl⟩
  refine ⟨?_, waiting, _, (h.runAt?_eq hadd).trans hwaiting, hwaiting, rfl, rfl, rfl,
    fun now hnow => tick_of_edit?_of_due hwaiting hadd hnow, fun now => ?_⟩
  · rintro before now after rfl
    exact h.tick_eq hadd
  · exact tick_of_not_due nofun

/-- A text waits when the burst begins, and the last tick within the burst comes a millisecond before
the deadline. -/
theorem Session.burst_runs_one_pass_typed :
    ∃ s waiting done, (Session.new defaultQuiet).edit? "[" .zero = some s ∧
      s.runAt? [⟨.edit "[1", .ofMillis ⟨200, by decide⟩⟩, ⟨.tick, .ofMillis ⟨300, by decide⟩⟩,
        ⟨.edit "[1]", .ofMillis ⟨499, by decide⟩⟩, ⟨.tick, .ofMillis ⟨798, by decide⟩⟩] =
          some waiting ∧
      waiting.passes = 0 ∧ waiting.tick (.ofMillis ⟨799, by decide⟩) = (done, true) ∧
      done.output = validate "[1]" ∧ done.passes = 1 := by
  have hburst : IsBurst defaultQuiet
      [⟨.edit "[1", .ofMillis ⟨200, by decide⟩⟩, ⟨.tick, .ofMillis ⟨300, by decide⟩⟩,
        ⟨.edit "[1]", .ofMillis ⟨499, by decide⟩⟩, ⟨.tick, .ofMillis ⟨798, by decide⟩⟩]
      "[1]" (.ofMillis ⟨499, by decide⟩) :=
    { begins := ⟨_, _, rfl, rfl⟩
      plain := by simp [Session.Call.edit?]
      last := rfl
      ordered := by decide
      dense := by decide
      early := by
        simp only [List.forall_mem_cons, List.not_mem_nil, IsEmpty.forall_iff, implies_true, and_true]
        exact ⟨nofun, fun _ => by decide, nofun, fun _ => by decide⟩ }
  have hsooner : Duration.zero.add? defaultQuiet = some (.ofMillis ⟨300, by decide⟩) := by decide
  have hedit : (Session.new defaultQuiet).edit? "[" .zero = some { Session.new defaultQuiet with
      input := "[", pending := ⟨defaultQuiet, some ⟨"[", .ofMillis ⟨300, by decide⟩⟩⟩ } := by
    rw [edit?_eq]
    exact congrArg _ hsooner
  have hadd : (Duration.ofMillis ⟨499, by decide⟩).add? defaultQuiet =
      some (.ofMillis ⟨799, by decide⟩) := by decide
  obtain ⟨-, waiting, done, hcalls, hlast, hdone, hpasses, -, htick, -⟩ :=
    burst_runs_one_pass (s := { Session.new defaultQuiet with
      input := "[", pending := ⟨defaultQuiet, some ⟨"[", .ofMillis ⟨300, by decide⟩⟩⟩ })
      hburst hadd
  refine ⟨_, waiting, done, hedit, hcalls, ?_, htick _ (Nat.le_refl _), ?_, hpasses⟩
  · rw [Session.edit?_eq, Option.map_eq_some_iff] at hlast
    obtain ⟨deadline, -, rfl⟩ := hlast
    rfl
  · rw [hdone]
    rfl

end LiveJson
