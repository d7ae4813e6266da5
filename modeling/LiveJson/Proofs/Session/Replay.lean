import LiveJson.Proofs.Session.Steps
import LiveJson.Proofs.Tree.Folding
import Mathlib.Data.Set.Card

/-!
# The flag of a path, replayed

What a session has collapsed can be told from what was seen to happen to it.  A pass that shows another
document than before expands everything, turning a path over and setting its flag do what they say,
and nothing else matters.

## What is here

* `Session.Observation` and `Clocked.observe` — a history as it is seen from outside, event by event.
* `FlagChange` and `Session.Observation.change?` — what an observation means for the flag of a path.
* `Clocked.Step.contains_eq` — an event does to a flag what its observation means for it.
* `Clocked.collapsed_eq_replay` — **the flags after a history are those that a replay gives.**
-/

set_option autoImplicit false

namespace LiveJson

open LiveJson.Json LiveJson.Tree

/-! ## Observations -/

/-- An event as it was seen to happen. -/
structure Session.Observation where
  event : Session.Event
  before : Session
  /-- The flag that the event handed back, if any. -/
  flag : Option Bool
  after : Session

/-- A history as it is seen from outside, first to last.  It is over when an event has no result. -/
def Clocked.observe (c : Clocked) : List Session.Event → List Session.Observation
  | [] => []
  | e :: rest =>
    match c.after? e with
    | some (next, flag) => ⟨e, c.session, flag, next.session⟩ :: next.observe rest
    | none => []

/-- Something that happens to the flag of a path. -/
inductive FlagChange where
  | expand
  | flip
  | assign (flag : Bool)

/-- The flag after a change. -/
def FlagChange.apply (flag : Bool) : FlagChange → Bool
  | .expand => false
  | .flip => !flag
  | .assign given => given

/-- What an event with its flag means for the flag of a path, unless the event causes a pass. -/
def Session.Event.change? (p : Path) : Session.Event → Option Bool → Option FlagChange
  | .toggle q, _ => if q = p then some .flip else none
  | .setCollapsed q flag, some true => if q = p then some (.assign flag) else none
  | _, _ => none

namespace Session.Observation

/-- Whether there was a pass that shows another document than was shown before.  No document is like
no document, and unlike any other. -/
def showsOther (o : Session.Observation) : Bool :=
  o.after.passes != o.before.passes && o.after.output.value? != o.before.output.value?

/-- What an observation means for the flag of a path. -/
def change? (p : Path) (o : Session.Observation) : Option FlagChange :=
  if o.showsOther then some .expand else o.event.change? p o.flag

end Session.Observation

/-! ## One event -/

/-- The flag of a path after an observation. -/
def Session.Observation.apply (p : Path) (flag : Bool) (o : Session.Observation) : Bool :=
  (o.change? p).elim flag (FlagChange.apply flag)

section
variable {e : Session.Event} {flag : Option Bool} {s t : Session} {p : Path}

/-- What counts no pass does to a flag what the event says. -/
theorem contains_eq_of_passes_eq (hpasses : t.passes = s.passes)
    (h : t.collapsed.contains p =
      (e.change? p flag).elim (s.collapsed.contains p)
        (FlagChange.apply (s.collapsed.contains p))) :
    t.collapsed.contains p =
      Session.Observation.apply p (s.collapsed.contains p) ⟨e, s, flag, t⟩ := by
  have hshows : Session.Observation.showsOther ⟨e, s, flag, t⟩ = false := by
    rw [Session.Observation.showsOther, hpasses, bne_self_eq_false, Bool.false_and]
  rw [Session.Observation.apply, Session.Observation.change?, hshows, if_neg Bool.false_ne_true, h]

/-- A pass expands everything if it shows another document, and nothing otherwise. -/
theorem contains_pass_eq {text : String} (hpasses : t.passes = s.passes)
    (houtput : t.output = s.output) (hcollapsed : t.collapsed = s.collapsed)
    (he : e.change? p flag = none) :
    (t.pass text).collapsed.contains p =
      Session.Observation.apply p (s.collapsed.contains p) ⟨e, s, flag, t.pass text⟩ := by
  have hcounts : ((t.pass text).passes != s.passes) = true := by
    simp [Session.pass, hpasses]
  have hshows : Session.Observation.showsOther ⟨e, s, flag, t.pass text⟩ =
      !((validate text).value? == s.output.value?) := by
    rw [Session.Observation.showsOther, hcounts, Bool.true_and]
    rfl
  rw [Session.Observation.apply, Session.Observation.change?, hshows, Session.pass, houtput,
    hcollapsed]
  cases (validate text).value? == s.output.value? with
  | true => simp [he]
  | false => simp [FlagChange.apply]

end

namespace Clocked

/-- **An event does to a flag what its observation means for it.** -/
theorem Step.contains_eq {c next : Clocked} {e : Session.Event} {flag : Option Bool}
    (h : c.Step e next flag) (p : Path) :
    next.session.collapsed.contains p =
      Session.Observation.apply p (c.session.collapsed.contains p)
        ⟨e, c.session, flag, next.session⟩ := by
  cases h with
  | submit text => exact contains_pass_eq rfl rfl rfl rfl
  | tick _ _ => exact contains_pass_eq rfl rfl rfl rfl
  | flush _ => exact contains_pass_eq rfl rfl rfl rfl
  | toggle q =>
    refine contains_eq_of_passes_eq rfl ?_
    rw [Collapse.contains_toggle, Session.Event.change?]
    by_cases hq : q = p
    · rw [if_pos hq, if_pos hq.symm, hq]
      rfl
    · rw [if_neg hq, if_neg (Ne.symm hq)]
      rfl
  | @setCollapsed q flag _ =>
    refine contains_eq_of_passes_eq rfl ?_
    rw [Collapse.contains_set, Session.Event.change?]
    by_cases hq : q = p
    · rw [if_pos hq, if_pos hq.symm]
      rfl
    · rw [if_neg hq, if_neg (Ne.symm hq)]
      rfl
  | _ => exact contains_eq_of_passes_eq rfl rfl

/-- A pass that shows another document leaves nothing collapsed. -/
theorem Step.collapsed_of_showsOther {c next : Clocked} {e : Session.Event} {flag : Option Bool}
    (h : c.Step e next flag)
    (hshows : Session.Observation.showsOther ⟨e, c.session, flag, next.session⟩ = true) (p : Path) :
    next.session.collapsed.contains p = false := by
  rw [h.contains_eq, Session.Observation.apply, Session.Observation.change?, if_pos hshows]
  rfl

/-! ## Histories -/

/-- What is observed are events that have a result. -/
theorem exists_step_of_mem_observe {c : Clocked} {events : List Session.Event}
    {o : Session.Observation} (h : o ∈ c.observe events) :
    ∃ now next, Step ⟨o.before, now⟩ o.event next o.flag ∧ next.session = o.after := by
  induction events generalizing c with
  | nil => cases h
  | cons e rest ih =>
    rw [observe] at h
    split at h
    · next next flag hnext =>
      rcases List.mem_cons.1 h with rfl | h
      · exact ⟨c.now, next, after?_eq_some_iff.1 hnext, rfl⟩
      · exact ih h
    · cases h

/-- A history that has a result is observed to its end. -/
theorem map_event_observe {c last : Clocked} {events : List Session.Event}
    (h : c.run? events = some last) : (c.observe events).map (·.event) = events := by
  induction events generalizing c with
  | nil => rfl
  | cons e rest ih =>
    rw [run?, Option.bind_eq_some_iff] at h
    obtain ⟨⟨next, flag⟩, hnext, h⟩ := h
    rw [observe, hnext]
    exact congrArg _ (ih h)

/-- The flag of a path after a history, from what it was before. -/
theorem contains_run? {c last : Clocked} {events : List Session.Event}
    (h : c.run? events = some last) (p : Path) :
    last.session.collapsed.contains p =
      (c.observe events).foldl (Session.Observation.apply p) (c.session.collapsed.contains p) := by
  induction events generalizing c with
  | nil =>
    cases h
    rfl
  | cons e rest ih =>
    rw [run?, Option.bind_eq_some_iff] at h
    obtain ⟨⟨next, flag⟩, hnext, h⟩ := h
    rw [observe, hnext, List.foldl_cons, ← (after?_eq_some_iff.1 hnext).contains_eq]
    exact ih h

/-- The flag of a path, replayed from expanded: only the observations count that mean something for
it. -/
def replay (p : Path) (history : List Session.Observation) : Bool :=
  (history.filterMap (Session.Observation.change? p)).foldl FlagChange.apply false

theorem replay_eq_foldl (p : Path) (history : List Session.Observation) :
    replay p history = history.foldl (Session.Observation.apply p) false := by
  rw [replay, List.foldl_filterMap]
  congr 1
  funext flag o
  rw [Session.Observation.apply]
  cases o.change? p <;> rfl

end Clocked

/-- A set of collapsed paths is as large as there are flags. -/
theorem Tree.Collapse.ncard_contains (c : Collapse) :
    {p | c.contains p = true}.ncard = c.size := by
  have hset : {p | c.contains p = true} = (c.paths.toFinset : Set Path) := by
    ext p
    simp [Collapse.contains_iff]
  rw [hset, Set.ncard_coe_finset, List.toFinset_card_of_nodup c.nodup, Collapse.size]

/-- **The flags after a history are those that a replay gives.**  The flag of a path begins as
expanded.  A pass that shows another document expands it, turning the path over flips it, setting its
flag with success assigns it, and nothing else that happened counts.  After a pass that shows another
document no line stands for a folded container.  There are as many collapsed paths as there are flags. -/
theorem Clocked.collapsed_eq_replay {quiet start : Duration} {events : List Session.Event}
    {c : Clocked} (h : Clocked.run? ⟨.new quiet, start⟩ events = some c) :
    (Clocked.observe ⟨.new quiet, start⟩ events).map (·.event) = events ∧
    (∀ p, c.session.collapsed.contains p =
      replay p (Clocked.observe ⟨.new quiet, start⟩ events)) ∧
    (∀ o ∈ Clocked.observe ⟨.new quiet, start⟩ events, o.showsOther = true →
      o.after.tree.filter Line.isCollapsed = []) ∧
    {p | c.session.collapsed.contains p = true}.ncard = c.session.collapsed.size := by
  refine ⟨map_event_observe h, fun p => ?_, fun o ho hshows => ?_,
    c.session.collapsed.ncard_contains⟩
  · rw [contains_run? h, replay_eq_foldl]
    exact congrArg (fun flag => List.foldl _ flag _) (Collapse.contains_empty p)
  · obtain ⟨now, next, hstep, hafter⟩ := exists_step_of_mem_observe ho
    obtain ⟨event, before, flag, after⟩ := o
    cases hafter
    rw [Session.tree]
    split
    · exact filter_render_of_no_flag (hstep.collapsed_of_showsOther hshows)
    · rfl

/-- The flag of a list outlives a pass over the same document in another form, and another order of
members; a request for a path that names nothing leaves no flag. -/
theorem Clocked.collapsed_eq_replay_reformatted :
    ∃ c, Clocked.run? ⟨.new defaultQuiet, .zero⟩ [.submit "\x7b\"a\":[1]\x7d", .toggle ⟨["a"]⟩,
        .setCollapsed ⟨["b"]⟩ true, .submit "\x7b \"a\": [1]\x7d", .setKeyOrder .sorted] = some c ∧
      c.session.collapsed.contains ⟨["a"]⟩ = true ∧
      c.session.collapsed.contains ⟨["b"]⟩ = false ∧
      c.session.collapsed.size = {p | c.session.collapsed.contains p = true}.ncard := by
  have hsome : (Clocked.run? ⟨.new defaultQuiet, .zero⟩ [.submit "\x7b\"a\":[1]\x7d",
      .toggle ⟨["a"]⟩, .setCollapsed ⟨["b"]⟩ true, .submit "\x7b \"a\": [1]\x7d",
      .setKeyOrder .sorted]).isSome = true := by decide +kernel
  obtain ⟨c, hc⟩ := Option.isSome_iff_exists.1 hsome
  obtain ⟨-, hreplay, -, hsize⟩ := collapsed_eq_replay hc
  exact ⟨c, hc, (hreplay _).trans (by decide +kernel), (hreplay _).trans (by decide +kernel),
    hsize.symm⟩

end LiveJson
