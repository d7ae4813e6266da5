import LiveJson.Proofs.Session.Steps
import LiveJson.Watch

/-!
# What a look at a file does

A look may read a content that has not been read last, read the same content again, find no file, or
fail.  `Watching.Saw` lists what comes of it, one case for each of the last, so that what every look
keeps is proved by cases on the list.

## What is here

* `contents`, `lastContent?` — what has been read in a series of looks.
* `Look.change?`, `Look.error?` — what a look reads that is new, and why it fails.
* `Watching.look` — a look that changes watcher and session in place, so that something might be
  left behind by a look that fails.
* `Watching.looked?_eq_some_iff` — `Watching.Saw` is what such looks do.
* `Watching.Fed` — the session has been fed what the looks have read, and every look keeps it so.
* `watchStep_eq`, `watchStep_eq_ok_iff` — and what the looks do that change nothing in place.
-/

set_option autoImplicit false

namespace LiveJson

/-! ## Looks -/

/-- What a look at a file gives, and when. -/
abbrev Look := Reading × Duration

/-- The contents that are read in a series of looks, first to last. -/
def contents (looks : List Look) : List String :=
  looks.filterMap fun look => look.1.toOption

/-- The content that was read last. -/
def lastContent? (looks : List Look) : Option String :=
  (contents looks).getLast?

/-- The content that a look reads, if it is not the one that was read last. -/
def Look.change? (last : Option String) (look : Look) : Option String :=
  match look.1 with
  | .ok content => if last = some content then none else some content
  | .error _ => none

/-- Why a look fails.  It does not fail for want of a file. -/
def Look.error? (look : Look) : Option ReadError :=
  match look.1 with
  | .ok _ | .error .notFound => none
  | .error e => some e

theorem Look.change?_eq_some_iff {last : Option String} {l : Look} {content : String} :
    l.change? last = some content ↔ l.1 = .ok content ∧ last ≠ some content := by
  obtain ⟨reading, now⟩ := l
  cases reading with
  | ok other =>
    simp only [Look.change?, Except.ok.injEq]
    split
    · next hlast =>
      refine ⟨nofun, ?_⟩
      rintro ⟨rfl, hne⟩
      exact absurd hlast hne
    · next hlast =>
      constructor
      · rintro ⟨⟩
        exact ⟨rfl, hlast⟩
      · rintro ⟨rfl, -⟩
        rfl
  | error e => exact ⟨nofun, nofun⟩

/-- A look that neither fails nor reads something new reads the last content again, or nothing. -/
theorem Look.eq_of_same {last : Option String} {l : Look} (herror : l.error? = none)
    (hchange : l.change? last = none) :
    (∃ content, l.1 = .ok content ∧ last = some content) ∨ l.1 = .error .notFound := by
  obtain ⟨reading, now⟩ := l
  cases reading with
  | ok content =>
    by_cases hlast : last = some content
    · exact .inl ⟨content, rfl, hlast⟩
    · rw [Look.change?_eq_some_iff.2 ⟨rfl, hlast⟩] at hchange
      cases hchange
  | error e => cases e <;> first | exact .inr rfl | cases herror

theorem Look.change?_of_error {l : Look} {e : ReadError} (h : l.error? = some e)
    (last : Option String) : l.change? last = none := by
  obtain ⟨reading, now⟩ := l
  cases reading with
  | ok content => cases h
  | error e' => rfl

theorem Look.error?_of_change {last : Option String} {l : Look} {content : String}
    (h : l.change? last = some content) : l.error? = none := by
  obtain ⟨reading, now⟩ := l
  obtain ⟨rfl, -⟩ := Look.change?_eq_some_iff.1 h
  rfl

/-- After one more look, the last content is the one that it reads, if it reads any. -/
theorem lastContent?_concat (looks : List Look) (l : Look) :
    lastContent? (looks ++ [l]) = l.1.toOption.or (lastContent? looks) := by
  rw [lastContent?, lastContent?, contents, List.filterMap_append, List.getLast?_append,
    List.filterMap_cons]
  cases l.1.toOption <;> rfl

theorem Look.or_of_same {last : Option String} {l : Look} (h : l.change? last = none) :
    l.1.toOption.or last = last := by
  obtain ⟨reading, now⟩ := l
  cases reading with
  | error e => rfl
  | ok content =>
    by_cases hlast : last = some content
    · exact hlast.symm
    · rw [Look.change?_eq_some_iff.2 ⟨rfl, hlast⟩] at h
      cases h

theorem Look.or_of_change {last : Option String} {l : Look} {content : String}
    (h : l.change? last = some content) :
    l.1.toOption.or last = some content := by
  rw [(Look.change?_eq_some_iff.1 h).1]
  rfl

/-! ## Watching in place -/

/-- A watcher, and the session that it feeds. -/
structure Watching where
  watcher : Watcher
  session : Session

namespace Watching

/-- Before the first look. -/
def start (quiet : Duration) : Watching :=
  ⟨.new, .new quiet⟩

/-- Reads the file, and notes a content that is new. -/
def read (look : Look) : EStateM WatchStop Watching (Option String) := do
  match look.1 with
  | .error .notFound => return none
  | .error e => throw (.unreadable e)
  | .ok content =>
    if (← get).watcher.last = some content then
      return none
    else
      modify fun c => { c with watcher := ⟨some content⟩ }
      return some content

/-- Makes a text the input, and then lets it wait. -/
def enter (text : String) (now : Duration) : EStateM WatchStop Watching Unit := do
  modify fun c => { c with session := { c.session with input := text } }
  match (← get).session.pending.arm? text now with
  | some (pending, _) =>
    modify fun c => { c with session := { c.session with pending := pending } }
  | none => throw .outOfTime

/-- Has a pass if one is due. -/
def tick (now : Duration) : EStateM WatchStop Watching Bool :=
  modifyGet fun c => ((c.session.tick now).2, { c with session := (c.session.tick now).1 })

/-- **One look in place.**  It hands back the content that it has entered, if any, and whether there
was a pass. -/
def look (l : Look) : EStateM WatchStop Watching (Option String × Bool) := do
  let change ← read l
  match change with
  | some content => enter content l.2
  | none => pure ()
  let ran ← tick l.2
  return (change, ran)

end Watching

/-- A look as it was seen to happen. -/
structure Looked where
  before : Watching
  /-- The content that was entered into the session, if any. -/
  entered : Option String
  /-- Whether there was a pass, or why the look failed. -/
  result : Except ReadError Bool
  after : Watching

namespace Watching

/-- A look as it is seen to happen.  Nothing is to be seen if it goes beyond the end of time. -/
def looked? (c : Watching) (l : Look) : Option Looked :=
  match look l c with
  | .ok (entered, ran) next => some ⟨c, entered, .ok ran, next⟩
  | .error (.unreadable e) next => some ⟨c, none, .error e, next⟩
  | .error .outOfTime _ => none

/-- What comes of a look. -/
inductive Saw (c : Watching) (l : Look) : Looked → Prop
  /-- It fails. -/
  | failed {e : ReadError} : l.error? = some e → Saw c l ⟨c, none, .error e, c⟩
  /-- It does not fail and reads nothing new. -/
  | same : l.error? = none → l.change? c.watcher.last = none →
    Saw c l ⟨c, none, .ok (c.session.tick l.2).2, ⟨c.watcher, (c.session.tick l.2).1⟩⟩
  /-- It reads something new, which is entered. -/
  | changed {content : String} {s : Session} : l.change? c.watcher.last = some content →
    c.session.edit? content l.2 = some s →
    Saw c l ⟨c, some content, .ok (s.tick l.2).2, ⟨⟨some content⟩, (s.tick l.2).1⟩⟩

theorem Saw.before_eq {c : Watching} {l : Look} {seen : Looked} (h : c.Saw l seen) :
    seen.before = c := by
  cases h <;> rfl

/-- A look that fails gives the error and leaves everything as it was. -/
theorem Saw.of_error {c : Watching} {l : Look} {seen : Looked} {e : ReadError} (h : c.Saw l seen)
    (herror : l.error? = some e) : seen.result = .error e ∧ seen.after = seen.before := by
  cases h with
  | failed herror' =>
    cases herror.symm.trans herror'
    exact ⟨rfl, rfl⟩
  | same hok _ => cases herror.symm.trans hok
  | changed hchange _ => cases herror.symm.trans (Look.error?_of_change hchange)

/-- A look that reads something new has time for the deadline. -/
theorem Saw.exists_add? {c : Watching} {l : Look} {seen : Looked} {content : String}
    (h : c.Saw l seen) (hchange : l.change? c.watcher.last = some content) :
    ∃ deadline, l.2.add? c.session.pending.quiet = some deadline := by
  cases h with
  | failed herror => cases hchange.symm.trans (Look.change?_of_error herror _)
  | same _ hsame => cases hchange.symm.trans hsame
  | changed _ hedit =>
    rw [Session.edit?_eq, Option.map_eq_some_iff] at hedit
    obtain ⟨deadline, hadd, -⟩ := hedit
    exact ⟨deadline, hadd⟩

/-- A look comes to something if there is time for the deadline of what it reads. -/
theorem exists_saw {c : Watching} {l : Look}
    (h : ∀ content, l.change? c.watcher.last = some content →
      ∃ deadline, l.2.add? c.session.pending.quiet = some deadline) : ∃ seen, c.Saw l seen := by
  cases herror : l.error? with
  | some e => exact ⟨_, .failed herror⟩
  | none =>
    cases hchange : l.change? c.watcher.last with
    | none => exact ⟨_, .same herror hchange⟩
    | some content =>
      obtain ⟨deadline, hadd⟩ := h content hchange
      have hedit := Session.edit?_eq c.session content l.2
      rw [hadd] at hedit
      exact ⟨_, .changed hchange hedit⟩

theorem look_of_error {c : Watching} {l : Look} {e : ReadError} (h : l.error? = some e) :
    look l c = .error (.unreadable e) c := by
  obtain ⟨reading, now⟩ := l
  cases reading with
  | ok content => cases h
  | error e' => cases e' <;> cases h <;> rfl

theorem read_of_same {c : Watching} {l : Look} (h : l.error? = none)
    (hsame : l.change? c.watcher.last = none) : read l c = .ok none c := by
  obtain ⟨reading, now⟩ := l
  rcases Look.eq_of_same h hsame with ⟨content, rfl, hlast⟩ | rfl
  · show (if c.watcher.last = some content then pure none else _ : EStateM _ _ _) c = _
    rw [if_pos hlast]
    rfl
  · rfl

theorem read_of_change {c : Watching} {l : Look} {content : String}
    (h : l.change? c.watcher.last = some content) :
    read l c = .ok (some content) { c with watcher := ⟨some content⟩ } := by
  obtain ⟨reading, now⟩ := l
  obtain ⟨rfl, hlast⟩ := Look.change?_eq_some_iff.1 h
  show (if c.watcher.last = some content then pure none else _ : EStateM _ _ _) c = _
  rw [if_neg hlast]
  rfl

theorem enter_eq (c : Watching) (text : String) (now : Duration) :
    enter text now c =
      match c.session.edit? text now with
      | some s => .ok () ⟨c.watcher, s⟩
      | none => .error .outOfTime ⟨c.watcher, { c.session with input := text }⟩ := by
  show (match c.session.pending.arm? text now with
    | some (pending, _) =>
      modify fun c => { c with session := { c.session with pending := pending } }
    | none => throw .outOfTime : EStateM WatchStop Watching Unit)
      { c with session := { c.session with input := text } } = _
  rw [Session.edit?]
  cases c.session.pending.arm? text now <;> rfl

theorem look_of_same {c : Watching} {l : Look} (h : l.error? = none)
    (hsame : l.change? c.watcher.last = none) :
    look l c = .ok (none, (c.session.tick l.2).2) ⟨c.watcher, (c.session.tick l.2).1⟩ := by
  simp only [look, bind, EStateM.bind, read_of_same h hsame]
  rfl

theorem look_of_change {c : Watching} {l : Look} {content : String}
    (h : l.change? c.watcher.last = some content) :
    look l c =
      match c.session.edit? content l.2 with
      | some s => .ok (some content, (s.tick l.2).2) ⟨⟨some content⟩, (s.tick l.2).1⟩
      | none => .error .outOfTime ⟨⟨some content⟩, { c.session with input := content }⟩ := by
  simp only [look, bind, EStateM.bind, read_of_change h, enter_eq]
  cases c.session.edit? content l.2 <;> rfl

/-- **What looks do in place is on the list.**  In particular, a look that fails leaves nothing
behind. -/
theorem looked?_eq_some_iff {c : Watching} {l : Look} {seen : Looked} :
    c.looked? l = some seen ↔ c.Saw l seen := by
  constructor
  · intro h
    rw [looked?] at h
    cases herror : l.error? with
    | some e =>
      rw [look_of_error herror] at h
      cases h
      exact .failed herror
    | none =>
      cases hchange : l.change? c.watcher.last with
      | none =>
        rw [look_of_same herror hchange] at h
        cases h
        exact .same herror hchange
      | some content =>
        rw [look_of_change hchange] at h
        cases hedit : c.session.edit? content l.2 with
        | none =>
          rw [hedit] at h
          cases h
        | some s =>
          rw [hedit] at h
          cases h
          exact .changed hchange hedit
  · intro h
    cases h with
    | failed herror => rw [looked?, look_of_error herror]
    | same herror hchange => rw [looked?, look_of_same herror hchange]
    | changed hchange hedit => rw [looked?, look_of_change hchange, hedit]

end Watching

/-! ## What the session is fed -/

namespace Watching

/-- Watcher and session have been fed the contents that looks have read: the input is the last of
them, and so is a text that waits. -/
structure Fed (looks : List Look) (c : Watching) : Prop where
  last : c.watcher.last = lastContent? looks
  input : c.session.input = (lastContent? looks).getD ""
  waiting : ∀ p, c.session.pending.pending = some p → lastContent? looks = some p.value

section

variable {looks : List Look} {l : Look} {c : Watching} {seen : Looked}

theorem fed_start (quiet : Duration) : Fed [] (start quiet) :=
  ⟨rfl, rfl, nofun⟩

theorem Fed.read (h : Fed looks c) (hsame : l.change? c.watcher.last = none) :
    Fed (looks ++ [l]) c := by
  rw [h.last] at hsame
  have hlast : lastContent? (looks ++ [l]) = lastContent? looks := by
    rw [lastContent?_concat, Look.or_of_same hsame]
  exact ⟨hlast ▸ h.last, hlast ▸ h.input, hlast ▸ h.waiting⟩

theorem Fed.enter {content : String} {s : Session} (h : Fed looks c)
    (hchange : l.change? c.watcher.last = some content)
    (hedit : c.session.edit? content l.2 = some s) :
    Fed (looks ++ [l]) ⟨⟨some content⟩, s⟩ := by
  rw [h.last] at hchange
  have hlast : lastContent? (looks ++ [l]) = some content := by
    rw [lastContent?_concat, Look.or_of_change hchange]
  rw [Session.edit?_eq, Option.map_eq_some_iff] at hedit
  obtain ⟨deadline, -, rfl⟩ := hedit
  refine ⟨hlast.symm, ?_, fun p hp => ?_⟩
  · rw [hlast]
    rfl
  · cases hp
    exact hlast

/-- A pass is over what was read last. -/
theorem Fed.tick (h : Fed looks c) (now : Duration) :
    Fed looks ⟨c.watcher, (c.session.tick now).1⟩ ∧
      ((c.session.tick now).2 = true →
        lastContent? looks = some (c.session.tick now).1.input) := by
  rcases c.session.tick_cases now with ⟨p, hp, -, htick⟩ | ⟨-, htick⟩
  · have hlast := h.waiting p hp
    have hinput : c.session.input = p.value := by
      rw [h.input, hlast]
      rfl
    rw [htick]
    exact ⟨⟨h.last, h.input, nofun⟩, fun _ => hlast.trans (congrArg some hinput.symm)⟩
  · rw [htick]
    exact ⟨h, nofun⟩

/-- **Every look goes on feeding the session,** and a pass is over what was read last. -/
theorem Fed.step (h : Fed looks c) (hsaw : c.Saw l seen) :
    Fed (looks ++ [l]) seen.after ∧ (seen.result = .ok true →
      lastContent? (looks ++ [l]) = some seen.after.session.input) := by
  cases hsaw with
  | failed herror => exact ⟨h.read (Look.change?_of_error herror _), nofun⟩
  | same _ hsame =>
    obtain ⟨hnext, hran⟩ := (h.read hsame).tick l.2
    exact ⟨hnext, fun hresult => hran (Except.ok.inj hresult)⟩
  | changed hchange hedit =>
    obtain ⟨hnext, hran⟩ := (h.enter hchange hedit).tick l.2
    exact ⟨hnext, fun hresult => hran (Except.ok.inj hresult)⟩

end

end Watching

/-! ## Looks that change nothing in place -/

/-- What a look hands back when nothing is changed in place. -/
def Looked.step (seen : Looked) : Except WatchStop (Watcher × Session × Bool) :=
  match seen.result with
  | .ok ran => .ok (seen.after.watcher, seen.after.session, ran)
  | .error e => .error (.unreadable e)

/-- **The looks that are not in place are those in place,** except that a look that fails hands back
no watcher and no session. -/
theorem watchStep_eq (c : Watching) (l : Look) :
    watchStep c.watcher c.session l.1 l.2 =
      match c.looked? l with
      | some seen => seen.step
      | none => .error .outOfTime := by
  obtain ⟨reading, now⟩ := l
  cases reading with
  | error e => cases e <;> rfl
  | ok content =>
    by_cases hlast : c.watcher.last = some content
    · have hsame : Look.change? c.watcher.last (.ok content, now) = none := if_pos hlast
      rw [Watching.looked?, Watching.look_of_same rfl hsame, watchStep, Watcher.poll, if_pos hlast]
      rfl
    · have hchange : Look.change? c.watcher.last (.ok content, now) = some content := if_neg hlast
      simp only [Watching.looked?, Watching.look_of_change hchange, watchStep, Watcher.poll,
        if_neg hlast]
      cases c.session.edit? content now <;> rfl

/-- A look that is not in place has a result if it is on the list and does not fail. -/
theorem watchStep_eq_ok_iff {c : Watching} {w : Watcher} {s : Session} {l : Look} {ran : Bool} :
    watchStep c.watcher c.session l.1 l.2 = .ok (w, s, ran) ↔
      ∃ entered, c.Saw l ⟨c, entered, .ok ran, ⟨w, s⟩⟩ := by
  rw [watchStep_eq]
  constructor
  · intro h
    cases hseen : c.looked? l with
    | none =>
      rw [hseen] at h
      cases h
    | some seen =>
      rw [hseen] at h
      have hsaw := Watching.looked?_eq_some_iff.1 hseen
      cases hsaw with
      | failed herror => cases h
      | same herror hchange =>
        cases h
        exact ⟨none, .same herror hchange⟩
      | changed hchange hedit =>
        cases h
        exact ⟨_, .changed hchange hedit⟩
  · rintro ⟨entered, h⟩
    rw [Watching.looked?_eq_some_iff.2 h]
    rfl

end LiveJson
