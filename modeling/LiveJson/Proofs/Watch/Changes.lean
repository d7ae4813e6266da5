import LiveJson.Proofs.Watch.Looks
import Mathlib.Data.List.Destutter

/-!
# Every change of a watched file has one pass

A file may change while the change before it still waits, it may be away for a while and come back
as it was, and looking at it may fail.  Whatever happens, each change that is not overtaken by
another has one pass, with the first look that comes late enough and does not fail.

## What is here

* `changeAt?`, `LastChange`, `FirstDue` — the changes in a series of looks, and when a pass over one
  of them is due.
* `Watching.history?` — a series of looks, each as it is seen to happen.  It goes on after looks
  that fail.
* `Watching.Tracks` — what some looks make of watcher and session.  Every look keeps it
  (`Watching.Tracks.step`), and `Watching.Account` is what becomes of the waiting text meanwhile.
* `Watching.PassOver`, `Watching.Faithful` and `Watching.history_faithful` — **no change is lost,
  and none has two passes.**
-/

set_option autoImplicit false

namespace LiveJson

/-! ## Changes -/

/-- The change that look number `i` reads, if any, and when. -/
def changeAt? (looks : List Look) (i : Nat) : Option (String × Duration) :=
  looks[i]?.bind fun l => (l.change? (lastContent? (looks.take i))).map (·, l.2)

/-- Of the first `n` looks, number `i` is the last that reads a change. -/
structure LastChange (looks : List Look) (n i : Nat) (content : String) (time : Duration) :
    Prop where
  lt : i < n
  change : changeAt? looks i = some (content, time)
  none_after : ∀ k, i < k → k < n → changeAt? looks k = none

/-- Look number `k` comes at a deadline or later, and does not fail. -/
def DueAt (looks : List Look) (deadline : Duration) (k : Nat) : Prop :=
  ∃ l, looks[k]? = some l ∧ l.error? = none ∧ deadline ≤ l.2

/-- From look number `i` on, number `j` is the first that comes at a deadline or later and does not
fail. -/
structure FirstDue (looks : List Look) (deadline : Duration) (i j : Nat) : Prop where
  le : i ≤ j
  due : DueAt looks deadline j
  early : ∀ k, i ≤ k → k < j → ¬ DueAt looks deadline k

section

variable {looks : List Look} {n i j : Nat} {l : Look} {content : String} {time deadline : Duration}

theorem changeAt?_eq (hl : looks[n]? = some l) :
    changeAt? looks n = (l.change? (lastContent? (looks.take n))).map (·, l.2) := by
  rw [changeAt?, hl, Option.bind_some]

/-- A look reads a change if it reads a content, and not the one that was read last. -/
theorem changeAt?_eq_some_iff :
    changeAt? looks i = some (content, time) ↔
      looks[i]? = some (.ok content, time) ∧ lastContent? (looks.take i) ≠ some content := by
  constructor
  · intro h
    obtain ⟨⟨reading, now⟩, hl, h⟩ := Option.bind_eq_some_iff.1 h
    obtain ⟨content', hchange, heq⟩ := Option.map_eq_some_iff.1 h
    cases heq
    obtain ⟨rfl, hlast⟩ := Look.change?_eq_some_iff.1 hchange
    exact ⟨hl, hlast⟩
  · rintro ⟨hl, hlast⟩
    rw [changeAt?_eq hl, Look.change?_eq_some_iff.2 ⟨rfl, hlast⟩, Option.map_some]

theorem take_succ_eq (hl : looks[n]? = some l) : looks.take (n + 1) = looks.take n ++ [l] := by
  rw [List.take_add_one, hl, Option.toList_some]

/-- A content that was read last before is one repeat. -/
theorem destutter_contents_of_same {last : Option String} (h : l.change? last = none)
    (rest : List Look) :
    (last.toList ++ contents (l :: rest)).destutter (· ≠ ·) =
      (last.toList ++ contents rest).destutter (· ≠ ·) := by
  obtain ⟨reading, now⟩ := l
  cases reading with
  | error e => rfl
  | ok content =>
    by_cases hlast : last = some content
    · subst hlast
      exact List.destutter'_cons_neg _ (not_not.2 rfl)
    · rw [Look.change?_eq_some_iff.2 ⟨rfl, hlast⟩] at h
      cases h

/-- Before a content that was not read last, nothing is a repeat of what comes after. -/
theorem destutter_contents_of_change {last : Option String} (h : l.change? last = some content)
    (rest : List Look) :
    (last.toList ++ contents (l :: rest)).destutter (· ≠ ·) =
      last.toList ++ (content :: contents rest).destutter (· ≠ ·) := by
  obtain ⟨reading, now⟩ := l
  obtain ⟨rfl, hlast⟩ := Look.change?_eq_some_iff.1 h
  cases last with
  | none => rfl
  | some other => exact List.destutter'_cons_pos _ fun heq => hlast (congrArg some heq)

/-- There is only one last change. -/
theorem LastChange.unique {i' : Nat} {content' : String} {time' : Duration}
    (h : LastChange looks n i content time) (h' : LastChange looks n i' content' time') :
    i = i' ∧ content = content' ∧ time = time' := by
  rcases Nat.lt_trichotomy i i' with hlt | rfl | hlt
  · have hnone := h.none_after i' hlt h'.lt
    rw [h'.change] at hnone
    cases hnone
  · have heq := h.change.symm.trans h'.change
    cases heq
    exact ⟨rfl, rfl, rfl⟩
  · have hnone := h'.none_after i hlt h.lt
    rw [h.change] at hnone
    cases hnone

/-- There is only one first look at which something is due. -/
theorem FirstDue.unique {j' : Nat} (h : FirstDue looks deadline i j)
    (h' : FirstDue looks deadline i j') : j = j' := by
  rcases Nat.lt_trichotomy j j' with hlt | heq | hlt
  · exact absurd h.due (h'.early j h.le hlt)
  · exact heq
  · exact absurd h'.due (h.early j' h'.le hlt)

/-- A look that reads nothing new leaves the last change what it was. -/
theorem lastChange_succ_of_none (h : changeAt? looks n = none) :
    LastChange looks (n + 1) i content time ↔ LastChange looks n i content time := by
  constructor
  · rintro ⟨hlt, hchange, hnone⟩
    refine ⟨?_, hchange, fun k hk hkn => hnone k hk (by omega)⟩
    rcases Nat.lt_succ_iff_lt_or_eq.1 hlt with hlt | rfl
    · exact hlt
    · rw [h] at hchange
      cases hchange
  · rintro ⟨hlt, hchange, hnone⟩
    refine ⟨by omega, hchange, fun k hk hkn => ?_⟩
    rcases Nat.lt_succ_iff_lt_or_eq.1 hkn with hkn | rfl
    · exact hnone k hk hkn
    · exact h

/-- A look that reads a change reads the last one. -/
theorem lastChange_succ_of_some (h : changeAt? looks n = some (content, time)) :
    LastChange looks (n + 1) n content time :=
  ⟨Nat.lt_succ_self n, h, fun _ hk hkn => absurd hkn (by omega)⟩

theorem dueAt_iff (hl : looks[n]? = some l) :
    DueAt looks deadline n ↔ l.error? = none ∧ deadline ≤ l.2 := by
  constructor
  · rintro ⟨l', hl', h⟩
    rw [hl] at hl'
    cases hl'
    exact h
  · exact fun h => ⟨l, hl, h⟩

end

/-! ## Histories -/

/-- A series of looks, each as it is seen to happen.  There is no history if a quiet period ends
beyond the end of time. -/
def Watching.history? (c : Watching) : List Look → Option (List Looked)
  | [] => some []
  | l :: rest => (c.looked? l).bind fun seen => (seen.after.history? rest).map (seen :: ·)

/-- What waits when `m` looks have read the file and `n` have let the session have a pass: the last
change, unless it has been due already. -/
def Waits (quiet : Duration) (looks : List Look) (m n : Nat) (p : Pending String) : Prop :=
  ∃ i time, LastChange looks m i p.value time ∧ time.add? quiet = some p.deadline ∧
    ∀ k, i ≤ k → k < n → ¬ DueAt looks p.deadline k

section

variable {quiet : Duration} {looks : List Look} {n : Nat}

theorem waits_succ_of_none {m : Nat} {p : Pending String} (h : changeAt? looks m = none) :
    Waits quiet looks (m + 1) n p ↔ Waits quiet looks m n p :=
  exists_congr fun _ => exists_congr fun _ => and_congr_left fun _ => lastChange_succ_of_none h

theorem waits_succ_of_some {p : Pending String} {content : String} {time : Duration}
    (h : changeAt? looks n = some (content, time)) :
    Waits quiet looks (n + 1) n p ↔ p.value = content ∧ time.add? quiet = some p.deadline := by
  constructor
  · rintro ⟨i, time', hlast, hadd, -⟩
    obtain ⟨-, hvalue, rfl⟩ := hlast.unique (lastChange_succ_of_some h)
    exact ⟨hvalue, hadd⟩
  · rintro ⟨rfl, hadd⟩
    exact ⟨n, time, lastChange_succ_of_some h, hadd, fun k hk hkn => absurd hk (by omega)⟩

theorem waits_succ_iff {p : Pending String} :
    Waits quiet looks (n + 1) (n + 1) p ↔
      Waits quiet looks (n + 1) n p ∧ ¬ DueAt looks p.deadline n := by
  constructor
  · rintro ⟨i, time, hlast, hadd, hearly⟩
    exact ⟨⟨i, time, hlast, hadd, fun k hk hkn => hearly k hk (by omega)⟩,
      hearly n (by have := hlast.lt; omega) (Nat.lt_succ_self n)⟩
  · rintro ⟨⟨i, time, hlast, hadd, hearly⟩, hdue⟩
    refine ⟨i, time, hlast, hadd, fun k hk hkn => ?_⟩
    rcases Nat.lt_succ_iff_lt_or_eq.1 hkn with hkn | rfl
    · exact hearly k hk hkn
    · exact hdue

theorem waits_succ_of_not_due {p : Pending String} (h : ¬ DueAt looks p.deadline n) :
    Waits quiet looks (n + 1) (n + 1) p ↔ Waits quiet looks (n + 1) n p :=
  waits_succ_iff.trans (and_iff_left h)

end

namespace Watching

/-- Watcher and session are what looks make of them, `m` of which have read the file and `n` have
let the session have a pass. -/
structure Tracks (quiet : Duration) (looks : List Look) (m n : Nat) (c : Watching) : Prop where
  fed : Fed (looks.take m) c
  quiet_eq : c.session.pending.quiet = quiet
  pending : ∀ p, c.session.pending.pending = some p ↔ Waits quiet looks m n p

/-- What becomes of the waiting text with look number `n`. -/
inductive Account (quiet : Duration) (looks : List Look) (n : Nat) (seen : Looked) : Prop
  /-- It is due and has its pass. -/
  | passed (p : Pending String) : Waits quiet looks (n + 1) n p → DueAt looks p.deadline n →
    seen.result = .ok true → seen.after.session.output = validate p.value →
    seen.after.session.passes = seen.before.session.passes + 1 → Account quiet looks n seen
  /-- There is none, or it is not due. -/
  | idle : (∀ p, Waits quiet looks (n + 1) n p → ¬ DueAt looks p.deadline n) →
    seen.result ≠ .ok true → seen.after.session.output = seen.before.session.output →
    seen.after.session.passes = seen.before.session.passes → Account quiet looks n seen

section

variable {quiet : Duration} {looks : List Look} {n : Nat} {l : Look} {c before : Watching}
  {content : String}

theorem tracks_start (quiet : Duration) (looks : List Look) :
    Tracks quiet looks 0 0 (start quiet) where
  fed := fed_start quiet
  quiet_eq := rfl
  pending _ := ⟨nofun, fun ⟨_, _, hlast, _⟩ => absurd hlast.lt (Nat.not_lt_zero _)⟩

/-- A look that reads nothing new. -/
theorem Tracks.read (h : Tracks quiet looks n n c) (hl : looks[n]? = some l)
    (hsame : l.change? c.watcher.last = none) : Tracks quiet looks (n + 1) n c := by
  have hchange : changeAt? looks n = none := by
    rw [changeAt?_eq hl, ← h.fed.last, hsame, Option.map_none]
  refine ⟨?_, h.quiet_eq, fun p => (h.pending p).trans (waits_succ_of_none hchange).symm⟩
  rw [take_succ_eq hl]
  exact h.fed.read hsame

/-- A look that reads something new, which is entered. -/
theorem Tracks.enter {s : Session} (h : Tracks quiet looks n n c) (hl : looks[n]? = some l)
    (hchange : l.change? c.watcher.last = some content)
    (hedit : c.session.edit? content l.2 = some s) :
    Tracks quiet looks (n + 1) n ⟨⟨some content⟩, s⟩ := by
  have hat : changeAt? looks n = some (content, l.2) := by
    rw [changeAt?_eq hl, ← h.fed.last, hchange, Option.map_some]
  have hfed := h.fed.enter hchange hedit
  rw [← take_succ_eq hl] at hfed
  rw [Session.edit?_eq, h.quiet_eq, Option.map_eq_some_iff] at hedit
  obtain ⟨deadline, hadd, rfl⟩ := hedit
  refine ⟨hfed, rfl, fun p => ?_⟩
  rw [waits_succ_of_some hat, hadd]
  constructor
  · rintro ⟨⟩
    exact ⟨rfl, rfl⟩
  · rintro ⟨hvalue, hdeadline⟩
    cases p
    cases hvalue
    cases hdeadline
    rfl

/-- A look that fails. -/
theorem Tracks.fail {e : ReadError} (h : Tracks quiet looks (n + 1) n c) (hl : looks[n]? = some l)
    (herror : l.error? = some e) :
    Tracks quiet looks (n + 1) (n + 1) c ∧ Account quiet looks n ⟨c, none, .error e, c⟩ := by
  have hdue : ∀ deadline, ¬ DueAt looks deadline n := by
    intro deadline hdue
    rw [dueAt_iff hl, herror] at hdue
    cases hdue.1
  exact ⟨⟨h.fed, h.quiet_eq, fun p => (h.pending p).trans (waits_succ_of_not_due (hdue _)).symm⟩,
    .idle (fun p _ => hdue _) nofun rfl rfl⟩

/-- A look that lets the session have a pass. -/
theorem Tracks.tick (h : Tracks quiet looks (n + 1) n c) (hl : looks[n]? = some l)
    (herror : l.error? = none) (entered : Option String)
    (houtput : c.session.output = before.session.output)
    (hpasses : c.session.passes = before.session.passes) :
    Tracks quiet looks (n + 1) (n + 1) ⟨c.watcher, (c.session.tick l.2).1⟩ ∧
      Account quiet looks n
        ⟨before, entered, .ok (c.session.tick l.2).2, ⟨c.watcher, (c.session.tick l.2).1⟩⟩ := by
  have hdue : ∀ deadline, DueAt looks deadline n ↔ deadline ≤ l.2 := fun deadline => by
    rw [dueAt_iff hl, herror, eq_self, true_and]
  have hfed := (h.fed.tick l.2).1
  rcases c.session.tick_cases l.2 with ⟨p, hp, hle, htick⟩ | ⟨hidle, htick⟩
  -- nothing waits any more: what waited until then was due
  · rw [htick] at hfed ⊢
    refine ⟨⟨hfed, h.quiet_eq, fun q => ⟨nofun, fun hq => ?_⟩⟩,
      .passed p ((h.pending p).1 hp) ((hdue _).2 hle) rfl rfl (congrArg (· + 1) hpasses)⟩
    obtain ⟨hwaits, hlate⟩ := waits_succ_iff.1 hq
    have hpq : some q = some p := ((h.pending q).2 hwaits).symm.trans hp
    cases hpq
    exact absurd ((hdue _).2 hle) hlate
  · rw [htick]
    have hwaits : ∀ p, Waits quiet looks (n + 1) n p → ¬ DueAt looks p.deadline n :=
      fun p hp => (hdue _).not.2 (hidle p ((h.pending p).2 hp))
    refine ⟨⟨h.fed, h.quiet_eq, fun p => (h.pending p).trans ?_⟩,
      .idle hwaits nofun houtput hpasses⟩
    exact ⟨fun hp => waits_succ_iff.2 ⟨hp, hwaits p hp⟩, fun hp => (waits_succ_iff.1 hp).1⟩

/-- **One look.**  The state goes on being what the looks make of it, and the waiting text is
accounted for. -/
theorem Tracks.step {seen : Looked} (h : Tracks quiet looks n n c) (hl : looks[n]? = some l)
    (hsaw : c.Saw l seen) :
    Tracks quiet looks (n + 1) (n + 1) seen.after ∧ Account quiet looks n seen := by
  cases hsaw with
  | failed herror => exact (h.read hl (Look.change?_of_error herror _)).fail hl herror
  | same herror hsame => exact (h.read hl hsame).tick hl herror none rfl rfl
  | @changed content s hchange hedit =>
    have hmid := h.enter hl hchange hedit
    rw [Session.edit?_eq, Option.map_eq_some_iff] at hedit
    obtain ⟨deadline, -, rfl⟩ := hedit
    exact hmid.tick hl (Look.error?_of_change hchange) (some content) rfl rfl

end

/-! ## The whole history -/

section

variable {looks : List Look} {c : Watching} {seen : List Looked}

theorem length_history? (h : c.history? looks = some seen) : seen.length = looks.length := by
  induction looks generalizing c seen with
  | nil =>
    cases h
    rfl
  | cons l rest ih =>
    rw [history?, Option.bind_eq_some_iff] at h
    obtain ⟨first, -, h⟩ := h
    obtain ⟨later, hlater, rfl⟩ := Option.map_eq_some_iff.1 h
    rw [List.length_cons, List.length_cons, ih hlater]

/-- What every look keeps holds before every look of a history. -/
theorem history?_induction {P : Nat → Watching → Prop} (h0 : P 0 c)
    (hstep : ∀ n c l seen, P n c → looks[n]? = some l → c.Saw l seen → P (n + 1) seen.after)
    (h : c.history? looks = some seen) {n : Nat} {look : Looked} (hn : seen[n]? = some look) :
    P n look.before ∧ ∃ l, looks[n]? = some l ∧ look.before.Saw l look := by
  -- `P` is generalised too: the looks that are left are numbered from one
  induction looks generalizing P c seen n with
  | nil =>
    cases h
    cases hn
  | cons l rest ih =>
    rw [history?, Option.bind_eq_some_iff] at h
    obtain ⟨first, hfirst, h⟩ := h
    obtain ⟨later, hlater, rfl⟩ := Option.map_eq_some_iff.1 h
    have hsaw := looked?_eq_some_iff.1 hfirst
    cases n with
    | zero =>
      cases hn
      rw [hsaw.before_eq]
      exact ⟨h0, l, rfl, hsaw⟩
    | succ n =>
      exact ih (P := fun n => P (n + 1)) (hstep 0 c l first h0 rfl hsaw)
        (fun n => hstep (n + 1)) hlater hn

/-- There is a history if every look can be made wherever `P` holds. -/
theorem exists_history? {P : Nat → Watching → Prop} (h0 : P 0 c)
    (hstep : ∀ n c l seen, P n c → looks[n]? = some l → c.Saw l seen → P (n + 1) seen.after)
    (hsome : ∀ n c l, P n c → looks[n]? = some l → ∃ seen, c.Saw l seen) :
    ∃ seen, c.history? looks = some seen := by
  induction looks generalizing P c with
  | nil => exact ⟨[], rfl⟩
  | cons l rest ih =>
    obtain ⟨first, hsaw⟩ := hsome 0 c l h0 rfl
    obtain ⟨later, hlater⟩ := ih (P := fun n => P (n + 1)) (hstep 0 c l first h0 rfl hsaw)
      (fun n => hstep (n + 1)) (fun n => hsome (n + 1))
    refine ⟨first :: later, ?_⟩
    rw [history?, looked?_eq_some_iff.2 hsaw, Option.bind_some, hlater, Option.map_some]

/-- **What is entered** are the contents that are read, less those that were read last before. -/
theorem entered_history? (h : c.history? looks = some seen) :
    c.watcher.last.toList ++ seen.filterMap Looked.entered =
      (c.watcher.last.toList ++ contents looks).destutter (· ≠ ·) := by
  induction looks generalizing c seen with
  | nil =>
    cases h
    cases c.watcher.last <;> rfl
  | cons l rest ih =>
    rw [history?, Option.bind_eq_some_iff] at h
    obtain ⟨first, hfirst, h⟩ := h
    obtain ⟨later, hlater, rfl⟩ := Option.map_eq_some_iff.1 h
    have hrest := ih hlater
    have hsaw := looked?_eq_some_iff.1 hfirst
    cases hsaw with
    | failed herror =>
      rw [destutter_contents_of_same (Look.change?_of_error herror _)]
      exact hrest
    | same herror hsame =>
      rw [destutter_contents_of_same hsame]
      exact hrest
    | changed hchange hedit =>
      rw [destutter_contents_of_change hchange]
      exact congrArg _ hrest

end

/-! ## Passes -/

/-- Look number `j` has a pass, and that is over the change which number `i` reads, the last one by
then. -/
def PassOver (looks : List Look) (seen : List Looked) (i j : Nat) : Prop :=
  ∃ content time look, LastChange looks (j + 1) i content time ∧ seen[j]? = some look ∧
    look.result = .ok true ∧ look.after.session.output = validate content ∧
    look.after.session.passes = look.before.session.passes + 1

/-- A history in which no change is lost, and none has two passes. -/
structure Faithful (quiet : Duration) (looks : List Look) (seen : List Looked) : Prop where
  /-- All looks are made. -/
  length_eq : seen.length = looks.length
  /-- They do what they do when nothing is changed in place. -/
  step_eq (n : Nat) (l : Look) (look : Looked) : looks[n]? = some l → seen[n]? = some look →
    watchStep look.before.watcher look.before.session l.1 l.2 = look.step
  /-- What is entered is what is read, without repeats. -/
  entered_eq : seen.filterMap Looked.entered = (contents looks).destutter (· ≠ ·)
  /-- The input is what was read last. -/
  input_eq (n : Nat) (look : Looked) : seen[n]? = some look →
    look.after.session.input = (lastContent? (looks.take (n + 1))).getD ""
  /-- A change has its pass with the first look that comes late enough and does not fail, unless
  another change is read until then; and with no other look. -/
  passOver_iff (i j : Nat) (content : String) (time deadline : Duration) :
    changeAt? looks i = some (content, time) → time.add? quiet = some deadline →
    (PassOver looks seen i j ↔
      FirstDue looks deadline i j ∧ LastChange looks (j + 1) i content time)
  /-- No change has two passes. -/
  passOver_unique (i j j' : Nat) : PassOver looks seen i j → PassOver looks seen i j' → j = j'
  /-- There are no passes but those over a change. -/
  exists_passOver (n : Nat) (look : Looked) : seen[n]? = some look →
    if look.result = .ok true then ∃ i, PassOver looks seen i n
    else look.after.session.output = look.before.session.output ∧
      look.after.session.passes = look.before.session.passes
  /-- With no quiet period, a change has its pass with the look that reads it. -/
  at_once (i : Nat) : quiet = .zero → (changeAt? looks i).isSome = true → PassOver looks seen i i
  /-- A look that fails gives the error and leaves everything as it was. -/
  failed (n : Nat) (l : Look) (look : Looked) (e : ReadError) : looks[n]? = some l →
    seen[n]? = some look → l.error? = some e → look.result = .error e ∧ look.after = look.before

section

variable {quiet : Duration} {looks : List Look} {seen : List Looked} {i j : Nat} {content : String}
  {time deadline : Duration}

/-- Which look has the pass over a change, from the accounts of all looks. -/
theorem passOver_iff_of_accounts (hlength : seen.length = looks.length)
    (haccounts : ∀ n look, seen[n]? = some look → Account quiet looks n look)
    (hchange : changeAt? looks i = some (content, time)) (hadd : time.add? quiet = some deadline) :
    PassOver looks seen i j ↔
      FirstDue looks deadline i j ∧ LastChange looks (j + 1) i content time := by
  constructor
  · rintro ⟨content', time', look, hlast, hlook, hran, -⟩
    have heq := hlast.change.symm.trans hchange
    cases heq
    cases haccounts j look hlook with
    | idle _ hidle => exact absurd hran hidle
    | passed p hwaits hdue =>
      obtain ⟨i', time', hlast', hadd', hearly⟩ := hwaits
      obtain ⟨rfl, -, rfl⟩ := hlast.unique hlast'
      have heq := hadd.symm.trans hadd'
      cases heq
      exact ⟨⟨Nat.lt_succ_iff.1 hlast.lt, hdue, hearly⟩, hlast⟩
  · rintro ⟨hfirst, hlast⟩
    obtain ⟨l, hl, -⟩ := hfirst.due
    obtain ⟨hj, -⟩ := List.getElem?_eq_some_iff.1 hl
    have hj : j < seen.length := hlength ▸ hj
    have hlook : seen[j]? = some seen[j] := List.getElem?_eq_getElem hj
    have hwaits : Waits quiet looks (j + 1) j ⟨content, deadline⟩ :=
      ⟨i, time, hlast, hadd, hfirst.early⟩
    cases haccounts j _ hlook with
    | idle hnone => exact absurd hfirst.due (hnone _ hwaits)
    | passed p hwaits' hdue hran houtput hpasses =>
      obtain ⟨i', time', hlast', -⟩ := hwaits'
      obtain ⟨-, rfl, -⟩ := hlast.unique hlast'
      exact ⟨_, time, _, hlast, hlook, hran, houtput, hpasses⟩

/-- In a history, every look finds what the looks before it have made of watcher and session. -/
theorem tracks_of_history? (h : (start quiet).history? looks = some seen) {n : Nat} {look : Looked}
    (hlook : seen[n]? = some look) :
    Tracks quiet looks n n look.before ∧ ∃ l, looks[n]? = some l ∧ look.before.Saw l look :=
  history?_induction (P := fun n => Tracks quiet looks n n) (tracks_start quiet looks)
    (fun _ _ _ _ hc hl hsaw => (hc.step hl hsaw).1) h hlook

/-- In a history there is time for the deadline of every change. -/
theorem exists_add?_of_history? (h : (start quiet).history? looks = some seen)
    (hchange : changeAt? looks i = some (content, time)) :
    ∃ deadline, time.add? quiet = some deadline := by
  obtain ⟨hl, hlast⟩ := changeAt?_eq_some_iff.1 hchange
  obtain ⟨hi, -⟩ := List.getElem?_eq_some_iff.1 hl
  have hi : i < seen.length := length_history? h ▸ hi
  obtain ⟨htracks, l, hl', hsaw⟩ := tracks_of_history? h (List.getElem?_eq_getElem hi)
  cases hl.symm.trans hl'
  have hnew : Look.change? (seen[i].before.watcher.last) (.ok content, time) = some content :=
    Look.change?_eq_some_iff.2 ⟨rfl, htracks.fed.last ▸ hlast⟩
  rw [← htracks.quiet_eq]
  exact hsaw.exists_add? hnew

/-- There is a history if there is time for the deadline of every change. -/
theorem exists_history?_of_add? (h : ∀ i content time, changeAt? looks i = some (content, time) →
      ∃ deadline, time.add? quiet = some deadline) :
    ∃ seen, (start quiet).history? looks = some seen := by
  refine exists_history? (P := fun n => Tracks quiet looks n n) (tracks_start quiet looks)
    (fun _ _ _ _ hc hl hsaw => (hc.step hl hsaw).1) fun n c l hc hl => ?_
  refine exists_saw fun content hchange => ?_
  have hat : changeAt? looks n = some (content, l.2) := by
    rw [changeAt?_eq hl, ← hc.fed.last, hchange, Option.map_some]
  rw [hc.quiet_eq]
  exact h n content l.2 hat

/-- With no quiet period, every change is due with the look that reads it. -/
theorem firstDue_self (hchange : changeAt? looks i = some (content, time)) :
    FirstDue looks time i i :=
  ⟨Nat.le_refl i, ⟨_, (changeAt?_eq_some_iff.1 hchange).1, rfl, Nat.le_refl _⟩,
    fun _ hk hki => absurd hki (Nat.not_lt.2 hk)⟩

theorem faithful_of_history? (h : (start quiet).history? looks = some seen) :
    Faithful quiet looks seen := by
  have hlength := length_history? h
  have haccounts : ∀ n look, seen[n]? = some look → Account quiet looks n look := by
    intro n look hlook
    obtain ⟨htracks, l, hl, hsaw⟩ := tracks_of_history? h hlook
    exact (htracks.step hl hsaw).2
  have hiff : ∀ i j content time deadline, changeAt? looks i = some (content, time) →
      time.add? quiet = some deadline → (PassOver looks seen i j ↔
        FirstDue looks deadline i j ∧ LastChange looks (j + 1) i content time) :=
    fun _ _ _ _ _ => passOver_iff_of_accounts hlength haccounts
  refine ⟨hlength, fun n l look hl hlook => ?_, entered_history? h, fun n look hlook => ?_, hiff,
    fun i j j' hj hj' => ?_, fun n look hlook => ?_, fun i hquiet hchange => ?_,
    fun n l look e hl hlook herror => ?_⟩
  · obtain ⟨-, l', hl', hsaw⟩ := tracks_of_history? h hlook
    cases hl.symm.trans hl'
    rw [watchStep_eq, looked?_eq_some_iff.2 hsaw]
  · obtain ⟨htracks, l, hl, hsaw⟩ := tracks_of_history? h hlook
    exact (htracks.step hl hsaw).1.fed.input
  · obtain ⟨content, time, -, hlast, -⟩ := id hj
    obtain ⟨deadline, hadd⟩ := exists_add?_of_history? h hlast.change
    exact ((hiff _ _ _ _ _ hlast.change hadd).1 hj).1.unique
      ((hiff _ _ _ _ _ hlast.change hadd).1 hj').1
  · cases haccounts n look hlook with
    | passed p hwaits _ hran houtput hpasses =>
      obtain ⟨i, time, hlast, -⟩ := hwaits
      rw [if_pos hran]
      exact ⟨i, p.value, time, look, hlast, hlook, hran, houtput, hpasses⟩
    | idle _ hidle houtput hpasses =>
      rw [if_neg hidle]
      exact ⟨houtput, hpasses⟩
  · obtain ⟨⟨content, time⟩, hchange⟩ := Option.isSome_iff_exists.1 hchange
    have hadd : time.add? quiet = some time := by
      rw [hquiet]
      exact Duration.add?_eq_some_iff.2 rfl
    exact (hiff _ _ _ _ _ hchange hadd).2
      ⟨firstDue_self hchange, lastChange_succ_of_some hchange⟩
  · obtain ⟨-, l', hl', hsaw⟩ := tracks_of_history? h hlook
    cases hl.symm.trans hl'
    exact hsaw.of_error herror

/-- **No change is lost, and none has two passes.**  Looks can be made of a file as long as no quiet
period ends beyond the end of time, and whatever they see, their history is faithful. -/
theorem history_faithful (quiet : Duration) (looks : List Look) :
    ((∃ seen, (start quiet).history? looks = some seen) ↔
      ∀ i content time, changeAt? looks i = some (content, time) →
        ∃ deadline, time.add? quiet = some deadline) ∧
    ∀ seen, (start quiet).history? looks = some seen → Faithful quiet looks seen :=
  ⟨⟨fun ⟨_, h⟩ _ _ _ => exists_add?_of_history? h, exists_history?_of_add?⟩,
    fun _ => faithful_of_history?⟩

end

/-- A file that cannot be read when a change is due: the change has its pass with the next look, and
no other, though the file is missing then and comes back as it was. -/
theorem history_faithful_unreadable :
    ∃ seen, (start defaultQuiet).history? [(.ok "1", .zero), (.error .isDirectory, defaultQuiet),
        (.error .notFound, defaultQuiet), (.ok "1", defaultQuiet)] = some seen ∧
      ∀ j, PassOver [(.ok "1", .zero), (.error .isDirectory, defaultQuiet),
        (.error .notFound, defaultQuiet), (.ok "1", defaultQuiet)] seen 0 j ↔ j = 2 := by
  have hsome : ((start defaultQuiet).history? [(.ok "1", .zero),
      (.error .isDirectory, defaultQuiet), (.error .notFound, defaultQuiet),
      (.ok "1", defaultQuiet)]).isSome = true := by decide +kernel
  obtain ⟨seen, hseen⟩ := Option.isSome_iff_exists.1 hsome
  have h := (history_faithful _ _).2 seen hseen
  have hover : PassOver _ seen 0 2 := (h.passOver_iff 0 2 "1" .zero defaultQuiet rfl (by decide)).2
    ⟨⟨by decide, ⟨_, rfl, rfl, by decide⟩, fun k _ hk => ?_⟩, by decide, rfl, fun k hk hk' => ?_⟩
  · exact ⟨seen, hseen, fun j => ⟨fun hj => h.passOver_unique 0 j 2 hj hover, fun hj => hj ▸ hover⟩⟩
  · rintro ⟨l, hl, herror, hle⟩
    obtain rfl | rfl : k = 0 ∨ k = 1 := by omega
    · cases hl
      exact absurd hle (by decide)
    · cases hl
      cases herror
  · obtain rfl | rfl : k = 1 ∨ k = 2 := by omega
    · rfl
    · rfl

end Watching

end LiveJson
