import LiveJson.Cli.Run
import LiveJson.Proofs.Session.Steps
import LiveJson.Proofs.Tree.Equality
import LiveJson.Proofs.Tree.Folding
import LiveJson.Proofs.Watch.Looks
import Mathlib.Data.List.Induction

/-!
# What a watching run shows of a version

A watching run has one session for all versions of a file, and the paths of the command line are
collapsed in it after every pass.  So the flags that it has at a pass come from many versions, some
of which were no documents.  Nothing is to be seen of that: each version is shown as it is by a run
that reads nothing else.

## What is here

* `Session.Alike` — sessions of which the same is shown.
* `Flags` — exactly the requested paths are collapsed, as far as they name containers.  A pass after
  which they are collapsed again keeps this (`Flags.pass`), whatever it finds.
* `Follows` — a session in which paths are collapsed goes along with one in which none are.
* `versions`, and `rendering_watch` — **a version is shown as if it were the only one.**
-/

set_option autoImplicit false

namespace LiveJson

open LiveJson.Json LiveJson.Tree

/-! ## Sessions that are alike -/

/-- Sessions of which the same is shown. -/
structure Session.Alike (s t : Session) : Prop where
  input : s.input = t.input
  output : s.output = t.output
  keyOrder : s.keyOrder = t.keyOrder
  contains : ∀ p, s.collapsed.contains p = t.collapsed.contains p

namespace Session

variable {s t : Session}

/-- Whether a path names a container is a matter of the output. -/
theorem namesContainer_eq (h : s.output = t.output) (p : Path) :
    s.namesContainer p = t.namesContainer p := by
  rw [namesContainer, namesContainer, h]

/-- A path names a container in equal outputs. -/
theorem namesContainer_of_beq (h : (s.output.value? == t.output.value?) = true) (p : Path) :
    s.namesContainer p = t.namesContainer p := by
  rw [namesContainer, namesContainer]
  cases hs : s.output.value? with
  | none =>
    cases ht : t.output.value? with
    | none => rfl
    | some w =>
      rw [hs, ht] at h
      cases h
  | some v =>
    cases ht : t.output.value? with
    | none =>
      rw [hs, ht] at h
      cases h
    | some w =>
      rw [hs, ht] at h
      rw [Option.bind_some, Option.bind_some, isContainer_resolve?_of_beq h]

theorem Alike.tree (h : s.Alike t) : s.tree = t.tree := by
  rw [Session.tree, Session.tree, h.output, h.keyOrder]
  cases t.output.value? with
  | none => rfl
  | some v => exact render_congr h.contains

end Session

namespace Cli

theorem rendering_congr {s t : Session} (h : s.Alike t) (style : Style) :
    rendering style s = rendering style t := by
  have hbody : body style s = body style t := by rw [body, body, h.tree, h.output]
  rw [rendering, rendering, hbody, h.input, h.output]

/-! ## The flags of the command line -/

/-- Collapsing a path changes nothing but flags. -/
theorem setCollapsed_eq (s : Session) (p : Path) (flag : Bool) :
    ∃ collapsed, (s.setCollapsed p flag).1 = { s with collapsed := collapsed } := by
  rw [Session.setCollapsed]
  split
  · exact ⟨_, rfl⟩
  · exact ⟨s.collapsed, rfl⟩

/-- Collapsing a path sets its flag if it names a container. -/
theorem contains_setCollapsed (s : Session) (p q : Path) :
    (s.setCollapsed q true).1.collapsed.contains p = true ↔
      s.collapsed.contains p = true ∨ p = q ∧ s.namesContainer p = true := by
  rw [Session.setCollapsed]
  split
  · next hq =>
    rw [Collapse.contains_set]
    split
    · next hp => simp [hp, hq]
    · next hp => simp [hp]
  · next hq =>
    refine ⟨.inl, fun h => h.resolve_right ?_⟩
    rintro ⟨rfl, hp⟩
    exact hq hp

/-- Collapsing paths changes nothing but flags. -/
theorem collapseAll_eq (paths : List Path) (s : Session) :
    ∃ collapsed, collapseAll paths s = { s with collapsed := collapsed } := by
  induction paths generalizing s with
  | nil => exact ⟨s.collapsed, rfl⟩
  | cons p rest ih =>
    obtain ⟨collapsed, h⟩ := setCollapsed_eq s p true
    rw [collapseAll, List.foldl_cons, h]
    exact ih { s with collapsed := collapsed }

/-- Collapsing paths sets the flags of those that name a container. -/
theorem contains_collapseAll (paths : List Path) (s : Session) (p : Path) :
    (collapseAll paths s).collapsed.contains p = true ↔
      s.collapsed.contains p = true ∨ p ∈ paths ∧ s.namesContainer p = true := by
  induction paths generalizing s with
  | nil => simp [collapseAll]
  | cons q rest ih =>
    obtain ⟨collapsed, h⟩ := setCollapsed_eq s q true
    have hnames : (s.setCollapsed q true).1.namesContainer p = s.namesContainer p :=
      Session.namesContainer_eq (by rw [h]) p
    refine (ih _).trans ?_
    rw [contains_setCollapsed, hnames, List.mem_cons, or_and_right, or_assoc]

theorem input_sessionOf (t : Task) (text : String) : (sessionOf t text).input = text := by
  obtain ⟨collapsed, h⟩ := collapseAll_eq t.collapse (t.session.submit text)
  rw [sessionOf, h]
  rfl

/-- Of the requested paths, those that name a container are collapsed, and no others. -/
def Flags (paths : List Path) (s : Session) : Prop :=
  ∀ p, s.collapsed.contains p = true ↔ p ∈ paths ∧ s.namesContainer p = true

theorem flags_session (t : Task) : Flags t.collapse t.session :=
  fun p => ⟨fun h => absurd h (by simp [Task.session, Session.setKeyOrder, Session.new]),
    fun h => nomatch h.2⟩

/-- **A pass, after which the paths are collapsed again.**  If it has expanded nothing, the outputs
are equal, and the flags that are left are those of containers that are still there. -/
theorem Flags.pass {paths : List Path} {s : Session} (h : Flags paths s) (text : String) :
    Flags paths (collapseAll paths (s.pass text)) := by
  intro p
  obtain ⟨collapsed, heq⟩ := collapseAll_eq paths (s.pass text)
  have hnames : (collapseAll paths (s.pass text)).namesContainer p =
      (s.pass text).namesContainer p := Session.namesContainer_eq (by rw [heq]) p
  rw [contains_collapseAll, hnames, or_iff_right_iff_imp]
  -- a flag that is left over from before the pass
  intro hflag
  rw [Session.pass] at hflag
  split at hflag
  · next hbeq =>
    obtain ⟨hp, hold⟩ := (h p).1 hflag
    have hsame : (s.pass text).namesContainer p = s.namesContainer p :=
      Session.namesContainer_of_beq hbeq p
    exact ⟨hp, hsame.trans hold⟩
  · next => simp at hflag

/-- **A version in a session that has had others** is as in a session that has had none, however
often and in which order the paths are requested. -/
theorem alike_sessionOf {t : Task} {paths : List Path} {s : Session} {text : String}
    (hpaths : ∀ p, p ∈ paths ↔ p ∈ t.collapse) (hflags : Flags paths s) (hinput : s.input = text)
    (horder : s.keyOrder = t.order) :
    (collapseAll paths (s.pass text)).Alike (sessionOf t text) := by
  have hfresh : Flags t.collapse
      { t.session with input := text, pending := t.session.pending.cancel.1 } := flags_session t
  have hflags' : Flags t.collapse (sessionOf t text) := hfresh.pass text
  obtain ⟨collapsed, heq⟩ := collapseAll_eq paths (s.pass text)
  obtain ⟨collapsed', heq'⟩ := collapseAll_eq t.collapse (t.session.submit text)
  have houtput : (collapseAll paths (s.pass text)).output = (sessionOf t text).output := by
    rw [heq, sessionOf, heq']
    rfl
  refine ⟨?_, houtput, ?_, fun p => Bool.eq_iff_iff.2 ?_⟩
  · rw [heq, sessionOf, heq']
    exact hinput
  · rw [heq, sessionOf, heq']
    exact horder
  · rw [hflags.pass text p, hflags' p, hpaths, Session.namesContainer_eq houtput]

/-! ## Watching with and without collapsed paths -/

/-- A session in which the paths of the command line are collapsed after every pass, and one in
which they are not, after the same looks. -/
structure Follows (t : Task) (s plain : Session) : Prop where
  input : s.input = plain.input
  pending : s.pending = plain.pending
  waiting : ∀ p, s.pending.pending = some p → p.value = s.input
  keyOrder : s.keyOrder = t.order
  flags : Flags t.collapse s

/-- The texts over which a session has passes while a file is watched, first to last. -/
def versions (quiet : Duration) (looks : List Look) : List String :=
  (watch id .new (.new quiet) looks).passes.map Session.input

section

variable {t : Task} {s plain : Session}

theorem follows_start (t : Task) : Follows t t.session (.new t.quiet) :=
  ⟨rfl, rfl, nofun, rfl, flags_session t⟩

theorem Follows.edit? (h : Follows t s plain) (text : String) (now : Duration) :
    (s.edit? text now = none ∧ plain.edit? text now = none) ∨
      ∃ u v, s.edit? text now = some u ∧ plain.edit? text now = some v ∧ Follows t u v := by
  rw [Session.edit?_eq, Session.edit?_eq, ← h.pending]
  cases now.add? s.pending.quiet with
  | none => exact .inl ⟨rfl, rfl⟩
  | some deadline =>
    exact .inr ⟨_, _, rfl, rfl, rfl, rfl, fun p hp => by cases hp; rfl, h.keyOrder, h.flags⟩

theorem Follows.tick (h : Follows t s plain) (now : Duration) :
    (s.tick now = (s, false) ∧ plain.tick now = (plain, false)) ∨
      ∃ u v, s.tick now = (u, true) ∧ plain.tick now = (v, true) ∧
        Follows t (collapseAll t.collapse u) v ∧
        (collapseAll t.collapse u).Alike (sessionOf t v.input) := by
  rcases s.tick_cases now with ⟨p, hp, hdue, htick⟩ | ⟨hidle, htick⟩
  · have hvalue := h.waiting p hp
    have hflags : Flags t.collapse s.withoutPending := h.flags
    refine .inr ⟨_, _, htick, Session.tick_of_due (h.pending ▸ hp) hdue, ?_, ?_⟩
    · obtain ⟨collapsed, heq⟩ := collapseAll_eq t.collapse (s.withoutPending.pass p.value)
      have hkept := hflags.pass p.value
      rw [heq] at hkept ⊢
      have hpending : s.withoutPending.pending = plain.withoutPending.pending := by
        rw [Session.withoutPending, Session.withoutPending, h.pending]
      exact ⟨h.input, hpending, nofun, h.keyOrder, hkept⟩
    · have hinput : (plain.withoutPending.pass p.value).input = p.value :=
        h.input.symm.trans hvalue.symm
      rw [hinput]
      exact alike_sessionOf (fun _ => Iff.rfl) hflags hvalue.symm h.keyOrder
  · exact .inl ⟨htick, Session.tick_of_not_due (h.pending ▸ hidle)⟩

/-- One look with and without collapsed paths: it fails with both, or it comes to a pass with both,
or with none. -/
theorem Follows.watchStep (h : Follows t s plain) (w : Watcher) (l : Look) :
    (∃ e, watchStep w s l.1 l.2 = .error e ∧ watchStep w plain l.1 l.2 = .error e) ∨
      (∃ w' u v, watchStep w s l.1 l.2 = .ok (w', u, false) ∧
        watchStep w plain l.1 l.2 = .ok (w', v, false) ∧ Follows t u v) ∨
      ∃ w' u v, watchStep w s l.1 l.2 = .ok (w', u, true) ∧
        watchStep w plain l.1 l.2 = .ok (w', v, true) ∧ Follows t (collapseAll t.collapse u) v ∧
        (collapseAll t.collapse u).Alike (sessionOf t v.input) := by
  simp only [LiveJson.watchStep]
  -- what is read is a matter of the watcher alone, which both have in common
  cases hpoll : w.poll l.1 with
  | error e => exact .inl ⟨_, rfl, rfl⟩
  | ok polled =>
    obtain ⟨w', change⟩ := polled
    cases change with
    | none =>
      rcases h.tick l.2 with ⟨hs, hplain⟩ | ⟨u, v, hs, hplain, hpass⟩
      · exact .inr (.inl ⟨w', s, plain, by simp only [hs], by simp only [hplain], h⟩)
      · exact .inr (.inr ⟨w', u, v, by simp only [hs], by simp only [hplain], hpass⟩)
    | some content =>
      rcases h.edit? content l.2 with ⟨hs, hplain⟩ | ⟨s', plain', hs, hplain, h'⟩
      · exact .inl ⟨.outOfTime, by simp only [hs], by simp only [hplain]⟩
      · simp only [hs, hplain]
        rcases h'.tick l.2 with ⟨hs, hplain⟩ | ⟨u, v, hs, hplain, hpass⟩
        · exact .inr (.inl ⟨w', s', plain', by simp only [hs], by simp only [hplain], h'⟩)
        · exact .inr (.inr ⟨w', u, v, by simp only [hs], by simp only [hplain], hpass⟩)

/-- **A series of looks with and without collapsed paths:** there is a pass with both or with none,
and at every pass the session with collapsed paths is as one that has had no other version. -/
theorem Follows.watch (h : Follows t s plain) (w : Watcher) (looks : List Look) :
    List.Forall₂ (fun (u v : Session) => u.Alike (sessionOf t v.input))
      (watch (collapseAll t.collapse) w s looks).passes (watch id w plain looks).passes := by
  induction looks generalizing w s plain with
  | nil => exact .nil
  | cons look rest ih =>
    rcases h.watchStep w look with
      ⟨e, hs, hplain⟩ | ⟨w', u, v, hs, hplain, hnext⟩ | ⟨w', u, v, hs, hplain, hnext, halike⟩
    · simp only [LiveJson.watch, hs, hplain]
      exact .nil
    · simp only [LiveJson.watch, hs, hplain]
      exact ih hnext w'
    · simp only [LiveJson.watch, hs, hplain]
      exact .cons halike (ih hnext w')

end

/-! ## The versions that are shown -/

/-- Looks that are made after others go on where these stopped. -/
theorem watch_append (onPass : Session → Session) (w : Watcher) (s : Session)
    (front back : List Look) :
    watch onPass w s (front ++ back) =
      match (watch onPass w s front).stop with
      | .ok (w', s') =>
        ⟨(watch onPass w s front).passes ++ (watch onPass w' s' back).passes,
          (watch onPass w' s' back).stop⟩
      | .error e => ⟨(watch onPass w s front).passes, .error e⟩ := by
  induction front generalizing w s with
  | nil => rfl
  | cons l rest ih =>
    rw [List.cons_append, watch, watch]
    cases watchStep w s l.1 l.2 with
    | error e => rfl
    | ok result =>
      obtain ⟨w', s', ran⟩ := result
      cases ran with
      | false => exact ih w' s'
      | true =>
        simp only [ih]
        cases (watch onPass w' (onPass s') rest).stop <;> rfl

/-- One look, with nothing done after a pass. -/
theorem watch_id_singleton (w : Watcher) (s : Session) (l : Look) :
    watch id w s [l] =
      match watchStep w s l.1 l.2 with
      | .ok (w', s', ran) => ⟨if ran then [s'] else [], .ok (w', s')⟩
      | .error e => ⟨[], .error e⟩ := by
  rw [watch]
  cases watchStep w s l.1 l.2 with
  | error e => rfl
  | ok result =>
    obtain ⟨w', s', ran⟩ := result
    cases ran <;> rfl

/-- Where watching stops, the session has been fed. -/
theorem fed_of_stop {quiet : Duration} {looks : List Look} {w : Watcher} {s : Session}
    (h : (watch id .new (.new quiet) looks).stop = .ok (w, s)) :
    Watching.Fed looks ⟨w, s⟩ := by
  induction looks using List.reverseRecOn generalizing w s with
  | nil =>
    cases h
    exact Watching.fed_start quiet
  | append_singleton front l ih =>
    rw [watch_append] at h
    cases hfront : (watch id .new (.new quiet) front).stop with
    | error e =>
      rw [hfront] at h
      cases h
    | ok state =>
      obtain ⟨w₁, s₁⟩ := state
      simp only [hfront, watch_id_singleton] at h
      cases hstep : watchStep w₁ s₁ l.1 l.2 with
      | error e =>
        rw [hstep] at h
        cases h
      | ok result =>
        obtain ⟨w₂, s₂, ran⟩ := result
        rw [hstep] at h
        cases h
        obtain ⟨entered, hsaw⟩ := (watchStep_eq_ok_iff (c := ⟨w₁, s₁⟩)).1 hstep
        exact ((ih hfront).step hsaw).1

/-- **One more look** adds no version, or the one that was read last. -/
theorem versions_concat (quiet : Duration) (looks : List Look) (l : Look) :
    versions quiet (looks ++ [l]) = versions quiet looks ∨
      ∃ text, lastContent? (looks ++ [l]) = some text ∧
        versions quiet (looks ++ [l]) = versions quiet looks ++ [text] := by
  rw [versions, versions, watch_append]
  cases hstop : (watch id .new (.new quiet) looks).stop with
  | error e => exact .inl rfl
  | ok state =>
    obtain ⟨w₁, s₁⟩ := state
    simp only [watch_id_singleton, List.map_append]
    cases hstep : watchStep w₁ s₁ l.1 l.2 with
    | error e => exact .inl (List.append_nil _)
    | ok result =>
      obtain ⟨w₂, s₂, ran⟩ := result
      cases ran with
      | false => exact .inl (List.append_nil _)
      | true =>
        obtain ⟨entered, hsaw⟩ := (watchStep_eq_ok_iff (c := ⟨w₁, s₁⟩)).1 hstep
        exact .inr ⟨s₂.input, ((fed_of_stop hstop).step hsaw).2 rfl, rfl⟩

/-- **A version is shown as if it were the only one.**  The passes of a watching run are over the
versions that have one, which are contents of the file, each the one that was read last at its pass;
and each is shown as it is by a run that reads nothing else.  It does not matter how often and in
which order paths are requested. -/
theorem rendering_watch (t : Task) (looks : List Look) :
    (watch (collapseAll t.collapse) .new t.session looks).passes.map Session.input =
        versions t.quiet looks ∧
      (watch (collapseAll t.collapse) .new t.session looks).passes.map (rendering t.style) =
        (versions t.quiet looks).map (fun text => rendering t.style (sessionOf t text)) ∧
      (∀ l, versions t.quiet (looks ++ [l]) = versions t.quiet looks ∨
        ∃ text, lastContent? (looks ++ [l]) = some text ∧
          versions t.quiet (looks ++ [l]) = versions t.quiet looks ++ [text]) ∧
      ∀ paths, (∀ p, p ∈ paths ↔ p ∈ t.collapse) → ∀ text,
        rendering t.style (sessionOf { t with collapse := paths } text) =
          rendering t.style (sessionOf t text) := by
  have hpasses := (follows_start t).watch .new looks
  refine ⟨?_, ?_, versions_concat t.quiet looks, fun paths hpaths text => ?_⟩
  · rw [versions, ← List.forall₂_eq_eq_eq, List.forall₂_map_left_iff, List.forall₂_map_right_iff]
    exact hpasses.imp fun _ v halike => halike.input.trans (input_sessionOf t v.input)
  · rw [versions, List.map_map, ← List.forall₂_eq_eq_eq, List.forall₂_map_left_iff,
      List.forall₂_map_right_iff]
    exact hpasses.imp fun _ _ halike => rendering_congr halike t.style
  · have hfresh : Flags paths
        { t.session with input := text, pending := t.session.pending.cancel.1 } :=
      flags_session { t with collapse := paths }
    exact rendering_congr (alike_sessionOf hpaths hfresh rfl rfl) t.style

/-- A file that is no document for a moment, and has a second list afterwards: each of its versions
is shown as if it were the only one, also if the paths are requested in another order and twice. -/
theorem rendering_watch_malformed :
    ∃ t : Task, t.style.tree = true ∧ t.collapse = [⟨["0"]⟩, ⟨["1"]⟩] ∧
      (watch (collapseAll t.collapse) .new t.session [(.ok "[[1]]", .zero), (.ok "[[1", .zero),
          (.ok "[[1],[2]]", .zero)]).passes.map (rendering t.style) =
        ["[[1]]", "[[1", "[[1],[2]]"].map fun text => rendering t.style
          (sessionOf { t with collapse := [⟨["1"]⟩, ⟨["0"]⟩, ⟨["1"]⟩] } text) := by
  obtain ⟨t, htree, hcollapse, hquiet⟩ : ∃ t : Task, t.style.tree = true ∧
      t.collapse = [⟨["0"]⟩, ⟨["1"]⟩] ∧ t.quiet = .zero :=
    ⟨⟨.file "list.json", ⟨true, false, .rows, .en⟩, .insertion, [⟨["0"]⟩, ⟨["1"]⟩], .zero, true⟩,
      rfl, rfl, rfl⟩
  have hversions : versions t.quiet [(.ok "[[1]]", .zero), (.ok "[[1", .zero),
      (.ok "[[1],[2]]", .zero)] = ["[[1]]", "[[1", "[[1],[2]]"] := by
    rw [hquiet]
    decide +kernel
  obtain ⟨-, hshown, -, hpaths⟩ := rendering_watch t [(.ok "[[1]]", .zero), (.ok "[[1", .zero),
    (.ok "[[1],[2]]", .zero)]
  refine ⟨t, htree, hcollapse, ?_⟩
  rw [hshown, hversions]
  refine List.map_congr_left fun text _ =>
    (hpaths [⟨["1"]⟩, ⟨["0"]⟩, ⟨["1"]⟩] (fun p => ?_) text).symm
  rw [hcollapse]
  simp only [List.mem_cons, List.not_mem_nil, or_false]
  tauto

end Cli

end LiveJson
