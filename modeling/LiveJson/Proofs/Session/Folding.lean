import LiveJson.Proofs.Session.Steps
import LiveJson.Proofs.Tree.Folding
import LiveJson.Proofs.Tree.Spelling

/-!
# What an accepted flag folds

A session accepts the flag of every path that leads to a container.  The tree looks for the flag under
the path at which the container is shown.  The two need not be the same path, for a position may be
spelt with a sign or with leading zeros, and then the flag is accepted and nothing is folded.

## What is here

* `Clocked.uniqueKeys_run?` — the document of a session has unique keys, whatever has happened.
* `Clocked.setCollapsed_folds_iff` — **when an accepted flag folds its container:** if the path is
  canonical.
-/

set_option autoImplicit false

namespace LiveJson

open LiveJson.Json LiveJson.Tree

/-- A document that has been validated has unique keys. -/
theorem uniqueKeys_of_validate {text : String} {v : Value} (h : (validate text).value? = some v) :
    v.UniqueKeys := by
  rw [validate] at h
  split at h
  · cases h
  · split at h
    · next hcheck =>
      cases h
      exact (readDocument_fits (check_eq_ok_iff.1 hcheck)).2
    · cases h

/-- A path that names a container leads to one. -/
theorem Session.isContainer_of_namesContainer {s : Session} {v w : Value} {p : Path}
    (h : s.namesContainer p = true) (hv : s.output.value? = some v) (hw : p.resolve? v = some w) :
    w.isContainer = true := by
  rw [Session.namesContainer, hv, Option.bind_some, hw] at h
  exact h

theorem children_ne_nil_of_size? {v : Value} (hcontainer : v.isContainer = true)
    (hsize : v.size? ≠ some 0) : children v ≠ [] := by
  intro hchildren
  cases v with
  | list items => exact hsize ((size?_of_container rfl).trans (by rw [hchildren]; rfl))
  | map members => exact hsize ((size?_of_container rfl).trans (by rw [hchildren]; rfl))
  | _ => cases hcontainer

namespace Clocked

/-- The outcome that a session shows is that of some text. -/
theorem Step.exists_output {c next : Clocked} {e : Session.Event} {flag : Option Bool}
    (h : c.Step e next flag) (hc : ∃ text, c.session.output = validate text) :
    ∃ text, next.session.output = validate text := by
  cases h with
  | submit text => exact ⟨text, rfl⟩
  | tick _ _ => exact ⟨_, rfl⟩
  | flush _ => exact ⟨_, rfl⟩
  | _ => exact hc

theorem uniqueKeys_run? {quiet start : Duration} {events : List Session.Event} {c : Clocked}
    (h : Clocked.run? ⟨.new quiet, start⟩ events = some c) {v : Value}
    (hv : c.session.output.value? = some v) : v.UniqueKeys := by
  have hstart : ∃ text, (Session.new quiet).output = validate text := by
    have hblank : validate "" = .blank := by rw [validate, if_pos]; rfl
    exact ⟨"", hblank.symm⟩
  obtain ⟨text, htext⟩ :=
    run?_induction (P := fun _ c => ∃ text, c.session.output = validate text) hstart
      (fun hc hstep => hstep.exists_output hc) h
  exact uniqueKeys_of_validate (htext ▸ hv)

/-- **When an accepted flag folds its container.**  Let nothing be collapsed, and let a session accept
the flag of a path that leads to a container with children.  The container is shown at the canonical
path.  Its line is then the one line that stands for a container without its children, exactly if the
path is canonical; otherwise the tree is as it was. -/
theorem setCollapsed_folds_iff {quiet start : Duration} {events : List Session.Event}
    {c next : Clocked} {v w : Value} {p : Path}
    (h : Clocked.run? ⟨.new quiet, start⟩ events = some c)
    (hnone : c.session.collapsed.isEmpty = true)
    (haccepted : c.after? (.setCollapsed p true) = some (next, some true))
    (hv : c.session.output.value? = some v) (hw : p.resolve? v = some w)
    (hsize : w.size? ≠ some 0) :
    Node v (p.canonical v) w ∧
    (next.session.tree.filter Line.isCollapsed =
        [lineOf next.session.collapsed (p.canonical v, w)] ↔ p.canonical v = p) ∧
    (p.canonical v ≠ p → next.session.tree = c.session.tree) := by
  have hkeys := uniqueKeys_run? h hv
  have hflags : ∀ q, c.session.collapsed.contains q = false := by
    intro q
    rw [Collapse.contains, List.isEmpty_iff.1 hnone]
    rfl
  cases after?_eq_some_iff.1 haccepted with
  | setCollapsed _ hnames =>
    have hchildren : children w ≠ [] :=
      children_ne_nil_of_size? (Session.isContainer_of_namesContainer hnames hv hw) hsize
    have htree : c.session.tree = render v c.session.collapsed c.session.keyOrder := by
      rw [Session.tree, hv]
    have htree' : Session.tree { c.session with collapsed := c.session.collapsed.set p true } =
        render v (c.session.collapsed.set p true) c.session.keyOrder := by
      simp only [Session.tree, hv]
    rw [htree, htree']
    have hsame : p.canonical v ≠ p →
        render v (c.session.collapsed.set p true) c.session.keyOrder =
          render v c.session.collapsed c.session.keyOrder := fun hne =>
      render_set_of_not_node (fun u hu => hne ((canonical_eq_self_iff hkeys hw).2 ⟨u, hu⟩)) true
    refine ⟨node_canonical hw, ⟨?_, fun hcanonical => ?_⟩, hsame⟩
    · intro hfilter
      by_contra hne
      rw [hsame hne, filter_render_of_no_flag hflags] at hfilter
      cases hfilter
    · have hnode : Node v p w := hcanonical ▸ node_canonical hw
      rw [hcanonical]
      exact filter_render_set hkeys hflags hnode hchildren

/-- In a new session, a text is submitted and then the flag of a container in it is set. -/
theorem exists_setCollapsed_submit (text : String) (p : Path) (test : Value → Value → Bool)
    (h : (validate text).value?.any
      (fun v => (p.resolve? v).any fun w => w.isContainer && test v w) = true) :
    ∃ c next v w, Clocked.run? ⟨.new defaultQuiet, .zero⟩ [.submit text] = some c ∧
      c.session.collapsed.isEmpty = true ∧
      c.after? (.setCollapsed p true) = some (next, some true) ∧
      next.session.tree = render v (Collapse.empty.set p true) .insertion ∧
      c.session.output.value? = some v ∧ p.resolve? v = some w ∧ test v w = true := by
  simp only [Option.any_eq_true, Bool.and_eq_true] at h
  obtain ⟨v, hv, w, hw, hcontainer, htest⟩ := h
  have hvalue : ((Session.new defaultQuiet).submit text).output.value? = some v := hv
  have hnames : ((Session.new defaultQuiet).submit text).namesContainer p = true := by
    rw [Session.namesContainer, hvalue, Option.bind_some, hw]
    exact hcontainer
  have hempty : ((Session.new defaultQuiet).submit text).collapsed = .empty :=
    ite_self Collapse.empty
  refine ⟨⟨(Session.new defaultQuiet).submit text, .zero⟩, _, v, w, rfl, ?_,
    after?_eq_some_iff.2 (.setCollapsed true hnames), ?_, hv, hw, htest⟩
  · rw [hempty]
    rfl
  · simp only [Session.tree, hvalue, hempty]
    rfl

/-- A list in a list in a map, spelt as it is shown. -/
theorem setCollapsed_folds_iff_nested :
    ∃ c next v w,
      Clocked.run? ⟨.new defaultQuiet, .zero⟩ [.submit "\x7b\"a\":[1,[2]]\x7d"] = some c ∧
      c.session.collapsed.isEmpty = true ∧
      c.after? (.setCollapsed ⟨["a", "1"]⟩ true) = some (next, some true) ∧
      c.session.output.value? = some v ∧ Path.resolve? ⟨["a", "1"]⟩ v = some w ∧
      w.size? ≠ some 0 ∧
      next.session.tree.filter Line.isCollapsed =
        [lineOf next.session.collapsed (⟨["a", "1"]⟩, w)] := by
  obtain ⟨c, next, v, w, hrun, hnone, hstep, -, hv, hw, htest⟩ :=
    exists_setCollapsed_submit "\x7b\"a\":[1,[2]]\x7d" ⟨["a", "1"]⟩
      (fun v w => decide (Path.canonical ⟨["a", "1"]⟩ v = ⟨["a", "1"]⟩ ∧ w.size? ≠ some 0))
      (by decide +kernel)
  obtain ⟨hcanonical, hsize⟩ := of_decide_eq_true htest
  obtain ⟨-, hiff, -⟩ := setCollapsed_folds_iff hrun hnone hstep hv hw hsize
  rw [hcanonical] at hiff
  exact ⟨c, next, v, w, hrun, hnone, hstep, hv, hw, hsize, hiff.2 rfl⟩

/-- With a zero in front of the position the flag is accepted, and no container is folded. -/
theorem setCollapsed_leading_zero :
    ∃ c next v w, Clocked.run? ⟨.new defaultQuiet, .zero⟩ [.submit "[[1]]"] = some c ∧
      c.session.collapsed.isEmpty = true ∧
      c.after? (.setCollapsed ⟨["00"]⟩ true) = some (next, some true) ∧
      c.session.output.value? = some v ∧ Path.resolve? ⟨["00"]⟩ v = some w ∧ w.size? ≠ some 0 ∧
      next.session.tree.filter Line.isCollapsed = [] := by
  obtain ⟨c, next, v, w, hrun, hnone, hstep, htree, hv, hw, htest⟩ :=
    exists_setCollapsed_submit "[[1]]" ⟨["00"]⟩
      (fun v w => decide (w.size? ≠ some 0 ∧
        (render v (Collapse.empty.set ⟨["00"]⟩ true) .insertion).filter Line.isCollapsed = []))
      (by decide +kernel)
  obtain ⟨hsize, hfilter⟩ := of_decide_eq_true htest
  exact ⟨c, next, v, w, hrun, hnone, hstep, hv, hw, hsize, htree ▸ hfilter⟩

end Clocked

end LiveJson
