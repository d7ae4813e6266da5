import LiveJson.Proofs.Json.Moves
import LiveJson.Proofs.Json.Runs
import LiveJson.Proofs.Json.Values

/-!
# How large a document can be

A document nests no more than `maxDepth` containers, and none of its lists has more items than the
text has characters.  Both are read off the open containers while the text is being read: a frame
knows how many containers are around it, and each of its items has cost a character.

## What is here

* `Value.Fits`, `Frame.Fits`, `StackFits`, `State.Fits` — the bounds, for a value, an open container,
  all open containers, and a state of the reader.
* `fits_invariant` — the bounds are kept by every rule of the grammar.
* `readMembers_fits` and `readDocument_fits` — the bounds of what has been read.
-/

set_option autoImplicit false

namespace LiveJson.Json

open Document

/-- A value inside `depth` containers is not nested too deeply, and no list in it has more than `n`
items. -/
structure Value.Fits (n depth : Nat) (v : Value) : Prop where
  height : v.height + depth ≤ maxDepth
  lists : v.ListsWithin n

theorem Value.Fits.mono {m n depth : Nat} {v : Value} (hmn : m ≤ n) (h : v.Fits m depth) :
    v.Fits n depth :=
  ⟨h.height, h.lists.mono hmn⟩

theorem Value.fits_list {n depth : Nat} {items : List Value} (hdepth : depth < maxDepth)
    (hlen : items.length ≤ n) (hitems : ∀ v ∈ items, v.Fits n (depth + 1)) :
    (Value.list items).Fits n depth :=
  ⟨height_list_add_le.2 ⟨hdepth, fun v hv => (hitems v hv).height⟩,
    listsWithin_list.2 ⟨hlen, fun v hv => (hitems v hv).lists⟩⟩

theorem Value.fits_map {n depth : Nat} {members : Members} (hdepth : depth < maxDepth)
    (hmembers : ∀ m ∈ members, m.2.Fits n (depth + 1)) : (Value.map members).Fits n depth :=
  ⟨height_map_add_le.2 ⟨hdepth, fun m hm => (hmembers m hm).height⟩,
    listsWithin_map.2 fun m hm => (hmembers m hm).lists⟩

namespace Document

/-! ## Open containers -/

/-- The values that an open container holds so far. -/
def Frame.contents : Frame → List Value
  | .list items => items
  | .map members _ => members.map Prod.snd

/-- A container inside `depth` others may be open, what it holds is not too large, and it holds less
than `n` values. -/
structure Frame.Fits (n depth : Nat) (frame : Frame) : Prop where
  depth_lt : depth < maxDepth
  length_lt : frame.contents.length < n
  contents : ∀ v ∈ frame.contents, v.Fits n (depth + 1)

/-- Every open container fits into those around it. -/
def StackFits (n : Nat) : List Frame → Prop
  | [] => True
  | frame :: outer => frame.Fits n outer.length ∧ StackFits n outer

/-- The bounds after `n` characters.  After an item, the character that goes on with the container is
still to come, and is counted already. -/
def State.Fits (n : Nat) : State → Prop
  | .afterItem items outer => StackFits (n + 1) (.list items :: outer)
  | .afterMember members outer => StackFits (n + 1) (.map members "" :: outer)
  | .done v => v.Fits n 0
  | state => StackFits n state.stack

/-- The bounds after `n` characters, around a lexeme. -/
def Slot.Fits (n : Nat) (slot : Slot) : Prop :=
  StackFits n slot.stack

theorem Frame.Fits.mono {m n depth : Nat} {frame : Frame} (hmn : m ≤ n) (h : frame.Fits m depth) :
    frame.Fits n depth :=
  ⟨h.depth_lt, Nat.lt_of_lt_of_le h.length_lt hmn, fun v hv => (h.contents v hv).mono hmn⟩

theorem StackFits.mono {m n : Nat} {stack : List Frame} (hmn : m ≤ n) (h : StackFits m stack) :
    StackFits n stack := by
  induction stack with
  | nil => trivial
  | cons frame outer ih => exact ⟨h.1.mono hmn, ih h.2⟩

theorem StackFits.length_le {n : Nat} {stack : List Frame} (h : StackFits n stack) :
    stack.length ≤ maxDepth := by
  cases stack with
  | nil => exact Nat.zero_le _
  | cons frame outer => exact h.1.depth_lt

/-- A container that has just been opened fits. -/
theorem Frame.fits_of_contents_eq_nil {n depth : Nat} {frame : Frame} (hdepth : depth < maxDepth)
    (h : frame.contents = []) : frame.Fits (n + 1) depth := by
  refine ⟨hdepth, ?_, ?_⟩ <;> simp [h]

/-- A list that is closed fits where it was open. -/
theorem Frame.Fits.list {n depth : Nat} {items : List Value} (h : (Frame.list items).Fits n depth) :
    (Value.list items.reverse).Fits n depth := by
  refine Value.fits_list h.depth_lt ?_ fun v hv => h.contents v (List.mem_reverse.1 hv)
  rw [List.length_reverse]
  exact Nat.le_of_lt h.length_lt

/-- A map that is closed fits where it was open. -/
theorem Frame.Fits.map {n depth : Nat} {members : Members} {key : String}
    (h : (Frame.map members key).Fits n depth) : (Value.map members.reverse).Fits n depth :=
  Value.fits_map h.depth_lt fun m hm =>
    h.contents m.2 (List.mem_map_of_mem (List.mem_reverse.1 hm))

/-- A frame with one more value.  The value may have cost no character of its own. -/
theorem Frame.Fits.push {n depth : Nat} {frame frame' : Frame} {v : Value} (h : frame.Fits n depth)
    (hv : v.Fits n (depth + 1)) (hcontents : frame'.contents = v :: frame.contents) :
    frame'.Fits (n + 1) depth := by
  refine ⟨h.depth_lt, ?_, fun w hw => ?_⟩
  · rw [hcontents]
    exact Nat.succ_lt_succ h.length_lt
  · rw [hcontents] at hw
    rcases List.mem_cons.1 hw with rfl | hw
    · exact hv.mono (Nat.le_succ n)
    · exact (h.contents w hw).mono (Nat.le_succ n)

/-! ## The bounds are kept -/

theorem State.Awaits.stackFits {n : Nat} {state : State} {outer : List Frame}
    (h : state.Awaits outer) (hfits : state.Fits n) : StackFits n outer := by
  cases h <;> exact hfits

/-- A complete value that fits goes where it belongs. -/
theorem attach_fits {n : Nat} {outer : List Frame} {v : Value} (h : StackFits n outer)
    (hv : v.Fits n outer.length) : (attach outer v).Fits n := by
  cases outer with
  | nil => exact hv
  | cons frame outer =>
    have houter : StackFits (n + 1) outer := h.2.mono (Nat.le_succ n)
    cases frame with
    | list items => exact ⟨h.1.push hv rfl, houter⟩
    | map members key => exact ⟨h.1.push hv rfl, houter⟩

theorem scalar_fits {n depth : Nat} (hdepth : depth ≤ maxDepth) (v : Scalar) :
    v.toValue.Fits n depth := by
  cases v <;> exact ⟨by simpa [Scalar.toValue, Value.height] using hdepth, rfl⟩

theorem State.Fits.mono {n : Nat} {state : State} (h : state.Fits n) : state.Fits (n + 1) := by
  cases state with
  | done v => exact Value.Fits.mono (Nat.le_succ n) h
  | _ => exact StackFits.mono (Nat.le_succ _) h

/-- A move keeps the bounds. -/
theorem Move.fits {n : Nat} {state next : State} {c : Char} (h : Move state c next)
    (hfits : state.Fits n) : next.Fits (n + 1) := by
  cases h with
  | openList hs hlt =>
    exact ⟨Frame.fits_of_contents_eq_nil hlt rfl, (hs.stackFits hfits).mono (Nat.le_succ n)⟩
  | openMap hs hlt =>
    exact ⟨Frame.fits_of_contents_eq_nil hlt rfl, (hs.stackFits hfits).mono (Nat.le_succ n)⟩
  | closeEmptyList outer =>
    obtain ⟨hframe, houter⟩ := StackFits.mono (Nat.le_succ n) hfits
    exact attach_fits houter hframe.list
  | closeList items outer => exact attach_fits hfits.2 hfits.1.list
  | closeEmptyMap outer =>
    obtain ⟨hframe, houter⟩ := StackFits.mono (Nat.le_succ n) hfits
    exact attach_fits houter hframe.map
  | closeMap members outer => exact attach_fits hfits.2 hfits.1.map
  | item items outer => exact hfits
  | member members outer => exact hfits
  | colon members key outer => exact State.Fits.mono hfits

/-- **The bounds are an invariant of reading.** -/
theorem fits_invariant : grammar.Invariant State.Fits Slot.Fits where
  mono h := h.mono
  mono_slot h := StackFits.mono (Nat.le_succ _) h
  goto hfits hreact := (react_eq_goto_iff.1 hreact).fits hfits
  start hfits hreact := by
    cases react_eq_begin_iff.1 hreact with
    | value hs _ => exact (hs.stackFits hfits).mono (Nat.le_succ _)
    | firstKey outer => exact StackFits.mono (Nat.le_succ _) hfits
    | nextKey members outer => exact StackFits.mono (Nat.le_succ _) hfits
  fill {n slot value state} hfits hfill := by
    cases slot with
    | value outer =>
      cases hfill
      exact attach_fits hfits (scalar_fits (StackFits.length_le hfits) value)
    | key members outer =>
      cases value with
      | string key =>
        cases hfill
        obtain ⟨hframe, houter⟩ := hfits
        exact ⟨⟨hframe.depth_lt, hframe.length_lt, hframe.contents⟩, houter⟩
      | _ => cases hfill

end Document

/-! ## Whole documents -/

/-- What is read is nested within the limit, and its lists are no longer than the text. -/
theorem readMembers_fits {text : List Char} {v : Value} (h : readMembers text = .ok v) :
    v.Fits text.length 0 := by
  have hstart : (State.value []).Fits 0 := trivial
  obtain ⟨state, hfits, hfinish⟩ := fits_invariant.read hstart h
  cases state with
  | done w => cases hfinish; exact hfits
  | _ => cases hfinish

/-- A document is nested within the limit, its lists are no longer than the text, and each key of a
map has one member. -/
theorem readDocument_fits {text : List Char} {v : Value} (h : readDocument text = .ok v) :
    v.Fits text.length 0 ∧ v.UniqueKeys := by
  rw [readDocument] at h
  cases hread : readMembers text with
  | error fault => rw [hread] at h; cases h
  | ok w =>
    rw [hread] at h
    cases h
    have hfits := readMembers_fits hread
    exact ⟨⟨Value.height_unique_add_le hfits.height, Value.listsWithin_unique hfits.lists⟩,
      w.uniqueKeys_unique⟩

end LiveJson.Json
