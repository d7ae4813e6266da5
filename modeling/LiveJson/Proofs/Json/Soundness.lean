import LiveJson.Proofs.Json.Lexemes
import LiveJson.Proofs.Json.Moves
import LiveJson.Proofs.Json.Runs

/-!
# What is read is what is written

A text that is read as a document is, by the notation, a way to write that document.  The reader does
not see the text as a whole; what has been read is said of every place where it may stand, and most of
all of its stack: each frame has read a bracket, items or members with a comma behind each, and for a
map a key and a colon.

## What is here

* `StackText`, `MapText` — what has been read of the open containers.
* `State.ReadFrom`, `Slot.ReadFrom` — what has been read up to a place between lexemes, and in front of a
  lexeme.
* `State.ReadFrom.move`, `State.ReadFrom.start`, `Slot.ReadFrom.fill` — what the marks, the starts and the
  values of lexemes make of it; so every run keeps it (`readFrom_of_runs`).
* `elementText_of_readMembers` — **what is read is what is written.**
-/

set_option autoImplicit false

namespace LiveJson.Json

/-! ## White space and commas -/

theorem ElementText.append_singleton {text : List Char} {v : Value} {c : Char} (h : ElementText text v)
    (hc : isSpace c = true) : ElementText (text ++ [c]) v := by
  obtain ⟨hbefore, htext, hafter⟩ := h
  rw [List.append_assoc]
  exact .mk hbefore htext (hafter.append_singleton hc)

theorem MemberText.append_singleton {text : List Char} {m : String × Value} {c : Char}
    (h : MemberText text m) (hc : isSpace c = true) : MemberText (text ++ [c]) m := by
  obtain ⟨hbefore, hkey, hafter, htext⟩ := h
  rw [List.append_assoc, List.cons_append]
  exact .mk hbefore hkey hafter (htext.append_singleton hc)

theorem ItemsText.eq_nil {text : List Char} {items : List Value} (h : ItemsText text items)
    (hitems : items = []) : text = [] := by
  cases h with
  | nil => rfl
  | snoc _ _ => simp at hitems

theorem MembersText.eq_nil {text : List Char} {members : Members} (h : MembersText text members)
    (hmembers : members = []) : text = [] := by
  cases h with
  | nil => rfl
  | snoc _ _ => simp at hmembers

/-- The last item, and what is in front of it. -/
theorem ItemsText.exists_of_append {text : List Char} {items : List Value} {v : Value}
    (h : ItemsText text (items ++ [v])) :
    ∃ front here, ItemsText front items ∧ ElementText here v ∧ text = front ++ here ++ [','] := by
  generalize hwritten : items ++ [v] = written at h
  cases h with
  | nil => simp at hwritten
  | snoc hfront hhere =>
    obtain ⟨rfl, hv⟩ := List.append_inj' hwritten rfl
    cases hv
    exact ⟨_, _, hfront, hhere, rfl⟩

/-- The last member, and what is in front of it. -/
theorem MembersText.exists_of_append {text : List Char} {members : Members} {m : String × Value}
    (h : MembersText text (members ++ [m])) :
    ∃ front here, MembersText front members ∧ MemberText here m ∧ text = front ++ here ++ [','] := by
  generalize hwritten : members ++ [m] = written at h
  cases h with
  | nil => simp at hwritten
  | snoc hfront hhere =>
    obtain ⟨rfl, hm⟩ := List.append_inj' hwritten rfl
    cases hm
    exact ⟨_, _, hfront, hhere, rfl⟩

namespace Document

/-! ## Places -/

mutual
/-- What has been read up to where a value may start.  The white space in front of the value is not part
of it. -/
inductive StackText : List Char → List Frame → Prop
  | nil : StackText [] []
  | list {text spaces inner : List Char} {items : List Value} {outer : List Frame} :
    StackText text outer → Spaces spaces → ItemsText inner items.reverse →
    StackText (text ++ spaces ++ '[' :: inner) (.list items :: outer)
  | map {text before keyText after : List Char} {members : Members} {key : String}
    {outer : List Frame} :
    MapText text members outer → Spaces before → StringText keyText key → Spaces after →
    StackText (text ++ before ++ keyText ++ after ++ [':']) (.map members key :: outer)

/-- What has been read up to where a member may start. -/
inductive MapText : List Char → Members → List Frame → Prop
  | mk {text spaces inner : List Char} {members : Members} {outer : List Frame} :
    StackText text outer → Spaces spaces → MembersText inner members.reverse →
    MapText (text ++ spaces ++ '{' :: inner) members outer
end

/-- What has been read in front of a value. -/
inductive ValueAwaited : List Char → List Frame → Prop
  | mk {text spaces : List Char} {stack : List Frame} :
    StackText text stack → Spaces spaces → ValueAwaited (text ++ spaces) stack

/-- What has been read in front of a key. -/
inductive KeyAwaited : List Char → Members → List Frame → Prop
  | mk {text spaces : List Char} {members : Members} {outer : List Frame} :
    MapText text members outer → Spaces spaces → KeyAwaited (text ++ spaces) members outer

/-- **What has been read, in each state.** -/
def State.ReadFrom (text : List Char) : State → Prop
  | .value outer => ValueAwaited text outer
  | .firstItem outer => ValueAwaited text (.list [] :: outer)
  | .nextItem items outer => ValueAwaited text (.list items :: outer)
  | .afterItem items outer =>
    ∃ front here v rest, StackText front (.list rest :: outer) ∧ ElementText here v ∧
      items = v :: rest ∧ text = front ++ here
  | .firstKey outer => KeyAwaited text [] outer
  | .nextKey members outer => KeyAwaited text members outer
  | .colon members key outer =>
    ∃ front keyText spaces, KeyAwaited front members outer ∧ StringText keyText key ∧ Spaces spaces ∧
      text = front ++ keyText ++ spaces
  | .afterMember members outer =>
    ∃ front here m rest, MapText front rest outer ∧ MemberText here m ∧ members = m :: rest ∧
      text = front ++ here
  | .done v => ElementText text v

/-- What has been read in front of a lexeme. -/
def Slot.ReadFrom (text : List Char) : Slot → Prop
  | .value outer => ValueAwaited text outer
  | .key members outer => KeyAwaited text members outer

section
variable {text here : List Char} {state next : State} {slot : Slot} {outer : List Frame} {c : Char}

/-! ## White space -/

theorem ValueAwaited.append_singleton {stack : List Frame} (h : ValueAwaited text stack)
    (hc : isSpace c = true) : ValueAwaited (text ++ [c]) stack := by
  obtain ⟨hstack, hspaces⟩ := h
  rw [List.append_assoc]
  exact .mk hstack (hspaces.append_singleton hc)

theorem KeyAwaited.append_singleton {members : Members} (h : KeyAwaited text members outer)
    (hc : isSpace c = true) : KeyAwaited (text ++ [c]) members outer := by
  obtain ⟨hmap, hspaces⟩ := h
  rw [List.append_assoc]
  exact .mk hmap (hspaces.append_singleton hc)

/-- White space belongs to what is next to it. -/
theorem State.ReadFrom.space (h : state.ReadFrom text) (hc : isSpace c = true) :
    state.ReadFrom (text ++ [c]) := by
  cases state with
  | value outer => exact ValueAwaited.append_singleton h hc
  | firstItem outer => exact ValueAwaited.append_singleton h hc
  | nextItem items outer => exact ValueAwaited.append_singleton h hc
  | afterItem items outer =>
    obtain ⟨front, here, v, rest, hstack, helement, hitems, rfl⟩ := h
    exact ⟨front, here ++ [c], v, rest, hstack, helement.append_singleton hc, hitems,
      List.append_assoc ..⟩
  | firstKey outer => exact KeyAwaited.append_singleton h hc
  | nextKey members outer => exact KeyAwaited.append_singleton h hc
  | colon members key outer =>
    obtain ⟨front, keyText, spaces, hfront, hkey, hspaces, rfl⟩ := h
    exact ⟨front, keyText, spaces ++ [c], hfront, hkey, hspaces.append_singleton hc,
      List.append_assoc ..⟩
  | afterMember members outer =>
    obtain ⟨front, here, m, rest, hmap, hmember, hmembers, rfl⟩ := h
    exact ⟨front, here ++ [c], m, rest, hmap, hmember.append_singleton hc, hmembers,
      List.append_assoc ..⟩
  | done v => exact ElementText.append_singleton h hc

/-! ## Values -/

theorem State.ReadFrom.valueAwaited (h : state.ReadFrom text) (hs : state.Awaits outer) :
    ValueAwaited text outer := by
  cases hs <;> exact h

/-- **A complete value goes to the innermost open container.** -/
theorem ValueAwaited.attach {stack : List Frame} {v : Value} (h : ValueAwaited text stack)
    (hv : ValueText here v) : (attach stack v).ReadFrom (text ++ here) := by
  obtain ⟨hstack, hspaces⟩ := h
  rename_i front spaces
  have helement : ElementText (spaces ++ here) v := by
    have := ElementText.mk hspaces hv spaces_nil
    rwa [List.append_nil] at this
  cases stack with
  | nil => cases hstack; exact helement
  | cons frame outer =>
    cases frame with
    | list items =>
      exact ⟨front, spaces ++ here, v, items, hstack, helement, rfl, List.append_assoc ..⟩
    | map members key =>
      cases hstack with
      | map hmap hbefore hkey hafter =>
        refine ⟨_, _, (key, v), members, hmap, .mk hbefore hkey hafter helement, rfl, ?_⟩
        simp

/-! ## Marks -/

/-- A list that is opened. -/
theorem ValueAwaited.openList {stack : List Frame} (h : ValueAwaited text stack) :
    ValueAwaited (text ++ ['[']) (.list [] :: stack) := by
  obtain ⟨hstack, hspaces⟩ := h
  have hopen : ValueAwaited _ (.list [] :: stack) := .mk (.list hstack hspaces .nil) spaces_nil
  rwa [List.append_nil] at hopen

/-- A map that is opened. -/
theorem ValueAwaited.openMap {stack : List Frame} (h : ValueAwaited text stack) :
    KeyAwaited (text ++ ['{']) [] stack := by
  obtain ⟨hstack, hspaces⟩ := h
  have hopen : KeyAwaited _ [] stack := .mk (.mk hstack hspaces .nil) spaces_nil
  rwa [List.append_nil] at hopen

/-- **What the marks make of what has been read.** -/
theorem State.ReadFrom.move (h : state.ReadFrom text) (hmove : Move state c next) :
    next.ReadFrom (text ++ [c]) := by
  cases hmove with
  | openList hs _ => exact (h.valueAwaited hs).openList
  | openMap hs _ => exact (h.valueAwaited hs).openMap
  | closeEmptyList outer =>
    obtain ⟨hstack, hinside⟩ := h
    cases hstack with
    | list hstack hspaces hitems =>
      obtain rfl := hitems.eq_nil rfl
      have hclosed := (ValueAwaited.mk hstack hspaces).attach (.emptyList hinside)
      simpa using hclosed
  | closeList items outer =>
    obtain ⟨front, here, v, rest, hstack, helement, rfl, rfl⟩ := h
    cases hstack with
    | list hstack hspaces hitems =>
      have hclosed := (ValueAwaited.mk hstack hspaces).attach (.list hitems helement)
      simpa using hclosed
  | closeEmptyMap outer =>
    obtain ⟨hmap, hinside⟩ := h
    obtain ⟨hstack, hspaces, hmembers⟩ := hmap
    obtain rfl := hmembers.eq_nil rfl
    have hclosed := (ValueAwaited.mk hstack hspaces).attach (.emptyMap hinside)
    simpa using hclosed
  | closeMap members outer =>
    obtain ⟨front, here, m, rest, hmap, hmember, rfl, rfl⟩ := h
    obtain ⟨hstack, hspaces, hmembers⟩ := hmap
    have hclosed := (ValueAwaited.mk hstack hspaces).attach (.map hmembers hmember)
    simpa using hclosed
  | item items outer =>
    obtain ⟨front, here, v, rest, hstack, helement, rfl, rfl⟩ := h
    cases hstack with
    | list hstack hspaces hitems =>
      have hitems' := ItemsText.snoc hitems helement
      rw [← List.reverse_cons] at hitems'
      have hnext := ValueAwaited.mk (.list hstack hspaces hitems') spaces_nil
      simpa [State.ReadFrom] using hnext
  | member members outer =>
    obtain ⟨front, here, m, rest, hmap, hmember, rfl, rfl⟩ := h
    obtain ⟨hstack, hspaces, hmembers⟩ := hmap
    have hmembers' := MembersText.snoc hmembers hmember
    rw [← List.reverse_cons] at hmembers'
    have hnext := KeyAwaited.mk (.mk hstack hspaces hmembers') spaces_nil
    simpa [State.ReadFrom] using hnext
  | colon members key outer =>
    obtain ⟨front, keyText, spaces, hfront, hkey, hafter, rfl⟩ := h
    obtain ⟨hmap, hbefore⟩ := hfront
    have hnext := ValueAwaited.mk (.map hmap hbefore hkey hafter) spaces_nil
    simpa [State.ReadFrom] using hnext

/-! ## Lexemes -/

/-- **The first character of a lexeme.** -/
theorem State.ReadFrom.start {lexeme : Lexeme} (h : state.ReadFrom text)
    (hstart : Start state c lexeme slot) : slot.ReadFrom text ∧ lexeme.ReadFrom [c] := by
  cases hstart with
  | value hs hc => exact ⟨h.valueAwaited hs, Lexeme.readFrom_start hc⟩
  | firstKey outer => exact ⟨h, Lexeme.readFrom_start rfl⟩
  | nextKey members outer => exact ⟨h, Lexeme.readFrom_start rfl⟩

/-- **The value of a lexeme goes into its slot.** -/
theorem Slot.ReadFrom.fill {v : Scalar} (h : slot.ReadFrom text) (hv : ValueText here v.toValue)
    (hfill : grammar.fill slot v = .ok state) : state.ReadFrom (text ++ here) := by
  cases slot with
  | value outer =>
    cases hfill
    exact ValueAwaited.attach h hv
  | key members outer =>
    cases v with
    | string key =>
      cases hfill
      cases hv with
      | string hkey => exact ⟨text, here, [], h, hkey, spaces_nil, (List.append_nil _).symm⟩
    | _ => cases hfill

/-! ## Runs -/

/-- What has been read, wherever a reader stands. -/
def ReadFrom (text : List Char) : Config State Slot → Prop
  | .between state => state.ReadFrom text
  | .within lexeme slot =>
    ∃ front here, slot.ReadFrom front ∧ lexeme.ReadFrom here ∧ text = front ++ here

theorem State.ReadFrom.enter {config : Config State Slot} (h : state.ReadFrom text)
    (hnext : grammar.Enters state c config) : Document.ReadFrom (text ++ [c]) config := by
  cases hnext with
  | space hspace => exact h.space hspace
  | goto _ hreact => exact h.move (react_eq_goto_iff.1 hreact)
  | start _ hreact =>
    obtain ⟨hslot, hlexeme⟩ := h.start (react_eq_begin_iff.1 hreact)
    exact ⟨text, [c], hslot, hlexeme, rfl⟩

/-- One more character. -/
theorem readFrom_of_step {config next : Config State Slot} (h : ReadFrom text config)
    (hstep : grammar.step config c = .ok next) : ReadFrom (text ++ [c]) next := by
  cases config with
  | between state => exact State.ReadFrom.enter h (Grammar.enter_eq_ok_iff.1 hstep)
  | within lexeme slot =>
    obtain ⟨front, here, hslot, hlexeme, rfl⟩ := h
    cases Grammar.step_within_eq_ok_iff.1 hstep with
    | more hmore => exact ⟨front, here ++ [c], hslot, hlexeme.step hmore, List.append_assoc ..⟩
    | closed hclosed hfill =>
      rw [List.append_assoc]
      exact hslot.fill (hlexeme.closed hclosed) hfill
    | ended hended hfill hnext => exact (hslot.fill (hlexeme.ended hended) hfill).enter hnext

/-- **Every run keeps what has been read.** -/
theorem readFrom_of_runs {last : Config State Slot}
    (h : grammar.Runs (.between (.value [])) text last) : ReadFrom text last :=
  h.induction_snoc (ValueAwaited.mk .nil spaces_nil) readFrom_of_step

end

/-- Only a complete document may end. -/
theorem finish_eq_ok_iff {state : State} {v : Value} :
    grammar.finish state = .ok v ↔ state = .done v := by
  cases state <;> simp [grammar, finish]

end Document

open Document

/-- **What is read is what is written.** -/
theorem elementText_of_readMembers {text : List Char} {v : Value} (h : readMembers text = .ok v) :
    ElementText text v := by
  obtain ⟨last, hruns, hclose⟩ := Grammar.read_eq_ok_iff.1 h
  have hread := readFrom_of_runs hruns
  cases last with
  | between state =>
    obtain rfl := finish_eq_ok_iff.1 hclose
    exact hread
  | within lexeme slot =>
    obtain ⟨front, here, hslot, hlexeme, rfl⟩ := hread
    obtain ⟨value, state, hvalue, hfill, hfinish⟩ := Grammar.close_within_eq_ok_iff.1 hclose
    obtain rfl := finish_eq_ok_iff.1 hfinish
    exact hslot.fill (hlexeme.finish hvalue) hfill

end LiveJson.Json
