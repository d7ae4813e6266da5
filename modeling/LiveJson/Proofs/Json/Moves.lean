import LiveJson.Json.Document

/-!
# What a document's marks do

The grammar of documents, turned over: `react` answers what a character does in a state, and
`Move` and `Start` list the ways in which something can happen at all.  What is kept by every move
is proved one rule at a time, and no proof opens `react` again.

## What is here

* `State.Awaits` — the states in which a value may start, and the containers around it.
* `Move`, `Start` — the marks, and the first characters of lexemes (`react_eq_goto_iff`,
  `react_eq_begin_iff`).
* `State.stack`, `Slot.stack` — the open containers with what has been read of them.  The closing
  brackets of a state are those of its stack (`State.closers_eq`).
-/

set_option autoImplicit false

namespace LiveJson.Json

namespace Document

/-! ## Where a value may start -/

/-- In the state a value may start, inside the containers `outer`. -/
inductive State.Awaits : State → List Frame → Prop
  | value (outer : List Frame) : Awaits (.value outer) outer
  | firstItem (outer : List Frame) : Awaits (.firstItem outer) (.list [] :: outer)
  | nextItem (items : List Value) (outer : List Frame) :
    Awaits (.nextItem items outer) (.list items :: outer)

/-- Where a value may start, only the end of a list can come instead. -/
theorem State.Awaits.react_eq {state : State} {outer : List Frame} (h : state.Awaits outer) {c : Char}
    (hc : c ≠ ']') : react state c = beginValue outer c := by
  cases h <;> simp [react, hc]

/-! ## Marks -/

/-- What the marks do. -/
inductive Move : State → Char → State → Prop
  /-- A list is opened. -/
  | openList {state : State} {outer : List Frame} :
    state.Awaits outer → outer.length < maxDepth → Move state '[' (.firstItem outer)
  /-- A map is opened. -/
  | openMap {state : State} {outer : List Frame} :
    state.Awaits outer → outer.length < maxDepth → Move state '{' (.firstKey outer)
  /-- A list without items is closed. -/
  | closeEmptyList (outer : List Frame) : Move (.firstItem outer) ']' (attach outer (.list []))
  /-- A list is closed after an item. -/
  | closeList (items : List Value) (outer : List Frame) :
    Move (.afterItem items outer) ']' (attach outer (.list items.reverse))
  /-- A map without members is closed. -/
  | closeEmptyMap (outer : List Frame) : Move (.firstKey outer) '}' (attach outer (.map []))
  /-- A map is closed after a member. -/
  | closeMap (members : Members) (outer : List Frame) :
    Move (.afterMember members outer) '}' (attach outer (.map members.reverse))
  /-- There is another item. -/
  | item (items : List Value) (outer : List Frame) :
    Move (.afterItem items outer) ',' (.nextItem items outer)
  /-- There is another member. -/
  | member (members : Members) (outer : List Frame) :
    Move (.afterMember members outer) ',' (.nextKey members outer)
  /-- A key is followed by its value. -/
  | colon (members : Members) (key : String) (outer : List Frame) :
    Move (.colon members key outer) ':' (.value (.map members key :: outer))

/-- The first characters of lexemes. -/
inductive Start : State → Char → Lexeme → Slot → Prop
  /-- A scalar where a value may start. -/
  | value {state : State} {outer : List Frame} {c : Char} {lexeme : Lexeme} :
    state.Awaits outer → Lexeme.start? c = some lexeme → Start state c lexeme (.value outer)
  /-- The first key of a map. -/
  | firstKey (outer : List Frame) : Start (.firstKey outer) '"' (.string [] .plain) (.key [] outer)
  /-- A further key of a map. -/
  | nextKey (members : Members) (outer : List Frame) :
    Start (.nextKey members outer) '"' (.string [] .plain) (.key members outer)

theorem beginValue_eq_goto_iff {outer : List Frame} {c : Char} {next : State} :
    beginValue outer c = .goto next ↔
      outer.length < maxDepth ∧
        (c = '[' ∧ next = .firstItem outer ∨ c = '{' ∧ next = .firstKey outer) := by
  unfold beginValue
  by_cases hlt : outer.length < maxDepth
  · by_cases hsquare : c = '['
    · simp [hsquare, hlt, eq_comm]
    · by_cases hcurly : c = '{'
      · simp [hcurly, hlt, eq_comm]
      · cases Lexeme.start? c <;> simp [hsquare, hcurly]
  · by_cases hsquare : c = '['
    · simp [hsquare, hlt]
    · by_cases hcurly : c = '{'
      · simp [hcurly, hlt]
      · cases Lexeme.start? c <;> simp [hsquare, hcurly]

theorem beginValue_eq_begin_iff {outer : List Frame} {c : Char} {lexeme : Lexeme} {slot : Slot} :
    beginValue outer c = .begin lexeme slot ↔
      Lexeme.start? c = some lexeme ∧ slot = .value outer := by
  unfold beginValue
  by_cases hsquare : c = '['
  · subst hsquare
    have hstart : Lexeme.start? '[' = none := by decide
    by_cases hlt : outer.length < maxDepth <;> simp [hstart, hlt]
  · by_cases hcurly : c = '{'
    · subst hcurly
      have hstart : Lexeme.start? '{' = none := by decide
      by_cases hlt : outer.length < maxDepth <;> simp [hstart, hlt]
    · cases Lexeme.start? c <;> simp [hsquare, hcurly, eq_comm]

/-- A move out of a state in which a value may start, its list not being closed. -/
theorem move_of_beginValue {state next : State} {outer : List Frame} {c : Char}
    (h : state.Awaits outer) (hbegin : beginValue outer c = .goto next) : Move state c next := by
  obtain ⟨hlt, ⟨rfl, rfl⟩ | ⟨rfl, rfl⟩⟩ := beginValue_eq_goto_iff.1 hbegin
  · exact .openList h hlt
  · exact .openMap h hlt

/-- **The moves are what `react` does with marks.** -/
theorem react_eq_goto_iff {state next : State} {c : Char} :
    react state c = .goto next ↔ Move state c next := by
  constructor
  · intro h
    cases state with
    | value outer => exact move_of_beginValue (.value outer) h
    | firstItem outer =>
      rw [react] at h
      split at h
      · next hc => cases hc; cases h; exact .closeEmptyList outer
      · exact move_of_beginValue (.firstItem outer) h
    | nextItem items outer =>
      rw [react] at h
      split at h
      · cases h
      · exact move_of_beginValue (.nextItem items outer) h
    | afterItem items outer =>
      rw [react] at h
      split at h
      · next hc => cases hc; cases h; exact .item items outer
      · split at h
        · next hc => cases hc; cases h; exact .closeList items outer
        · cases h
    | firstKey outer =>
      rw [react] at h
      split at h
      · cases h
      · split at h
        · next hc => cases hc; cases h; exact .closeEmptyMap outer
        · cases h
    | nextKey members outer =>
      rw [react] at h
      split at h
      · cases h
      · split at h <;> cases h
    | colon members key outer =>
      rw [react] at h
      split at h
      · next hc => cases hc; cases h; exact .colon members key outer
      · cases h
    | afterMember members outer =>
      rw [react] at h
      split at h
      · next hc => cases hc; cases h; exact .member members outer
      · split at h
        · next hc => cases hc; cases h; exact .closeMap members outer
        · cases h
    | done value => cases h
  · intro h
    cases h with
    | openList hs hlt =>
      rw [hs.react_eq (by decide)]
      exact beginValue_eq_goto_iff.2 ⟨hlt, .inl ⟨rfl, rfl⟩⟩
    | openMap hs hlt =>
      rw [hs.react_eq (by decide)]
      exact beginValue_eq_goto_iff.2 ⟨hlt, .inr ⟨rfl, rfl⟩⟩
    | _ => rfl

/-- **The starts are what `react` does with the first characters of lexemes.** -/
theorem react_eq_begin_iff {state : State} {c : Char} {lexeme : Lexeme} {slot : Slot} :
    react state c = .begin lexeme slot ↔ Start state c lexeme slot := by
  constructor
  · intro h
    cases state with
    | value outer =>
      obtain ⟨hc, rfl⟩ := beginValue_eq_begin_iff.1 h
      exact .value (.value outer) hc
    | firstItem outer =>
      rw [react] at h
      split at h
      · cases h
      · obtain ⟨hc, rfl⟩ := beginValue_eq_begin_iff.1 h
        exact .value (.firstItem outer) hc
    | nextItem items outer =>
      rw [react] at h
      split at h
      · cases h
      · obtain ⟨hc, rfl⟩ := beginValue_eq_begin_iff.1 h
        exact .value (.nextItem items outer) hc
    | afterItem items outer =>
      rw [react] at h
      split at h
      · cases h
      · split at h <;> cases h
    | firstKey outer =>
      rw [react] at h
      split at h
      · next hc => cases hc; cases h; exact .firstKey outer
      · split at h <;> cases h
    | nextKey members outer =>
      rw [react] at h
      split at h
      · next hc => cases hc; cases h; exact .nextKey members outer
      · split at h <;> cases h
    | colon members key outer =>
      rw [react] at h
      split at h <;> cases h
    | afterMember members outer =>
      rw [react] at h
      split at h
      · cases h
      · split at h <;> cases h
    | done value => cases h
  · intro h
    cases h with
    | value hs hc =>
      have hne : c ≠ ']' := by
        rintro rfl
        cases hc
      rw [hs.react_eq hne]
      exact beginValue_eq_begin_iff.2 ⟨hc, rfl⟩
    | _ => rfl

/-! ## Open containers -/

/-- The open containers with what has been read of them, innermost first.  A map that waits for no
value has the empty key. -/
def State.stack : State → List Frame
  | .value outer => outer
  | .firstItem outer => .list [] :: outer
  | .nextItem items outer | .afterItem items outer => .list items :: outer
  | .firstKey outer => .map [] "" :: outer
  | .nextKey members outer | .afterMember members outer => .map members "" :: outer
  | .colon members key outer => .map members key :: outer
  | .done _ => []

/-- The containers open around a lexeme. -/
def Slot.stack : Slot → List Frame
  | .value outer => outer
  | .key members outer => .map members "" :: outer

theorem State.closers_eq (state : State) : state.closers = state.stack.map Frame.closer := by
  cases state <;> rfl

theorem Slot.closers_eq (slot : Slot) : slot.closers = slot.stack.map Frame.closer := by
  cases slot <;> rfl

theorem State.Awaits.stack_eq {state : State} {outer : List Frame} (h : state.Awaits outer) :
    state.stack = outer := by
  cases h <;> rfl

end Document

end LiveJson.Json
