import LiveJson.Debouncer
import LiveJson.Tree.Render
import LiveJson.Validation

/-!
# Sessions

A session is what a user sees change while typing: the input, the outcome of the last pass over it,
and the flags of the tree.  An edit does not start a pass; it waits until nothing has been edited
for a quiet period.

## What is here

* `Session` with `edit?`, `tick`, `flush` and `submit`, which start passes, and `toggle`,
  `setCollapsed` and `setKeyOrder`, which change the tree.
* `Session.tree` — the lines of the tree; there are none unless the last pass found a document.
* `Clocked` — a session with a clock that moves when told to, and `Clocked.after?`, which runs a
  `Session.Event`.

A pass that finds another document than the one before expands all containers, and so does a pass
that finds none after one that found one.
-/

set_option autoImplicit false

namespace LiveJson

open LiveJson.Json LiveJson.Tree

/-- The state of a session. -/
structure Session where
  /-- The text that was entered last. -/
  input : String
  /-- The text that waits for the end of a quiet period. -/
  pending : Debouncer String
  /-- The outcome of the last pass; blank before the first. -/
  output : Validation
  /-- The collapsed paths. -/
  collapsed : Collapse
  /-- The order of members in the tree. -/
  keyOrder : KeyOrder
  /-- How many passes there have been.  An event starts one at most, and no session sees 2 ^ 64
  events, so that the count stays below that and fits into a word of 64 bits. -/
  passes : Nat

namespace Session

/-- A session in which nothing has happened. -/
def new (quiet : Duration) : Session where
  input := ""
  pending := .new quiet
  output := .blank
  collapsed := .empty
  keyOrder := .insertion
  passes := 0

/-- One pass over a text. -/
def pass (s : Session) (text : String) : Session :=
  let output := validate text
  { s with
    output := output
    collapsed := if output.value? == s.output.value? then s.collapsed else .empty
    passes := s.passes + 1 }

/-! ## Input -/

/-- Takes in a text, which is to wait for one quiet period from `now` on.  There is no result if
that is beyond the end of time. -/
def edit? (s : Session) (text : String) (now : Duration) : Option Session :=
  (s.pending.arm? text now).map fun (pending, _) => { s with input := text, pending := pending }

/-- The session with what a debouncer handed back: if it is a text, that has a pass. -/
def settle (s : Session) (taken : Debouncer String × Option String) : Session × Bool :=
  match taken with
  | (pending, some text) => ({ s with pending := pending }.pass text, true)
  | (pending, none) => ({ s with pending := pending }, false)

/-- A pass over the waiting text if it is due, and whether there was one. -/
def tick (s : Session) (now : Duration) : Session × Bool :=
  s.settle (s.pending.poll now)

/-- A pass over the waiting text, due or not, and whether there was one. -/
def flush (s : Session) : Session × Bool :=
  s.settle s.pending.flush

/-- Takes in a text and has a pass over it at once.  A waiting text is dropped. -/
def submit (s : Session) (text : String) : Session :=
  { s with input := text, pending := s.pending.cancel.1 }.pass text

/-! ## The tree -/

/-- Turns the flag of a path over, whether or not it names a container; the flag is handed back. -/
def toggle (s : Session) (p : Path) : Session × Bool :=
  let collapsed := s.collapsed.toggle p
  ({ s with collapsed := collapsed }, collapsed.contains p)

/-- Whether a path names a container of the document. -/
def namesContainer (s : Session) (p : Path) : Bool :=
  ((s.output.value?.bind p.resolve?).map Value.isContainer).getD false

/-- Sets the flag of a path if it names a container, and hands back whether it does. -/
def setCollapsed (s : Session) (p : Path) (flag : Bool) : Session × Bool :=
  if s.namesContainer p then ({ s with collapsed := s.collapsed.set p flag }, true) else (s, false)

/-- Sets the order of members. -/
def setKeyOrder (s : Session) (order : KeyOrder) : Session :=
  { s with keyOrder := order }

/-- **The lines of the tree.** -/
def tree (s : Session) : List Line :=
  match s.output.value? with
  | some v => render v s.collapsed s.keyOrder
  | none => []

end Session

/-! ## Sessions with a clock -/

/-- Something that happens to a session, or to its clock. -/
inductive Session.Event where
  | edit (text : String)
  | submit (text : String)
  | tick
  | flush
  | toggle (path : Path)
  | setCollapsed (path : Path) (flag : Bool)
  | setKeyOrder (order : KeyOrder)
  | advance (time : Duration)

/-- A session and the time. -/
structure Clocked where
  session : Session
  now : Duration

/-- The session and the time after an event, and the flag that it hands back, if any.  There is no
result if a time is beyond the end of time. -/
def Clocked.after? (c : Clocked) : Session.Event → Option (Clocked × Option Bool)
  | .edit text => (c.session.edit? text c.now).map fun s => ({ c with session := s }, none)
  | .submit text => some ({ c with session := c.session.submit text }, none)
  | .tick =>
    let (s, ran) := c.session.tick c.now
    some ({ c with session := s }, some ran)
  | .flush =>
    let (s, ran) := c.session.flush
    some ({ c with session := s }, some ran)
  | .toggle path =>
    let (s, flag) := c.session.toggle path
    some ({ c with session := s }, some flag)
  | .setCollapsed path flag =>
    let (s, done) := c.session.setCollapsed path flag
    some ({ c with session := s }, some done)
  | .setKeyOrder order => some ({ c with session := c.session.setKeyOrder order }, none)
  | .advance time => (c.now.add? time).map fun now => ({ c with now := now }, none)

/-- The session and the time after a history of events. -/
def Clocked.run? (c : Clocked) : List Session.Event → Option Clocked
  | [] => some c
  | e :: rest => (c.after? e).bind fun (next, _) => next.run? rest

end LiveJson
