import LiveJson.Session

/-!
# Watching a file

A file is looked at again and again; whenever its content is not what it was last time, the content
is entered into a session.

## What is here

* `ReadError` and `Reading` — what looking at a file gives.
* `Watcher` and `Watcher.poll` — the change since the last look.  A file that is missing has not
  changed: editors replace a file by removing it first.
* `watchStep` — one look, followed by a pass if one is due.
* `watch` — a series of looks, with something done after each pass.
-/

set_option autoImplicit false

namespace LiveJson

/-! ## Looking at a file -/

/-- Why a file cannot be read. -/
inductive ReadError where
  /-- There is no such file. -/
  | notFound
  /-- It is a directory. -/
  | isDirectory
  /-- Its bytes are no text. -/
  | invalidText
  /-- Another reason, in the words of the system. -/
  | other (reason : String)
deriving DecidableEq, Repr

/-- The reason in words. -/
def ReadError.message : ReadError → String
  | .notFound => "No such file or directory (os error 2)"
  | .isDirectory => "Is a directory (os error 21)"
  | .invalidText => "stream did not contain valid UTF-8"
  | .other reason => reason

/-- What looking at a file gives: its content, or why it cannot be read. -/
abbrev Reading := Except ReadError String

/-- The reading of a file with some bytes. -/
def Reading.ofBytes (bytes : ByteArray) : Reading :=
  match String.fromUTF8? bytes with
  | some text => .ok text
  | none => .error .invalidText

/-- The content that a file had when it was last read. -/
structure Watcher where
  last : Option String
deriving DecidableEq, Repr

/-- A watcher that has not looked yet. -/
def Watcher.new : Watcher := ⟨none⟩

/-- Looks at a file, and hands back its content if that has changed. -/
def Watcher.poll (w : Watcher) : Reading → Except ReadError (Watcher × Option String)
  | .ok content => .ok (if w.last = some content then (w, none) else (⟨some content⟩, some content))
  | .error .notFound => .ok (w, none)
  | .error e => .error e

/-! ## Watching -/

/-- How many milliseconds pass between two looks. -/
def pollMillis : Nat := 50

/-- Why watching stops. -/
inductive WatchStop where
  /-- The file cannot be read. -/
  | unreadable (error : ReadError)
  /-- A quiet period ends beyond the end of time. -/
  | outOfTime
deriving DecidableEq, Repr

/-- One look at a file at a time: a change is entered into the session, and the session has a pass
if one is due.  The flag tells whether it had one. -/
def watchStep (w : Watcher) (s : Session) (reading : Reading) (now : Duration) :
    Except WatchStop (Watcher × Session × Bool) :=
  match w.poll reading with
  | .error e => .error (.unreadable e)
  | .ok (w', none) =>
    let (s', ran) := s.tick now
    .ok (w', s', ran)
  | .ok (w', some content) =>
    match s.edit? content now with
    | none => .error .outOfTime
    | some s' =>
      let (s'', ran) := s'.tick now
      .ok (w', s'', ran)

/-- What came of watching: the sessions after each pass, first to last, and how it ended. -/
structure Watched where
  passes : List Session
  stop : Except WatchStop (Watcher × Session)

/-- **A series of looks.**  After each pass, `onPass` is applied to the session. -/
def watch (onPass : Session → Session) : Watcher → Session → List (Reading × Duration) → Watched
  | w, s, [] => ⟨[], .ok (w, s)⟩
  | w, s, (reading, now) :: rest =>
    match watchStep w s reading now with
    | .error e => ⟨[], .error e⟩
    | .ok (w', s', false) => watch onPass w' s' rest
    | .ok (w', s', true) =>
      let watched := watch onPass w' (onPass s') rest
      ⟨onPass s' :: watched.passes, watched.stop⟩

end LiveJson
