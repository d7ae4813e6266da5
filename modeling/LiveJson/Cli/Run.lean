import LiveJson.Cli.Arguments
import LiveJson.Locale.Bundle
import LiveJson.Sample
import LiveJson.Text.Fold
import LiveJson.View
import LiveJson.Watch

/-!
# Running a command

What a run prints, and how it ends, as a function of what it reads.

## What is here

* `collapseAll`, `unmatched` — collapsing the paths of the command line in a session, and the paths
  among them that name no container.
* `rendering` — what is printed of a session.
* `runOnce` — a run that reads its input once: an `Outcome` with the exit code, the output, the
  message of an error and the paths that were warned about.
* `runWatching` — a run that watches a file, given what every look at the file shows.
-/

set_option autoImplicit false

namespace LiveJson.Cli

open LiveJson.Tree LiveJson.Text

/-! ## Sessions on the command line -/

/-- The session of a task, before any input. -/
def Task.session (t : Task) : Session :=
  (Session.new t.quiet).setKeyOrder t.order

/-- The session with every path collapsed that names a container. -/
def collapseAll (paths : List Path) (s : Session) : Session :=
  paths.foldl (fun s p => (s.setCollapsed p true).1) s

/-- The paths that name no container of the document, if there is a document. -/
def unmatched (paths : List Path) (s : Session) : List Path :=
  if s.output.value?.isSome then paths.filter fun p => !s.namesContainer p else []

/-- The lines of the document: its tree, or its formatted text. -/
def body (style : Style) (s : Session) : List String :=
  if style.tree then s.tree.map Line.text else linesOf s.output.formatted

/-- **What is printed of a session:** the lines of the document, or the page with both panes. -/
def rendering (style : Style) (s : Session) : String :=
  let locale := Bundle.builtin.get style.lang
  if style.panes then
    page locale [inputPane locale s.input, outputPane locale s.output (body style s)] style.layout
  else joinLines (body style s)

/-! ## One look -/

/-- How a run ends. -/
structure Outcome where
  /-- The exit code: 0 if all went well, 1 for an error, 2 for a command line that is refused. -/
  code : Nat
  stdout : String
  message : Option String
  /-- The paths that named no container. -/
  warnings : List Path
deriving DecidableEq, Repr

/-- A run that ends with an error before it prints anything. -/
def Outcome.failure (code : Nat) (message : String) : Outcome :=
  ⟨code, "", some message, []⟩

/-- A line of output; nothing is printed of an empty one. -/
def printed (text : String) : String :=
  if text.isEmpty then "" else text ++ "\n"

/-- What was to be done when reading failed. -/
def Source.readingContext : Source → String
  | .file path => "Failed to read file '" ++ path ++ "'"
  | _ => "Failed to read stdin"

/-- How many columns a line of a report has for its text: of eighty, two stay free and four are the
margin. -/
def reportWidth : Nat := 74

/-- A text as a report has it: folded, and its lines put together with spaces.  So a name that is
too long for a line has a space wherever it goes on in the next. -/
def reported (text : String) : String :=
  " ".intercalate (fold reportWidth text)

/-- The session of a run that reads its input once. -/
def sessionOf (t : Task) (input : String) : Session :=
  collapseAll t.collapse (t.session.submit input)

/-- **A run that reads its input once.** -/
def runOnce (t : Task) (input : Reading) : Outcome :=
  match input with
  | .error e => .failure 1 (reported t.source.readingContext ++ ": " ++ e.message)
  | .ok text =>
    let s := sessionOf t text
    { code := if s.output.error?.isSome then 1 else 0
      stdout := printed (rendering t.style s)
      message := s.output.error?.map Malformed.message
      warnings := unmatched t.collapse s }

/-! ## Watching -/

/-- The message of a run that is to watch something that is not a file. -/
def cannotWatchMessage : String := "--watch needs a FILE, not stdin"

/-- The file that a task watches. -/
def Task.watchedFile? (t : Task) : Option String :=
  match t.source with
  | .file path => some path
  | _ => none

/-- What a watching run prints after a pass. -/
def passOutput (style : Style) (s : Session) : String :=
  rendering style s ++ "\n\n"

/-- What a watching run says of a malformed input; with panes, the error is on the page. -/
def passError? (style : Style) (s : Session) : Option String :=
  if style.panes then none
  else s.output.error?.map fun m => (Bundle.builtin.get style.lang).error ++ ": " ++ m.message

/-- What comes of watching a file. -/
structure WatchOutcome where
  stdout : String
  errors : List String
  warnings : List Path
  /-- Why it ended, unless there was nothing more to look at. -/
  message : Option String
deriving DecidableEq, Repr

/-- Why watching ended, in words. -/
def stopMessage : WatchStop → String
  | .unreadable e => "Stopped watching: " ++ e.message
  | .outOfTime => overflowMessage

/-- **A run that watches a file,** given what each look at it shows and when. -/
def runWatching (t : Task) (looks : List (Reading × Duration)) : WatchOutcome :=
  let watched := watch (collapseAll t.collapse) .new t.session looks
  { stdout := String.join (watched.passes.map (passOutput t.style))
    errors := watched.passes.filterMap (passError? t.style)
    warnings := watched.passes.flatMap (unmatched t.collapse)
    message :=
      match watched.stop with
      | .error e => some (stopMessage e)
      | .ok _ => none }

end LiveJson.Cli
