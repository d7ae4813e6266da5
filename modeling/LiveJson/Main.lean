import LiveJson.Cli.Run

/-!
# The program

Reads what a command asks for, and prints what `LiveJson.Cli.runOnce` and `LiveJson.watch` make of
it.  Everything that decides what is printed is in the modules imported here.
-/

set_option autoImplicit false

namespace LiveJson.Cli

/-- What an error of the system means for reading a file. -/
def readErrorOf : IO.Error → ReadError
  | .noFileOrDirectory .. => .notFound
  | .inappropriateType .. => .isDirectory
  | e => .other e.toString

/-- Reads a file. -/
def readPath (path : String) : IO Reading := do
  try
    return Reading.ofBytes (← IO.FS.readBinFile path)
  catch e => return .error (readErrorOf e)

/-- Reads a stream to its end, behind what has been read of it. -/
partial def readRest (stream : IO.FS.Stream) (read : ByteArray) : IO ByteArray := do
  let bytes ← stream.read 65536
  if bytes.isEmpty then return read else readRest stream (read ++ bytes)

/-- Reads the input of a task. -/
def readSource : Source → IO Reading
  | .stdin => do return Reading.ofBytes (← readRest (← IO.getStdin) .empty)
  | .sample => return .ok sampleText
  | .file path => readPath path

/-- Prints a line for each path that named no container. -/
def warn (paths : List Tree.Path) : IO Unit :=
  paths.forM fun p => IO.eprintln ("no container to collapse: " ++ p.text)

/-- Prints how a run ended. -/
def report (o : Outcome) : IO UInt32 := do
  warn o.warnings
  IO.print o.stdout
  if let some message := o.message then IO.eprintln ("Error: " ++ message)
  return UInt32.ofNat o.code

/-- Looks at a file until that fails, and prints the session after each pass. -/
partial def watchOn (t : Task) (path : String) (w : Watcher) (s : Session) : IO UInt32 := do
  let now := (Duration.ofNanos? (← IO.monoNanosNow)).getD .zero
  let watched := watch (collapseAll t.collapse) w s [(← readPath path, now)]
  for passed in watched.passes do
    warn (unmatched t.collapse passed)
    IO.print (passOutput t.style passed)
    if let some e := passError? t.style passed then IO.eprintln e
    (← IO.getStdout).flush
  match watched.stop with
  | .error e => report (.failure 1 (stopMessage e))
  | .ok (w', s') =>
    IO.sleep (UInt32.ofNat pollMillis)
    watchOn t path w' s'

/-- Runs a task. -/
def perform (t : Task) : IO UInt32 := do
  if t.watch then
    match t.watchedFile? with
    | some path => watchOn t path .new t.session
    | none => report (.failure 1 cannotWatchMessage)
  else report (runOnce t (← readSource t.source))

/-- Obeys a command. -/
def obey : Command → IO UInt32
  | .showHelp => do
    IO.println helpText
    return 0
  | .showVersion => do
    IO.println versionText
    return 0
  | .refuse e => do
    IO.eprintln ("error: " ++ e.message)
    return 2
  | .run t => perform t

end LiveJson.Cli

/-- The program, given the words of its command line. -/
def main (args : List String) : IO UInt32 :=
  LiveJson.Cli.obey (LiveJson.Cli.Command.ofWords args)
