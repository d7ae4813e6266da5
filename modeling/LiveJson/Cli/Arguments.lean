import LiveJson.Cli.Usage
import LiveJson.Debouncer
import LiveJson.Locale.Basic
import LiveJson.Tree.Render
import LiveJson.View

/-!
# Reading the command line

Arguments are read from left to right.  An option that is given its value as a separate word, and
the file, are taken account of only when the next option or file comes, or at the end; until then
they are *waiting*.  So an unknown option is reported before a bad value that is still waiting, and
a bad value before anything that comes later.

## What is here

* `Word` — a word of the command line by its shape.
* `Arguments` — what the words say, and `Reader.step`, which reads one word.
* `Command` and `Command.ofWords` — what the program is asked to do.
-/

set_option autoImplicit false

namespace LiveJson.Cli

open LiveJson.Text LiveJson.Tree

/-! ## Words -/

/-- A word of the command line by its shape. -/
inductive Word where
  /-- Two dashes: all words behind them are files. -/
  | escape
  /-- Two dashes and a name, perhaps with a value behind an equals sign. -/
  | long (name : String) (value : Option String)
  /-- A dash and some letters. -/
  | short (letters : List Char)
  /-- Anything else; a lone dash is no option. -/
  | plain (text : String)
deriving DecidableEq, Repr

/-- The name and the value of a long option. -/
def splitValue (cs : List Char) : String × Option String :=
  let (name, rest) := cs.span (· != '=')
  (String.ofList name, match rest with
    | [] => none
    | _ :: value => some (String.ofList value))

/-- A word by its shape. -/
def Word.ofString (s : String) : Word :=
  match s.toList with
  | ['-', '-'] => .escape
  | '-' :: '-' :: cs => let (name, value) := splitValue cs; .long name value
  | '-' :: c :: cs => .short (c :: cs)
  | _ => .plain s

/-! ## Arguments -/

/-- Where the input comes from, if the command line says so. -/
inductive Origin where
  | sample
  | file (path : String)
deriving DecidableEq, Repr

/-- An origin in messages. -/
def Origin.display : Origin → String
  | .sample => Switch.sample.display
  | .file _ => fileDisplay

/-- What the command line says. -/
structure Arguments where
  tree : Bool
  sortKeys : Bool
  panes : Bool
  watch : Bool
  /-- The paths to collapse, first to last. -/
  collapse : List String
  layout : Option Layout
  lang : Option Lang
  quietMillis : Option (Fin UInt64.size)
  /-- The origins, in the order in which they are named. -/
  origins : List Origin
deriving DecidableEq, Repr

/-- An empty command line. -/
def Arguments.empty : Arguments :=
  ⟨false, false, false, false, [], none, none, none, []⟩

/-- Why reading the command line stops early. -/
inductive Stop where
  | help
  | version
  | refused (error : UsageError)
deriving DecidableEq, Repr

/-- A word that is not taken account of yet. -/
inductive Waiting where
  | nothing
  /-- A setting, and its value if that has come. -/
  | setting (setting : Setting) (value : Option String)
  /-- A file. -/
  | file (path : String)
deriving DecidableEq, Repr

/-- Where the reader of the command line stands. -/
structure Reader where
  arguments : Arguments
  waiting : Waiting
  /-- Whether all words are files from here on. -/
  filesOnly : Bool
deriving DecidableEq, Repr

/-- Before the first word. -/
def Reader.start : Reader := ⟨.empty, .nothing, false⟩

/-- Whether a switch has been given. -/
def Arguments.has (a : Arguments) : Switch → Bool
  | .tree => a.tree
  | .sortKeys => a.sortKeys
  | .panes => a.panes
  | .sample => a.origins.contains .sample
  | .watch => a.watch

/-- The arguments with a switch. -/
def Arguments.turnOn (a : Arguments) : Switch → Arguments
  | .tree => { a with tree := true }
  | .sortKeys => { a with sortKeys := true }
  | .panes => { a with panes := true }
  | .sample => { a with origins := a.origins ++ [.sample] }
  | .watch => { a with watch := true }

/-- The layout of a name. -/
def layoutNamed? (name : String) : Option Layout :=
  if name = "rows" then some .rows else if name = "columns" then some .columns else none

/-- A value that has to be one of a few names. -/
def choice {α : Type} (setting : Setting) (value : String) (named? : String → Option α) :
    Except Stop α :=
  match named? value with
  | some a => .ok a
  | none =>
    .error (.refused
      (if value.isEmpty then .missingValue setting.display
       else .invalidValue value setting.display))

/-- A setting must not have a value yet. -/
def requireUnset {α : Type} (setting : Setting) (present : Option α) : Except Stop Unit :=
  if present.isSome then .error (.refused (.repeated setting.display)) else .ok ()

/-- The arguments with a value for a setting. -/
def Arguments.assign (a : Arguments) (setting : Setting) (value : String) :
    Except Stop Arguments :=
  match setting with
  | .collapse => .ok { a with collapse := a.collapse ++ [value] }
  | .layout => do
    requireUnset .layout a.layout
    let layout ← choice .layout value layoutNamed?
    return { a with layout := some layout }
  | .lang => do
    requireUnset .lang a.lang
    let lang ← choice .lang value Lang.ofCode?
    return { a with lang := some lang }
  | .quietMillis => do
    requireUnset .quietMillis a.quietMillis
    match readNumeral value with
    | .ok n => return { a with quietMillis := some n }
    | .error fault => .error (.refused (.invalidNumeral value Setting.quietMillis.display fault))

/-- The arguments with a file. -/
def Arguments.addFile (a : Arguments) (path : String) : Except Stop Arguments :=
  if path.isEmpty then .error (.refused (.missingValue fileDisplay))
  else .ok { a with origins := a.origins ++ [.file path] }

/-! ## One word -/

namespace Reader

/-- The reader when what was waiting is taken account of. -/
def settle (r : Reader) : Except Stop Reader :=
  match r.waiting with
  | .nothing => .ok r
  | .setting s none => .error (.refused (.missingValue s.display))
  | .setting s (some value) => do
    let arguments ← r.arguments.assign s value
    return { r with arguments := arguments, waiting := .nothing }
  | .file path => do
    let arguments ← r.arguments.addFile path
    return { r with arguments := arguments, waiting := .nothing }

/-- Whether a file has come, taken account of or not. -/
def hasFile (r : Reader) : Bool :=
  match r.waiting with
  | .file _ => true
  | _ => r.arguments.origins.any fun o => o != .sample

/-- A word that is a file.  There can be only one. -/
def takeFile (r : Reader) (path : String) : Except Stop Reader :=
  if r.hasFile then .error (.refused (.unexpectedArgument path))
  else do
    let r ← r.settle
    return { r with waiting := .file path }

/-- An option without a value: `use` says what it does once what was waiting is settled. -/
def takeFlag (r : Reader) (display : String) (value : Option String)
    (use : Reader → Except Stop Reader) : Except Stop Reader :=
  match value with
  | some v => .error (.refused (.unexpectedValue v display))
  | none => do
    let r ← r.settle
    use r

/-- A switch, which can be given once. -/
def takeSwitch (r : Reader) (s : Switch) (value : Option String) : Except Stop Reader :=
  r.takeFlag s.display value fun r =>
    if r.arguments.has s then .error (.refused (.repeated s.display))
    else .ok { r with arguments := r.arguments.turnOn s }

/-- A setting, whose value is attached or comes as the next word. -/
def takeSetting (r : Reader) (s : Setting) (value : Option String) : Except Stop Reader := do
  let r ← r.settle
  match value with
  | some v =>
    let arguments ← r.arguments.assign s v
    return { r with arguments := arguments }
  | none => return { r with waiting := .setting s none }

/-- A long option by its name. -/
def takeLong (r : Reader) (name : String) (value : Option String) : Except Stop Reader :=
  match Switch.all.find? fun s => s.name == name, Setting.all.find? fun s => s.name == name with
  | some s, _ => r.takeSwitch s value
  | none, some s => r.takeSetting s value
  | none, none =>
    if name = "verbose" then r.takeFlag verboseDisplay value .ok
    else if name = "help" then r.takeFlag "--help" value fun _ => .error .help
    else if name = "version" then r.takeFlag "--version" value fun _ => .error .version
    else .error (.refused (.unexpectedArgument ("--" ++ name)))

/-- Options of one letter, one after the other. -/
def takeShort (r : Reader) : List Char → Except Stop Reader
  | [] => .ok r
  | c :: rest => do
    if c = 'v' then
      let r ← r.settle
      r.takeShort rest
    else if c = 'h' then
      let _ ← r.settle
      .error .help
    else if c = 'V' then
      let _ ← r.settle
      .error .version
    else .error (.refused (.unexpectedArgument (String.ofList ['-', c])))

/-- A word that is no option: the value that a setting waits for, or a file. -/
def takePlain (r : Reader) (text : String) : Except Stop Reader :=
  match r.waiting with
  | .setting s none => .ok { r with waiting := .setting s (some text) }
  | _ => r.takeFile text

/-- One word. -/
def step (r : Reader) (word : String) : Except Stop Reader :=
  if r.filesOnly then r.takeFile word
  else
    match Word.ofString word with
    | .escape => .ok { r with filesOnly := true }
    | .long name value => r.takeLong name value
    | .short letters => r.takeShort letters
    | .plain text => r.takePlain text

/-- The end of the command line: arguments that do not go together are refused. -/
def finish (r : Reader) : Except Stop Arguments := do
  let a := (← r.settle).arguments
  match a.origins with
  | first :: second :: _ => .error (.refused (.conflict first.display second.display))
  | [] => if a.watch then .error (.refused .missingFile) else return a
  | [_] => return a

end Reader

/-- **What the words of a command line say.** -/
def Arguments.ofWords (words : List String) : Except Stop Arguments :=
  (words.foldlM Reader.step .start).bind Reader.finish

/-! ## Commands -/

/-- Where the input comes from. -/
inductive Source where
  | stdin
  | sample
  | file (path : String)
deriving DecidableEq, Repr

/-- The way to show a document. -/
structure Style where
  tree : Bool
  panes : Bool
  layout : Layout
  lang : Lang
deriving DecidableEq, Repr

/-- What a run of the program is to do. -/
structure Task where
  source : Source
  style : Style
  order : KeyOrder
  /-- The paths to collapse. -/
  collapse : List Path
  quiet : Duration
  watch : Bool
deriving DecidableEq, Repr

/-- Whether a path is a dash.  Slashes behind it, and points between or behind them, change nothing,
as they lead nowhere else. -/
def isDash (path : String) : Bool :=
  match path.toList.splitOn '/' with
  | ['-'] :: rest => rest.all fun step => step.isEmpty || step == ['.']
  | _ => false

/-- The source of the input: standard input unless something else is named.  A file called `-` is
standard input. -/
def Arguments.source (a : Arguments) : Source :=
  match a.origins with
  | .sample :: _ => .sample
  | .file path :: _ => if isDash path then .stdin else .file path
  | [] => .stdin

/-- The task that arguments set. -/
def Task.ofArguments (a : Arguments) : Task where
  source := a.source
  style := ⟨a.tree, a.panes, a.layout.getD .rows, a.lang.getD .default⟩
  order := if a.sortKeys then .sorted else .insertion
  collapse := a.collapse.map Path.parse
  quiet := .ofMillis (a.quietMillis.getD defaultQuietMillis)
  watch := a.watch

/-- What the program is asked to do. -/
inductive Command where
  | showHelp
  | showVersion
  | refuse (error : UsageError)
  | run (task : Task)
deriving DecidableEq, Repr

/-- **The command that a command line gives.** -/
def Command.ofWords (words : List String) : Command :=
  match Arguments.ofWords words with
  | .ok a => .run (.ofArguments a)
  | .error .help => .showHelp
  | .error .version => .showVersion
  | .error (.refused e) => .refuse e

end LiveJson.Cli
