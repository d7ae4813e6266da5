import LiveJson.Text.Blank
import LiveJson.Text.Controls
import LiveJson.Text.Numeral

/-!
# The command line: its options and its help

## What is here

* `Switch`, `Setting` — the options without and with a value, and how messages name them.
* `UsageError` — why a command line is refused; `UsageError.message` says it in words, and
  `UsageError.headline` is the first line of that.
* `helpText`, `versionText`.
-/

set_option autoImplicit false

namespace LiveJson.Cli

open Text

/-- An option without a value that can be given once. -/
inductive Switch where
  | tree
  | sortKeys
  | panes
  | sample
  | watch
deriving DecidableEq, Repr

/-- All switches. -/
def Switch.all : List Switch := [.tree, .sortKeys, .panes, .sample, .watch]

/-- The name of a switch, without its dashes. -/
def Switch.name : Switch → String
  | .tree => "tree"
  | .sortKeys => "sort-keys"
  | .panes => "panes"
  | .sample => "sample"
  | .watch => "watch"

/-- A switch in messages. -/
def Switch.display (s : Switch) : String :=
  "--" ++ s.name

/-- An option with a value. -/
inductive Setting where
  | collapse
  | layout
  | lang
  | quietMillis
deriving DecidableEq, Repr

/-- All settings. -/
def Setting.all : List Setting := [.collapse, .layout, .lang, .quietMillis]

/-- The name of a setting, without its dashes. -/
def Setting.name : Setting → String
  | .collapse => "collapse"
  | .layout => "layout"
  | .lang => "lang"
  | .quietMillis => "quiet-ms"

/-- What the value of a setting is called. -/
def Setting.valueName : Setting → String
  | .collapse => "PATH"
  | .layout => "LAYOUT"
  | .lang => "LANG"
  | .quietMillis => "MS"

/-- A setting in messages. -/
def Setting.display (s : Setting) : String :=
  "--" ++ s.name ++ " <" ++ s.valueName ++ ">"

/-- The file in messages. -/
def fileDisplay : String := "[FILE]"

/-- The option for more log lines in messages; it can be given any number of times. -/
def verboseDisplay : String := "--verbose..."

/-- Why a command line is refused. -/
inductive UsageError where
  /-- There is no such option, or there is a file already. -/
  | unexpectedArgument (arg : String)
  /-- An option without a value is given one. -/
  | unexpectedValue (value : String) (option : String)
  /-- An option with a value is given none. -/
  | missingValue (option : String)
  /-- A value is none of those that an option can have. -/
  | invalidValue (value : String) (option : String)
  /-- A value is no numeral. -/
  | invalidNumeral (value : String) (option : String) (fault : NumeralFault)
  /-- An option is given twice. -/
  | repeated (option : String)
  /-- Two arguments exclude each other. -/
  | conflict (first second : String)
  /-- A file is needed. -/
  | missingFile
deriving DecidableEq, Repr

/-- Something between single quotes. -/
def inQuotes (s : String) : String :=
  "'" ++ s ++ "'"

/-- Something that was given on the command line, between single quotes.  It is shown without the
controls of a terminal, so that no argument can steer one. -/
def givenInQuotes (s : String) : String :=
  inQuotes (withoutControls s)

/-- The reason in words. -/
def UsageError.message : UsageError → String
  | .unexpectedArgument arg => "unexpected argument " ++ givenInQuotes arg ++ " found"
  | .unexpectedValue value option =>
    "unexpected value " ++ givenInQuotes value ++ " for " ++ inQuotes option ++
      " found; no more were expected"
  | .missingValue option =>
    "a value is required for " ++ inQuotes option ++ " but none was supplied"
  | .invalidValue value option =>
    "invalid value " ++ givenInQuotes value ++ " for " ++ inQuotes option
  | .invalidNumeral value option fault =>
    "invalid value " ++ givenInQuotes value ++ " for " ++ inQuotes option ++ ": " ++ fault.message
  | .repeated option => "the argument " ++ inQuotes option ++ " cannot be used multiple times"
  | .conflict first second =>
    "the argument " ++ inQuotes first ++ " cannot be used with " ++ inQuotes second
  | .missingFile => "the following required arguments were not provided:"

/-- The first line of the reason.  Line feeds that were given on the command line are kept, so the
reason can have more lines than one. -/
def UsageError.headline (e : UsageError) : String :=
  (linesOf e.message).headD ""

/-- What `--version` prints. -/
def versionText : String := "jsonfold 0.1.0"

/-- What `--help` prints. -/
def helpText : String :=
  "\n".intercalate [
    "json formatter that validates as you type and folds the result into a tree",
    "",
    "Usage: jsonfold [OPTIONS] [FILE]",
    "",
    "Arguments:",
    "  [FILE]  JSON file to format, stdin when omitted or `-`",
    "",
    "Options:",
    "      --tree             Print the collapsible tree instead of the formatted text",
    "      --sort-keys        Sort object keys in the tree",
    "      --collapse <PATH>  Collapse the container at PATH (`/` separated, empty for the " ++
      "root; write `~1` for a `/` and `~0` for a `~` inside a key)",
    "      --panes            Print the titled page with input and output panes",
    "      --layout <LAYOUT>  [default: rows] [possible values: rows, columns]",
    "      --lang <LANG>      [default: en] [possible values: en, es]",
    "      --sample           Use the built-in sample document as input",
    "      --watch            Re-render every time FILE changes",
    "      --quiet-ms <MS>    Quiet period before a change is validated [default: 300]",
    "  -v, --verbose...       ",
    "  -h, --help             Print help",
    "  -V, --version          Print version"]

end LiveJson.Cli
