/-!
# What would complete a text

Advice for a document that ends too early.  It comes from a scan that knows strings, escapes and
brackets and nothing else: `scan` runs over the whole text and keeps the brackets that are open.

A closing bracket closes the innermost open one of either kind, and closes nothing if none is open.
-/

set_option autoImplicit false

namespace LiveJson.Validation

/-- The kinds of brackets. -/
inductive Bracket where
  | square
  | curly
deriving DecidableEq, Repr

/-- The bracket that closes. -/
def Bracket.closer : Bracket → Char
  | .square => ']'
  | .curly => '}'

/-- Where the scan stands: outside strings, inside one, or after a backslash in one; with the open
brackets, innermost first. -/
inductive Scan where
  | outside (opened : List Bracket)
  | inside (opened : List Bracket)
  | escaping (opened : List Bracket)
deriving DecidableEq, Repr

/-- One more character. -/
def Scan.step : Scan → Char → Scan
  | .outside opened, c =>
    if c = '"' then .inside opened
    else if c = '[' then .outside (.square :: opened)
    else if c = '{' then .outside (.curly :: opened)
    else if c = ']' ∨ c = '}' then .outside opened.tail
    else .outside opened
  | .inside opened, c =>
    if c = '\\' then .escaping opened
    else if c = '"' then .outside opened
    else .inside opened
  | .escaping opened, _ => .inside opened

/-- The scan of a whole text. -/
def scan (text : List Char) : Scan :=
  text.foldl Scan.step (.outside [])

/-- What the user is told to do about a malformed document. -/
inductive Help where
  /-- The fault is not at the end of the text. -/
  | checkPunctuation
  /-- The text ends in a string. -/
  | closeString
  /-- Brackets are open: write these, innermost first. -/
  | addClosers (closers : List Char)
  /-- The text ends before its value, outside strings and brackets. -/
  | unfinished
deriving DecidableEq, Repr

/-- The advice in words. -/
def Help.message : Help → String
  | .checkPunctuation => "check the punctuation right before the marked position"
  | .closeString => "close the string with `\"`"
  | .addClosers closers => "add `" ++ String.ofList closers ++ "` at the end"
  | .unfinished => "the document ended before a value was complete"

/-- The advice that a scan gives at the end of the text. -/
def Scan.help : Scan → Help
  | .inside _ | .escaping _ => .closeString
  | .outside [] => .unfinished
  | .outside (b :: opened) => .addClosers ((b :: opened).map Bracket.closer)

/-- The advice for a text that ends too early. -/
def completionHelp (text : List Char) : Help :=
  (scan text).help

end LiveJson.Validation
