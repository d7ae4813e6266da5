import LiveJson.Json.Document
import LiveJson.Json.Printer
import LiveJson.Text.Blank
import LiveJson.Text.Position
import LiveJson.Validation.Hint

/-!
# Validating a text

## What is here

* `Malformed` — what is known about a text that is no document: the cause, its position, the
  character to mark and the advice to the user.
* `check` — the document that a text is, or what is wrong with it.
* `Validation` and `validate` — the three outcomes of a pass over the input: it is blank, it is a
  document, or it is malformed.  A blank text is malformed too, but is not treated as an error.
-/

set_option autoImplicit false

namespace LiveJson

open Json Text Validation

/-! ## Malformed texts -/

/-- What is wrong with a text that is no document. -/
structure Malformed where
  /-- Why reading stopped. -/
  cause : Cause
  /-- Where it stopped. -/
  position : Position
  /-- The character to mark. -/
  span : Span
  /-- The advice to the user. -/
  help : Help
deriving DecidableEq, Repr

/-- Text in front of every cause. -/
def errorPrefix : String := "Invalid JSON: "

/-- The identifier of this kind of error. -/
def Malformed.code : String := "jsonfold::invalid_json"

/-- The label on the marked character. -/
def Malformed.label : String := "error here"

/-- A cause with its position, as messages show it. -/
def atPosition (cause : String) (p : Position) : String :=
  cause ++ " at line " ++ String.ofList (Nat.toDigits 10 p.line) ++ " column " ++
    String.ofList (Nat.toDigits 10 p.column)

/-- The error in words. -/
def Malformed.message (m : Malformed) : String :=
  errorPrefix ++ atPosition m.cause.message m.position

/-- The advice for a cause.  Only a text that ends too early is scanned for what is missing. -/
def helpFor (text : List Char) (cause : Cause) : Help :=
  if cause.isEnd then completionHelp text else .checkPunctuation

/-- What is wrong with a text, given why and where reading it stopped. -/
def Malformed.ofFault (text : List Char) (fault : SyntaxFault) : Malformed :=
  let position := Position.ofOffset text fault.offset
  { cause := fault.error
    position := position
    span := spanAt text (offsetOf text position)
    help := helpFor text fault.error }

/-! ## Validation -/

/-- **The document that a text is, or what is wrong with it.** -/
def check (text : String) : Except Malformed Value :=
  match readDocument text.toList with
  | .ok v => .ok v
  | .error fault => .error (Malformed.ofFault text.toList fault)

/-- The outcome of a pass over the input. -/
inductive Validation where
  /-- There is nothing but white space. -/
  | blank
  /-- The input is a document. -/
  | valid (value : Value)
  /-- The input is not blank, and no document. -/
  | malformed (error : Malformed)

/-- **One pass over the input.** -/
def validate (text : String) : Validation :=
  if IsBlank text then .blank
  else
    match check text with
    | .ok v => .valid v
    | .error m => .malformed m

namespace Validation

/-- The document, if there is one. -/
def value? : Validation → Option Value
  | .valid v => some v
  | _ => none

/-- The error, if there is one. -/
def error? : Validation → Option Malformed
  | .malformed m => some m
  | _ => none

/-- Whether the input is a document. -/
def isValid : Validation → Bool
  | .valid _ => true
  | _ => false

/-- Whether there is nothing to show. -/
def isBlank : Validation → Bool
  | .blank => true
  | _ => false

/-- The document as it is written; empty if there is none. -/
def formatted : Validation → String
  | .valid v => v.text
  | _ => ""

/-- The error in words; empty if there is none. -/
def message : Validation → String
  | .malformed m => m.message
  | _ => ""

end Validation

end LiveJson
