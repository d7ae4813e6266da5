/-!
# Causes of a malformed document

Why a text is no document.  A cause is either that the text ends too early, or that some character
cannot stand where it does; the wording is in `Cause.message`.
-/

set_option autoImplicit false

namespace LiveJson.Json

/-- Why reading a document stops. -/
inductive Cause where
  /-- The text ends where a value is needed, or inside a word or a number. -/
  | endInValue
  /-- The text ends inside a list, where an item could end. -/
  | endInList
  /-- The text ends inside a map, where no value is needed. -/
  | endInMap
  /-- The text ends inside a string. -/
  | endInString
  /-- The character starts no value. -/
  | expectedValue
  /-- A word that starts like `null`, `true` or `false` goes on differently. -/
  | expectedWord
  /-- Neither a comma nor a bracket follows an item. -/
  | expectedListEnd
  /-- Neither a comma nor a brace follows a member. -/
  | expectedMapEnd
  /-- No colon follows a key. -/
  | expectedColon
  /-- A key does not start with a quote. -/
  | keyNotString
  /-- A bracket or brace follows a comma. -/
  | trailingComma
  /-- There is more text behind the document. -/
  | trailingCharacters
  /-- A digit is missing, or follows a leading zero. -/
  | invalidNumber
  /-- The number is too large for a double. -/
  | numberOutOfRange
  /-- There is no such escape. -/
  | invalidEscape
  /-- Half of a surrogate pair stands alone. -/
  | loneSurrogate
  /-- The second half of a surrogate pair does not follow the first. -/
  | missingSurrogate
  /-- A control character stands in a string. -/
  | controlCharacter
  /-- Too many containers are open at once. -/
  | tooDeep
deriving DecidableEq, Repr

/-- The cause in words. -/
def Cause.message : Cause → String
  | .endInValue => "EOF while parsing a value"
  | .endInList => "EOF while parsing a list"
  | .endInMap => "EOF while parsing an object"
  | .endInString => "EOF while parsing a string"
  | .expectedValue => "expected value"
  | .expectedWord => "expected ident"
  | .expectedListEnd => "expected `,` or `]`"
  | .expectedMapEnd => "expected `,` or `\x7d`"
  | .expectedColon => "expected `:`"
  | .keyNotString => "key must be a string"
  | .trailingComma => "trailing comma"
  | .trailingCharacters => "trailing characters"
  | .invalidNumber => "invalid number"
  | .numberOutOfRange => "number out of range"
  | .invalidEscape => "invalid escape"
  | .loneSurrogate => "lone leading surrogate in hex escape"
  | .missingSurrogate => "unexpected end of hex escape"
  | .controlCharacter => "control character (\\u0000-\\u001F) found while parsing a string"
  | .tooDeep => "recursion limit exceeded"

/-- Whether more text could have made the document complete, as far as this cause tells. -/
def Cause.isEnd : Cause → Bool
  | .endInValue | .endInList | .endInMap | .endInString => true
  | _ => false

end LiveJson.Json
