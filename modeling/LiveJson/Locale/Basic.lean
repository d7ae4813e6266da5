/-!
# Languages and their strings

The languages the program speaks, and the strings that it needs in each of them.
-/

set_option autoImplicit false

namespace LiveJson

/-- A language the program speaks. -/
inductive Lang where
  | en
  | es
deriving DecidableEq, Repr

namespace Lang

/-- All languages, in the order in which they are asked for. -/
def all : List Lang := [.en, .es]

/-- No language is left out. -/
theorem mem_all (lang : Lang) : lang ∈ all := by
  cases lang <;> decide

/-- The code of a language. -/
def code : Lang → String
  | .en => "en"
  | .es => "es"

/-- The language with a code.  Codes are compared exactly. -/
def ofCode? (code : String) : Option Lang :=
  all.find? fun lang => lang.code == code

/-- A code is known exactly if some language has it. -/
theorem ofCode?_code (lang : Lang) : ofCode? lang.code = some lang := by
  cases lang <;> rfl

/-- The language that is spoken unless another is asked for. -/
def default : Lang := .en

end Lang

/-- The labels around the input and the output. -/
structure Labels where
  /-- What an empty input shows. -/
  data : String
  input : String
  output : String
deriving DecidableEq, Repr

/-- The strings of one language. -/
structure Locale where
  title : String
  /-- The heading over an error. -/
  error : String
  labels : Labels
deriving DecidableEq, Repr

end LiveJson
