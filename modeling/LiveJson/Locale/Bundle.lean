import LiveJson.Locale.Entries
import LiveJson.Text.Bytes
import LiveJson.Validation

/-!
# Bundles of locales

A bundle has the strings of every language the program speaks, and of no other.

## What is here

* `Bundle`, with `Bundle.get`, and the bundle that comes with the program.
* `LocaleError` — what can be wrong with a bundle or a code, in words.
* `Bundle.ofText` — a bundle from its text.  A text that cannot be read is reported as such whatever
  its codes; then a code that no language has, the least one by its bytes; then a language that is
  missing.
-/

set_option autoImplicit false

namespace LiveJson

open Json Text

/-- The strings of every language. -/
structure Bundle where
  en : Locale
  es : Locale
deriving DecidableEq, Repr

/-- The strings of a language. -/
def Bundle.get (b : Bundle) : Lang → Locale
  | .en => b.en
  | .es => b.es

/-- The bundle that comes with the program. -/
def Bundle.builtin : Bundle where
  en := ⟨"JSON Formatter", "Error", ⟨"Paste your JSON here...", "Input", "Output"⟩⟩
  es := ⟨"Formateador JSON", "Error", ⟨"Pega tu JSON aquí...", "Entrada", "Salida"⟩⟩

/-! ## Errors -/

/-- What is wrong with a bundle or a code. -/
inductive LocaleError where
  /-- The text is no map from codes to locales. -/
  | malformed (fault : RecordFault) (position : Position)
  /-- There are no strings for a language. -/
  | missing (lang : Lang)
  /-- No language has this code. -/
  | unsupported (code : String)

namespace LocaleError

/-- The error in words. -/
def message : LocaleError → String
  | .malformed fault position =>
    "locale bundle is malformed: " ++ atPosition fault.message position
  | .missing lang => "locale bundle has no strings for " ++ inBackquotes lang.code
  | .unsupported code => "unsupported language code " ++ inBackquotes code

/-- The kind of the error, for identifiers. -/
def kind : LocaleError → String
  | .malformed _ _ => "malformed"
  | .missing _ => "missing"
  | .unsupported _ => "unsupported"

/-- The identifier of the error. -/
def code (e : LocaleError) : String :=
  "jsonfold::locale::" ++ e.kind

/-- Advice to the user. -/
def help? : LocaleError → Option String
  | .unsupported _ => some ("supported codes: " ++ ", ".intercalate (Lang.all.map Lang.code))
  | _ => none

end LocaleError

/-- The language with a code, or the error that there is none. -/
def Lang.ofCode (code : String) : Except LocaleError Lang :=
  match Lang.ofCode? code with
  | some lang => .ok lang
  | none => .error (.unsupported code)

/-! ## From text to bundle -/

/-- The least of some texts by their bytes. -/
def leastText? : List String → Option String
  | [] => none
  | s :: rest => some (rest.foldl (fun least t => if byteLE least t then least else t) s)

/-- The least code among the entries that no language has. -/
def unsupported? (entries : List (String × Locale)) : Option String :=
  leastText? ((entries.map Prod.fst).filter fun code => (Lang.ofCode? code).isNone)

/-- The locale that is written last under the code of a language. -/
def lastLocale? (entries : List (String × Locale)) (lang : Lang) : Option Locale :=
  (entries.reverse.find? fun e => e.1 == lang.code).map Prod.snd

/-- The locale of a language, or the error that it is missing. -/
def localeOf (entries : List (String × Locale)) (lang : Lang) : Except LocaleError Locale :=
  match lastLocale? entries lang with
  | some locale => .ok locale
  | none => .error (.missing lang)

/-- The bundle with some entries. -/
def Bundle.ofEntries (entries : List (String × Locale)) : Except LocaleError Bundle :=
  match unsupported? entries with
  | some code => .error (.unsupported code)
  | none => do
    let en ← localeOf entries .en
    let es ← localeOf entries .es
    return ⟨en, es⟩

/-- **The bundle that a text is.** -/
def Bundle.ofText (text : String) : Except LocaleError Bundle :=
  match readEntries text.toList with
  | .error fault => .error (.malformed fault.error (Position.ofOffset text.toList fault.offset))
  | .ok entries => Bundle.ofEntries entries

/-- The bundle that comes with the program is what is read from its text. -/
example :
    (Bundle.ofText <|
      "\x7b\n" ++
      "  \"en\": \x7b\n" ++
      "    \"title\": \"JSON Formatter\",\n" ++
      "    \"error\": \"Error\",\n" ++
      "    \"labels\": \x7b\n" ++
      "      \"data\": \"Paste your JSON here...\",\n" ++
      "      \"input\": \"Input\",\n" ++
      "      \"output\": \"Output\"\n" ++
      "    \x7d\n" ++
      "  \x7d,\n" ++
      "  \"es\": \x7b\n" ++
      "    \"title\": \"Formateador JSON\",\n" ++
      "    \"error\": \"Error\",\n" ++
      "    \"labels\": \x7b\n" ++
      "      \"data\": \"Pega tu JSON aquí...\",\n" ++
      "      \"input\": \"Entrada\",\n" ++
      "      \"output\": \"Salida\"\n" ++
      "    \x7d\n" ++
      "  \x7d\n" ++
      "\x7d\n").toOption = some Bundle.builtin := by
  -- line by line, as the time to list the characters of a literal is quadratic in its length
  rw [Bundle.ofText]
  simp only [String.toList_append]
  decide +kernel

end LiveJson
