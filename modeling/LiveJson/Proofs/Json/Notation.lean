import LiveJson.Json.Document
import LiveJson.Json.Printer

/-!
# How documents are written

The notation of documents, told by the parts of a text and not by a reader: a list is a bracket, items
with a comma behind each but the last, and a bracket; and so on.  The reader goes from one character to
the next and keeps what it has seen in a stack of frames; here a text is taken as a whole, and whoever
wants to know what a text means need not follow the reader.

## What is here

* `CharText`, `StringText` — a character of a string is written as itself or as an escape, of which there
  are three kinds; so a string is written in many ways.
* `NumeralText` — a numeral is what the phases of `NumeralPhase` go through from its first character to
  its last.
* `ValueText`, `ElementText`, `MemberText` — a value, a value with white space around it, and a key with
  a value.  A map has all members that are written, also those with one key.

The items of a list are taken from the left, each with the comma behind it (`ItemsText`), as they come
to be read.
-/

set_option autoImplicit false

namespace LiveJson.Json

/-- White space and nothing else. -/
def Spaces (text : List Char) : Prop :=
  ∀ c ∈ text, isSpace c = true

theorem spaces_nil : Spaces [] :=
  fun _ h => nomatch h

theorem Spaces.append_singleton {text : List Char} {c : Char} (h : Spaces text)
    (hc : isSpace c = true) : Spaces (text ++ [c]) := by
  simpa [Spaces, or_imp, forall_and] using And.intro h hc

/-! ## Strings -/

/-- The number that hexadecimal digits spell, if all of them are digits. -/
def hexNumeral? (digits : List Char) : Option Nat :=
  digits.foldlM (fun n c => (hexValue? c).map (n * 16 + ·)) 0

/-- The UTF-16 unit that is named by four hexadecimal digits. -/
def unit? (digits : List Char) : Option Nat :=
  if digits.length = HexDigits.width then hexNumeral? digits else none

/-- **The ways to write a character of a string.** -/
inductive CharText : List Char → Char → Prop
  /-- The character itself. -/
  | plain {c : Char} : c ≠ '"' → c ≠ '\\' → 0x20 ≤ c.toNat → CharText [c] c
  /-- A letter behind a backslash. -/
  | letter {letter c : Char} : escaped? letter = some c → CharText ['\\', letter] c
  /-- The digits of the only unit of the character. -/
  | unit {digits : List Char} {unit : Nat} :
    unit? digits = some unit → isHighSurrogate unit = false → isLowSurrogate unit = false →
    CharText ('\\' :: 'u' :: digits) (Char.ofNat unit)
  /-- The digits of both units of the character. -/
  | pair {digits digits' : List Char} {high low : Nat} :
    unit? digits = some high → isHighSurrogate high = true →
    unit? digits' = some low → isLowSurrogate low = true →
    CharText ('\\' :: 'u' :: digits ++ '\\' :: 'u' :: digits') (ofSurrogates high low)

/-- The ways to write the characters of a string. -/
inductive CharsText : List Char → List Char → Prop
  | nil : CharsText [] []
  | snoc {text here chars : List Char} {c : Char} :
    CharsText text chars → CharText here c → CharsText (text ++ here) (chars ++ [c])

/-- The ways to write a string. -/
inductive StringText : List Char → String → Prop
  | mk {text : List Char} {s : String} :
    CharsText text s.toList → StringText ('"' :: text ++ ['"']) s

/-! ## Numerals -/

/-- The characters lead from one phase of a numeral to another. -/
inductive NumeralPhase.Reads : NumeralPhase → List Char → NumeralPhase → Prop
  | nil (phase : NumeralPhase) : Reads phase [] phase
  | snoc {phase middle last : NumeralPhase} {text : List Char} {c : Char} :
    Reads phase text middle → middle.step c = .more last → Reads phase (text ++ [c]) last

/-- The ways to write a number. -/
inductive NumeralText : List Char → Number → Prop
  | mk {c : Char} {text : List Char} {isNegative : Bool} {first last : NumeralPhase} {n : Number} :
    Lexeme.start? c = some (.number isNegative first) → first.Reads text last →
    last.finish isNegative = .ok n → NumeralText (c :: text) n

/-! ## Values -/

mutual
/-- **The ways to write a value.** -/
inductive ValueText : List Char → Value → Prop
  | null : ValueText ['n', 'u', 'l', 'l'] .null
  | bool (b : Bool) : ValueText (writeBool b) (.bool b)
  | number {text : List Char} {n : Number} : NumeralText text n → ValueText text (.number n)
  | string {text : List Char} {s : String} : StringText text s → ValueText text (.string s)
  | emptyList {spaces : List Char} : Spaces spaces → ValueText ('[' :: spaces ++ [']']) (.list [])
  | list {text here : List Char} {items : List Value} {v : Value} :
    ItemsText text items → ElementText here v →
    ValueText ('[' :: text ++ here ++ [']']) (.list (items ++ [v]))
  | emptyMap {spaces : List Char} : Spaces spaces → ValueText ('{' :: spaces ++ ['}']) (.map [])
  | map {text here : List Char} {members : Members} {m : String × Value} :
    MembersText text members → MemberText here m →
    ValueText ('{' :: text ++ here ++ ['}']) (.map (members ++ [m]))

/-- The ways to write a value with white space around it. -/
inductive ElementText : List Char → Value → Prop
  | mk {before text after : List Char} {v : Value} :
    Spaces before → ValueText text v → Spaces after → ElementText (before ++ text ++ after) v

/-- The ways to write the items of a list that others follow. -/
inductive ItemsText : List Char → List Value → Prop
  | nil : ItemsText [] []
  | snoc {text here : List Char} {items : List Value} {v : Value} :
    ItemsText text items → ElementText here v → ItemsText (text ++ here ++ [',']) (items ++ [v])

/-- The ways to write a key and its value. -/
inductive MemberText : List Char → String × Value → Prop
  | mk {before keyText after text : List Char} {key : String} {v : Value} :
    Spaces before → StringText keyText key → Spaces after → ElementText text v →
    MemberText (before ++ keyText ++ after ++ ':' :: text) (key, v)

/-- The ways to write the members of a map that others follow. -/
inductive MembersText : List Char → Members → Prop
  | nil : MembersText [] []
  | snoc {text here : List Char} {members : Members} {m : String × Value} :
    MembersText text members → MemberText here m →
    MembersText (text ++ here ++ [',']) (members ++ [m])
end

end LiveJson.Json
