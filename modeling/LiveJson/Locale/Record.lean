import LiveJson.Json.Grammar
import LiveJson.Text.Quoted

/-!
# Records inside a document

A record is a part of a document with a fixed set of fields, all of which are needed.  It is
written as a map from the names of the fields, in any order, or as the list of its fields in their
own order.

## What is here

* `RecordFault` — what can be wrong with a document that is to hold records, and its wording.
* `Fields` — the fields of a kind of record, and which of them a key names.
* `Place` and `Place.react` — where in a record the reader stands, and what a character does there.
  This is the part that all records share; what the fields hold is up to the grammar that uses it.
-/

set_option autoImplicit false

namespace LiveJson

open Json

/-! ## Faults -/

/-- What may be wanted at some place of a bundle. -/
inductive Wanted where
  | bundle
  | locale
  | labels
  | text
deriving DecidableEq, Repr

/-- What is wanted, in words. -/
def Wanted.description : Wanted → String
  | .bundle => "a map"
  | .locale => "struct Locale"
  | .labels => "struct Labels"
  | .text => "a string"

/-- What stands where something else is wanted.  Of a container only its kind is known, since it is
not read. -/
inductive Found where
  | scalar (value : Scalar)
  | list
  | map

/-- What was found, in words. -/
def Found.description : Found → String
  | .scalar .null => "null"
  | .scalar (.bool b) => "boolean `" ++ (if b then "true" else "false") ++ "`"
  | .scalar (.number n) =>
    (if n.isFloat then "floating point `" else "integer `") ++ n.text ++ "`"
  | .scalar (.string s) => "string " ++ Text.quote s
  | .list => "sequence"
  | .map => "map"

/-- Why a text is no bundle. -/
inductive RecordFault where
  /-- It is no document. -/
  | malformed (cause : Cause)
  /-- A value is of the wrong kind. -/
  | wrongKind (found : Found) (wanted : Wanted)
  /-- A record has no field of this name. -/
  | unknownField (name : String) (known : List String)
  /-- A field is there twice. -/
  | repeatedField (name : String)
  /-- A field is not there. -/
  | missingField (name : String)
  /-- A record is written as too short a list. -/
  | tooShort (length : Nat) (wanted : Wanted) (size : Nat)

/-- A name between backquotes. -/
def inBackquotes (name : String) : String :=
  "`" ++ name ++ "`"

/-- The fault in words. -/
def RecordFault.message : RecordFault → String
  | .malformed cause => cause.message
  | .wrongKind found wanted =>
    "invalid type: " ++ found.description ++ ", expected " ++ wanted.description
  | .unknownField name known =>
    "unknown field " ++ inBackquotes name ++ ", expected one of " ++
      ", ".intercalate (known.map inBackquotes)
  | .repeatedField name => "duplicate field " ++ inBackquotes name
  | .missingField name => "missing field " ++ inBackquotes name
  | .tooShort length wanted size =>
    "invalid length " ++ String.ofList (Nat.toDigits 10 length) ++ ", expected " ++
      wanted.description ++ " with " ++ String.ofList (Nat.toDigits 10 size) ++ " elements"

/-! ## Fields -/

/-- The fields `φ` of a kind of record. -/
structure Fields (φ : Type) where
  /-- The fields in their own order. -/
  all : List φ
  /-- The name of a field. -/
  name : φ → String
  /-- What the record is, for messages. -/
  wanted : Wanted

/-- The field that a key names, unless the record has it already. -/
def Fields.named {φ : Type} (fields : Fields φ) (isFilled : φ → Bool) (key : String) :
    Except RecordFault φ :=
  match fields.all.find? fun f => fields.name f == key with
  | none => .error (.unknownField key (fields.all.map fields.name))
  | some f => if isFilled f then .error (.repeatedField key) else .ok f

/-! ## Places -/

/-- Where in a record the reader stands.  The first five are places in a map, the others in a list;
there, `rest` are the fields still to come. -/
inductive Place (φ : Type) where
  | firstKey
  | nextKey
  | colon (field : φ)
  | value (field : φ)
  | afterValue
  | firstItem (field : φ) (rest : List φ)
  | nextItem (field : φ) (rest : List φ)
  | afterItem (rest : List φ)
  | surplus

/-- Where a record that is written as a list begins. -/
def Place.ofList {φ : Type} : List φ → Place φ
  | [] => .afterItem []
  | f :: rest => .firstItem f rest

/-- What a character does in a record. -/
inductive Move (φ : Type) where
  /-- It is a mark of its own. -/
  | goto (next : Place φ)
  /-- It starts a key. -/
  | key
  /-- It starts the value of a field, and `after` is the place behind that. -/
  | field (field : φ) (after : Place φ)
  /-- It ends the record. -/
  | close
  /-- It cannot stand there; reading stops `advance` bytes behind its start. -/
  | fail (fault : RecordFault) (advance : Nat)

/-- A character at a place. -/
def Place.react {φ : Type} (fields : Fields φ) : Place φ → Char → Move φ
  | .firstKey, c =>
    if c = '"' then .key
    else if c = '}' then .close
    else .fail (.malformed .keyNotString) 1
  | .nextKey, c =>
    if c = '"' then .key
    else if c = '}' then .fail (.malformed .trailingComma) 1
    else .fail (.malformed .keyNotString) 1
  | .colon f, c => if c = ':' then .goto (.value f) else .fail (.malformed .expectedColon) 1
  | .value f, _ => .field f .afterValue
  | .afterValue, c =>
    if c = ',' then .goto .nextKey
    else if c = '}' then .close
    else .fail (.malformed .expectedMapEnd) 1
  | .firstItem f rest, c =>
    if c = ']' then .fail (.tooShort 0 fields.wanted fields.all.length) 1
    else .field f (.afterItem rest)
  | .nextItem f rest, c =>
    if c = ']' then .fail (.malformed .trailingComma) 1 else .field f (.afterItem rest)
  | .afterItem (f :: rest), c =>
    if c = ',' then .goto (.nextItem f rest)
    else if c = ']' then
      .fail (.tooShort (fields.all.length - (rest.length + 1)) fields.wanted fields.all.length) 1
    else .fail (.malformed .expectedListEnd) 1
  | .afterItem [], c =>
    if c = ']' then .close
    else if c = ',' then .goto .surplus
    else .fail (.malformed .trailingCharacters) 1
  | .surplus, c =>
    if c = ']' then .fail (.malformed .trailingComma) 1
    else .fail (.malformed .trailingCharacters) 1

/-- What is wrong if the text ends at a place. -/
def Place.atEnd {φ : Type} : Place φ → Cause
  | .nextKey | .value _ | .nextItem _ _ => .endInValue
  | .firstKey | .colon _ | .afterValue => .endInMap
  | .firstItem _ _ | .afterItem _ => .endInList
  | .surplus => .trailingCharacters

end LiveJson
