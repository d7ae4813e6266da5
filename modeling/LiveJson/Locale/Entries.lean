import LiveJson.Locale.Basic
import LiveJson.Locale.Record

/-!
# Reading the locales of a bundle

A bundle is written as a map from codes to locales.  A locale is a record of two headings and the
labels, and the labels are a record of three texts.

## What is here

* `LocaleDraft`, `LabelsDraft` — records of which some fields have been read, and the records once
  none is missing.
* `Entries.State`, `Entries.Slot` and `Entries.grammar` — the grammar of bundles.
* `readEntries` — the codes and locales of a bundle, in the order in which they are written and with
  repeated codes.  Which codes there must be is not its business.

When a key names no field, or one that is there already, the reader has not yet looked at what
follows.  It notices the fault behind the white space after the key, and behind a brace that closes
the record right there (`Entries.State.failing`).
-/

set_option autoImplicit false

namespace LiveJson

open Json

/-! ## The fields of the records -/

/-- The fields of the labels. -/
inductive LabelField where
  | data
  | input
  | output
deriving DecidableEq, Repr

/-- The fields of a locale that are texts. -/
inductive Heading where
  | title
  | error
deriving DecidableEq, Repr

/-- The fields of a locale. -/
inductive LocaleField where
  | heading (heading : Heading)
  | labels
deriving DecidableEq, Repr

/-- Labels as a record. -/
def labelFields : Fields LabelField where
  all := [.data, .input, .output]
  name
    | .data => "data"
    | .input => "input"
    | .output => "output"
  wanted := .labels

/-- A locale as a record. -/
def localeFields : Fields LocaleField where
  all := [.heading .title, .heading .error, .labels]
  name
    | .heading .title => "title"
    | .heading .error => "error"
    | .labels => "labels"
  wanted := .locale

/-! ## Drafts -/

/-- Labels of which some have been read. -/
structure LabelsDraft where
  data : Option String
  input : Option String
  output : Option String
deriving DecidableEq, Repr

namespace LabelsDraft

/-- No label has been read. -/
def empty : LabelsDraft := ⟨none, none, none⟩

/-- Whether a label has been read. -/
def isFilled (d : LabelsDraft) : LabelField → Bool
  | .data => d.data.isSome
  | .input => d.input.isSome
  | .output => d.output.isSome

/-- The draft with a label. -/
def fill (d : LabelsDraft) (field : LabelField) (text : String) : LabelsDraft :=
  match field with
  | .data => { d with data := some text }
  | .input => { d with input := some text }
  | .output => { d with output := some text }

/-- The labels, or the first one that is missing. -/
def complete (d : LabelsDraft) : Except RecordFault Labels :=
  match d.data, d.input, d.output with
  | some data, some input, some output => .ok ⟨data, input, output⟩
  | none, _, _ => .error (.missingField "data")
  | some _, none, _ => .error (.missingField "input")
  | some _, some _, none => .error (.missingField "output")

end LabelsDraft

/-- A locale of which some fields have been read. -/
structure LocaleDraft where
  title : Option String
  error : Option String
  labels : Option Labels
deriving DecidableEq, Repr

namespace LocaleDraft

/-- No field has been read. -/
def empty : LocaleDraft := ⟨none, none, none⟩

/-- Whether a field has been read. -/
def isFilled (d : LocaleDraft) : LocaleField → Bool
  | .heading .title => d.title.isSome
  | .heading .error => d.error.isSome
  | .labels => d.labels.isSome

/-- The draft with a heading. -/
def fillHeading (d : LocaleDraft) (heading : Heading) (text : String) : LocaleDraft :=
  match heading with
  | .title => { d with title := some text }
  | .error => { d with error := some text }

/-- The draft with the labels. -/
def fillLabels (d : LocaleDraft) (labels : Labels) : LocaleDraft :=
  { d with labels := some labels }

/-- The locale, or the first field that is missing. -/
def complete (d : LocaleDraft) : Except RecordFault Locale :=
  match d.title, d.error, d.labels with
  | some title, some error, some labels => .ok ⟨title, error, labels⟩
  | none, _, _ => .error (.missingField "title")
  | some _, none, _ => .error (.missingField "error")
  | some _, some _, none => .error (.missingField "labels")

end LocaleDraft

namespace Entries

/-! ## States and slots -/

/-- A locale that is being read under a code, behind the entries before it, last one first. -/
structure Outer where
  entries : List (String × Locale)
  code : String
  draft : LocaleDraft

/-- What may come next in a bundle. -/
inductive State where
  /-- The bundle. -/
  | start
  /-- The first code, or the end. -/
  | firstCode
  /-- A code, after a comma. -/
  | nextCode (entries : List (String × Locale))
  /-- The colon after a code. -/
  | colon (entries : List (String × Locale)) (code : String)
  /-- The locale of a code. -/
  | locale (entries : List (String × Locale)) (code : String)
  /-- A comma or the end, after a locale. -/
  | afterLocale (entries : List (String × Locale))
  /-- Something inside a locale. -/
  | inLocale (outer : Outer) (place : Place LocaleField)
  /-- Something inside the labels of a locale, which is read on at `back`. -/
  | inLabels (outer : Outer) (back : Place LocaleField) (draft : LabelsDraft)
      (place : Place LabelField)
  /-- The reader has met a key that cannot stand there. -/
  | failing (fault : RecordFault)
  /-- Nothing, after the bundle. -/
  | done (entries : List (String × Locale))

/-- Where the value of a lexeme goes. -/
inductive Slot where
  /-- It is a code. -/
  | code (entries : List (String × Locale))
  /-- It is a key of a locale. -/
  | field (outer : Outer)
  /-- It is a heading, and the locale is read on at `after`. -/
  | heading (outer : Outer) (heading : Heading) (after : Place LocaleField)
  /-- It is a key of the labels. -/
  | labelField (outer : Outer) (back : Place LocaleField) (draft : LabelsDraft)
  /-- It is a label, and the labels are read on at `after`. -/
  | label (outer : Outer) (back : Place LocaleField) (draft : LabelsDraft) (label : LabelField)
      (after : Place LabelField)
  /-- It stands where a container is wanted. -/
  | misplaced (wanted : Wanted)

/-! ## The grammar -/

/-- A character that is to start a lexeme for a slot. -/
def beginLexeme (slot : Slot) (c : Char) : Reaction State Slot RecordFault :=
  match Lexeme.start? c with
  | some lexeme => .begin lexeme slot
  | none => .fail (.malformed .expectedValue) 1

/-- A character that is to start a text.  Containers are not read. -/
def beginText (slot : Slot) (c : Char) : Reaction State Slot RecordFault :=
  if c = '[' then .fail (.wrongKind .list .text) 0
  else if c = '{' then .fail (.wrongKind .map .text) 0
  else beginLexeme slot c

/-- A character that is to start a record, written as a map or as a list. -/
def beginRecord {φ : Type} (fields : Fields φ) (enter : Place φ → State) (c : Char) :
    Reaction State Slot RecordFault :=
  if c = '{' then .goto (enter .firstKey)
  else if c = '[' then .goto (enter (.ofList fields.all))
  else beginLexeme (.misplaced fields.wanted) c

/-- A character that is to start the bundle, which is not written as a list. -/
def beginBundle (c : Char) : Reaction State Slot RecordFault :=
  if c = '{' then .goto .firstCode
  else if c = '[' then .fail (.wrongKind .list .bundle) 0
  else beginLexeme (.misplaced .bundle) c

/-- A character inside a locale. -/
def reactInLocale (outer : Outer) (place : Place LocaleField) (c : Char) :
    Reaction State Slot RecordFault :=
  match place.react localeFields c with
  | .goto next => .goto (.inLocale outer next)
  | .key => .begin (.string [] .plain) (.field outer)
  | .field (.heading h) after => beginText (.heading outer h after) c
  | .field .labels after => beginRecord labelFields (.inLabels outer after .empty) c
  | .close =>
    match outer.draft.complete with
    | .ok locale => .goto (.afterLocale ((outer.code, locale) :: outer.entries))
    | .error fault => .fail fault 1
  | .fail fault advance => .fail fault advance

/-- A character inside labels. -/
def reactInLabels (outer : Outer) (back : Place LocaleField) (draft : LabelsDraft)
    (place : Place LabelField) (c : Char) : Reaction State Slot RecordFault :=
  match place.react labelFields c with
  | .goto next => .goto (.inLabels outer back draft next)
  | .key => .begin (.string [] .plain) (.labelField outer back draft)
  | .field f after => beginText (.label outer back draft f after) c
  | .close =>
    match draft.complete with
    | .ok labels => .goto (.inLocale { outer with draft := outer.draft.fillLabels labels } back)
    | .error fault => .fail fault 1
  | .fail fault advance => .fail fault advance

/-- What a character other than white space does between lexemes. -/
def react : State → Char → Reaction State Slot RecordFault
  | .start, c => beginBundle c
  | .firstCode, c =>
    if c = '"' then .begin (.string [] .plain) (.code [])
    else if c = '}' then .goto (.done [])
    else .fail (.malformed .keyNotString) 1
  | .nextCode entries, c =>
    if c = '"' then .begin (.string [] .plain) (.code entries)
    else if c = '}' then .fail (.malformed .trailingComma) 1
    else .fail (.malformed .keyNotString) 1
  | .colon entries code, c =>
    if c = ':' then .goto (.locale entries code) else .fail (.malformed .expectedColon) 1
  | .locale entries code, c => beginRecord localeFields (.inLocale ⟨entries, code, .empty⟩) c
  | .afterLocale entries, c =>
    if c = ',' then .goto (.nextCode entries)
    else if c = '}' then .goto (.done entries.reverse)
    else .fail (.malformed .expectedMapEnd) 1
  | .inLocale outer place, c => reactInLocale outer place c
  | .inLabels outer back draft place, c => reactInLabels outer back draft place c
  | .failing fault, c => .fail fault (if c = '}' then 1 else 0)
  | .done _, _ => .fail (.malformed .trailingCharacters) 1

/-- The value of a lexeme goes into its slot. -/
def fill : Slot → Scalar → Except RecordFault State
  | .code entries, .string code => .ok (.colon entries code)
  | .field outer, .string key =>
    match localeFields.named outer.draft.isFilled key with
    | .ok f => .ok (.inLocale outer (.colon f))
    | .error fault => .ok (.failing fault)
  | .heading outer h after, .string text =>
    .ok (.inLocale { outer with draft := outer.draft.fillHeading h text } after)
  | .labelField outer back draft, .string key =>
    match labelFields.named draft.isFilled key with
    | .ok f => .ok (.inLabels outer back draft (.colon f))
    | .error fault => .ok (.failing fault)
  | .label outer back draft f after, .string text =>
    .ok (.inLabels outer back (draft.fill f text) after)
  | .misplaced wanted, v => .error (.wrongKind (.scalar v) wanted)
  | _, v => .error (.wrongKind (.scalar v) .text)

/-- The end of the text. -/
def finish : State → Except RecordFault (List (String × Locale))
  | .start | .nextCode _ | .locale _ _ => .error (.malformed .endInValue)
  | .firstCode | .colon _ _ | .afterLocale _ => .error (.malformed .endInMap)
  | .inLocale _ place => .error (.malformed place.atEnd)
  | .inLabels _ _ _ place => .error (.malformed place.atEnd)
  | .failing fault => .error fault
  | .done entries => .ok entries

/-- The grammar of bundles. -/
def grammar : Grammar State Slot RecordFault (List (String × Locale)) where
  react := react
  fill := fill
  finish := finish
  malformed := .malformed

end Entries

/-- **The codes and locales of a bundle,** as they are written. -/
def readEntries (text : List Char) : Except (Fault RecordFault) (List (String × Locale)) :=
  Entries.grammar.read .start text

end LiveJson
