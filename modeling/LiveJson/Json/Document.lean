import LiveJson.Json.Grammar

/-!
# Reading documents

The grammar of documents.  A `Frame` is a container that has been opened and not yet closed, with
what has been read of it; a `State` is what may come next inside the open containers, innermost
first.

## What is here

* `State`, `Slot` and `grammar` — the grammar.  Every state can be reached: it holds no more than
  what the text before it has said.
* `readMembers` — a document with the members of its maps as they are written, repeated keys
  included.
* `readDocument` — the document itself, in which each key of a map has one member
  (`Value.unique`).
* `State.open`, `Slot.open` — which containers are open, and the brackets that close them.
-/

set_option autoImplicit false

namespace LiveJson.Json.Document

/-- A container that is being read, with the contents so far, last one first. -/
inductive Frame where
  /-- A list. -/
  | list (items : List Value)
  /-- A map, in the value of `key`. -/
  | map (members : Members) (key : String)

/-- What may come next, inside the containers `outer`. -/
inductive State where
  /-- The value of the document, or of a member. -/
  | value (outer : List Frame)
  /-- The first item of a list, or its end. -/
  | firstItem (outer : List Frame)
  /-- An item of a list, after a comma. -/
  | nextItem (items : List Value) (outer : List Frame)
  /-- A comma or the end of a list, after an item. -/
  | afterItem (items : List Value) (outer : List Frame)
  /-- The first key of a map, or its end. -/
  | firstKey (outer : List Frame)
  /-- A key of a map, after a comma. -/
  | nextKey (members : Members) (outer : List Frame)
  /-- The colon after a key. -/
  | colon (members : Members) (key : String) (outer : List Frame)
  /-- A comma or the end of a map, after a member. -/
  | afterMember (members : Members) (outer : List Frame)
  /-- Nothing, after the document. -/
  | done (value : Value)

/-- Where the value of a lexeme goes. -/
inductive Slot where
  /-- It is the next value in the innermost open container, or the document. -/
  | value (outer : List Frame)
  /-- It is a key. -/
  | key (members : Members) (outer : List Frame)

/-- How many containers may be open at once. -/
def maxDepth : Nat := 127

/-- The state after a complete value. -/
def attach : List Frame → Value → State
  | [], v => .done v
  | .list items :: outer, v => .afterItem (v :: items) outer
  | .map members key :: outer, v => .afterMember ((key, v) :: members) outer

/-- A character where a value is to start. -/
def beginValue (outer : List Frame) (c : Char) : Reaction State Slot Cause :=
  if c = '[' then if outer.length < maxDepth then .goto (.firstItem outer) else .fail .tooDeep 1
  else if c = '{' then if outer.length < maxDepth then .goto (.firstKey outer) else .fail .tooDeep 1
  else
    match Lexeme.start? c with
    | some lexeme => .begin lexeme (.value outer)
    | none => .fail .expectedValue 1

/-- What a character other than white space does between lexemes. -/
def react : State → Char → Reaction State Slot Cause
  | .value outer, c => beginValue outer c
  | .firstItem outer, c =>
    if c = ']' then .goto (attach outer (.list [])) else beginValue (.list [] :: outer) c
  | .nextItem items outer, c =>
    if c = ']' then .fail .trailingComma 1 else beginValue (.list items :: outer) c
  | .afterItem items outer, c =>
    if c = ',' then .goto (.nextItem items outer)
    else if c = ']' then .goto (attach outer (.list items.reverse))
    else .fail .expectedListEnd 1
  | .firstKey outer, c =>
    if c = '"' then .begin (.string [] .plain) (.key [] outer)
    else if c = '}' then .goto (attach outer (.map []))
    else .fail .keyNotString 1
  | .nextKey members outer, c =>
    if c = '"' then .begin (.string [] .plain) (.key members outer)
    else if c = '}' then .fail .trailingComma 1
    else .fail .keyNotString 1
  | .colon members key outer, c =>
    if c = ':' then .goto (.value (.map members key :: outer)) else .fail .expectedColon 1
  | .afterMember members outer, c =>
    if c = ',' then .goto (.nextKey members outer)
    else if c = '}' then .goto (attach outer (.map members.reverse))
    else .fail .expectedMapEnd 1
  | .done _, _ => .fail .trailingCharacters 1

/-- The value of a lexeme goes into its slot.  Only strings are begun where a key is wanted. -/
def fill : Slot → Scalar → Except Cause State
  | .value outer, v => .ok (attach outer v.toValue)
  | .key members outer, .string key => .ok (.colon members key outer)
  | .key _ _, _ => .error .keyNotString

/-- The end of the text. -/
def finish : State → Except Cause Value
  | .value _ | .nextItem _ _ | .nextKey _ _ => .error .endInValue
  | .firstItem _ | .afterItem _ _ => .error .endInList
  | .firstKey _ | .colon _ _ _ | .afterMember _ _ => .error .endInMap
  | .done v => .ok v

/-- The grammar of documents. -/
def grammar : Grammar State Slot Cause Value where
  react := react
  fill := fill
  finish := finish
  malformed := id

/-! ## Open containers -/

/-- The bracket that closes a container. -/
def Frame.closer : Frame → Char
  | .list _ => ']'
  | .map _ _ => '}'

/-- The brackets that would close the open containers, innermost first. -/
def State.closers : State → List Char
  | .value outer => outer.map Frame.closer
  | .firstItem outer | .nextItem _ outer | .afterItem _ outer => ']' :: outer.map Frame.closer
  | .firstKey outer | .nextKey _ outer | .colon _ _ outer | .afterMember _ outer =>
    '}' :: outer.map Frame.closer
  | .done _ => []

/-- The brackets that would close the containers open around a lexeme, innermost first. -/
def Slot.closers : Slot → List Char
  | .value outer => outer.map Frame.closer
  | .key _ outer => '}' :: outer.map Frame.closer

/-- The brackets that would close the containers open where a reader stands, innermost first. -/
def closers : Config State Slot → List Char
  | .between state => state.closers
  | .within _ slot => slot.closers

end LiveJson.Json.Document

namespace LiveJson.Json

/-- Why a text is no document, and the byte offset up to which it was looked at. -/
abbrev SyntaxFault := Fault Cause

/-- A document with the members of its maps as they are written. -/
def readMembers (text : List Char) : Except SyntaxFault Value :=
  Document.grammar.read (.value []) text

/-- **The document that a text is.** -/
def readDocument (text : List Char) : Except SyntaxFault Value :=
  (readMembers text).map Value.unique

end LiveJson.Json
