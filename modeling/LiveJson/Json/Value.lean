import LiveJson.Json.Number
import LiveJson.Text.Numeral

/-!
# Documents as values

## What is here

* `Value` — a document: a scalar, a list or a map.  A map keeps its members in the order in which
  they were written.
* `Value.beq` — equality, in which the order of members counts and doubles are compared as floating
  point does.
* `Value.child?` — the direct child under a key.  The items of a list have their positions for
  keys, spelt as numerals.
* `Members` — the members of a map, with `Members.unique`, which leaves one for each key: a repeated
  key stays where it came first and holds what was written last.  `Value.unique` does so everywhere.
  `Members.put` is one step of that, and `Members.get?_put` says what it changes.
-/

set_option autoImplicit false

namespace LiveJson.Json

/-- A document, or a part of one. -/
inductive Value where
  | null
  | bool (b : Bool)
  | number (n : Number)
  | string (s : String)
  | list (items : List Value)
  | map (members : List (String × Value))

instance : Inhabited Value := ⟨.null⟩

/-- The kind of a value, for display. -/
def Value.kind : Value → String
  | .null => "null"
  | .bool _ => "boolean"
  | .number _ => "number"
  | .string _ => "string"
  | .list _ => "list"
  | .map _ => "map"

/-- Lists and maps are containers. -/
def Value.isContainer : Value → Bool
  | .list _ | .map _ => true
  | _ => false

/-- How many direct children a container has. -/
def Value.size? : Value → Option Nat
  | .list items => some items.length
  | .map members => some members.length
  | _ => none

/-! ## Equality -/

mutual
/-- Equality of values.  Containers are compared in order, members by key and value. -/
def Value.beq : Value → Value → Bool
  | .null, .null => true
  | .bool a, .bool b => a == b
  | .number m, .number n => m == n
  | .string s, .string t => s == t
  | .list xs, .list ys => beqItems xs ys
  | .map xs, .map ys => beqMembers xs ys
  | _, _ => false

/-- Equality of the items of two lists. -/
def beqItems : List Value → List Value → Bool
  | [], [] => true
  | x :: xs, y :: ys => x.beq y && beqItems xs ys
  | _, _ => false

/-- Equality of the members of two maps. -/
def beqMembers : List (String × Value) → List (String × Value) → Bool
  | [], [] => true
  | (k, x) :: xs, (l, y) :: ys => k == l && x.beq y && beqMembers xs ys
  | _, _ => false
end

instance : BEq Value := ⟨Value.beq⟩

/-! ## Children -/

/-- The members of a map, as they are written. -/
abbrev Members := List (String × Value)

/-- The first value under a key. -/
def Members.get? (key : String) : Members → Option Value
  | [] => none
  | (k, v) :: rest => if k = key then some v else Members.get? key rest

/-- The direct child under a key.  An item of a list is found under every numeral of its position:
`1`, `01` and `+1` name the same item. -/
def Value.child? (v : Value) (key : String) : Option Value :=
  match v with
  | .list items => (Text.readNumeral key).toOption.bind fun i => items[i.val]?
  | .map members => Members.get? key members
  | _ => none

/-! ## Repeated keys -/

/-- Members with the value of `key` replaced where the key stands, or with a new member at the end
if it stands nowhere. -/
def Members.put (members : Members) (key : String) (value : Value) : Members :=
  match members with
  | [] => [(key, value)]
  | (k, v) :: rest =>
    if k = key then (k, value) :: rest else (k, v) :: Members.put rest key value

/-- Putting a value changes what is found under its key and under no other. -/
@[simp] theorem Members.get?_put (members : Members) (key other : String) (value : Value) :
    Members.get? other (Members.put members key value) =
      if other = key then some value else Members.get? other members := by
  induction members with
  | nil => simp [put, get?, eq_comm]
  | cons m rest ih =>
    obtain ⟨k, v⟩ := m
    by_cases hk : k = key
    · subst hk
      by_cases ho : other = k
      · simp [put, get?, ho]
      · simp [put, get?, ho, Ne.symm ho]
    · by_cases ho : k = other
      · subst ho
        simp [put, get?, hk]
      · simp [put, get?, hk, ho, ih]

/-- One member for each key: the first place and the last value of a repeated key. -/
def Members.unique (members : Members) : Members :=
  members.foldl (fun ms m => Members.put ms m.1 m.2) []

mutual
/-- The value with one member for each key in every map. -/
def Value.unique : Value → Value
  | .list items => .list (uniqueItems items)
  | .map members => .map (Members.unique (uniqueMembers members))
  | v => v

/-- `Value.unique` on every item. -/
def uniqueItems : List Value → List Value
  | [] => []
  | v :: rest => v.unique :: uniqueItems rest

/-- `Value.unique` on every member, repeated keys left as they are. -/
def uniqueMembers : List (String × Value) → List (String × Value)
  | [] => []
  | (k, v) :: rest => (k, v.unique) :: uniqueMembers rest
end

end LiveJson.Json
