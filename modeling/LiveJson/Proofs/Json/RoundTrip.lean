import LiveJson.Proofs.Json.Bounds
import LiveJson.Proofs.Json.Faults
import LiveJson.Proofs.Json.Scalars

/-!
# Writing and reading again

A document without doubles that is read from some text is read again from what is written for it,
and so it is written in the same way again.

## What is here

* `runs_writeValue` — where a value may start, what is written for a value leads to where the value
  is complete.  Nothing is said of keys here: a map is read with the members it is written with.
* `readDocument_writeValue_append` — a document with unique keys, within the depth limit and without
  doubles is read back, also with white space behind it.
* `check_text_of_check` — **the round trip**, which needs no such conditions: whatever was read has
  unique keys and is within the limit.

The induction is on the value.  Inside a container, each item is read from the place where the one
before it rests, and the brackets and indentation in between are steps of their own.
-/

set_option autoImplicit false

namespace LiveJson.Json

open Document

/-! ## White space -/

theorem endsNumeral_of_isSpace {c : Char} (h : isSpace c = true) : endsNumeral c = true := by
  simp only [isSpace, Bool.or_eq_true, beq_iff_eq] at h
  rcases h with ((rfl | rfl) | rfl) | rfl <;> decide

/-- White space ends a numeral, and is skipped. -/
theorem step_space {config : Config State Slot} {state : State} (h : grammar.Rests config state)
    {c : Char} (hc : isSpace c = true) : grammar.step config c = .ok (.between state) := by
  rw [h.step_eq (endsNumeral_of_isSpace hc)]
  exact Grammar.enter_eq_ok_iff.2 (.space hc)

/-- Where a reader rests, it still rests behind white space. -/
theorem exists_runs_space {config : Config State Slot} {state : State}
    (h : grammar.Rests config state) {cs : List Char} (hspace : ∀ c ∈ cs, isSpace c = true) :
    ∃ last, grammar.Runs config cs last ∧ grammar.Rests last state := by
  cases cs with
  | nil => exact ⟨config, .nil config, h⟩
  | cons c cs =>
    rw [List.forall_mem_cons] at hspace
    exact ⟨_, .cons (step_space h hspace.1) (Grammar.runs_space state hspace.2),
      Grammar.rests_between state⟩

theorem isSpace_of_mem_indent {depth : Nat} {c : Char} (h : c ∈ indent depth) :
    isSpace c = true := by
  rw [List.eq_of_mem_replicate h]
  rfl

/-- A new line is white space. -/
theorem runs_newline {config : Config State Slot} {state : State} (h : grammar.Rests config state)
    (depth : Nat) : grammar.Runs config (newline depth) (.between state) :=
  .cons (step_space h rfl) (Grammar.runs_space state fun _ hc => isSpace_of_mem_indent hc)

/-! ## Marks and lexemes -/

/-- A mark, where the reader rests in a state that knows it. -/
theorem step_of_move {config : Config State Slot} {state next : State} {c : Char}
    (h : grammar.Rests config state) (hmove : Document.Move state c next) :
    grammar.step config c = .ok (.between next) := by
  have hends : endsNumeral c = true := by cases hmove <;> decide
  have hspace : isSpace c = false := by cases hmove <;> decide
  rw [h.step_eq hends]
  exact Grammar.enter_eq_ok_iff.2 (.goto hspace (react_eq_goto_iff.2 hmove))

/-- The character that starts a lexeme is not white space. -/
theorem isSpace_of_start? {c : Char} {lexeme : Lexeme} (h : Lexeme.start? c = some lexeme) :
    isSpace c = false := by
  rw [Bool.eq_false_iff]
  intro hspace
  simp only [isSpace, Bool.or_eq_true, beq_iff_eq] at hspace
  rcases hspace with ((rfl | rfl) | rfl) | rfl <;> cases h

theorem step_of_start {state : State} {c : Char} {lexeme : Lexeme} {slot : Slot}
    (h : Start state c lexeme slot) :
    grammar.step (.between state) c = .ok (.within lexeme slot) := by
  have hspace : isSpace c = false := by
    cases h with
    | value _ hc => exact isSpace_of_start? hc
    | _ => decide
  exact Grammar.enter_eq_ok_iff.2 (.start hspace (react_eq_begin_iff.2 h))

/-- A scalar is read where a value may start. -/
theorem runs_scalar {text : List Char} {v : Scalar} (h : Spells text v) {state : State}
    {outer : List Frame} (hs : state.Awaits outer) :
    ∃ config, grammar.Runs (.between state) text config ∧
      grammar.Rests config (attach outer v.toValue) := by
  obtain ⟨c, cs, lexeme, rfl, hstart, hreads⟩ := h
  have hfill : grammar.fill (.value outer) v = .ok (attach outer v.toValue) := rfl
  obtain ⟨config, hruns, hrests⟩ := hreads hfill
  exact ⟨config, .cons (step_of_start (.value hs hstart)) hruns, hrests⟩

/-- A key is read where one may start, and the colon leads to where its value may start. -/
theorem runs_key {state : State} {members : Members} {outer : List Frame}
    (h : Start state '"' (.string [] .plain) (.key members outer)) (key : String) :
    grammar.Runs (.between state) (writeString key ++ [':', ' '])
      (.between (.value (.map members key :: outer))) := by
  have hfill : grammar.fill (.key members outer) (.string key) = .ok (.colon members key outer) :=
    rfl
  have hcolon := step_of_move (Grammar.rests_between _) (.colon members key outer)
  have hkey : grammar.Runs (.between state) (writeString key) (.between (.colon members key outer)) :=
    .cons (step_of_start h) (runs_writeString hfill)
  exact hkey.append (.cons hcolon (.single rfl))

/-! ## Values -/

/-- What is written for a value is read as that value, where a value may start and the containers
around it leave room for it. -/
def Value.ReadsBack (v : Value) : Prop :=
  ∀ ⦃state : State⦄ ⦃outer : List Frame⦄, state.Awaits outer → v.height + outer.length ≤ maxDepth →
    ∀ depth, ∃ config, grammar.Runs (.between state) (writeValue depth v) config ∧
      grammar.Rests config (attach outer v)

theorem Value.readsBack_scalar (v : Scalar)
    (h : ∀ depth, Spells (writeValue depth v.toValue) v) : v.toValue.ReadsBack := by
  intro state outer hs _ depth
  exact runs_scalar (h depth) hs

/-- The items behind the first one. -/
theorem runs_writeItems {rest : List Value} (hreads : ∀ v ∈ rest, v.ReadsBack) {outer : List Frame}
    (hfits : ∀ v ∈ rest, v.height + (outer.length + 1) ≤ maxDepth) (depth : Nat)
    {config : Config State Slot} {items : List Value}
    (hrests : grammar.Rests config (.afterItem items outer)) :
    ∃ last, grammar.Runs config (writeItems depth rest) last ∧
      grammar.Rests last (.afterItem (rest.reverse ++ items) outer) := by
  induction rest generalizing config items with
  | nil => exact ⟨config, .nil config, hrests⟩
  | cons v rest ih =>
    have hcomma := step_of_move hrests (.item items outer)
    obtain ⟨middle, hvalue, hmiddle⟩ := hreads v List.mem_cons_self (.nextItem items outer)
      (hfits v List.mem_cons_self) depth
    obtain ⟨last, hitems, hlast⟩ := ih (fun w hw => hreads w (List.mem_cons_of_mem v hw))
      (fun w hw => hfits w (List.mem_cons_of_mem v hw)) hmiddle
    refine ⟨last, ?_, by simpa using hlast⟩
    rw [writeItems]
    exact ((Grammar.Runs.cons hcomma (runs_newline (Grammar.rests_between _) depth)).append
      hvalue).append hitems

/-- The members behind the first one. -/
theorem runs_writeMembers {rest : Members} (hreads : ∀ m ∈ rest, m.2.ReadsBack)
    {outer : List Frame} (hfits : ∀ m ∈ rest, m.2.height + (outer.length + 1) ≤ maxDepth)
    (depth : Nat) {config : Config State Slot} {members : Members}
    (hrests : grammar.Rests config (.afterMember members outer)) :
    ∃ last, grammar.Runs config (writeMembers depth rest) last ∧
      grammar.Rests last (.afterMember (rest.reverse ++ members) outer) := by
  induction rest generalizing config members with
  | nil => exact ⟨config, .nil config, hrests⟩
  | cons m rest ih =>
    obtain ⟨key, v⟩ := m
    have hcomma := step_of_move hrests (.member members outer)
    have hkey := runs_key (.nextKey members outer) key
    obtain ⟨middle, hvalue, hmiddle⟩ := hreads (key, v) List.mem_cons_self
      (.value (.map members key :: outer)) (hfits (key, v) List.mem_cons_self) depth
    obtain ⟨last, hmembers, hlast⟩ := ih (fun n hn => hreads n (List.mem_cons_of_mem _ hn))
      (fun n hn => hfits n (List.mem_cons_of_mem _ hn)) hmiddle
    refine ⟨last, ?_, by simpa using hlast⟩
    rw [writeMembers, List.append_assoc _ (writeString key)]
    exact (((Grammar.Runs.cons hcomma (runs_newline (Grammar.rests_between _) depth)).append
      hkey).append hvalue).append hmembers

/-- **What is written for a value without doubles is read as that value.** -/
theorem Value.readsBack {v : Value} (hfloat : v.FloatFree) : v.ReadsBack := by
  induction v using Value.induct with
  | null => exact readsBack_scalar .null fun _ => spells_null
  | bool b => exact readsBack_scalar (.bool b) fun _ => spells_bool b
  | number n =>
    have hn : n.isFloat = false := by simpa [FloatFree, everywhere] using hfloat
    exact readsBack_scalar (.number n) fun _ => spells_number hn
  | string s => exact readsBack_scalar (.string s) fun _ => spells_string s
  | list items ih =>
    rw [floatFree_list] at hfloat
    intro state outer hs hheight depth
    obtain ⟨hroom, hfits⟩ := height_list_add_le.1 hheight
    have hopen := step_of_move (Grammar.rests_between state) (.openList hs hroom)
    cases items with
    | nil =>
      have hclose := step_of_move (Grammar.rests_between _) (.closeEmptyList outer)
      exact ⟨_, .cons hopen (.single hclose), Grammar.rests_between _⟩
    | cons v rest =>
      obtain ⟨first, hvalue, hfirst⟩ := ih v List.mem_cons_self (hfloat v List.mem_cons_self)
        (.firstItem outer) (hfits v List.mem_cons_self) (depth + 1)
      obtain ⟨last, hitems, hlast⟩ := runs_writeItems
        (fun w hw => ih w (List.mem_cons_of_mem v hw) (hfloat w (List.mem_cons_of_mem v hw)))
        (fun w hw => hfits w (List.mem_cons_of_mem v hw)) (depth + 1) hfirst
      have hclose := step_of_move (Grammar.rests_between _) (.closeList (rest.reverse ++ [v]) outer)
      rw [List.reverse_append, List.reverse_reverse, List.reverse_singleton,
        List.singleton_append] at hclose
      refine ⟨_, ?_, Grammar.rests_between _⟩
      rw [writeValue]
      exact ((((Grammar.Runs.cons hopen (runs_newline (Grammar.rests_between _) (depth + 1))).append
        hvalue).append hitems).append (runs_newline hlast depth)).append (.single hclose)
  | map members ih =>
    rw [floatFree_map] at hfloat
    intro state outer hs hheight depth
    obtain ⟨hroom, hfits⟩ := height_map_add_le.1 hheight
    have hopen := step_of_move (Grammar.rests_between state) (.openMap hs hroom)
    cases members with
    | nil =>
      have hclose := step_of_move (Grammar.rests_between _) (.closeEmptyMap outer)
      exact ⟨_, .cons hopen (.single hclose), Grammar.rests_between _⟩
    | cons m rest =>
      obtain ⟨key, v⟩ := m
      have hkey := runs_key (.firstKey outer) key
      obtain ⟨first, hvalue, hfirst⟩ := ih (key, v) List.mem_cons_self
        (hfloat (key, v) List.mem_cons_self) (.value (.map [] key :: outer))
        (hfits (key, v) List.mem_cons_self) (depth + 1)
      obtain ⟨last, hmembers, hlast⟩ := runs_writeMembers
        (fun n hn => ih n (List.mem_cons_of_mem _ hn) (hfloat n (List.mem_cons_of_mem _ hn)))
        (fun n hn => hfits n (List.mem_cons_of_mem _ hn)) (depth + 1) hfirst
      have hclose := step_of_move (Grammar.rests_between _)
        (.closeMap (rest.reverse ++ [(key, v)]) outer)
      rw [List.reverse_append, List.reverse_reverse, List.reverse_singleton,
        List.singleton_append] at hclose
      refine ⟨_, ?_, Grammar.rests_between _⟩
      rw [writeValue, List.append_assoc _ (writeString key)]
      exact (((((Grammar.Runs.cons hopen (runs_newline (Grammar.rests_between _) (depth + 1))).append
        hkey).append hvalue).append hmembers).append (runs_newline hlast depth)).append
        (.single hclose)

/-! ## Documents -/

/-- A document is read from what is written for it, with white space behind. -/
theorem readDocument_writeValue_append {v : Value} (hfloat : v.FloatFree)
    (hheight : v.height ≤ maxDepth) (hkeys : v.UniqueKeys) {cs : List Char}
    (hspace : ∀ c ∈ cs, isSpace c = true) : readDocument (writeValue 0 v ++ cs) = .ok v := by
  obtain ⟨config, hruns, hrests⟩ := v.readsBack hfloat (.value []) hheight 0
  obtain ⟨last, hspaces, hlast⟩ := exists_runs_space hrests hspace
  have hread : readMembers (writeValue 0 v ++ cs) = .ok v :=
    Grammar.read_eq_ok_iff.2 ⟨last, hruns.append hspaces, hlast.close_eq⟩
  rw [readDocument, hread, Except.map, Value.unique_eq_self hkeys]

/-- A document is read from what is written for it. -/
theorem readDocument_writeValue {v : Value} (hfloat : v.FloatFree) (hheight : v.height ≤ maxDepth)
    (hkeys : v.UniqueKeys) : readDocument (writeValue 0 v) = .ok v := by
  rw [← List.append_nil (writeValue 0 v)]
  exact readDocument_writeValue_append hfloat hheight hkeys (List.forall_mem_nil _)

/-- A value without doubles equals itself.  A double that is no number would not. -/
theorem Value.beq_self {v : Value} (hfloat : v.FloatFree) : (v == v) = true := by
  change v.beq v = true
  induction v using Value.induct with
  | null => rfl
  | bool b => exact beq_self_eq_true b
  | number n =>
    cases n with
    | natural n h => exact beq_self_eq_true n
    | negative m h => exact beq_self_eq_true m
    | float x h => cases hfloat
  | string s => exact beq_self_eq_true s
  | list items ih =>
    rw [floatFree_list] at hfloat
    rw [beq]
    induction items with
    | nil => rfl
    | cons v rest ih' =>
      rw [beqItems, ih v List.mem_cons_self (hfloat v List.mem_cons_self), Bool.true_and]
      exact ih' (fun w hw => ih w (List.mem_cons_of_mem v hw))
        fun w hw => hfloat w (List.mem_cons_of_mem v hw)
  | map members ih =>
    rw [floatFree_map] at hfloat
    rw [beq]
    induction members with
    | nil => rfl
    | cons m rest ih' =>
      obtain ⟨key, v⟩ := m
      rw [beqMembers, ih (key, v) List.mem_cons_self (hfloat (key, v) List.mem_cons_self),
        beq_self_eq_true, Bool.true_and, Bool.true_and]
      exact ih' (fun n hn => ih n (List.mem_cons_of_mem _ hn))
        fun n hn => hfloat n (List.mem_cons_of_mem _ hn)

end LiveJson.Json

namespace LiveJson

open Json

/-- **Reading, writing and reading again.**  A document without doubles is read again, as the same
document, from what is written for it; so writing it once more gives the same text. -/
theorem check_text_of_check {text : String} {v : Value} (h : check text = .ok v)
    (hfloat : v.FloatFree) : check v.text = .ok v ∧ (v == v) = true := by
  obtain ⟨hfits, hkeys⟩ := readDocument_fits (check_eq_ok_iff.1 h)
  refine ⟨check_eq_ok_iff.2 ?_, Value.beq_self hfloat⟩
  rw [Value.text, String.toList_ofList]
  exact readDocument_writeValue hfloat hfits.height hkeys

/-- The round trip of a map with a repeated key, an escaped quote in a key, integers at both limits
and an empty container. -/
theorem check_text_of_check_repeated_key :
    ∃ v, check ("\x7b\"a\":[],\"é\\\"\":" ++
        "[18446744073709551615,-9223372036854775808,[]],\"\\u0061\":\"\\n\"\x7d") = .ok v ∧
      v.FloatFree ∧ check v.text = .ok v ∧ (v == v) = true := by
  obtain ⟨v, hread, hfree⟩ : ∃ v, check ("\x7b\"a\":[],\"é\\\"\":" ++
      "[18446744073709551615,-9223372036854775808,[]],\"\\u0061\":\"\\n\"\x7d") = .ok v ∧
      decide v.FloatFree = true := exists_check_eq_ok (by decide +kernel)
  have hfloat : v.FloatFree := of_decide_eq_true hfree
  exact ⟨v, hread, hfloat, check_text_of_check hread hfloat⟩

end LiveJson
