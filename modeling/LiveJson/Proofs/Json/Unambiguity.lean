import LiveJson.Proofs.Json.RoundTrip
import LiveJson.Proofs.Json.Soundness
import Mathlib.Data.List.Induction

/-!
# A text is written in one way

A text that is read as a document is no way to write any other document.  The reader is deterministic,
so it is enough to follow it: through any part of a text that is a way to write a value, it goes to where
that value is complete.  That it goes there at all is not said, since it stops where containers are
nested too deeply; but a text that has been read has been gone through.

## What is here

* `spells_of_numeralText`, `spells_of_stringText` — whatever is a way to write a scalar spells it.
* `Follows`, `FollowsItems`, `FollowsMember`, `FollowsMembers` — where a run through a part of a text
  ends; `follows_of_elementText` proves them by induction on the notation.
* `eq_of_elementText` — **a text that is read is a way to write what is read, and nothing else.**
-/

set_option autoImplicit false

namespace LiveJson.Json

variable {σ ω ε α : Type} {G : Grammar σ ω ε α}

/-! ## Numerals -/

theorem NumeralPhase.Reads.runs {first last : NumeralPhase} {text : List Char} {isNegative : Bool}
    {slot : ω} (h : first.Reads text last) :
    G.Runs (.within (.number isNegative first) slot) text (.within (.number isNegative last) slot) := by
  induction h with
  | nil => exact .nil _
  | @snoc middle last text c _ hstep ih =>
    have hmore : (Lexeme.number isNegative middle).step c = .more (.number isNegative last) := by
      simp only [Lexeme.step, hstep]
    exact ih.append (.single (Grammar.step_within_eq_ok_iff.2 (.more hmore)))

theorem spells_of_numeralText {text : List Char} {n : Number} (h : NumeralText text n) :
    Spells text (.number n) := by
  obtain ⟨hstart, hreads, hfinish⟩ := h
  exact ⟨_, _, _, rfl, hstart, fun hfill =>
    ⟨_, hreads.runs, Grammar.rests_number hfill hfinish⟩⟩

/-! ## Strings -/

/-- What a hexadecimal digit does among the digits of a unit. -/
theorem digitStep_of_hexValue? {c : Char} {collecting : HexDigits → LiteralPhase}
    {settle : Nat → LiteralStep} {bytes m d : Nat} (hd : hexValue? c = some d) :
    digitStep ⟨bytes, some m⟩ c collecting settle =
      if bytes + 1 < HexDigits.width then .more none (collecting ⟨bytes + 1, some (m * 16 + d)⟩)
      else settle (m * 16 + d) := by
  simp only [digitStep, HexDigits.push, utf8Size_of_hexValue? hd, hd, Option.bind_some, Option.map_some]

section
variable {collecting : HexDigits → LiteralPhase} {settle : Nat → LiteralStep} {read : List Char}
  {slot : ω} {digits : List Char}

/-- The digits of a unit but for the last one. -/
theorem runs_digits_of_lt (hstep : ∀ digits c,
      (collecting digits).step c = digitStep digits c collecting settle)
    {m : Nat} (hlt : digits.length < HexDigits.width) (hm : hexNumeral? digits = some m) :
    G.Runs (.within (.string read (collecting .start)) slot) digits
      (.within (.string read (collecting ⟨digits.length, some m⟩)) slot) := by
  induction digits using List.reverseRecOn generalizing m with
  | nil =>
    cases hm
    exact .nil _
  | append_singleton front c ih =>
    rw [hexNumeral?_append_singleton, Option.bind_eq_some_iff] at hm
    obtain ⟨n, hn, hm⟩ := hm
    obtain ⟨d, hd, rfl⟩ := Option.map_eq_some_iff.1 hm
    rw [List.length_append, List.length_singleton] at hlt ⊢
    have hmore : (collecting ⟨front.length, some n⟩).step c =
        .more none (collecting ⟨front.length + 1, some (n * 16 + d)⟩) := by
      rw [hstep, digitStep_of_hexValue? hd, if_pos hlt]
    exact (ih (Nat.lt_of_succ_lt hlt) hn).append (.single (Grammar.step_string hmore))

/-- **The digits of a unit are read, and the unit settles what comes next.** -/
theorem runs_unit (hstep : ∀ digits c,
      (collecting digits).step c = digitStep digits c collecting settle)
    {unit : Nat} (hunit : unit? digits = some unit) {d : Option Char} {next : LiteralPhase}
    (hsettle : settle unit = .more d next) :
    G.Runs (.within (.string read (collecting .start)) slot) digits
      (.within (.string (d.toList ++ read) next) slot) := by
  rw [unit?] at hunit
  split at hunit
  · next hlength =>
    rcases List.eq_nil_or_concat digits with rfl | ⟨front, c, rfl⟩
    · cases hlength
    rw [List.concat_eq_append] at hlength hunit ⊢
    rw [hexNumeral?_append_singleton, Option.bind_eq_some_iff] at hunit
    obtain ⟨n, hn, hunit⟩ := hunit
    obtain ⟨e, he, rfl⟩ := Option.map_eq_some_iff.1 hunit
    rw [List.length_append, List.length_singleton] at hlength
    have hlast : (collecting ⟨front.length, some n⟩).step c = .more d next := by
      rw [hstep, digitStep_of_hexValue? he, hlength, if_neg (Nat.lt_irrefl _), hsettle]
    exact (runs_digits_of_lt hstep (hlength ▸ Nat.lt_succ_self _) hn).append
      (.single (Grammar.step_string hlast))
  · cases hunit

end

/-- The digits of a unit that is a character of its own, or the first half of a pair. -/
theorem runs_firstUnit {digits read : List Char} {unit : Nat} {slot : ω} {d : Option Char}
    {next : LiteralPhase} (hunit : unit? digits = some unit) (hlow : isLowSurrogate unit = false)
    (hsettle : (if isHighSurrogate unit then .more none (.half unit)
      else .more (some (Char.ofNat unit)) .plain) = LiteralStep.more d next) :
    G.Runs (.within (.string read .plain) slot) ('\\' :: 'u' :: digits)
      (.within (.string (d.toList ++ read) next) slot) := by
  have hstep : ∀ digits c, (LiteralPhase.unit digits).step c =
      digitStep digits c .unit fun unit =>
        if isLowSurrogate unit then .fault .loneSurrogate 1
        else if isHighSurrogate unit then .more none (.half unit)
        else .more (some (Char.ofNat unit)) .plain := fun _ _ => rfl
  refine .cons (Grammar.step_string rfl) (.cons (Grammar.step_string rfl) ?_)
  refine runs_unit hstep hunit ?_
  rw [hlow, if_neg Bool.false_ne_true]
  exact hsettle

/-- The digits of the second half of a pair. -/
theorem runs_secondUnit {digits read : List Char} {high low : Nat} {slot : ω}
    (hunit : unit? digits = some low) (hlow : isLowSurrogate low = true) :
    G.Runs (.within (.string read (.half high)) slot) ('\\' :: 'u' :: digits)
      (.within (.string (ofSurrogates high low :: read) .plain) slot) := by
  have hstep : ∀ digits c, (LiteralPhase.lowUnit high digits).step c =
      digitStep digits c (.lowUnit high) fun unit =>
        if isLowSurrogate unit then .more (some (ofSurrogates high unit)) .plain
        else .fault .loneSurrogate 1 := fun _ _ => rfl
  refine .cons (Grammar.step_string rfl) (.cons (Grammar.step_string rfl) ?_)
  exact runs_unit hstep hunit (by rw [if_pos hlow])

/-- No unit is both halves of a pair. -/
theorem isLowSurrogate_of_isHighSurrogate {unit : Nat} (h : isHighSurrogate unit = true) :
    isLowSurrogate unit = false := by
  simp only [isHighSurrogate, Bool.and_eq_true, decide_eq_true_eq] at h
  simp only [isLowSurrogate, Bool.and_eq_false_iff, decide_eq_false_iff_not]
  omega

/-- **Whatever is a way to write a character is read as that character.** -/
theorem runs_of_charText {text read : List Char} {c : Char} {slot : ω} (h : CharText text c) :
    G.Runs (.within (.string read .plain) slot) text (.within (.string (c :: read) .plain) slot) := by
  cases h with
  | plain hquote hbackslash hcontrol =>
    have hstep : LiteralPhase.plain.step c = .more (some c) .plain := by
      rw [LiteralPhase.step, if_neg hquote, if_neg hbackslash, if_neg (Nat.not_lt.2 hcontrol)]
    exact .single (Grammar.step_string hstep)
  | letter hletter => exact runs_letter (by rintro rfl; cases hletter) hletter
  | unit hunit hhigh hlow => exact runs_firstUnit hunit hlow (by rw [hhigh]; rfl)
  | pair hunit hhigh hunit' hlow =>
    exact (runs_firstUnit hunit (isLowSurrogate_of_isHighSurrogate hhigh) (if_pos hhigh)).append
      (runs_secondUnit hunit' hlow)

theorem runs_of_charsText {text chars read : List Char} {slot : ω} (h : CharsText text chars) :
    G.Runs (.within (.string read .plain) slot) text
      (.within (.string (chars.reverse ++ read) .plain) slot) := by
  induction h with
  | nil => exact .nil _
  | snoc _ hc ih =>
    rw [List.reverse_append]
    exact ih.append (runs_of_charText hc)

/-- A string is read behind its opening quote. -/
theorem runs_of_stringText {text : List Char} {s : String} {slot : ω} {state : σ}
    (h : StringText ('"' :: text) s) (hfill : G.fill slot (.string s) = .ok state) :
    G.Runs (.within (.string [] .plain) slot) text (.between state) := by
  cases h with
  | mk hchars =>
    have hclosed : (Lexeme.string (s.toList.reverse ++ []) .plain).step '"' = .closed (.string s) := by
      simp [Lexeme.step, LiteralPhase.step]
    exact (runs_of_charsText hchars).append
      (.single (Grammar.step_within_eq_ok_iff.2 (.closed hclosed hfill)))

theorem StringText.exists_eq_cons {text : List Char} {s : String} (h : StringText text s) :
    ∃ rest, text = '"' :: rest := by
  cases h with
  | mk _ => exact ⟨_, List.cons_append ..⟩

theorem spells_of_stringText {text : List Char} {s : String} (h : StringText text s) :
    Spells text (.string s) := by
  obtain ⟨rest, rfl⟩ := h.exists_eq_cons
  exact ⟨'"', rest, .string [] .plain, rfl, rfl, fun hfill =>
    ⟨_, runs_of_stringText h hfill, Grammar.rests_between _⟩⟩

/-! ## Parts of a document -/

open Document

/-- From where a value may start, a run through the text ends where the value is complete. -/
def Follows (text : List Char) (v : Value) : Prop :=
  ∀ ⦃state outer last⦄, State.Awaits state outer → grammar.Runs (.between state) text last →
    grammar.Rests last (attach outer v)

/-- From the start of a list, a run through the text ends where the next item may start. -/
def FollowsItems (text : List Char) (items : List Value) : Prop :=
  ∀ ⦃outer last⦄, grammar.Runs (.between (.firstItem outer)) text last →
    ∃ state, last = .between state ∧ state.Awaits (.list items.reverse :: outer)

/-- From where a key may start, a run through the text ends where the member is complete. -/
def FollowsMember (text : List Char) (m : String × Value) : Prop :=
  ∀ ⦃state members outer last⦄, Start state '"' (.string [] .plain) (.key members outer) →
    grammar.Runs (.between state) text last → grammar.Rests last (.afterMember (m :: members) outer)

/-- From the start of a map, a run through the text ends where the next key may start. -/
def FollowsMembers (text : List Char) (members : Members) : Prop :=
  ∀ ⦃outer last⦄, grammar.Runs (.between (.firstKey outer)) text last →
    ∃ state, last = .between state ∧
      Start state '"' (.string [] .plain) (.key members.reverse outer)

section
variable {config last : Config State Slot} {state next : State} {outer : List Frame}
  {text spaces here : List Char}

/-- White space changes nothing. -/
theorem eq_of_runs_spaces (hspaces : Spaces spaces)
    (h : grammar.Runs (.between state) spaces last) : last = .between state :=
  h.eq (Grammar.runs_space state hspaces)

theorem rests_of_runs_spaces (hrests : grammar.Rests config state) (hspaces : Spaces spaces)
    (h : grammar.Runs config spaces last) : grammar.Rests last state := by
  cases h with
  | nil => exact hrests
  | @cons _ next _ c cs hstep hrest =>
    have hc : isSpace c = true := hspaces c List.mem_cons_self
    have hends : endsNumeral c = true := by
      simp only [isSpace, Bool.or_eq_true, beq_iff_eq] at hc
      rcases hc with ((rfl | rfl) | rfl) | rfl <;> decide
    have hnext : grammar.step config c = .ok (.between state) := by
      rw [hrests.step_eq hends]
      exact Grammar.enter_eq_ok_iff.2 (.space hc)
    rw [hnext] at hstep
    cases hstep
    obtain rfl := eq_of_runs_spaces (fun d hd => hspaces d (List.mem_cons_of_mem c hd)) hrest
    exact Grammar.rests_between state

/-- A mark leads to one place. -/
theorem eq_of_runs_mark {c : Char} (hrests : grammar.Rests config state)
    (hmove : Document.Move state c next) (h : grammar.Runs config [c] last) : last = .between next :=
  h.eq (.single (step_of_move hrests hmove))

/-- A bracket that has been read has opened a container. -/
theorem eq_of_runs_open {c : Char} (hs : state.Awaits outer)
    (h : grammar.Runs (.between state) [c] last) (hc : c = '[' ∨ c = '{') :
    last = .between (if c = '[' then .firstItem outer else .firstKey outer) := by
  have hstart : Lexeme.start? c = none ∧ isSpace c = false := by rcases hc with rfl | rfl <;> decide
  cases Grammar.enter_eq_ok_iff.1 (Grammar.runs_singleton_iff.1 h) with
  | space hspace => rw [hstart.2] at hspace; cases hspace
  | goto _ hreact =>
    have hmove := react_eq_goto_iff.1 hreact
    cases hmove with
    | openList hs' _ => rw [← hs.stack_eq, hs'.stack_eq]; rfl
    | openMap hs' _ => rw [← hs.stack_eq, hs'.stack_eq]; rfl
    | _ => simp at hc
  | start _ hreact =>
    cases react_eq_begin_iff.1 hreact with
    | value _ hlexeme => rw [hstart.1] at hlexeme; cases hlexeme
    | _ => simp at hc

/-- A run through brackets runs through what is between them. -/
theorem exists_of_runs_brackets {c d : Char} (hs : state.Awaits outer)
    (h : grammar.Runs (.between state) (c :: text ++ [d]) last) (hc : c = '[' ∨ c = '{') :
    ∃ inside, grammar.Runs (.between (if c = '[' then .firstItem outer else .firstKey outer)) text
      inside ∧ grammar.Runs inside [d] last := by
  obtain ⟨inside, hruns, hlast⟩ := Grammar.runs_append_iff.1 h
  rw [← List.singleton_append] at hruns
  obtain ⟨first, hfirst, hinside⟩ := Grammar.runs_append_iff.1 hruns
  obtain rfl := eq_of_runs_open hs hfirst hc
  exact ⟨inside, hinside, hlast⟩

/-! ## Induction on the notation -/

theorem follows_of_spells {v : Scalar} (h : Spells text v) : Follows text v.toValue := by
  intro state outer last hs hruns
  obtain ⟨config, hruns', hrests⟩ := runs_scalar h hs
  rwa [hruns.eq hruns']

theorem follows_emptyList (hspaces : Spaces spaces) :
    Follows ('[' :: spaces ++ [']']) (.list []) := by
  intro state outer last hs hruns
  obtain ⟨inside, hinside, hlast⟩ := exists_of_runs_brackets hs hruns (.inl rfl)
  obtain rfl := eq_of_runs_spaces hspaces hinside
  obtain rfl := eq_of_runs_mark (Grammar.rests_between _) (.closeEmptyList outer) hlast
  exact Grammar.rests_between _

theorem follows_emptyMap (hspaces : Spaces spaces) : Follows ('{' :: spaces ++ ['}']) (.map []) := by
  intro state outer last hs hruns
  obtain ⟨inside, hinside, hlast⟩ := exists_of_runs_brackets hs hruns (.inr rfl)
  obtain rfl := eq_of_runs_spaces hspaces hinside
  obtain rfl := eq_of_runs_mark (Grammar.rests_between _) (.closeEmptyMap outer) hlast
  exact Grammar.rests_between _

theorem FollowsItems.list {items : List Value} {v : Value} (hitems : FollowsItems text items)
    (hv : Follows here v) : Follows ('[' :: text ++ here ++ [']']) (.list (items ++ [v])) := by
  intro state outer last hs hruns
  rw [List.cons_append] at hruns
  obtain ⟨inside, hinside, hlast⟩ := exists_of_runs_brackets hs hruns (.inl rfl)
  obtain ⟨middle, hfirst, hsecond⟩ := Grammar.runs_append_iff.1 hinside
  obtain ⟨awaiting, rfl, hawaiting⟩ := hitems hfirst
  have hclose := Document.Move.closeList (v :: items.reverse) outer
  rw [List.reverse_cons, List.reverse_reverse] at hclose
  obtain rfl := eq_of_runs_mark (hv hawaiting hsecond) hclose hlast
  exact Grammar.rests_between _

theorem FollowsMembers.map {members : Members} {m : String × Value}
    (hmembers : FollowsMembers text members) (hm : FollowsMember here m) :
    Follows ('{' :: text ++ here ++ ['}']) (.map (members ++ [m])) := by
  intro state outer last hs hruns
  rw [List.cons_append] at hruns
  obtain ⟨inside, hinside, hlast⟩ := exists_of_runs_brackets hs hruns (.inr rfl)
  obtain ⟨middle, hfirst, hsecond⟩ := Grammar.runs_append_iff.1 hinside
  obtain ⟨awaiting, rfl, hawaiting⟩ := hmembers hfirst
  have hclose := Document.Move.closeMap (m :: members.reverse) outer
  rw [List.reverse_cons, List.reverse_reverse] at hclose
  obtain rfl := eq_of_runs_mark (hm hawaiting hsecond) hclose hlast
  exact Grammar.rests_between _

theorem Follows.element {v : Value} (hbefore : Spaces spaces) (h : Follows text v)
    (hafter : Spaces here) : Follows (spaces ++ text ++ here) v := by
  intro state outer last hs hruns
  obtain ⟨second, hruns, hlast⟩ := Grammar.runs_append_iff.1 hruns
  obtain ⟨first, hfirst, hsecond⟩ := Grammar.runs_append_iff.1 hruns
  obtain rfl := eq_of_runs_spaces hbefore hfirst
  exact rests_of_runs_spaces (h hs hsecond) hafter hlast

theorem followsItems_nil : FollowsItems [] [] := by
  intro outer last hruns
  cases hruns
  exact ⟨_, rfl, .firstItem outer⟩

theorem FollowsItems.snoc {items : List Value} {v : Value} (hitems : FollowsItems text items)
    (hv : Follows here v) : FollowsItems (text ++ here ++ [',']) (items ++ [v]) := by
  intro outer last hruns
  obtain ⟨second, hruns, hlast⟩ := Grammar.runs_append_iff.1 hruns
  obtain ⟨first, hfirst, hsecond⟩ := Grammar.runs_append_iff.1 hruns
  obtain ⟨awaiting, rfl, hawaiting⟩ := hitems hfirst
  obtain rfl := eq_of_runs_mark (hv hawaiting hsecond) (.item (v :: items.reverse) outer) hlast
  rw [List.reverse_append]
  exact ⟨_, rfl, .nextItem _ outer⟩

theorem Follows.member {keyText : List Char} {key : String} {v : Value} (hbefore : Spaces spaces)
    (hkey : StringText keyText key) (hafter : Spaces here) (hv : Follows text v) :
    FollowsMember (spaces ++ keyText ++ here ++ ':' :: text) (key, v) := by
  intro state members outer last hstart hruns
  obtain ⟨third, hruns, hlast⟩ := Grammar.runs_append_iff.1 hruns
  obtain ⟨second, hruns, hthird⟩ := Grammar.runs_append_iff.1 hruns
  obtain ⟨first, hfirst, hsecond⟩ := Grammar.runs_append_iff.1 hruns
  obtain rfl := eq_of_runs_spaces hbefore hfirst
  obtain ⟨keyRest, rfl⟩ := hkey.exists_eq_cons
  have hread : grammar.Runs (.between state) ('"' :: keyRest) (.between (.colon members key outer)) :=
    .cons (step_of_start hstart) (runs_of_stringText hkey rfl)
  obtain rfl := hsecond.eq hread
  obtain rfl := eq_of_runs_spaces hafter hthird
  rw [← List.singleton_append] at hlast
  obtain ⟨fourth, hfourth, hlast⟩ := Grammar.runs_append_iff.1 hlast
  obtain rfl := eq_of_runs_mark (Grammar.rests_between _) (.colon members key outer) hfourth
  exact hv (.value _) hlast

theorem followsMembers_nil : FollowsMembers [] [] := by
  intro outer last hruns
  cases hruns
  exact ⟨_, rfl, .firstKey outer⟩

theorem FollowsMembers.snoc {members : Members} {m : String × Value}
    (hmembers : FollowsMembers text members) (hm : FollowsMember here m) :
    FollowsMembers (text ++ here ++ [',']) (members ++ [m]) := by
  intro outer last hruns
  obtain ⟨second, hruns, hlast⟩ := Grammar.runs_append_iff.1 hruns
  obtain ⟨first, hfirst, hsecond⟩ := Grammar.runs_append_iff.1 hruns
  obtain ⟨awaiting, rfl, hawaiting⟩ := hmembers hfirst
  obtain rfl := eq_of_runs_mark (hm hawaiting hsecond) (.member (m :: members.reverse) outer) hlast
  rw [List.reverse_append]
  exact ⟨_, rfl, .nextKey _ outer⟩

/-- **A run through a way to write a value ends where that value is complete.** -/
theorem follows_of_elementText {v : Value} (h : ElementText text v) : Follows text v :=
  @ElementText.rec (fun text v _ => Follows text v) (fun text v _ => Follows text v)
    (fun text items _ => FollowsItems text items) (fun text m _ => FollowsMember text m)
    (fun text members _ => FollowsMembers text members)
    -- one case for each way to write a value, an element, items, a member and members
    (follows_of_spells spells_null)
    (fun b => follows_of_spells (spells_bool b))
    (fun hn => follows_of_spells (spells_of_numeralText hn))
    (fun hs => follows_of_spells (spells_of_stringText hs))
    follows_emptyList
    (fun _ _ hitems hv => hitems.list hv)
    follows_emptyMap
    (fun _ _ hmembers hm => hmembers.map hm)
    (fun hbefore _ hafter hv => hv.element hbefore hafter)
    followsItems_nil
    (fun _ _ hitems hv => hitems.snoc hv)
    (fun hbefore hkey hafter _ hv => hv.member hbefore hkey hafter)
    followsMembers_nil
    (fun _ _ hmembers hm => hmembers.snoc hm)
    text v h

end

/-- **A text that is read is a way to write what is read, and nothing else.** -/
theorem eq_of_elementText {text : List Char} {v w : Value} (hread : readMembers text = .ok v)
    (h : ElementText text w) : w = v := by
  obtain ⟨last, hruns, hclose⟩ := Grammar.read_eq_ok_iff.1 hread
  have hrests := follows_of_elementText h (.value []) hruns
  rw [hrests.close_eq] at hclose
  cases hclose
  rfl

end LiveJson.Json
