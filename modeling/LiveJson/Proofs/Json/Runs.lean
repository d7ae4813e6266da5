import LiveJson.Json.Grammar
import LiveJson.Text.Position

/-!
# Runs of a reader

`Grammar.feed` reads and counts bytes at the same time.  Here the two are taken apart: `Grammar.Runs`
says where a stretch of text leads, and the offset is the byte length of what has been read.

## What is here

* `Grammar.Enters`, `Grammar.Continues` — where one character leads, between lexemes and within one
  (`Grammar.enter_eq_ok_iff`, `Grammar.step_within_eq_ok_iff`).
* `Grammar.Fails` — which characters lead nowhere, and up to which byte they are looked at
  (`Grammar.fails_of_step`).
* `Grammar.Runs` — a stretch of text leads from one place to another without a fault.
* `Grammar.feed_eq_ok_iff`, `Grammar.feed_eq_error_iff` — feeding is running, or running up to the
  first character that cannot stand where it does.
* `Grammar.read_eq_ok_iff`, `Grammar.read_eq_error_iff` — the same for whole texts.
* `Grammar.Invariant` — what is kept by each rule of a grammar is kept by every run
  (`Grammar.Invariant.runs`).  It may depend on how many characters have been read, which is how a
  value is bounded by the text that it was read from.
* `Grammar.Simulates` — one grammar is followed by another, rule by rule, and so are its runs
  (`Grammar.Simulates.runs`, `Grammar.Simulates.read`).
-/

set_option autoImplicit false

namespace LiveJson.Json.Grammar

open Text

variable {σ ω ε α : Type} {G : Grammar σ ω ε α}

/-! ## Characters -/

/-- Where a character between lexemes leads. -/
inductive Enters (G : Grammar σ ω ε α) (state : σ) (c : Char) : Config σ ω → Prop
  /-- White space is skipped. -/
  | space : isSpace c = true → Enters G state c (.between state)
  /-- A mark of its own. -/
  | goto {next : σ} : isSpace c = false → G.react state c = .goto next →
    Enters G state c (.between next)
  /-- The first character of a lexeme. -/
  | start {lexeme : Lexeme} {slot : ω} : isSpace c = false →
    G.react state c = .begin lexeme slot → Enters G state c (.within lexeme slot)

/-- Where a character within a lexeme leads. -/
inductive Continues (G : Grammar σ ω ε α) (lexeme : Lexeme) (slot : ω) (c : Char) :
    Config σ ω → Prop
  /-- The lexeme goes on. -/
  | more {next : Lexeme} : lexeme.step c = .more next →
    Continues G lexeme slot c (.within next slot)
  /-- It was the last character of the lexeme. -/
  | closed {value : Scalar} {state : σ} : lexeme.step c = .closed value →
    G.fill slot value = .ok state → Continues G lexeme slot c (.between state)
  /-- The lexeme had ended before. -/
  | ended {value : Scalar} {state : σ} {next : Config σ ω} : lexeme.step c = .ended value →
    G.fill slot value = .ok state → G.Enters state c next → Continues G lexeme slot c next

theorem enter_eq_ok_iff {state : σ} {c : Char} {next : Config σ ω} :
    G.enter state c = .ok next ↔ G.Enters state c next := by
  rw [enter]
  constructor
  · intro h
    split at h
    · next hspace => cases h; exact .space hspace
    · next hspace =>
      rw [Bool.not_eq_true] at hspace
      split at h
      · next hreact => cases h; exact .goto hspace hreact
      · next hreact => cases h; exact .start hspace hreact
      · cases h
  · intro h
    cases h with
    | space hspace => rw [if_pos hspace]
    | goto hspace hreact => simp only [hspace, hreact]; rfl
    | start hspace hreact => simp only [hspace, hreact]; rfl

theorem step_within_eq_ok_iff {lexeme : Lexeme} {slot : ω} {c : Char} {next : Config σ ω} :
    G.step (.within lexeme slot) c = .ok next ↔ G.Continues lexeme slot c next := by
  rw [step]
  constructor
  · intro h
    split at h
    · next hstep => cases h; exact .more hstep
    · next hstep =>
      split at h
      · next hfill => cases h; exact .closed hstep hfill
      · cases h
    · next hstep =>
      split at h
      · next hfill => exact .ended hstep hfill (enter_eq_ok_iff.1 h)
      · cases h
    · cases h
  · intro h
    cases h with
    | more hstep => simp only [hstep]
    | closed hstep hfill => simp only [hstep, hfill]
    | ended hstep hfill hnext => simp only [hstep, hfill]; exact enter_eq_ok_iff.2 hnext

/-- What is wrong with a character. -/
inductive Fails (G : Grammar σ ω ε α) (c : Char) : Config σ ω → Fault ε → Prop
  /-- It cannot stand between these lexemes. -/
  | mark {state : σ} {error : ε} {advance : Nat} : G.react state c = .fail error advance →
    Fails G c (.between state) ⟨error, advance⟩
  /-- It cannot stand in the lexeme. -/
  | malformed {lexeme : Lexeme} {slot : ω} {cause : Cause} {advance : Nat} :
    lexeme.step c = .fault cause advance →
    Fails G c (.within lexeme slot) ⟨G.malformed cause, advance⟩
  /-- It was the last character of a lexeme that has no place here. -/
  | closed {lexeme : Lexeme} {slot : ω} {value : Scalar} {error : ε} :
    lexeme.step c = .closed value → G.fill slot value = .error error →
    Fails G c (.within lexeme slot) ⟨error, c.utf8Size⟩
  /-- The lexeme had ended before, and has no place here. -/
  | ended {lexeme : Lexeme} {slot : ω} {value : Scalar} {error : ε} :
    lexeme.step c = .ended value → G.fill slot value = .error error →
    Fails G c (.within lexeme slot) ⟨error, 0⟩
  /-- The lexeme had ended before, and the character cannot stand behind it. -/
  | behind {lexeme : Lexeme} {slot : ω} {value : Scalar} {state : σ} {fault : Fault ε} :
    lexeme.step c = .ended value → G.fill slot value = .ok state →
    Fails G c (.between state) fault → Fails G c (.within lexeme slot) fault

theorem fails_of_step {config : Config σ ω} {c : Char} {fault : Fault ε}
    (h : G.step config c = .error fault) : G.Fails c config fault := by
  have henter : ∀ {state}, G.enter state c = .error fault → G.Fails c (.between state) fault := by
    intro state henter
    rw [enter] at henter
    split at henter
    · cases henter
    · split at henter
      · cases henter
      · cases henter
      · next hreact => cases henter; exact .mark hreact
  cases config with
  | between state => exact henter h
  | within lexeme slot =>
    rw [step] at h
    split at h
    · cases h
    · next hstep =>
      split at h
      · cases h
      · next hfill => cases h; exact .closed hstep hfill
    · next hstep =>
      split at h
      · next hfill => exact .behind hstep hfill (henter h)
      · next hfill => cases h; exact .ended hstep hfill
    · next hstep => cases h; exact .malformed hstep

/-! ## Runs -/

/-- A stretch of text leads from one place to another. -/
inductive Runs (G : Grammar σ ω ε α) : Config σ ω → List Char → Config σ ω → Prop
  | nil (config : Config σ ω) : Runs G config [] config
  | cons {config next last : Config σ ω} {c : Char} {cs : List Char} :
    G.step config c = .ok next → Runs G next cs last → Runs G config (c :: cs) last

/-- One character is a run. -/
theorem Runs.single {config next : Config σ ω} {c : Char} (h : G.step config c = .ok next) :
    G.Runs config [c] next :=
  .cons h (.nil next)

theorem Runs.append {config middle last : Config σ ω} {cs ds : List Char}
    (h : G.Runs config cs middle) (h' : G.Runs middle ds last) : G.Runs config (cs ++ ds) last := by
  induction h with
  | nil config => exact h'
  | cons hstep _ ih => exact .cons hstep (ih h')

/-- A run is cut anywhere. -/
theorem runs_append_iff {config last : Config σ ω} {cs ds : List Char} :
    G.Runs config (cs ++ ds) last ↔ ∃ middle, G.Runs config cs middle ∧ G.Runs middle ds last := by
  constructor
  · intro h
    induction cs generalizing config with
    | nil => exact ⟨config, .nil config, h⟩
    | cons c cs ih =>
      rw [List.cons_append] at h
      cases h with
      | cons hstep hrest =>
        obtain ⟨middle, hcs, hds⟩ := ih hrest
        exact ⟨middle, .cons hstep hcs, hds⟩
  · rintro ⟨middle, hcs, hds⟩
    exact hcs.append hds

theorem runs_singleton_iff {config next : Config σ ω} {c : Char} :
    G.Runs config [c] next ↔ G.step config c = .ok next := by
  constructor
  · intro h
    cases h with
    | cons hstep hnil => cases hnil; exact hstep
  · exact Runs.single

/-- White space leads nowhere else. -/
theorem runs_space (state : σ) {cs : List Char} (h : ∀ c ∈ cs, isSpace c = true) :
    G.Runs (.between state) cs (.between state) := by
  induction cs with
  | nil => exact .nil _
  | cons c cs ih =>
    rw [List.forall_mem_cons] at h
    exact .cons (enter_eq_ok_iff.2 (.space h.1)) (ih h.2)

/-- A stretch of text leads to one place only. -/
theorem Runs.eq {config last last' : Config σ ω} {cs : List Char} (h : G.Runs config cs last)
    (h' : G.Runs config cs last') : last = last' := by
  induction h with
  | nil => cases h'; rfl
  | cons hstep _ ih =>
    cases h' with
    | cons hstep' hrest =>
      rw [hstep] at hstep'
      cases hstep'
      exact ih hrest

/-- What holds at the start of a run, and is kept by every character, holds of all that has been read. -/
theorem Runs.induction_snoc {P : List Char → Config σ ω → Prop} {start : Config σ ω} (h0 : P [] start)
    (hstep : ∀ {text : List Char} {config next : Config σ ω} {c : Char}, P text config →
      G.step config c = .ok next → P (text ++ [c]) next)
    {text : List Char} {last : Config σ ω} (h : G.Runs start text last) : P text last := by
  suffices hgen : ∀ {config last : Config σ ω} {rest : List Char}, G.Runs config rest last →
      ∀ text, P text config → P (text ++ rest) last from hgen h [] h0
  intro config last rest hruns
  induction hruns with
  | nil config =>
    intro text hP
    rwa [List.append_nil]
  | cons hnext _ ih =>
    intro text hP
    rw [List.append_cons]
    exact ih _ (hstep hP hnext)

/-! ## Feeding -/

/-- Feeding without a fault is running, and the offset moves by the bytes that were read. -/
theorem feed_eq_ok_iff {config last : Config σ ω} {offset offset' : Nat} {cs : List Char} :
    G.feed config offset cs = .ok (last, offset') ↔
      G.Runs config cs last ∧ offset' = offset + byteLength cs := by
  induction cs generalizing config offset with
  | nil =>
    simp only [feed, Except.ok.injEq, Prod.mk.injEq, byteLength_nil, Nat.add_zero]
    constructor
    · rintro ⟨rfl, rfl⟩
      exact ⟨.nil _, rfl⟩
    · rintro ⟨h, rfl⟩
      cases h
      exact ⟨rfl, rfl⟩
  | cons c cs ih =>
    rw [feed]
    constructor
    · intro h
      split at h
      · next next hstep =>
        obtain ⟨hruns, rfl⟩ := ih.1 h
        exact ⟨.cons hstep hruns, by rw [byteLength_cons, Nat.add_assoc]⟩
      · cases h
    · rintro ⟨h, rfl⟩
      cases h with
      | cons hstep hruns =>
        rw [hstep]
        exact ih.2 ⟨hruns, by rw [byteLength_cons, Nat.add_assoc]⟩

/-- A fault comes from one character, up to which the text is a run. -/
theorem feed_eq_error_iff {config : Config σ ω} {offset : Nat} {cs : List Char} {fault : Fault ε} :
    G.feed config offset cs = .error fault ↔
      ∃ front c back middle here, cs = front ++ c :: back ∧ G.Runs config front middle ∧
        G.step middle c = .error here ∧
        fault = ⟨here.error, offset + byteLength front + here.offset⟩ := by
  induction cs generalizing config offset with
  | nil => simp [feed]
  | cons c cs ih =>
    rw [feed]
    constructor
    · intro h
      split at h
      · next next hstep =>
        obtain ⟨front, d, back, middle, lf, rfl, hruns, hfault, rfl⟩ := ih.1 h
        exact ⟨c :: front, d, back, middle, lf, rfl, .cons hstep hruns, hfault,
          by rw [byteLength_cons, ← Nat.add_assoc offset]⟩
      · next lf hstep =>
        cases h
        exact ⟨[], c, cs, config, lf, rfl, .nil _, hstep, rfl⟩
    · rintro ⟨front, d, back, middle, lf, heq, hruns, hfault, rfl⟩
      cases hruns with
      | nil =>
        obtain ⟨rfl, rfl⟩ := List.cons.inj heq
        rw [hfault]
        rfl
      | cons hstep hruns =>
        obtain ⟨rfl, rfl⟩ := List.cons.inj heq
        rw [hstep]
        exact ih.2 ⟨_, d, back, middle, lf, rfl, hruns, hfault,
          by rw [byteLength_cons, ← Nat.add_assoc offset]⟩

/-! ## Whole texts -/

/-- A lexeme may end with the text if its value goes into its slot and the text may end there. -/
theorem close_within_eq_ok_iff {lexeme : Lexeme} {slot : ω} {result : α} :
    G.close (.within lexeme slot) = .ok result ↔
      ∃ value state, lexeme.finish = .ok value ∧ G.fill slot value = .ok state ∧
        G.finish state = .ok result := by
  rw [close]
  cases lexeme.finish with
  | error cause => simp
  | ok value => cases hfill : G.fill slot value <;> simp [hfill, Except.bind]

/-- **A text is read when it is a run to a place where it may end.** -/
theorem read_eq_ok_iff {start : σ} {text : List Char} {result : α} :
    G.read start text = .ok result ↔
      ∃ last, G.Runs (.between start) text last ∧ G.close last = .ok result := by
  rw [read]
  constructor
  · intro h
    split at h
    · cases h
    · next last offset hfeed =>
      split at h
      · next hclose =>
        cases h
        exact ⟨last, (feed_eq_ok_iff.1 hfeed).1, hclose⟩
      · cases h
  · rintro ⟨last, hruns, hclose⟩
    rw [feed_eq_ok_iff.2 ⟨hruns, rfl⟩]
    simp only [hclose]

/-- A text is not read when it is a run to a place where it may not end, or a run only up to some
character. -/
theorem read_eq_error_iff {start : σ} {text : List Char} {fault : Fault ε} :
    G.read start text = .error fault ↔
      (∃ last, G.Runs (.between start) text last ∧ G.close last = .error fault.error ∧
        fault.offset = byteLength text) ∨
      G.feed (.between start) 0 text = .error fault := by
  rw [read]
  cases hfeed : G.feed (.between start) 0 text with
  | error f =>
    simp only [Except.error.injEq]
    refine ⟨.inr, ?_⟩
    rintro (⟨last, hruns, -⟩ | h)
    · rw [feed_eq_ok_iff.2 ⟨hruns, rfl⟩] at hfeed
      cases hfeed
    · exact h
  | ok after =>
    obtain ⟨last, offset⟩ := after
    obtain ⟨hruns, rfl⟩ := feed_eq_ok_iff.1 hfeed
    simp only [reduceCtorEq, or_false]
    constructor
    · intro h
      split at h
      · cases h
      · next hclose =>
        cases h
        exact ⟨last, hruns, hclose, Nat.zero_add _⟩
    · rintro ⟨last', hruns', hclose, hoffset⟩
      rw [feed_eq_ok_iff.2 ⟨hruns', rfl⟩] at hfeed
      cases hfeed
      rw [hclose, Nat.zero_add, ← hoffset]

/-! ## Invariants -/

/-- What holds where a reader stands: `I` of the state, or `J` of the slot. -/
def Holds (I : σ → Prop) (J : ω → Prop) : Config σ ω → Prop
  | .between state => I state
  | .within _ slot => J slot

/-- Properties of states and slots, after a number of characters, that every rule of the grammar
keeps.  A lexeme is filled in without a character of its own: its characters were counted while it
was read. -/
structure Invariant (G : Grammar σ ω ε α) (I : Nat → σ → Prop) (J : Nat → ω → Prop) : Prop where
  /-- More characters do no harm to a state. -/
  mono : ∀ {n : Nat} {state : σ}, I n state → I (n + 1) state
  /-- More characters do no harm to a slot. -/
  mono_slot : ∀ {n : Nat} {slot : ω}, J n slot → J (n + 1) slot
  /-- A mark keeps the property. -/
  goto : ∀ {n : Nat} {state next : σ} {c : Char}, I n state → G.react state c = .goto next →
    I (n + 1) next
  /-- The first character of a lexeme gives a slot with the property. -/
  start : ∀ {n : Nat} {state : σ} {c : Char} {lexeme : Lexeme} {slot : ω}, I n state →
    G.react state c = .begin lexeme slot → J (n + 1) slot
  /-- The value of a lexeme gives a state with the property. -/
  fill : ∀ {n : Nat} {slot : ω} {value : Scalar} {state : σ}, J n slot →
    G.fill slot value = .ok state → I n state

variable {I : Nat → σ → Prop} {J : Nat → ω → Prop}

theorem Invariant.enter (h : G.Invariant I J) {n : Nat} {state : σ} {c : Char}
    {next : Config σ ω} (hs : I n state) (hstep : G.Enters state c next) :
    Holds (I (n + 1)) (J (n + 1)) next := by
  cases hstep with
  | space _ => exact h.mono hs
  | goto _ hreact => exact h.goto hs hreact
  | start _ hreact => exact h.start hs hreact

/-- One character keeps an invariant. -/
theorem Invariant.step (h : G.Invariant I J) {n : Nat} {config next : Config σ ω} {c : Char}
    (hc : Holds (I n) (J n) config) (hstep : G.step config c = .ok next) :
    Holds (I (n + 1)) (J (n + 1)) next := by
  cases config with
  | between state => exact h.enter hc (enter_eq_ok_iff.1 hstep)
  | within lexeme slot =>
    cases step_within_eq_ok_iff.1 hstep with
    | more _ => exact h.mono_slot hc
    | closed _ hfill => exact h.mono (h.fill hc hfill)
    | ended _ hfill hnext => exact h.enter (h.fill hc hfill) hnext

/-- **A run keeps an invariant.** -/
theorem Invariant.runs (h : G.Invariant I J) {n : Nat} {config last : Config σ ω} {cs : List Char}
    (hc : Holds (I n) (J n) config) (hruns : G.Runs config cs last) :
    Holds (I (n + cs.length)) (J (n + cs.length)) last := by
  induction hruns generalizing n with
  | nil config => exact hc
  | cons hstep _ ih =>
    rw [List.length_cons, ← Nat.add_assoc, Nat.add_right_comm]
    exact ih (h.step hc hstep)

/-- What an invariant says of the end of a text that is read. -/
theorem Invariant.read (h : G.Invariant I J) {start : σ} {text : List Char} {result : α}
    (hs : I 0 start) (hread : G.read start text = .ok result) :
    ∃ state, I text.length state ∧ G.finish state = .ok result := by
  obtain ⟨last, hruns, hclose⟩ := read_eq_ok_iff.1 hread
  have hstart : Holds (I 0) (J 0) (.between start) := hs
  have hlast := h.runs hstart hruns
  rw [Nat.zero_add] at hlast
  cases last with
  | between state => exact ⟨state, hlast, hclose⟩
  | within lexeme slot =>
    obtain ⟨value, state, -, hfill, hfinish⟩ := close_within_eq_ok_iff.1 hclose
    exact ⟨state, h.fill hlast hfill, hfinish⟩

/-! ## Simulations -/

section
variable {σ' ω' ε' α' : Type} {G' : Grammar σ' ω' ε' α'} {R : σ → σ' → Prop} {S : ω → ω' → Prop}

/-- Two readers stand where their states are related, or within one lexeme and where their slots are. -/
inductive Related (R : σ → σ' → Prop) (S : ω → ω' → Prop) : Config σ ω → Config σ' ω' → Prop
  | between {state : σ} {state' : σ'} : R state state' → Related R S (.between state) (.between state')
  | within (lexeme : Lexeme) {slot : ω} {slot' : ω'} : S slot slot' →
    Related R S (.within lexeme slot) (.within lexeme slot')

/-- **One grammar is followed by another.**  Whatever leads a reader on by the first one leads a reader on
by the second one, and they stand where they are related again. -/
structure Simulates (G : Grammar σ ω ε α) (G' : Grammar σ' ω' ε' α') (R : σ → σ' → Prop)
    (S : ω → ω' → Prop) : Prop where
  goto : ∀ {state next : σ} {state' : σ'} {c : Char}, R state state' → G.react state c = .goto next →
    ∃ next', G'.react state' c = .goto next' ∧ R next next'
  start : ∀ {state : σ} {state' : σ'} {c : Char} {lexeme : Lexeme} {slot : ω}, R state state' →
    G.react state c = .begin lexeme slot →
    ∃ slot', G'.react state' c = .begin lexeme slot' ∧ S slot slot'
  fill : ∀ {slot : ω} {slot' : ω'} {value : Scalar} {state : σ}, S slot slot' →
    G.fill slot value = .ok state → ∃ state', G'.fill slot' value = .ok state' ∧ R state state'

theorem Simulates.enter (h : G.Simulates G' R S) {state : σ} {state' : σ'} {c : Char}
    {next : Config σ ω} (hs : R state state') (hnext : G.Enters state c next) :
    ∃ next', G'.Enters state' c next' ∧ Related R S next next' := by
  cases hnext with
  | space hspace => exact ⟨_, .space hspace, .between hs⟩
  | goto hspace hreact =>
    obtain ⟨next', hreact', hnext'⟩ := h.goto hs hreact
    exact ⟨_, .goto hspace hreact', .between hnext'⟩
  | start hspace hreact =>
    obtain ⟨slot', hreact', hslot'⟩ := h.start hs hreact
    exact ⟨_, .start hspace hreact', .within _ hslot'⟩

/-- One character leads both readers on. -/
theorem Simulates.step (h : G.Simulates G' R S) {config next : Config σ ω} {config' : Config σ' ω'}
    {c : Char} (hc : Related R S config config') (hstep : G.step config c = .ok next) :
    ∃ next', G'.step config' c = .ok next' ∧ Related R S next next' := by
  cases hc with
  | between hs =>
    obtain ⟨next', hnext', hrelated⟩ := h.enter hs (enter_eq_ok_iff.1 hstep)
    exact ⟨next', enter_eq_ok_iff.2 hnext', hrelated⟩
  | within lexeme hslot =>
    cases step_within_eq_ok_iff.1 hstep with
    | more hmore => exact ⟨_, step_within_eq_ok_iff.2 (.more hmore), .within _ hslot⟩
    | closed hclosed hfill =>
      obtain ⟨state', hfill', hs⟩ := h.fill hslot hfill
      exact ⟨_, step_within_eq_ok_iff.2 (.closed hclosed hfill'), .between hs⟩
    | ended hended hfill hnext =>
      obtain ⟨state', hfill', hs⟩ := h.fill hslot hfill
      obtain ⟨next', hnext', hrelated⟩ := h.enter hs hnext
      exact ⟨next', step_within_eq_ok_iff.2 (.ended hended hfill' hnext'), hrelated⟩

/-- **A run by the first grammar is one by the second.** -/
theorem Simulates.runs (h : G.Simulates G' R S) {config last : Config σ ω} {config' : Config σ' ω'}
    {cs : List Char} (hc : Related R S config config') (hruns : G.Runs config cs last) :
    ∃ last', G'.Runs config' cs last' ∧ Related R S last last' := by
  induction hruns generalizing config' with
  | nil config => exact ⟨config', .nil config', hc⟩
  | cons hstep _ ih =>
    obtain ⟨next', hstep', hnext⟩ := h.step hc hstep
    obtain ⟨last', hruns', hlast⟩ := ih hnext
    exact ⟨last', .cons hstep' hruns', hlast⟩

/-- A text that is read by the first grammar ends in related states; if the second one may end there, the
text is read by it. -/
theorem Simulates.read (h : G.Simulates G' R S) {start : σ} {start' : σ'} {text : List Char}
    {result : α} (hs : R start start') (hread : G.read start text = .ok result) :
    ∃ state state', R state state' ∧ G.finish state = .ok result ∧
      ∀ result', G'.finish state' = .ok result' → G'.read start' text = .ok result' := by
  obtain ⟨last, hruns, hclose⟩ := read_eq_ok_iff.1 hread
  obtain ⟨last', hruns', hlast⟩ := h.runs (.between hs) hruns
  cases hlast with
  | between hstate =>
    exact ⟨_, _, hstate, hclose, fun _ hfinish => read_eq_ok_iff.2 ⟨_, hruns', hfinish⟩⟩
  | within lexeme hslot =>
    obtain ⟨value, state, hvalue, hfill, hfinish⟩ := close_within_eq_ok_iff.1 hclose
    obtain ⟨state', hfill', hstate⟩ := h.fill hslot hfill
    exact ⟨state, state', hstate, hfinish, fun _ hfinish' => read_eq_ok_iff.2
      ⟨_, hruns', close_within_eq_ok_iff.2 ⟨value, state', hvalue, hfill', hfinish'⟩⟩⟩

end

end LiveJson.Json.Grammar
