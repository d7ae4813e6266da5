import LiveJson.Proofs.Json.Soundness
import LiveJson.Proofs.Locale.Notation
import Mathlib.Data.List.Nodup

/-!
# What is read as a bundle is written as one

The reader of bundles is followed by the reader of documents: each mark, each start of a lexeme and each
value leads both on.  Where they stand, the open containers of the one hold what the other has taken in.
So a text that is read as a bundle is read as a document, and that document is the bundle written out.

## What is here

* `Filling` — a record of which some fields have been read, by which fields those are and what they may
  hold; `Filling.MapRead`, `Filling.ListRead` say what has been read of it.
* `Filling.At`, `Filling.Awaits` — where the reader of documents stands when the other one is at a place
  of a record.  What a character does there is said for all records at once (`Filling.At.led`), and so is
  what the value of a field does (`Filling.Awaits.attach`).
* `Entries.State.Follows`, `Entries.Slot.Follows`, and `Entries.simulates` — the same for bundles.
* `bundleText_of_readEntries` — **what is read is what is written.**
-/

set_option autoImplicit false

namespace LiveJson

open Json Json.Document

/-! ## Records that are being read -/

/-- What is known of a record that is being read. -/
structure Filling (φ : Type) where
  /-- Whether the field has been read. -/
  isFilled : φ → Bool
  /-- Which values the field may have been read from. -/
  holds : φ → Value → Prop

/-- What is known of all but one entry is enough where that one does not stand. -/
theorem forall₂_imp_of_notMem {α β : Type} {R R' : α → β → Prop} {a : α} {l : List α} {u : List β}
    (ha : a ∉ l) (himp : ∀ b c, b ≠ a → R b c → R' b c) (h : List.Forall₂ R l u) :
    List.Forall₂ R' l u := by
  have hne : ∀ b ∈ l, b ≠ a := fun b hb => ne_of_mem_of_not_mem hb ha
  exact ((List.forall₂_and_left l u).2 ⟨hne, h⟩).imp fun b c hbc => himp b c hbc.1 hbc.2

namespace Filling

variable {φ : Type} {fields : Fields φ} {k k' : Filling φ} {f : φ} {v : Value} {members : Members}
  {items : List Value} {rest : List φ}

/-- One field more has been read, from the value. -/
structure Adds (k k' : Filling φ) (f : φ) (v : Value) : Prop where
  isFilled_iff : ∀ g, k'.isFilled g = true ↔ g = f ∨ k.isFilled g = true
  holds_self : k'.holds f v
  holds_of_ne : ∀ g w, g ≠ f → k.holds g w → k'.holds g w

/-- These members have been read, last one first. -/
def MapRead (fields : Fields φ) (k : Filling φ) (members : Members) : Prop :=
  ∃ written, written.Nodup ∧ (∀ f, k.isFilled f = true ↔ f ∈ written) ∧
    fields.Members k.holds written members

/-- These items have been read, last one first, and the fields `rest` are still to come. -/
def ListRead (fields : Fields φ) (k : Filling φ) (rest : List φ) (items : List Value) : Prop :=
  ∃ written, written.reverse ++ rest = fields.all ∧ List.Forall₂ k.holds written items

theorem mapRead_nil (h : ∀ f, k.isFilled f = false) : k.MapRead fields [] :=
  ⟨[], List.nodup_nil, fun f => by simp [h f], .nil⟩

theorem MapRead.add (h : k.MapRead fields members) (hf : k.isFilled f = false)
    (hadds : k.Adds k' f v) : k'.MapRead fields ((fields.name f, v) :: members) := by
  obtain ⟨written, hnodup, hfilled, hmembers⟩ := h
  have hnew : f ∉ written := by
    rw [← hfilled, hf]
    exact Bool.false_ne_true
  refine ⟨f :: written, List.nodup_cons.2 ⟨hnew, hnodup⟩, fun g => ?_,
    .cons ⟨rfl, hadds.holds_self⟩ (forall₂_imp_of_notMem hnew ?_ hmembers)⟩
  · rw [hadds.isFilled_iff, hfilled, List.mem_cons]
  · exact fun g m hg hm => ⟨hm.1, hadds.holds_of_ne g m.2 hg hm.2⟩

theorem ListRead.add (h : k.ListRead fields (f :: rest) items) (hfields : fields.Enumerated)
    (hadds : k.Adds k' f v) : k'.ListRead fields rest (v :: items) := by
  obtain ⟨written, hall, hitems⟩ := h
  -- no field comes twice in a list
  have hnew : f ∉ written := by
    intro hf
    have hnodup := hfields.nodup
    rw [← hall] at hnodup
    exact (List.nodup_append.1 hnodup).2.2 f (List.mem_reverse.2 hf) f List.mem_cons_self rfl
  refine ⟨f :: written, by rw [List.reverse_cons, ← hall]; simp, .cons hadds.holds_self ?_⟩
  exact forall₂_imp_of_notMem hnew hadds.holds_of_ne hitems

/-- A record that has been read as a map. -/
theorem MapRead.written (h : k.MapRead fields members) (hfields : fields.Enumerated)
    (hfilled : ∀ f, k.isFilled f = true) : fields.Written k.holds (.map members.reverse) := by
  obtain ⟨written, hnodup, hmem, hmembers⟩ := h
  refine @Fields.Written.map φ fields k.holds written.reverse _ ?_ (List.forall₂_reverse_iff.2 hmembers)
  refine (List.perm_ext_iff_of_nodup (List.nodup_reverse.2 hnodup) hfields.nodup).2 fun f => ?_
  rw [List.mem_reverse, ← hmem, hfilled]
  exact iff_of_true rfl (hfields.mem_all f)

/-- A record that has been read as a list. -/
theorem ListRead.written (h : k.ListRead fields [] items) :
    fields.Written k.holds (.list items.reverse) := by
  obtain ⟨written, hall, hitems⟩ := h
  rw [List.append_nil] at hall
  refine .list ?_
  rw [← hall]
  exact List.forall₂_reverse_iff.2 hitems

/-! ## Places of a record -/

/-- The value of the field is awaited in the frame, and the record is read on at the place. -/
inductive Awaits (fields : Fields φ) (k : Filling φ) (f : φ) : Place φ → Frame → Prop
  | map {members : Members} : k.isFilled f = false → k.MapRead fields members →
    Awaits fields k f .afterValue (.map members (fields.name f))
  | list {rest : List φ} {items : List Value} : k.ListRead fields (f :: rest) items →
    Awaits fields k f (.afterItem rest) (.list items)

/-- Where the reader of documents stands at each place of a record, inside the containers `outer`.  Behind
the last field of a list nothing is promised, as nothing can come there. -/
inductive At (fields : Fields φ) (k : Filling φ) (outer : List Frame) :
    Place φ → Document.State → Prop
  | firstKey : k.MapRead fields [] → At fields k outer .firstKey (.firstKey outer)
  | nextKey {members : Members} : k.MapRead fields members →
    At fields k outer .nextKey (.nextKey members outer)
  | colon {f : φ} {members : Members} : k.isFilled f = false → k.MapRead fields members →
    At fields k outer (.colon f) (.colon members (fields.name f) outer)
  | value {f : φ} {frame : Frame} : k.Awaits fields f .afterValue frame →
    At fields k outer (.value f) (.value (frame :: outer))
  | afterValue {members : Members} : k.MapRead fields members →
    At fields k outer .afterValue (.afterMember members outer)
  | firstItem {f : φ} {rest : List φ} : k.ListRead fields (f :: rest) [] →
    At fields k outer (.firstItem f rest) (.firstItem outer)
  | nextItem {f : φ} {rest : List φ} {items : List Value} : k.ListRead fields (f :: rest) items →
    At fields k outer (.nextItem f rest) (.nextItem items outer)
  | afterItem {rest : List φ} {items : List Value} : k.ListRead fields rest items →
    At fields k outer (.afterItem rest) (.afterItem items outer)
  | surplus (state : Document.State) : At fields k outer .surplus state

section
variable {outer : List Frame} {place next : Place φ} {state : Document.State} {c : Char}

/-- What a character does in the document that it does in the record. -/
def Led (fields : Fields φ) (k : Filling φ) (outer : List Frame) (state : Document.State) (c : Char) :
    LiveJson.Move φ → Prop
  | .goto next => ∃ state', Document.Move state c state' ∧ k.At fields outer next state'
  | .key => ∃ members, Start state c (.string [] .plain) (.key members outer) ∧
      k.MapRead fields members
  | .field f after => ∃ frame, state.Awaits (frame :: outer) ∧ k.Awaits fields f after frame
  | .close => ∃ v, Document.Move state c (attach outer v) ∧
      (fields.Enumerated → (∀ f, k.isFilled f = true) → fields.Written k.holds v)
  | .fail _ _ => True

/-- **Each character of a record does in the document what it does in the record.** -/
theorem At.led (h : k.At fields outer place state) :
    k.Led fields outer state c (place.react fields c) := by
  cases h with
  | firstKey hread =>
    rw [Place.react]
    split_ifs with hquote hbrace
    · cases hquote
      exact ⟨[], .firstKey outer, hread⟩
    · cases hbrace
      exact ⟨_, .closeEmptyMap outer, hread.written⟩
    · trivial
  | nextKey hread =>
    rw [Place.react]
    split_ifs with hquote
    · cases hquote
      exact ⟨_, .nextKey _ outer, hread⟩
    · trivial
    · trivial
  | colon hf hread =>
    rw [Place.react]
    split_ifs with hcolon
    · cases hcolon
      exact ⟨_, .colon _ _ _, .value (.map hf hread)⟩
    · trivial
  | value hawaits => exact ⟨_, .value _, hawaits⟩
  | afterValue hread =>
    rw [Place.react]
    split_ifs with hcomma hbrace
    · cases hcomma
      exact ⟨_, .member _ _, .nextKey hread⟩
    · cases hbrace
      exact ⟨_, .closeMap _ outer, hread.written⟩
    · trivial
  | firstItem hread =>
    rw [Place.react]
    split_ifs
    · trivial
    · exact ⟨_, .firstItem outer, .list hread⟩
  | nextItem hread =>
    rw [Place.react]
    split_ifs
    · trivial
    · exact ⟨_, .nextItem _ outer, .list hread⟩
  | @afterItem rest items hread =>
    cases rest with
    | nil =>
      rw [Place.react]
      split_ifs with hbracket hcomma
      · cases hbracket
        exact ⟨_, .closeList _ outer, fun _ _ => hread.written⟩
      · cases hcomma
        exact ⟨_, .item _ _, .surplus _⟩
      · trivial
    | cons f rest =>
      rw [Place.react]
      split_ifs with hcomma
      · cases hcomma
        exact ⟨_, .item _ _, .nextItem hread⟩
      · trivial
      · trivial
  | surplus state =>
    rw [Place.react]
    split_ifs <;> trivial

/-- The value of a field, when it is complete. -/
theorem Awaits.attach {frame : Frame} (h : k.Awaits fields f next frame)
    (hfields : fields.Enumerated) (hadds : k.Adds k' f v) :
    k'.At fields outer next (attach (frame :: outer) v) := by
  cases h with
  | map hf hread => exact .afterValue (hread.add hf hadds)
  | list hread => exact .afterItem (hread.add hfields hadds)

end

end Filling

/-! ## Labels and locales that are being read -/

/-- The text that has been read of a label. -/
def LabelsDraft.get? (d : LabelsDraft) : LabelField → Option String
  | .data => d.data
  | .input => d.input
  | .output => d.output

/-- Labels that are being read, as a record. -/
def LabelsDraft.filling (d : LabelsDraft) : Filling LabelField where
  isFilled := d.isFilled
  holds f v := ∃ text, d.get? f = some text ∧ v = .string text

theorem LabelsDraft.adds_fill (d : LabelsDraft) (f : LabelField) (text : String) :
    d.filling.Adds (d.fill f text).filling f (.string text) where
  isFilled_iff g := by cases f <;> cases g <;> simp [filling, isFilled, fill]
  holds_self := ⟨text, by cases f <;> rfl, rfl⟩
  holds_of_ne g w hne := by
    rintro ⟨s, hs, rfl⟩
    exact ⟨s, by cases f <;> cases g <;> first | exact hs | exact absurd rfl hne, rfl⟩

/-- Complete labels have every field, with the text that it was read from. -/
theorem LabelsDraft.of_complete {d : LabelsDraft} {labels : Labels} (h : d.complete = .ok labels) :
    (∀ f, d.filling.isFilled f = true) ∧
      ∀ f v, d.filling.holds f v → v = .string (labels.get f) := by
  rw [complete] at h
  split at h
  · next data input output hdata hinput houtput =>
    cases h
    constructor
    · intro f
      cases f <;> simp [filling, isFilled, hdata, hinput, houtput]
    · rintro f v ⟨text, htext, rfl⟩
      cases f <;> simp_all [get?, Labels.get]
  all_goals cases h

/-- The text that has been read of a heading. -/
def LocaleDraft.get? (d : LocaleDraft) : Heading → Option String
  | .title => d.title
  | .error => d.error

/-- What a field of a locale that is being read may have been read from. -/
def LocaleDraft.Holds (d : LocaleDraft) : LocaleField → Value → Prop
  | .heading h, v => ∃ text, d.get? h = some text ∧ v = .string text
  | .labels, v => ∃ labels, d.labels = some labels ∧ labels.Written v

/-- A locale that is being read, as a record. -/
def LocaleDraft.filling (d : LocaleDraft) : Filling LocaleField where
  isFilled := d.isFilled
  holds := d.Holds

theorem LocaleDraft.adds_fillHeading (d : LocaleDraft) (heading : Heading) (text : String) :
    d.filling.Adds (d.fillHeading heading text).filling (.heading heading) (.string text) where
  isFilled_iff g := by
    rcases g with (_ | _) | _ <;> cases heading <;> simp [filling, isFilled, fillHeading]
  holds_self := ⟨text, by cases heading <;> rfl, rfl⟩
  holds_of_ne g w hne hw := by
    rcases g with g | _
    · obtain ⟨s, hs, rfl⟩ := hw
      exact ⟨s, by cases heading <;> cases g <;> first | exact hs | exact absurd rfl hne, rfl⟩
    · obtain ⟨labels, hlabels, hwritten⟩ := hw
      exact ⟨labels, by cases heading <;> exact hlabels, hwritten⟩

theorem LocaleDraft.adds_fillLabels (d : LocaleDraft) {labels : Labels} {v : Value}
    (h : labels.Written v) : d.filling.Adds (d.fillLabels labels).filling .labels v where
  isFilled_iff g := by rcases g with (_ | _) | _ <;> simp [filling, isFilled, fillLabels]
  holds_self := ⟨labels, rfl, h⟩
  holds_of_ne g w hne hw := by
    rcases g with g | _
    · obtain ⟨s, hs, rfl⟩ := hw
      exact ⟨s, by cases g <;> exact hs, rfl⟩
    · exact absurd rfl hne

/-- A complete locale has every field, as it was read. -/
theorem LocaleDraft.of_complete {d : LocaleDraft} {locale : Locale} (h : d.complete = .ok locale) :
    (∀ f, d.filling.isFilled f = true) ∧ ∀ f v, d.filling.holds f v → locale.Holds f v := by
  rw [complete] at h
  split at h
  · next title error labels htitle herror hlabels =>
    cases h
    constructor
    · rintro ((_ | _) | _) <;> simp [filling, isFilled, htitle, herror, hlabels]
    · rintro (heading | _) v hv
      · obtain ⟨text, htext, rfl⟩ := hv
        cases heading <;> simp_all [get?, Locale.get, Locale.Holds]
      · obtain ⟨labels', hlabels', hwritten⟩ := hv
        rw [hlabels] at hlabels'
        cases hlabels'
        exact hwritten
  all_goals cases h

/-! ## Bundles that are being read -/

namespace Entries

/-- A locale that is being read, inside the map of those before it. -/
inductive Outer.Inside (outer : Outer) : Frame → Prop
  | mk {members : Members} : EntriesWritten members outer.entries →
    Inside outer (.map members outer.code)

/-- **Where the reader of documents stands in each state of a bundle.**  Behind a key that cannot stand
there nothing is promised, as nothing can come. -/
inductive State.Follows : State → Document.State → Prop
  | start : Follows .start (.value [])
  | firstCode : Follows .firstCode (.firstKey [])
  | nextCode {entries : List (String × Locale)} {members : Members} : EntriesWritten members entries →
    Follows (.nextCode entries) (.nextKey members [])
  | colon {entries : List (String × Locale)} {members : Members} (code : String) :
    EntriesWritten members entries → Follows (.colon entries code) (.colon members code [])
  | locale {entries : List (String × Locale)} {members : Members} (code : String) :
    EntriesWritten members entries → Follows (.locale entries code) (.value [.map members code])
  | afterLocale {entries : List (String × Locale)} {members : Members} :
    EntriesWritten members entries → Follows (.afterLocale entries) (.afterMember members [])
  | inLocale {outer : Outer} {frame : Frame} {place : Place LocaleField} {state : Document.State} :
    outer.Inside frame → outer.draft.filling.At localeFields [frame] place state →
    Follows (.inLocale outer place) state
  | inLabels {outer : Outer} {frame inner : Frame} {back : Place LocaleField} {draft : LabelsDraft}
    {place : Place LabelField} {state : Document.State} :
    outer.Inside frame → outer.draft.filling.Awaits localeFields .labels back inner →
    draft.filling.At labelFields [inner, frame] place state →
    Follows (.inLabels outer back draft place) state
  | failing (fault : RecordFault) (state : Document.State) : Follows (.failing fault) state
  | done {entries : List (String × Locale)} {members : Members} : EntriesWritten members entries →
    Follows (.done entries) (.done (.map members))

/-- Where the value of a lexeme goes in the document. -/
inductive Slot.Follows : Slot → Document.Slot → Prop
  | code {entries : List (String × Locale)} {members : Members} : EntriesWritten members entries →
    Follows (.code entries) (.key members [])
  | field {outer : Outer} {frame : Frame} {members : Members} : outer.Inside frame →
    outer.draft.filling.MapRead localeFields members → Follows (.field outer) (.key members [frame])
  | heading {outer : Outer} {frame inner : Frame} {heading : Heading} {after : Place LocaleField} :
    outer.Inside frame → outer.draft.filling.Awaits localeFields (.heading heading) after inner →
    Follows (.heading outer heading after) (.value [inner, frame])
  | labelField {outer : Outer} {frame inner : Frame} {back : Place LocaleField} {draft : LabelsDraft}
    {members : Members} :
    outer.Inside frame → outer.draft.filling.Awaits localeFields .labels back inner →
    draft.filling.MapRead labelFields members →
    Follows (.labelField outer back draft) (.key members [inner, frame])
  | label {outer : Outer} {frame inner innermost : Frame} {back : Place LocaleField}
    {draft : LabelsDraft} {label : LabelField} {after : Place LabelField} :
    outer.Inside frame → outer.draft.filling.Awaits localeFields .labels back inner →
    draft.filling.Awaits labelFields label after innermost →
    Follows (.label outer back draft label after) (.value [innermost, inner, frame])
  | misplaced (wanted : Wanted) (outer : List Frame) : Follows (.misplaced wanted) (.value outer)

section
variable {state next : State} {slot : Slot} {state' : Document.State} {slot' : Document.Slot} {c : Char}
  {lexeme : Lexeme} {outer : List Frame}

/-! ## Starts of values -/

theorem beginLexeme_ne_goto : beginLexeme slot c ≠ .goto next := by
  rw [beginLexeme]
  split <;> exact fun h => by cases h

theorem beginLexeme_eq_begin_iff {slot slot' : Slot} :
    beginLexeme slot c = .begin lexeme slot' ↔ Lexeme.start? c = some lexeme ∧ slot' = slot := by
  rw [beginLexeme]
  cases Lexeme.start? c <;> simp [eq_comm]

theorem beginText_ne_goto : beginText slot c ≠ .goto next := by
  rw [beginText]
  split_ifs
  · exact fun h => by cases h
  · exact fun h => by cases h
  · exact beginLexeme_ne_goto

theorem of_beginText {slot slot' : Slot} (h : beginText slot c = .begin lexeme slot') :
    Lexeme.start? c = some lexeme ∧ slot' = slot := by
  rw [beginText] at h
  split_ifs at h
  exact beginLexeme_eq_begin_iff.1 h

/-- A record is opened by a brace or a bracket. -/
theorem exists_of_beginRecord {φ : Type} {fields : Fields φ} {enter : Place φ → State}
    (h : beginRecord fields enter c = .goto next) {k : Filling φ}
    (hfields : ∃ f rest, fields.all = f :: rest) (hempty : k.MapRead fields [])
    (hs : state'.Awaits outer) (hdepth : outer.length < maxDepth) :
    ∃ place state'', next = enter place ∧ Document.Move state' c state'' ∧
      k.At fields outer place state'' := by
  rw [beginRecord] at h
  split_ifs at h with hbrace hbracket
  · cases hbrace
    cases h
    exact ⟨_, _, rfl, .openMap hs hdepth, .firstKey hempty⟩
  · cases hbracket
    cases h
    obtain ⟨f, rest, hall⟩ := hfields
    refine ⟨_, _, rfl, .openList hs hdepth, ?_⟩
    rw [hall]
    exact .firstItem ⟨[], hall.symm, .nil⟩
  · exact absurd h beginLexeme_ne_goto

theorem of_beginRecord {φ : Type} {fields : Fields φ} {enter : Place φ → State}
    (h : beginRecord fields enter c = .begin lexeme slot) :
    Lexeme.start? c = some lexeme ∧ slot = .misplaced fields.wanted := by
  rw [beginRecord] at h
  split_ifs at h
  exact beginLexeme_eq_begin_iff.1 h

/-! ## The rules -/

theorem Outer.Inside.withDraft {outer : Outer} {frame : Frame} (h : outer.Inside frame)
    (draft : LocaleDraft) : Inside { outer with draft := draft } frame := by
  cases h with
  | mk hentries => exact .mk hentries

section
variable {outer : Outer} {frame inner : Frame} {draft : LabelsDraft} {back place : Place LocaleField}
  {placeInLabels : Place LabelField}

/-- A mark in a locale. -/
theorem Outer.Inside.goto_inLocale (h : outer.Inside frame)
    (hat : outer.draft.filling.At localeFields [frame] place state')
    (hreact : reactInLocale outer place c = .goto next) :
    ∃ next', Document.Move state' c next' ∧ next.Follows next' := by
  have hled := hat.led (c := c)
  rw [reactInLocale] at hreact
  split at hreact
  · next hplace =>
    rw [hplace] at hled
    cases hreact
    obtain ⟨next', hmove, hnext⟩ := hled
    exact ⟨next', hmove, .inLocale h hnext⟩
  · cases hreact
  · exact absurd hreact beginText_ne_goto
  · next after hplace =>
    rw [hplace] at hled
    obtain ⟨inner, hs, hawaits⟩ := hled
    have hempty : LabelsDraft.empty.filling.MapRead labelFields [] := Filling.mapRead_nil fun f => by
      cases f <;> rfl
    obtain ⟨place', next', rfl, hmove, hlabels⟩ :=
      exists_of_beginRecord hreact ⟨_, _, rfl⟩ hempty hs (by simp [maxDepth])
    exact ⟨next', hmove, .inLabels h hawaits hlabels⟩
  · next hplace =>
    rw [hplace] at hled
    split at hreact
    · next locale hcomplete =>
      cases hreact
      obtain ⟨v, hmove, hwritten⟩ := hled
      obtain ⟨hfilled, hholds⟩ := LocaleDraft.of_complete hcomplete
      cases h with
      | mk hentries =>
        exact ⟨_, hmove, .afterLocale
          (.cons ⟨rfl, (hwritten enumerated_localeFields hfilled).imp hholds⟩ hentries)⟩
    · cases hreact
  · cases hreact

/-- A mark in labels. -/
theorem Outer.Inside.goto_inLabels (h : outer.Inside frame)
    (hawaits : outer.draft.filling.Awaits localeFields .labels back inner)
    (hat : draft.filling.At labelFields [inner, frame] placeInLabels state')
    (hreact : reactInLabels outer back draft placeInLabels c = .goto next) :
    ∃ next', Document.Move state' c next' ∧ next.Follows next' := by
  have hled := hat.led (c := c)
  rw [reactInLabels] at hreact
  split at hreact
  · next hplace =>
    rw [hplace] at hled
    cases hreact
    obtain ⟨next', hmove, hnext⟩ := hled
    exact ⟨next', hmove, .inLabels h hawaits hnext⟩
  · cases hreact
  · exact absurd hreact beginText_ne_goto
  · next hplace =>
    rw [hplace] at hled
    split at hreact
    · next labels hcomplete =>
      cases hreact
      obtain ⟨v, hmove, hwritten⟩ := hled
      obtain ⟨hfilled, hholds⟩ := LabelsDraft.of_complete hcomplete
      have hlabels : labels.Written v := (hwritten enumerated_labelFields hfilled).imp hholds
      exact ⟨_, hmove, .inLocale (h.withDraft _)
        (hawaits.attach enumerated_localeFields (outer.draft.adds_fillLabels hlabels))⟩
    · cases hreact
  · cases hreact

/-- The start of a lexeme in a locale. -/
theorem Outer.Inside.start_inLocale (h : outer.Inside frame)
    (hat : outer.draft.filling.At localeFields [frame] place state')
    (hreact : reactInLocale outer place c = .begin lexeme slot) :
    ∃ slot', Start state' c lexeme slot' ∧ slot.Follows slot' := by
  have hled := hat.led (c := c)
  rw [reactInLocale] at hreact
  split at hreact
  · cases hreact
  · next hplace =>
    rw [hplace] at hled
    cases hreact
    obtain ⟨members, hstart, hread⟩ := hled
    exact ⟨_, hstart, .field h hread⟩
  · next hplace =>
    rw [hplace] at hled
    obtain ⟨hstart, rfl⟩ := of_beginText hreact
    obtain ⟨inner, hs, hawaits⟩ := hled
    exact ⟨_, .value hs hstart, .heading h hawaits⟩
  · next hplace =>
    rw [hplace] at hled
    obtain ⟨hstart, rfl⟩ := of_beginRecord hreact
    obtain ⟨inner, hs, -⟩ := hled
    exact ⟨_, .value hs hstart, .misplaced _ _⟩
  · split at hreact <;> cases hreact
  · cases hreact

/-- The start of a lexeme in labels. -/
theorem Outer.Inside.start_inLabels (h : outer.Inside frame)
    (hawaits : outer.draft.filling.Awaits localeFields .labels back inner)
    (hat : draft.filling.At labelFields [inner, frame] placeInLabels state')
    (hreact : reactInLabels outer back draft placeInLabels c = .begin lexeme slot) :
    ∃ slot', Start state' c lexeme slot' ∧ slot.Follows slot' := by
  have hled := hat.led (c := c)
  rw [reactInLabels] at hreact
  split at hreact
  · cases hreact
  · next hplace =>
    rw [hplace] at hled
    cases hreact
    obtain ⟨members, hstart, hread⟩ := hled
    exact ⟨_, hstart, .labelField h hawaits hread⟩
  · next hplace =>
    rw [hplace] at hled
    obtain ⟨hstart, rfl⟩ := of_beginText hreact
    obtain ⟨innermost, hs, hlabel⟩ := hled
    exact ⟨_, .value hs hstart, .label h hawaits hlabel⟩
  · split at hreact <;> cases hreact
  · cases hreact

end

/-- **A mark of a bundle is one of the document.** -/
theorem State.Follows.goto (h : state.Follows state') (hreact : react state c = .goto next) :
    ∃ next', Document.Move state' c next' ∧ next.Follows next' := by
  cases h with
  | start =>
    rw [react, beginBundle] at hreact
    split_ifs at hreact with hbrace
    · cases hbrace
      cases hreact
      exact ⟨_, .openMap (.value []) (by decide), .firstCode⟩
    · exact absurd hreact beginLexeme_ne_goto
  | firstCode =>
    rw [react] at hreact
    split_ifs at hreact with _ hbrace
    cases hbrace
    cases hreact
    exact ⟨_, .closeEmptyMap [], .done .nil⟩
  | nextCode hentries => rw [react] at hreact; split_ifs at hreact
  | colon code hentries =>
    rw [react] at hreact
    split_ifs at hreact with hcolon
    cases hcolon
    cases hreact
    exact ⟨_, .colon _ _ _, .locale code hentries⟩
  | @locale entries members code hentries =>
    rw [react] at hreact
    have hempty : LocaleDraft.empty.filling.MapRead localeFields [] := Filling.mapRead_nil fun f => by
      rcases f with (_ | _) | _ <;> rfl
    obtain ⟨place, state'', rfl, hmove, hat⟩ :=
      exists_of_beginRecord hreact ⟨_, _, rfl⟩ hempty (.value [.map members code]) (by simp [maxDepth])
    exact ⟨state'', hmove, .inLocale (.mk hentries) hat⟩
  | afterLocale hentries =>
    rw [react] at hreact
    split_ifs at hreact with hcomma hbrace
    · cases hcomma
      cases hreact
      exact ⟨_, .member _ _, .nextCode hentries⟩
    · cases hbrace
      cases hreact
      exact ⟨_, .closeMap _ _, .done (List.forall₂_reverse_iff.2 hentries)⟩
  | inLocale hinside hat => exact hinside.goto_inLocale hat hreact
  | inLabels hinside hawaits hat => exact hinside.goto_inLabels hawaits hat hreact
  | failing fault state' => cases hreact
  | done hentries => cases hreact

/-- **The start of a lexeme in a bundle is one in the document.** -/
theorem State.Follows.start_lexeme (h : state.Follows state')
    (hreact : react state c = .begin lexeme slot) :
    ∃ slot', Start state' c lexeme slot' ∧ slot.Follows slot' := by
  cases h with
  | start =>
    rw [react, beginBundle] at hreact
    split_ifs at hreact
    obtain ⟨hstart, rfl⟩ := beginLexeme_eq_begin_iff.1 hreact
    exact ⟨_, .value (.value []) hstart, .misplaced _ _⟩
  | firstCode =>
    rw [react] at hreact
    split_ifs at hreact with hquote
    cases hquote
    cases hreact
    exact ⟨_, .firstKey [], .code .nil⟩
  | nextCode hentries =>
    rw [react] at hreact
    split_ifs at hreact with hquote
    cases hquote
    cases hreact
    exact ⟨_, .nextKey _ _, .code hentries⟩
  | colon code hentries => rw [react] at hreact; split_ifs at hreact
  | locale code hentries =>
    rw [react] at hreact
    obtain ⟨hstart, rfl⟩ := of_beginRecord hreact
    exact ⟨_, .value (.value _) hstart, .misplaced _ _⟩
  | afterLocale hentries => rw [react] at hreact; split_ifs at hreact
  | inLocale hinside hat => exact hinside.start_inLocale hat hreact
  | inLabels hinside hawaits hat => exact hinside.start_inLabels hawaits hat hreact
  | failing fault state' => cases hreact
  | done hentries => cases hreact

/-- **A value that goes into a bundle goes into the document.** -/
theorem Slot.Follows.fill {v : Scalar} (h : slot.Follows slot') (hfill : fill slot v = .ok state) :
    ∃ state', Document.fill slot' v = .ok state' ∧ state.Follows state' := by
  cases h with
  | code hentries =>
    cases v with
    | string code =>
      cases hfill
      exact ⟨_, rfl, .colon code hentries⟩
    | _ => cases hfill
  | field hinside hread =>
    cases v with
    | string key =>
      rw [Entries.fill] at hfill
      split at hfill
      · next f hnamed =>
        cases hfill
        obtain ⟨rfl, hf⟩ := enumerated_localeFields.named_eq_ok_iff.1 hnamed
        exact ⟨_, rfl, .inLocale hinside (.colon hf hread)⟩
      · cases hfill
        exact ⟨_, rfl, .failing _ _⟩
    | _ => cases hfill
  | @heading outer frame inner heading after hinside hawaits =>
    cases v with
    | string text =>
      cases hfill
      exact ⟨_, rfl, .inLocale (hinside.withDraft _)
        (hawaits.attach enumerated_localeFields (outer.draft.adds_fillHeading heading text))⟩
    | _ => cases hfill
  | labelField hinside hawaits hread =>
    cases v with
    | string key =>
      rw [Entries.fill] at hfill
      split at hfill
      · next f hnamed =>
        cases hfill
        obtain ⟨rfl, hf⟩ := enumerated_labelFields.named_eq_ok_iff.1 hnamed
        exact ⟨_, rfl, .inLabels hinside hawaits (.colon hf hread)⟩
      · cases hfill
        exact ⟨_, rfl, .failing _ _⟩
    | _ => cases hfill
  | @label outer frame inner innermost back draft label after hinside hawaits hlabel =>
    cases v with
    | string text =>
      cases hfill
      exact ⟨_, rfl, .inLabels hinside hawaits
        (hlabel.attach enumerated_labelFields (draft.adds_fill label text))⟩
    | _ => cases hfill
  | misplaced wanted outer => cases hfill

end

/-- **The reader of documents follows the reader of bundles.** -/
theorem simulates :
    Entries.grammar.Simulates Document.grammar State.Follows Slot.Follows where
  goto hs hreact := by
    obtain ⟨next', hmove, hnext⟩ := hs.goto hreact
    exact ⟨next', react_eq_goto_iff.2 hmove, hnext⟩
  start hs hreact := by
    obtain ⟨slot', hstart, hslot⟩ := hs.start_lexeme hreact
    exact ⟨slot', react_eq_begin_iff.2 hstart, hslot⟩
  fill hslot hfill := hslot.fill hfill

/-- Only a complete bundle may end. -/
theorem finish_eq_ok_iff {state : State} {entries : List (String × Locale)} :
    Entries.finish state = .ok entries ↔ state = .done entries := by
  cases state <;> simp [Entries.finish]

end Entries

/-- **What is read as a bundle is written as one.** -/
theorem bundleText_of_readEntries {text : List Char} {entries : List (String × Locale)}
    (h : readEntries text = .ok entries) : BundleText text entries := by
  obtain ⟨state, state', hfollows, hfinish, hread⟩ := Entries.simulates.read .start h
  obtain rfl := Entries.finish_eq_ok_iff.1 hfinish
  cases hfollows with
  | done hentries => exact ⟨_, elementText_of_readMembers (hread _ rfl), hentries⟩

end LiveJson
