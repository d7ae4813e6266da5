import LiveJson.Proofs.Json.Unambiguity
import LiveJson.Proofs.Locale.Notation
import Mathlib.Data.List.Nodup

/-!
# What is written as a bundle is read as one

The reader of bundles goes through every text that is a way to write a bundle.  Inside a record, what has
been read is told by the record and by which of its fields have been read, in whatever order that was; so
the place where the reader stands is a function of these.

## What is here

* `Labels.draft`, `Locale.draft` — a record of which some fields have been read.
* `Entries.Reads` — what it takes to read a record inside a bundle; `Entries.Reads.runs` goes through a
  text of the record.
* `Entries.reads_labels`, `Entries.reads_locale` — labels and locales are read so.
* `readEntries_of_bundleText` — **what is written is read.**
-/

set_option autoImplicit false

namespace LiveJson

open Json

/-! ## Records of which some fields have been read -/

/-- The labels of which these have been read. -/
def Labels.draft (labels : Labels) (filled : List LabelField) : LabelsDraft where
  data := if .data ∈ filled then some labels.data else none
  input := if .input ∈ filled then some labels.input else none
  output := if .output ∈ filled then some labels.output else none

namespace Labels

variable (labels : Labels) (filled : List LabelField)

theorem isFilled_draft_iff (f : LabelField) :
    (labels.draft filled).isFilled f = true ↔ f ∈ filled := by
  cases f <;> simp [draft, LabelsDraft.isFilled]

theorem fill_draft (f : LabelField) :
    (labels.draft filled).fill f (labels.get f) = labels.draft (f :: filled) := by
  cases f <;> simp [draft, LabelsDraft.fill, get]

theorem complete_draft (h : ∀ f, f ∈ filled) : (labels.draft filled).complete = .ok labels := by
  simp [draft, LabelsDraft.complete, h]

end Labels

/-- The locale of which these fields have been read. -/
def Locale.draft (locale : Locale) (filled : List LocaleField) : LocaleDraft where
  title := if .heading .title ∈ filled then some locale.title else none
  error := if .heading .error ∈ filled then some locale.error else none
  labels := if .labels ∈ filled then some locale.labels else none

namespace Locale

variable (locale : Locale) (filled : List LocaleField)

theorem isFilled_draft_iff (f : LocaleField) :
    (locale.draft filled).isFilled f = true ↔ f ∈ filled := by
  rcases f with (_ | _) | _ <;> simp [draft, LocaleDraft.isFilled]

theorem fillHeading_draft (h : Heading) :
    (locale.draft filled).fillHeading h (locale.get h) = locale.draft (.heading h :: filled) := by
  cases h <;> simp [draft, LocaleDraft.fillHeading, get]

theorem fillLabels_draft :
    (locale.draft filled).fillLabels locale.labels = locale.draft (.labels :: filled) := by
  simp [draft, LocaleDraft.fillLabels]

theorem complete_draft (h : ∀ f, f ∈ filled) : (locale.draft filled).complete = .ok locale := by
  simp [draft, LocaleDraft.complete, h]

end Locale

end LiveJson

namespace LiveJson.Entries

open Json

/-! ## Marks and texts -/

section
variable {state next : State} {slot : Slot} {text : List Char} {c : Char}

/-- A mark leads on. -/
theorem runs_mark (hreact : react state c = .goto next) (hc : isSpace c = false) :
    grammar.Runs (.between state) [c] (.between next) :=
  .single (Grammar.enter_eq_ok_iff.2 (.goto hc hreact))

/-- A string is read where one may start. -/
theorem runs_string {s : String} (hbegin : react state '"' = .begin (.string [] .plain) slot)
    (hfill : fill slot (.string s) = .ok next) (h : StringText text s) :
    grammar.Runs (.between state) text (.between next) := by
  obtain ⟨rest, rfl⟩ := h.exists_eq_cons
  exact .cons (Grammar.enter_eq_ok_iff.2 (.start rfl hbegin)) (runs_of_stringText h hfill)

/-- White space around a value is skipped. -/
theorem runs_element {v : Value} (h : ElementText text v)
    (hvalue : ∀ here, ValueText here v → grammar.Runs (.between state) here (.between next)) :
    grammar.Runs (.between state) text (.between next) := by
  obtain ⟨hbefore, hv, hafter⟩ := h
  exact ((Grammar.runs_space _ hbefore).append (hvalue _ hv)).append (Grammar.runs_space _ hafter)

/-- A member is read where its key may start, and where its value may start behind the colon. -/
theorem runs_member {afterKey value : State} {m : String × Value} (h : MemberText text m)
    (hbegin : react state '"' = .begin (.string [] .plain) slot)
    (hfill : fill slot (.string m.1) = .ok afterKey) (hcolon : react afterKey ':' = .goto value)
    (hvalue : ∀ here, ElementText here m.2 → grammar.Runs (.between value) here (.between next)) :
    grammar.Runs (.between state) text (.between next) := by
  cases h with
  | mk hbefore hkey hafter helement =>
    exact (((Grammar.runs_space _ hbefore).append (runs_string hbegin hfill hkey)).append
      (Grammar.runs_space _ hafter)).append ((runs_mark hcolon rfl).append (hvalue _ helement))

end

/-! ## Records -/

/-- A record is read inside a bundle: `inside` are the states in which some of its fields have been read,
and `after` is the state behind it.  Where a value may start, a closing bracket may be refused. -/
structure Reads {φ : Type} (fields : Fields φ) (holds : φ → Value → Prop)
    (inside : List φ → Place φ → State) (after : State) : Prop where
  goto : ∀ {filled : List φ} {place next : Place φ} {c : Char},
    place.react fields c = .goto next → react (inside filled place) c = .goto (inside filled next)
  key : ∀ {filled : List φ} {place : Place φ}, place.react fields '"' = .key →
    ∃ slot, react (inside filled place) '"' = .begin (.string [] .plain) slot ∧
      ∀ f, f ∉ filled → fill slot (.string (fields.name f)) = .ok (inside filled (.colon f))
  value : ∀ {filled : List φ} {place next : Place φ} {f : φ} {text : List Char} {v : Value},
    (∀ c, c ≠ ']' → place.react fields c = .field f next) → holds f v → ElementText text v →
    grammar.Runs (.between (inside filled place)) text (.between (inside (f :: filled) next))
  close : ∀ {filled : List φ} {place : Place φ} {c : Char}, place.react fields c = .close →
    (∀ f, f ∈ filled) → react (inside filled place) c = .goto after

namespace Reads

variable {φ : Type} {fields : Fields φ} {holds : φ → Value → Prop} {inside : List φ → Place φ → State}
  {after : State} {text : List Char}

/-- The member of a field that has not been read. -/
theorem runs_field (h : Reads fields holds inside after) {filled : List φ} {place : Place φ} {f : φ}
    {m : String × Value} (hplace : place.react fields '"' = .key) (hf : f ∉ filled)
    (hm : m.1 = fields.name f ∧ holds f m.2) (htext : MemberText text m) :
    grammar.Runs (.between (inside filled place)) text
      (.between (inside (f :: filled) .afterValue)) := by
  obtain ⟨slot, hbegin, hfill⟩ := h.key hplace
  refine runs_member htext hbegin (by rw [hm.1]; exact hfill f hf) (h.goto rfl) fun here hhere => ?_
  exact h.value (fun _ _ => rfl) hm.2 hhere

/-- Members that others follow, last one first. -/
theorem runs_members (h : Reads fields holds inside after) {written : List φ} {members : Members}
    (hmembers : fields.Members holds written members) (hnodup : written.Nodup)
    (htext : MembersText text members.reverse) :
    ∃ place, place.react fields '"' = .key ∧
      grammar.Runs (.between (inside [] .firstKey)) text (.between (inside written place)) := by
  induction hmembers generalizing text with
  | nil =>
    obtain rfl := htext.eq_nil rfl
    exact ⟨.firstKey, rfl, .nil _⟩
  | cons hm _ ih =>
    rw [List.reverse_cons] at htext
    obtain ⟨front, here, hfront, hhere, rfl⟩ := htext.exists_of_append
    obtain ⟨hf, hnodup⟩ := List.nodup_cons.1 hnodup
    obtain ⟨place, hplace, hruns⟩ := ih hnodup hfront
    exact ⟨.nextKey, rfl, (hruns.append (h.runs_field hplace hf hm hhere)).append
      (runs_mark (h.goto rfl) rfl)⟩

/-- Items that others follow, last one first.  Behind the last field there is no place for an item. -/
theorem runs_items (h : Reads fields holds inside after) {written rest : List φ} {items : List Value}
    (hitems : List.Forall₂ holds written items) (hall : written.reverse ++ rest = fields.all)
    (htext : ItemsText text items.reverse) :
    ∃ place, (∀ f rest', rest = f :: rest' → ∀ c, c ≠ ']' →
        place.react fields c = .field f (.afterItem rest')) ∧
      grammar.Runs (.between (inside [] (.ofList fields.all))) text
        (.between (inside written place)) := by
  induction hitems generalizing text rest with
  | nil =>
    obtain rfl := htext.eq_nil rfl
    rw [List.reverse_nil, List.nil_append] at hall
    subst hall
    refine ⟨_, fun f rest' hrest c hc => ?_, .nil _⟩
    rw [hrest, Place.ofList, Place.react, if_neg hc]
  | @cons f v written items hv _ ih =>
    rw [List.reverse_cons] at htext hall
    rw [List.append_assoc] at hall
    obtain ⟨front, here, hfront, hhere, rfl⟩ := htext.exists_of_append
    obtain ⟨place, hplace, hruns⟩ := ih hall hfront
    have hitem := hruns.append (h.value (hplace f rest rfl) hv hhere)
    cases rest with
    | nil =>
      exact ⟨.surplus, fun _ _ hrest => (by cases hrest),
        hitem.append (runs_mark (h.goto rfl) rfl)⟩
    | cons g rest =>
      refine ⟨.nextItem g rest, fun f' rest' hrest c hc => ?_,
        hitem.append (runs_mark (h.goto rfl) rfl)⟩
      cases hrest
      rw [Place.react, if_neg hc]

/-- **A text of the record is gone through.** -/
theorem runs (h : Reads fields holds inside after) (hfields : fields.Enumerated) {state : State}
    (hmap : react state '{' = .goto (inside [] .firstKey))
    (hlist : react state '[' = .goto (inside [] (.ofList fields.all))) {v : Value}
    (hv : fields.Written holds v) (htext : ElementText text v) :
    grammar.Runs (.between state) text (.between after) := by
  refine runs_element htext fun here hhere => ?_
  cases hv with
  | @map written members hperm hmembers =>
    have hfilled : ∀ f, f ∈ written := fun f => hperm.mem_iff.2 (hfields.mem_all f)
    have hnodup : written.Nodup := hperm.nodup_iff.2 hfields.nodup
    cases hhere with
    | emptyMap hspaces =>
      obtain rfl := List.forall₂_nil_right_iff.1 hmembers
      exact ((runs_mark hmap rfl).append (Grammar.runs_space _ hspaces)).append
        (runs_mark (h.close rfl hfilled) rfl)
    | map hfront hlast =>
      rw [Fields.Members, ← List.forall₂_reverse_iff, List.reverse_concat'] at hmembers
      obtain ⟨f, others, hm, hothers, hwritten⟩ := List.forall₂_cons_right_iff.1 hmembers
      rw [← List.nodup_reverse, hwritten, List.nodup_cons] at hnodup
      obtain ⟨place, hplace, hruns⟩ := h.runs_members hothers hnodup.2 (by rwa [List.reverse_reverse])
      have hall : ∀ g, g ∈ f :: others := by
        intro g
        rw [← hwritten, List.mem_reverse]
        exact hfilled g
      exact (((runs_mark hmap rfl).append hruns).append
        (h.runs_field hplace hnodup.1 hm hlast)).append (runs_mark (h.close rfl hall) rfl)
  | list hitems =>
    cases hhere with
    | emptyList hspaces =>
      have hall := List.forall₂_nil_right_iff.1 hitems
      rw [hall] at hlist
      have hfilled : ∀ f, f ∈ ([] : List φ) := fun f => hall ▸ hfields.mem_all f
      exact ((runs_mark hlist rfl).append (Grammar.runs_space _ hspaces)).append
        (runs_mark (h.close rfl hfilled) rfl)
    | list hfront hlast =>
      rw [← List.forall₂_reverse_iff, List.reverse_concat'] at hitems
      obtain ⟨f, others, hv, hothers, hwritten⟩ := List.forall₂_cons_right_iff.1 hitems
      have hall : others.reverse ++ [f] = fields.all := by
        rw [← List.reverse_cons, ← hwritten, List.reverse_reverse]
      obtain ⟨place, hplace, hruns⟩ := h.runs_items hothers hall (by rwa [List.reverse_reverse])
      have hfilled : ∀ g, g ∈ f :: others := by
        intro g
        rw [← hwritten, List.mem_reverse]
        exact hfields.mem_all g
      exact (((runs_mark hlist rfl).append hruns).append
        (h.value (hplace f [] rfl) hv hlast)).append (runs_mark (h.close rfl hfilled) rfl)

end Reads

/-! ## Labels and locales -/

theorem reads_labels (outer : Outer) (back : Place LocaleField) (labels : Labels) :
    Reads labelFields (fun f v => v = .string (labels.get f))
      (fun filled place => .inLabels outer back (labels.draft filled) place)
      (.inLocale { outer with draft := outer.draft.fillLabels labels } back) where
  goto hplace := by rw [react, reactInLabels, hplace]
  key {filled place} hplace := by
    refine ⟨.labelField outer back (labels.draft filled), by rw [react, reactInLabels, hplace],
      fun f hf => ?_⟩
    have hnew : (labels.draft filled).isFilled f = false := by
      rw [Bool.eq_false_iff, Ne, labels.isFilled_draft_iff]
      exact hf
    rw [fill, enumerated_labelFields.named_eq_ok_iff.2 ⟨rfl, hnew⟩]
  value {filled place next f text v} hplace hv htext := by
    subst hv
    refine runs_element htext fun here hhere => ?_
    cases hhere with
    | string hstring =>
      have hbegin : react (.inLabels outer back (labels.draft filled) place) '"' =
          .begin (.string [] .plain) (.label outer back (labels.draft filled) f next) := by
        rw [react, reactInLabels, hplace _ (by decide)]
        rfl
      refine runs_string hbegin ?_ hstring
      rw [fill, labels.fill_draft]
  close hplace hfilled := by
    rw [react, reactInLabels, hplace]
    simp only [Labels.complete_draft _ _ hfilled]

theorem reads_locale (entries : List (String × Locale)) (code : String) (locale : Locale) :
    Reads localeFields locale.Holds
      (fun filled place => .inLocale ⟨entries, code, locale.draft filled⟩ place)
      (.afterLocale ((code, locale) :: entries)) where
  goto hplace := by rw [react, reactInLocale, hplace]
  key {filled place} hplace := by
    refine ⟨.field ⟨entries, code, locale.draft filled⟩, by rw [react, reactInLocale, hplace],
      fun f hf => ?_⟩
    have hnew : (locale.draft filled).isFilled f = false := by
      rw [Bool.eq_false_iff, Ne, locale.isFilled_draft_iff]
      exact hf
    rw [fill, enumerated_localeFields.named_eq_ok_iff.2 ⟨rfl, hnew⟩]
  value {filled place next f text v} hplace hv htext := by
    cases f with
    | heading h =>
      obtain rfl : v = .string (locale.get h) := hv
      refine runs_element htext fun here hhere => ?_
      cases hhere with
      | string hstring =>
        have hbegin : react (.inLocale ⟨entries, code, locale.draft filled⟩ place) '"' =
            .begin (.string [] .plain)
              (.heading ⟨entries, code, locale.draft filled⟩ h next) := by
          rw [react, reactInLocale, hplace _ (by decide)]
          rfl
        refine runs_string hbegin ?_ hstring
        rw [fill, locale.fillHeading_draft]
    | labels =>
      have hlabels := reads_labels ⟨entries, code, locale.draft filled⟩ next locale.labels
      rw [locale.fillLabels_draft] at hlabels
      refine hlabels.runs enumerated_labelFields ?_ ?_ hv htext
      · rw [react, reactInLocale, hplace _ (by decide)]
        rfl
      · rw [react, reactInLocale, hplace _ (by decide)]
        rfl
  close hplace hfilled := by
    rw [react, reactInLocale, hplace]
    simp only [Locale.complete_draft _ _ hfilled]

/-! ## Bundles -/

section
variable {text : List Char} {entries : List (String × Locale)} {m : String × Value}
  {e : String × Locale} {state : State}

/-- A code with its locale. -/
theorem runs_entry (hbegin : react state '"' = .begin (.string [] .plain) (.code entries))
    (hm : m.1 = e.1 ∧ e.2.Written m.2) (htext : MemberText text m) :
    grammar.Runs (.between state) text (.between (.afterLocale (e :: entries))) := by
  refine runs_member htext hbegin rfl rfl fun here hhere => ?_
  rw [hm.1]
  exact (reads_locale entries e.1 e.2).runs enumerated_localeFields rfl rfl hm.2 hhere

/-- Entries that others follow, last one first. -/
theorem runs_entries {members : Members} (hentries : EntriesWritten members entries)
    (htext : MembersText text members.reverse) :
    ∃ state, react state '"' = .begin (.string [] .plain) (.code entries) ∧
      grammar.Runs (.between .firstCode) text (.between state) := by
  induction hentries generalizing text with
  | nil =>
    obtain rfl := htext.eq_nil rfl
    exact ⟨.firstCode, rfl, .nil _⟩
  | cons hm _ ih =>
    rw [List.reverse_cons] at htext
    obtain ⟨front, here, hfront, hhere, rfl⟩ := htext.exists_of_append
    obtain ⟨state, hbegin, hruns⟩ := ih hfront
    exact ⟨.nextCode _, rfl, (hruns.append (runs_entry hbegin hm hhere)).append (runs_mark rfl rfl)⟩

/-- **A text of the bundle is gone through.** -/
theorem runs_bundle (h : BundleText text entries) :
    grammar.Runs (.between .start) text (.between (.done entries)) := by
  obtain ⟨members, helement, hentries⟩ := h
  refine runs_element helement fun here hhere => ?_
  cases hhere with
  | emptyMap hspaces =>
    obtain rfl := List.forall₂_nil_left_iff.1 hentries
    exact ((runs_mark rfl rfl).append (Grammar.runs_space .firstCode hspaces)).append
      (runs_mark rfl rfl)
  | map hfront hlast =>
    rw [EntriesWritten, ← List.forall₂_reverse_iff, List.reverse_concat'] at hentries
    obtain ⟨e, others, hm, hothers, hwritten⟩ := List.forall₂_cons_left_iff.1 hentries
    obtain ⟨state, hbegin, hruns⟩ := runs_entries hothers (by rwa [List.reverse_reverse])
    rw [List.reverse_eq_iff] at hwritten
    rw [hwritten]
    exact (((runs_mark rfl rfl).append hruns).append (runs_entry hbegin hm hlast)).append
      (runs_mark rfl rfl)

end

end LiveJson.Entries

namespace LiveJson

open Json

/-- **What is written as a bundle is read as one.** -/
theorem readEntries_of_bundleText {text : List Char} {entries : List (String × Locale)}
    (h : BundleText text entries) : readEntries text = .ok entries :=
  Grammar.read_eq_ok_iff.2 ⟨_, Entries.runs_bundle h, rfl⟩

end LiveJson
