import LiveJson.Locale.Entries
import LiveJson.Proofs.Json.Notation
import Mathlib.Data.List.Forall2
import Mathlib.Tactic.SplitIfs

/-!
# How bundles are written

A bundle is a document: a map from codes to locales.  A locale is a record, and its labels are another
one.  A record is written as a map in which each field has one member, in any order, or as the list of its
fields.

## What is here

* `Fields.Enumerated` — what makes fields those of a record; then a key names one of them at most
  (`Fields.Enumerated.named_eq_ok_iff`).
* `Fields.Written` — the values that are a record, given which values each field may have.
* `Labels.Written`, `Locale.Written` — the values that are these labels, and this locale.
* `BundleText` — **the ways to write a bundle,** by the notation of documents (`ElementText`).
-/

set_option autoImplicit false

namespace LiveJson

open Json

/-! ## Fields -/

section
variable {φ : Type} {fields : Fields φ}

/-- The fields of a record are listed, each once and under a name of its own. -/
structure Fields.Enumerated (fields : Fields φ) : Prop where
  nodup : fields.all.Nodup
  mem_all : ∀ f, f ∈ fields.all
  name_inj : ∀ f g, fields.name f = fields.name g → f = g

theorem enumerated_labelFields : labelFields.Enumerated :=
  ⟨by decide, fun f => by cases f <;> decide, fun f g => by cases f <;> cases g <;> decide⟩

theorem enumerated_localeFields : localeFields.Enumerated :=
  ⟨by decide, fun f => by rcases f with (_ | _) | _ <;> decide,
    fun f g => by rcases f with (_ | _) | _ <;> rcases g with (_ | _) | _ <;> decide⟩

/-- **A key that is taken names a field that is not there yet.** -/
theorem Fields.Enumerated.named_eq_ok_iff (h : fields.Enumerated) {isFilled : φ → Bool} {key : String}
    {f : φ} : fields.named isFilled key = .ok f ↔ fields.name f = key ∧ isFilled f = false := by
  rw [named]
  constructor
  · intro hnamed
    split at hnamed
    · cases hnamed
    · next g hfind =>
      split_ifs at hnamed with hfilled
      cases hnamed
      exact ⟨by simpa using List.find?_some hfind, Bool.eq_false_iff.2 hfilled⟩
  · rintro ⟨rfl, hfilled⟩
    have hsome : (fields.all.find? fun g => fields.name g == fields.name f).isSome := by
      rw [List.find?_isSome]
      exact ⟨f, h.mem_all f, beq_self_eq_true _⟩
    obtain ⟨g, hg⟩ := Option.isSome_iff_exists.1 hsome
    obtain rfl := h.name_inj g f (by simpa using List.find?_some hg)
    simp [hg, hfilled]

/-! ## Records -/

/-- The members are those of the fields, each under its name. -/
def Fields.Members (fields : Fields φ) (holds : φ → Value → Prop) (written : List φ)
    (members : Json.Members) : Prop :=
  List.Forall₂ (fun f m => m.1 = fields.name f ∧ holds f m.2) written members

/-- **The ways to write a record** whose fields hold certain values. -/
inductive Fields.Written (fields : Fields φ) (holds : φ → Value → Prop) : Value → Prop
  /-- Each field has one member. -/
  | map {written : List φ} {members : Json.Members} : written.Perm fields.all →
    fields.Members holds written members → Written fields holds (.map members)
  /-- The fields stand in their own order. -/
  | list {items : List Value} : List.Forall₂ holds fields.all items →
    Written fields holds (.list items)

/-- What holds more still holds. -/
theorem Fields.Written.imp {holds holds' : φ → Value → Prop} {v : Value}
    (h : fields.Written holds v) (himp : ∀ f w, holds f w → holds' f w) : fields.Written holds' v := by
  cases h with
  | map hperm hmembers => exact .map hperm (hmembers.imp fun f m hm => ⟨hm.1, himp f m.2 hm.2⟩)
  | list hitems => exact .list (hitems.imp himp)

end

/-! ## Labels and locales -/

/-- The text of a label. -/
def Labels.get (labels : Labels) : LabelField → String
  | .data => labels.data
  | .input => labels.input
  | .output => labels.output

/-- The ways to write labels. -/
def Labels.Written (labels : Labels) : Value → Prop :=
  labelFields.Written fun f v => v = .string (labels.get f)

/-- The text of a heading. -/
def Locale.get (locale : Locale) : Heading → String
  | .title => locale.title
  | .error => locale.error

/-- What a field of a locale may hold. -/
def Locale.Holds (locale : Locale) : LocaleField → Value → Prop
  | .heading h, v => v = .string (locale.get h)
  | .labels, v => locale.labels.Written v

/-- The ways to write a locale. -/
def Locale.Written (locale : Locale) : Value → Prop :=
  localeFields.Written locale.Holds

/-! ## Bundles -/

/-- The members are locales, each under its code. -/
def EntriesWritten (members : Members) (entries : List (String × Locale)) : Prop :=
  List.Forall₂ (fun m e => m.1 = e.1 ∧ e.2.Written m.2) members entries

/-- **The ways to write a bundle:** a map from codes to locales, in which nothing is said of which codes
there are, nor of how often. -/
def BundleText (text : List Char) (entries : List (String × Locale)) : Prop :=
  ∃ members, ElementText text (.map members) ∧ EntriesWritten members entries

end LiveJson
