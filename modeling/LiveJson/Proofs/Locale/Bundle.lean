import LiveJson.Locale.Bundle
import LiveJson.Proofs.Locale.Completeness
import LiveJson.Proofs.Locale.Soundness

/-!
# Loading a bundle

A text is loaded in three steps: it is read, its codes are looked through for one that no language has, and
then the languages are asked for, one after the other.  The first step that fails gives the error.

## What is here

* `readEntries_eq_ok_iff` — a text is read exactly if it is a way to write a bundle.
* `leastText?_eq_some_iff`, `unsupported?_eq_some_iff` — the code that is reported is the least by its bytes.
* `LastEntry`, and `lastLocale?_eq_some_iff` — the locale that is taken is the last one under its code.
* `Bundle.ofText_eq_iff` — **what comes of a text,** told from the ways in which it is written.
-/

set_option autoImplicit false

namespace LiveJson

open Json Text

/-- **The texts that are read are those of bundles.** -/
theorem readEntries_eq_ok_iff {text : List Char} {entries : List (String × Locale)} :
    readEntries text = .ok entries ↔ BundleText text entries :=
  ⟨bundleText_of_readEntries, readEntries_of_bundleText⟩

/-! ## The least text -/

theorem byteLE_refl (a : String) : byteLE a a = true := by
  simpa using byteLE_total a a

theorem byteLE_antisymm {a b : String} (h : byteLE a b = true) (h' : byteLE b a = true) : a = b := by
  rw [byteLE, decide_eq_true_eq] at h h'
  exact bytes_injective (List.le_antisymm h h')

/-- The lesser of two texts is one of them and comes before neither of them. -/
theorem lesser_spec (s t : String) :
    let lesser := if byteLE s t then s else t
    lesser ∈ [s, t] ∧ byteLE lesser s = true ∧ byteLE lesser t = true := by
  dsimp only
  split_ifs with hst
  · exact ⟨List.mem_cons_self, byteLE_refl s, hst⟩
  · have hts := byteLE_total s t
    rw [Bool.eq_false_iff.2 hst, Bool.false_or] at hts
    exact ⟨List.mem_pair.2 (.inr rfl), hts, byteLE_refl t⟩

/-- The lesser text at every step ends as the least of all. -/
theorem foldl_least (l : List String) (s : String) :
    let least := l.foldl (fun least t => if byteLE least t then least else t) s
    least ∈ s :: l ∧ ∀ t ∈ s :: l, byteLE least t = true := by
  induction l generalizing s with
  | nil => simp [byteLE_refl]
  | cons t l ih =>
    obtain ⟨hlesser, hs, ht⟩ := lesser_spec s t
    obtain ⟨hmem, hleast⟩ := ih (if byteLE s t then s else t)
    dsimp only
    rw [List.forall_mem_cons] at hleast
    rw [List.foldl_cons, List.forall_mem_cons, List.forall_mem_cons]
    refine ⟨?_, byteLE_trans hleast.1 hs, byteLE_trans hleast.1 ht, hleast.2⟩
    rcases List.mem_cons.1 hmem with heq | hl
    · rw [heq]
      exact List.mem_append_left l hlesser
    · exact List.mem_cons_of_mem s (List.mem_cons_of_mem t hl)

/-- **The least text** is one of the texts, and none of them comes before it. -/
theorem leastText?_eq_some_iff {l : List String} {s : String} :
    leastText? l = some s ↔ s ∈ l ∧ ∀ t ∈ l, byteLE s t = true := by
  cases l with
  | nil => simp [leastText?]
  | cons u l =>
    obtain ⟨hmem, hleast⟩ := foldl_least l u
    rw [leastText?, Option.some.injEq]
    constructor
    · rintro rfl
      exact ⟨hmem, hleast⟩
    · rintro ⟨hs, hmin⟩
      exact byteLE_antisymm (hleast s hs) (hmin _ hmem)

theorem leastText?_eq_none_iff {l : List String} : leastText? l = none ↔ l = [] := by
  cases l <;> simp [leastText?]

/-! ## Codes -/

section
variable {entries : List (String × Locale)} {code : String} {lang : Lang} {locale : Locale}

theorem notMem_codes_iff : code ∉ entries.map Prod.fst ↔ ∀ e ∈ entries, e.1 ≠ code := by
  rw [List.mem_map]
  exact ⟨fun h e he heq => h ⟨e, he, heq⟩, fun h ⟨e, he, heq⟩ => h e he heq⟩

/-- The codes that no language has. -/
theorem ofCode?_eq_none_iff : Lang.ofCode? code = none ↔ ¬(code = "en" ∨ code = "es") := by
  rw [Lang.ofCode?, List.find?_eq_none, not_or]
  constructor
  · intro h
    refine ⟨?_, ?_⟩
    · rintro rfl
      exact h .en (Lang.mem_all _) rfl
    · rintro rfl
      exact h .es (Lang.mem_all _) rfl
  · rintro ⟨hen, hes⟩ lang -
    rw [beq_iff_eq]
    cases lang
    · exact Ne.symm hen
    · exact Ne.symm hes

theorem unsupported?_eq_some_iff :
    unsupported? entries = some code ↔
      (code ∈ entries.map Prod.fst ∧ ¬(code = "en" ∨ code = "es")) ∧
        ∀ other ∈ entries.map Prod.fst, ¬(other = "en" ∨ other = "es") →
          byteLE code other = true := by
  simp only [unsupported?, leastText?_eq_some_iff, List.mem_filter, Option.isNone_iff_eq_none,
    ofCode?_eq_none_iff, and_imp]

theorem unsupported?_eq_none_iff :
    unsupported? entries = none ↔ ∀ code ∈ entries.map Prod.fst, code = "en" ∨ code = "es" := by
  simp only [unsupported?, leastText?_eq_none_iff, List.filter_eq_nil_iff,
    Option.isNone_iff_eq_none, ofCode?_eq_none_iff, not_not]

/-- The locale stands under the code, and no other one does behind it. -/
def LastEntry (entries : List (String × Locale)) (code : String) (locale : Locale) : Prop :=
  ∃ front back, entries = front ++ (code, locale) :: back ∧ code ∉ back.map Prod.fst

theorem LastEntry.mem (h : LastEntry entries code locale) : code ∈ entries.map Prod.fst := by
  obtain ⟨front, back, rfl, -⟩ := h
  simp

theorem lastLocale?_eq_some_iff :
    lastLocale? entries lang = some locale ↔ LastEntry entries lang.code locale := by
  have hbehind : ∀ back : List (String × Locale), lang.code ∉ back.map Prod.fst ↔
      ∀ e ∈ back.reverse, (!(e.1 == lang.code)) = true := by
    intro back
    simp only [notMem_codes_iff, List.mem_reverse, Bool.not_eq_true', beq_eq_false_iff_ne]
  simp only [lastLocale?, Option.map_eq_some_iff, List.find?_eq_some_iff_append]
  constructor
  · rintro ⟨⟨code, locale⟩, ⟨hcode, back, front, hentries, hback⟩, rfl⟩
    obtain rfl : code = lang.code := eq_of_beq hcode
    rw [List.reverse_eq_iff] at hentries
    refine ⟨front.reverse, back.reverse, by simp [hentries], (hbehind _).2 ?_⟩
    rwa [List.reverse_reverse]
  · rintro ⟨front, back, rfl, hback⟩
    exact ⟨(lang.code, locale), ⟨beq_self_eq_true _, back.reverse, front.reverse, by simp,
      (hbehind back).1 hback⟩, rfl⟩

theorem lastLocale?_eq_none_iff :
    lastLocale? entries lang = none ↔ lang.code ∉ entries.map Prod.fst := by
  rw [lastLocale?, Option.map_eq_none_iff, List.find?_eq_none, notMem_codes_iff]
  simp only [List.mem_reverse, beq_iff_eq, Ne]

end

/-! ## Entries -/

namespace Bundle

variable {entries : List (String × Locale)} {b : Bundle}

theorem eq_of_get_eq {b' : Bundle} (h : ∀ lang, b.get lang = b'.get lang) : b = b' := by
  cases b
  cases b'
  obtain rfl := h .en
  obtain rfl := h .es
  rfl

/-- **What comes of entries,** in the order in which it is looked for. -/
theorem ofEntries_cases (entries : List (String × Locale)) :
    (∃ code, unsupported? entries = some code ∧ ofEntries entries = .error (.unsupported code)) ∨
    unsupported? entries = none ∧
      (lastLocale? entries .en = none ∧ ofEntries entries = .error (.missing .en) ∨
        (∃ en, lastLocale? entries .en = some en) ∧ lastLocale? entries .es = none ∧
          ofEntries entries = .error (.missing .es) ∨
        ∃ b : Bundle, (∀ lang, lastLocale? entries lang = some (b.get lang)) ∧
          ofEntries entries = .ok b) := by
  cases hcode : unsupported? entries with
  | some code => exact .inl ⟨code, rfl, by simp only [ofEntries, hcode]⟩
  | none =>
    refine .inr ⟨rfl, ?_⟩
    simp only [ofEntries, hcode, localeOf]
    cases hen : lastLocale? entries .en with
    | none => exact .inl ⟨rfl, rfl⟩
    | some en =>
      cases hes : lastLocale? entries .es with
      | none => exact .inr (.inl ⟨⟨en, rfl⟩, rfl, rfl⟩)
      | some es =>
        refine .inr (.inr ⟨⟨en, es⟩, fun lang => ?_, rfl⟩)
        cases lang
        · exact hen
        · exact hes

/-- Entries are a bundle if their codes are those of the languages. -/
theorem ofEntries_eq_ok_iff :
    ofEntries entries = .ok b ↔
      (∀ code, code ∈ entries.map Prod.fst ↔ code = "en" ∨ code = "es") ∧
        ∀ lang, LastEntry entries lang.code (b.get lang) := by
  constructor
  · intro h
    obtain ⟨code, -, hresult⟩ | ⟨hcodes, ⟨-, hresult⟩ | ⟨-, -, hresult⟩ | ⟨b', hlast, hresult⟩⟩ :=
      ofEntries_cases entries
    all_goals rw [hresult] at h; cases h
    have hentry : ∀ lang, LastEntry entries lang.code (b.get lang) :=
      fun lang => lastLocale?_eq_some_iff.1 (hlast lang)
    refine ⟨fun code => ⟨unsupported?_eq_none_iff.1 hcodes code, ?_⟩, hentry⟩
    rintro (rfl | rfl)
    · exact (hentry .en).mem
    · exact (hentry .es).mem
  · rintro ⟨hcodes, hentry⟩
    have hlast : ∀ lang, lastLocale? entries lang = some (b.get lang) :=
      fun lang => lastLocale?_eq_some_iff.2 (hentry lang)
    have hnone := unsupported?_eq_none_iff.2 fun code => (hcodes code).1
    obtain ⟨code, hcode, -⟩ | ⟨-, ⟨hen, -⟩ | ⟨-, hes, -⟩ | ⟨b', hlast', hresult⟩⟩ :=
      ofEntries_cases entries
    · rw [hnone] at hcode
      cases hcode
    · rw [hlast .en] at hen
      cases hen
    · rw [hlast .es] at hes
      cases hes
    · rw [hresult, eq_of_get_eq fun lang => Option.some.inj ((hlast' lang).symm.trans (hlast lang))]

theorem ofEntries_eq_unsupported_iff {code : String} :
    ofEntries entries = .error (.unsupported code) ↔
      (code ∈ entries.map Prod.fst ∧ ¬(code = "en" ∨ code = "es")) ∧
        ∀ other ∈ entries.map Prod.fst, ¬(other = "en" ∨ other = "es") →
          byteLE code other = true := by
  rw [← unsupported?_eq_some_iff]
  obtain ⟨code', hcode, hresult⟩ | ⟨hnone, ⟨-, hresult⟩ | ⟨-, -, hresult⟩ | ⟨b', -, hresult⟩⟩ :=
    ofEntries_cases entries
  · simp [hcode, hresult]
  all_goals simp [hnone, hresult]

theorem ofEntries_eq_missing_iff {lang : Lang} :
    ofEntries entries = .error (.missing lang) ↔
      (∀ code ∈ entries.map Prod.fst, code = "en" ∨ code = "es") ∧
        (lang = .en ∧ "en" ∉ entries.map Prod.fst ∨
          lang = .es ∧ "en" ∈ entries.map Prod.fst ∧ "es" ∉ entries.map Prod.fst) := by
  have hen : lastLocale? entries .en = none ↔ "en" ∉ entries.map Prod.fst := lastLocale?_eq_none_iff
  have hes : lastLocale? entries .es = none ↔ "es" ∉ entries.map Prod.fst := lastLocale?_eq_none_iff
  rw [← unsupported?_eq_none_iff, ← hen, ← hes, ← not_not (a := "en" ∈ _), ← hen]
  obtain ⟨code', hcode, hresult⟩ | ⟨hnone, ⟨hen', hresult⟩ | ⟨⟨en, hen'⟩, hes', hresult⟩ |
    ⟨b', hlast, hresult⟩⟩ := ofEntries_cases entries
  · simp [hcode, hresult]
  · simp [hnone, hresult, hen', eq_comm]
  · simp [hnone, hresult, hen', hes', eq_comm]
  · simp [hnone, hresult, hlast]

theorem ofEntries_ne_malformed {fault : RecordFault} {position : Position} :
    ofEntries entries ≠ .error (.malformed fault position) := by
  obtain ⟨code', -, hresult⟩ | ⟨-, ⟨-, hresult⟩ | ⟨-, -, hresult⟩ | ⟨b', -, hresult⟩⟩ :=
    ofEntries_cases entries
  all_goals rw [hresult]; exact fun h => by cases h

/-! ## Texts -/

/-- **What comes of a text.**  It is a bundle if it is written as a map from codes to locales whose codes
are those of the languages, in any order and also repeated; the locale of a language is the last one under
its code.  A text that is not written so is malformed, whatever else is wrong with it.  Of the others, one
with codes that no language has is refused for the least of them by its bytes; and one without such codes
misses English, or if it has that, Spanish. -/
theorem ofText_eq_iff (text : String) :
    (∀ b, ofText text = .ok b ↔ ∃ entries, BundleText text.toList entries ∧
      (∀ code, code ∈ entries.map Prod.fst ↔ code = "en" ∨ code = "es") ∧
      ∀ lang, LastEntry entries lang.code (b.get lang)) ∧
    ((∃ fault position, ofText text = .error (.malformed fault position)) ↔
      ¬∃ entries, BundleText text.toList entries) ∧
    (∀ code, ofText text = .error (.unsupported code) ↔ ∃ entries, BundleText text.toList entries ∧
      (code ∈ entries.map Prod.fst ∧ ¬(code = "en" ∨ code = "es")) ∧
      ∀ other ∈ entries.map Prod.fst, ¬(other = "en" ∨ other = "es") → byteLE code other = true) ∧
    (∀ lang, ofText text = .error (.missing lang) ↔ ∃ entries, BundleText text.toList entries ∧
      (∀ code ∈ entries.map Prod.fst, code = "en" ∨ code = "es") ∧
      (lang = .en ∧ "en" ∉ entries.map Prod.fst ∨
        lang = .es ∧ "en" ∈ entries.map Prod.fst ∧ "es" ∉ entries.map Prod.fst)) := by
  cases hread : readEntries text.toList with
  | error fault =>
    have hnone : ∀ entries, ¬BundleText text.toList entries := by
      intro entries h
      rw [readEntries_of_bundleText h] at hread
      cases hread
    simp [ofText, hread, hnone]
  | ok entries =>
    have honly : ∀ entries', BundleText text.toList entries' ↔ entries' = entries := by
      intro entries'
      rw [← readEntries_eq_ok_iff, hread, Except.ok.injEq, eq_comm]
    simp only [ofText, hread, honly, exists_eq_left, ofEntries_eq_ok_iff, ofEntries_ne_malformed,
      ofEntries_eq_unsupported_iff, ofEntries_eq_missing_iff, exists_false, exists_eq,
      not_true_eq_false, implies_true, and_self]

/-- A locale without fields comes before its code, which no language has. -/
example : (match ofText "\x7b\"fr\":\x7b\x7d,\"en\":[\"t\",\"e\",[\"d\",\"i\",\"o\"]]\x7d" with
    | .ok _ => ""
    | .error e => e.kind) = "malformed" := by
  decide +kernel

end Bundle

end LiveJson
