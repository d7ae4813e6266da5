import LiveJson.Cli.Arguments
import Mathlib.Data.List.TakeDrop
import Mathlib.Tactic.SplitIfs

/-!
# Where switches come from

A switch is on only if its word is on the command line.  Nothing else turns one on: not another
option, not a value and not a file, even if it is spelled like a switch.

## What is here

* `SameSwitches` — what settings and files leave as it is.
* `Reader.has_of_step` — the switches after one word.
* `display_mem_of_has` — **the switches of a whole command line.**
-/

set_option autoImplicit false

namespace LiveJson.Cli

/-- A computation that goes on with the result of another has a result if both have one. -/
theorem bind_eq_ok_iff {ε α β : Type} {x : Except ε α} {f : α → Except ε β} {b : β} :
    x >>= f = .ok b ↔ ∃ a, x = .ok a ∧ f a = .ok b := by
  cases x <;> simp [bind, Except.bind]

/-! ## Settings and files -/

/-- The same switches are on. -/
def SameSwitches (a b : Arguments) : Prop :=
  ∀ s, b.has s = a.has s

theorem SameSwitches.refl (a : Arguments) : SameSwitches a a :=
  fun _ => rfl

/-- A setting changes nothing that is not a setting. -/
theorem exists_of_assign {a b : Arguments} {setting : Setting} {value : String}
    (h : a.assign setting value = .ok b) :
    ∃ paths layout lang millis, b = { a with
      collapse := paths, layout := layout, lang := lang, quietMillis := millis } := by
  cases setting with
  | collapse =>
    cases h
    exact ⟨_, _, _, _, rfl⟩
  | layout | lang =>
    simp only [Arguments.assign, bind_eq_ok_iff] at h
    obtain ⟨_, -, _, -, h⟩ := h
    cases h
    exact ⟨_, _, _, _, rfl⟩
  | quietMillis =>
    simp only [Arguments.assign, bind_eq_ok_iff] at h
    obtain ⟨_, -, h⟩ := h
    split at h <;> cases h
    exact ⟨_, _, _, _, rfl⟩

theorem sameSwitches_assign {a b : Arguments} {setting : Setting} {value : String}
    (h : a.assign setting value = .ok b) : SameSwitches a b := by
  obtain ⟨_, _, _, _, rfl⟩ := exists_of_assign h
  intro s
  cases s <;> rfl

/-- A file is not the sample. -/
theorem sameSwitches_addFile {a b : Arguments} {path : String} (h : a.addFile path = .ok b) :
    SameSwitches a b := by
  rw [Arguments.addFile] at h
  split_ifs at h
  cases h
  intro s
  cases s <;> simp [Arguments.has]

theorem has_turnOn {a : Arguments} {s t : Switch} (h : (a.turnOn t).has s = true) :
    a.has s = true ∨ s = t := by
  cases s <;> cases t <;> simp_all [Arguments.turnOn, Arguments.has]

/-! ## Words -/

namespace Reader

variable {r next : Reader} {s : Switch}

theorem sameSwitches_settle (h : r.settle = .ok next) :
    SameSwitches r.arguments next.arguments := by
  rw [settle] at h
  split at h
  · cases h; exact .refl _
  · cases h
  · obtain ⟨a, ha, h⟩ := bind_eq_ok_iff.1 h
    cases h
    exact sameSwitches_assign ha
  · obtain ⟨a, ha, h⟩ := bind_eq_ok_iff.1 h
    cases h
    exact sameSwitches_addFile ha

theorem sameSwitches_takeFile {path : String} (h : r.takeFile path = .ok next) :
    SameSwitches r.arguments next.arguments := by
  rw [takeFile] at h
  split_ifs at h
  obtain ⟨r', hsettle, h⟩ := bind_eq_ok_iff.1 h
  have hsame := sameSwitches_settle hsettle
  cases h
  exact hsame

theorem sameSwitches_takePlain {text : String} (h : r.takePlain text = .ok next) :
    SameSwitches r.arguments next.arguments := by
  rw [takePlain] at h
  split at h
  · cases h; exact .refl _
  · exact sameSwitches_takeFile h

theorem sameSwitches_takeSetting {setting : Setting} {value : Option String}
    (h : r.takeSetting setting value = .ok next) : SameSwitches r.arguments next.arguments := by
  obtain ⟨r', hsettle, h⟩ := bind_eq_ok_iff.1 h
  have hsame := sameSwitches_settle hsettle
  cases value with
  | none => cases h; exact hsame
  | some v =>
    obtain ⟨a, ha, h⟩ := bind_eq_ok_iff.1 h
    cases h
    exact fun s => (sameSwitches_assign ha s).trans (hsame s)

theorem sameSwitches_takeShort {letters : List Char} (h : r.takeShort letters = .ok next) :
    SameSwitches r.arguments next.arguments := by
  induction letters generalizing r with
  | nil => cases h; exact .refl _
  | cons c rest ih =>
    rw [takeShort] at h
    split_ifs at h
    · obtain ⟨r', hsettle, h⟩ := bind_eq_ok_iff.1 h
      exact fun s => (ih h s).trans (sameSwitches_settle hsettle s)
    · obtain ⟨_, _, h⟩ := bind_eq_ok_iff.1 h
      cases h
    · obtain ⟨_, _, h⟩ := bind_eq_ok_iff.1 h
      cases h

/-- An option without a value is used after what was waiting. -/
theorem takeFlag_eq_ok_iff {display : String} {value : Option String}
    {use : Reader → Except Stop Reader} :
    r.takeFlag display value use = .ok next ↔
      value = none ∧ ∃ r', r.settle = .ok r' ∧ use r' = .ok next := by
  cases value <;> simp [takeFlag, bind_eq_ok_iff]

/-- A long option turns on the switch of its name. -/
theorem has_of_takeLong {name : String} {value : Option String}
    (h : r.takeLong name value = .ok next) (hs : next.arguments.has s = true) :
    r.arguments.has s = true ∨ name = s.name ∧ value = none := by
  rw [takeLong] at h
  split at h
  · next t hfind =>
    obtain ⟨rfl, r', hsettle, h⟩ := takeFlag_eq_ok_iff.1 h
    have hname : t.name = name := by simpa using List.find?_some hfind
    split_ifs at h
    cases h
    rcases has_turnOn hs with hs | rfl
    · exact .inl ((sameSwitches_settle hsettle s).symm.trans hs)
    · exact .inr ⟨hname.symm, rfl⟩
  · exact .inl ((sameSwitches_takeSetting h s).symm.trans hs)
  · split_ifs at h <;> obtain ⟨-, r', hsettle, h⟩ := takeFlag_eq_ok_iff.1 h <;> cases h
    exact .inl ((sameSwitches_settle hsettle s).symm.trans hs)

end Reader

/-- A long option without a value has all its characters in its name. -/
theorem eq_of_splitValue {cs : List Char} {name : String} (h : splitValue cs = (name, none)) :
    cs = name.toList := by
  have happend := List.takeWhile_append_dropWhile (p := fun c => c != '=') (l := cs)
  rw [splitValue, List.span_eq_takeWhile_dropWhile] at h
  cases hrest : cs.dropWhile fun c => c != '=' with
  | cons c value =>
    simp [hrest] at h
  | nil =>
    simp only [hrest, Prod.mk.injEq, and_true] at h
    rw [hrest, List.append_nil] at happend
    rw [← h, String.toList_ofList, happend]

/-- A long option without a value is its name behind two dashes. -/
theorem eq_of_ofString {word name : String} (h : Word.ofString word = .long name none) :
    word = "--" ++ name := by
  rw [Word.ofString] at h
  split at h
  · cases h
  · next cs _ hword =>
    have hname : splitValue cs = (name, none) := by
      injection h with hname hvalue
      exact Prod.ext hname hvalue
    rw [← String.toList_inj, hword, String.toList_append, eq_of_splitValue hname]
    rfl
  · cases h
  · cases h

/-- **One word turns on no switch but its own.** -/
theorem Reader.has_of_step {r next : Reader} {word : String} (h : r.step word = .ok next)
    {s : Switch} (hs : next.arguments.has s = true) :
    r.arguments.has s = true ∨ word = s.display := by
  rw [step] at h
  split_ifs at h
  · exact .inl ((sameSwitches_takeFile h s).symm.trans hs)
  · split at h
    · cases h; exact .inl hs
    · next name value hword =>
      refine (has_of_takeLong h hs).imp_right ?_
      rintro ⟨rfl, rfl⟩
      exact eq_of_ofString hword
    · exact .inl ((sameSwitches_takeShort h s).symm.trans hs)
    · exact .inl ((sameSwitches_takePlain h s).symm.trans hs)

/-- The words that are read turn on no switches but their own. -/
theorem Reader.has_of_foldlM {words : List String} {r last : Reader}
    (h : words.foldlM Reader.step r = .ok last) {s : Switch} (hs : last.arguments.has s = true) :
    r.arguments.has s = true ∨ s.display ∈ words := by
  induction words generalizing r with
  | nil => cases h; exact .inl hs
  | cons word rest ih =>
    rw [List.foldlM_cons, bind_eq_ok_iff] at h
    obtain ⟨next, hstep, h⟩ := h
    rcases ih h with hnext | hrest
    · refine (has_of_step hstep hnext).imp_right ?_
      rintro rfl
      exact List.mem_cons_self
    · exact .inr (List.mem_cons_of_mem word hrest)

/-- **A switch is on only if its word is on the command line.** -/
theorem display_mem_of_has {words : List String} {a : Arguments}
    (h : Arguments.ofWords words = .ok a) {s : Switch} (hs : a.has s = true) :
    s.display ∈ words := by
  obtain ⟨last, hwords, hfinish⟩ := bind_eq_ok_iff.1 h
  obtain ⟨settled, hsettle, hfinish⟩ := bind_eq_ok_iff.1 hfinish
  have ha : a = settled.arguments := by
    dsimp only at hfinish
    split at hfinish
    · cases hfinish
    · split_ifs at hfinish
      cases hfinish
      rfl
    · cases hfinish
      rfl
  rw [ha, Reader.sameSwitches_settle hsettle s] at hs
  refine (Reader.has_of_foldlM hwords hs).resolve_left ?_
  cases s <;> decide

end LiveJson.Cli
