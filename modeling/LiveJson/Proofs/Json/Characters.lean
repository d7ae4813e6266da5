import LiveJson.Json.Printer
import LiveJson.Proofs.Text.Digits
import Mathlib.Tactic.SplitIfs

/-!
# The characters of a written document

Whatever a document holds, the only control that is written for it is the line feed between two of its
lines.  A string has its controls escaped, and a number has none.

## What is here

* `isControl`, `NoControls` — the controls below U+0020, and texts without any.
* `noControls_writeString`, `noControls_chars` — strings and numbers are written without any.
* `Value.text_ne_empty` — something is written for every document.
-/

set_option autoImplicit false

namespace LiveJson.Json

/-- The controls that must be escaped in a string. -/
def isControl (c : Char) : Bool :=
  decide (c.toNat < 0x20)

/-- There is no control in a text. -/
def NoControls (cs : List Char) : Prop :=
  ∀ c ∈ cs, isControl c = false

instance (cs : List Char) : Decidable (NoControls cs) :=
  List.decidableBAll (fun c => isControl c = false) cs

@[simp] theorem noControls_nil : NoControls [] := nofun

@[simp] theorem noControls_cons {c : Char} {cs : List Char} :
    NoControls (c :: cs) ↔ isControl c = false ∧ NoControls cs :=
  List.forall_mem_cons

@[simp] theorem noControls_append {cs ds : List Char} :
    NoControls (cs ++ ds) ↔ NoControls cs ∧ NoControls ds :=
  List.forall_mem_append

theorem NoControls.subset {cs ds : List Char} (h : NoControls ds) (hsub : cs ⊆ ds) :
    NoControls cs :=
  fun c hc => h c (hsub hc)

theorem noControls_replicate {c : Char} (h : isControl c = false) (n : Nat) :
    NoControls (List.replicate n c) :=
  fun _ hd => List.eq_of_mem_replicate hd ▸ h

/-- A line feed is a control. -/
theorem NoControls.newline_notMem {cs : List Char} (h : NoControls cs) : '\n' ∉ cs :=
  fun hmem => absurd (h '\n' hmem) (by decide)

/-! ## Strings -/

theorem isControl_hexDigit {k : Nat} (h : k < 16) : isControl (hexDigit k) = false := by
  have hdigits : ∀ k < 16, isControl (hexDigit k) = false := by decide
  exact hdigits k h

theorem noControls_escapeChar (c : Char) : NoControls (escapeChar c) := by
  unfold escapeChar
  iterate 7
    split
    · decide
  split
  · next hcontrol =>
    have hhigh : isControl (hexDigit (c.toNat / 16)) = false := isControl_hexDigit (by omega)
    have hlow : isControl (hexDigit (c.toNat % 16)) = false := isControl_hexDigit (by omega)
    have hletters : NoControls ['\\', 'u', '0', '0'] := by decide
    simpa [hhigh, hlow] using hletters
  · next hcontrol => simpa [isControl] using hcontrol

/-- **A string is written without controls.** -/
theorem noControls_writeString (s : String) : NoControls (writeString s) := by
  have hchars : NoControls (s.toList.flatMap escapeChar) := by
    intro c hc
    obtain ⟨d, -, hd⟩ := List.mem_flatMap.1 hc
    exact noControls_escapeChar d c hd
  rw [writeString, List.cons_append, noControls_cons, noControls_append]
  exact ⟨rfl, hchars, by decide⟩

/-! ## Numbers -/

theorem noControls_toDigits (n : Nat) : NoControls (Nat.toDigits 10 n) := by
  intro c hc
  have hbounds := Char.isDigit_iff_toNat.1 (Text.isDigit_of_mem_toDigits hc)
  have hzero : '0'.toNat = 48 := rfl
  rw [isControl, decide_eq_false_iff_not]
  omega

theorem noControls_positional {digits : List Char} (h : NoControls digits) (exponent : Int) :
    NoControls (positional digits exponent) := by
  have hzeros : ∀ n, NoControls (List.replicate n '0') := noControls_replicate rfl
  have hwhole : ∀ n, NoControls (digits.take n) := fun n => h.subset (List.take_subset n digits)
  have hfraction : ∀ n, NoControls (digits.drop n) := fun n => h.subset (List.drop_subset n digits)
  unfold positional
  split_ifs
  · simp [hzeros, h, isControl]
  · simp only [noControls_append]
    refine ⟨⟨⟨hwhole _, hzeros _⟩, by decide⟩, ?_⟩
    split
    · decide
    · exact hfraction _

theorem noControls_exponential {digits : List Char} (h : NoControls digits) (exponent : Int) :
    NoControls (exponential digits exponent) := by
  have hwhole : NoControls (digits.take 1) := h.subset (List.take_subset 1 digits)
  have hfraction : NoControls (digits.drop 1) := h.subset (List.drop_subset 1 digits)
  have hpoint : NoControls (if digits.length ≤ 1 then [] else '.' :: digits.drop 1) := by
    split
    · exact noControls_nil
    · exact noControls_cons.2 ⟨rfl, hfraction⟩
  have hsign : isControl (if exponent < 0 then '-' else '+') = false := by
    split <;> rfl
  simp only [exponential, noControls_append, noControls_cons]
  exact ⟨⟨⟨hwhole, hpoint⟩, rfl, hsign, noControls_nil⟩, noControls_toDigits _⟩

theorem noControls_magnitudeText (x : Float) : NoControls (magnitudeText x) := by
  have hdigits : ∀ n, NoControls
      (((Nat.toDigits 10 n).reverse.dropWhile (· == '0')).reverse) := fun n =>
    (noControls_toDigits n).subset fun c hc => by
      rw [List.mem_reverse] at hc
      exact List.mem_reverse.1 ((List.dropWhile_suffix _).subset hc)
  simp only [magnitudeText]
  split_ifs
  · exact noControls_positional (by decide) 0
  · exact noControls_positional (hdigits _) _
  · exact noControls_exponential (hdigits _) _

/-- **A number is written without controls.** -/
theorem noControls_chars (n : Number) : NoControls n.chars := by
  cases n with
  | natural n _ => exact noControls_toDigits n
  | negative m _ => exact noControls_cons.2 ⟨rfl, noControls_toDigits m⟩
  | float x _ =>
    rw [Number.chars]
    split
    · exact noControls_cons.2 ⟨rfl, noControls_magnitudeText x⟩
    · exact noControls_magnitudeText x

/-! ## Something is written -/

theorem magnitudeText_ne_nil (x : Float) : magnitudeText x ≠ [] := by
  have hpositional : ∀ digits exponent, positional digits exponent ≠ [] := by
    intro digits exponent
    rw [positional]
    split <;> simp
  simp only [magnitudeText]
  split_ifs
  · exact hpositional _ _
  · exact hpositional _ _
  · simp [exponential]

theorem chars_ne_nil (n : Number) : n.chars ≠ [] := by
  cases n with
  | natural n _ => exact Nat.toDigits_ne_nil
  | negative m _ => exact List.cons_ne_nil _ _
  | float x _ =>
    rw [Number.chars]
    split
    · exact List.cons_ne_nil _ _
    · exact magnitudeText_ne_nil x

/-- **Something is written for every document.** -/
theorem Value.text_ne_empty (v : Value) : v.text ≠ "" := by
  have hwritten : writeValue 0 v ≠ [] := by
    cases v with
    | null => exact List.cons_ne_nil _ _
    | bool b => cases b <;> exact List.cons_ne_nil _ _
    | number n => exact chars_ne_nil n
    | string s => exact List.cons_ne_nil _ _
    | list items => cases items <;> exact List.cons_ne_nil _ _
    | map members => cases members <;> exact List.cons_ne_nil _ _
  intro h
  exact hwritten (String.ofList_injective h)

end LiveJson.Json
