import LiveJson.Tree.Path
import Mathlib.Tactic.SplitIfs

/-!
# Keys and their escaped forms

A segment is read in two passes over the whole of it.  The first puts slashes for `~1`, the second
tildes for `~0`.  Passes like these may read a character twice, when the second finds an escape that
the first has put together: with tildes first, `~01` is `~1` and then a slash.  The other way round
nothing is put together and nothing taken apart, since a slash neither begins an escape nor ends one.
So two passes read what one does.

## What is here

* `head?_replacePair_eq_some_iff` — what a pass does not see at the head of a segment.
* `unescape_slash`, `unescape_tilde`, `unescape_cons` — both passes at once, at the head of a segment.
* `unescape_escape` — a key is read back from its escaped form, in which there are no slashes.
* `decode` — a segment read in one pass, and `unescape_eq_decode`: **two passes read the same.**
-/

set_option autoImplicit false

namespace LiveJson.Tree.Path

/-! ## Escaped forms -/

theorem escape_cons (c : Char) (key : List Char) :
    escape (c :: key) =
      (if c = '~' then ['~', '0'] else if c = '/' then ['~', '1'] else [c]) ++ escape key :=
  List.flatMap_cons

theorem slash_not_mem_escape (key : List Char) : '/' ∉ escape key := by
  intro h
  obtain ⟨c, -, hc⟩ := List.mem_flatMap.1 h
  split_ifs at hc with htilde hslash
  · simp at hc
  · simp at hc
  · exact hslash (List.mem_singleton.1 hc).symm

@[simp] theorem escape_eq_nil_iff {key : List Char} : escape key = [] ↔ key = [] := by
  cases key with
  | nil => simp [escape]
  | cons c key =>
    rw [escape_cons]
    split_ifs <;> simp

/-- A key with every tilde escaped, and slashes left as they are. -/
def escapeTildes (key : List Char) : List Char :=
  key.flatMap fun c => if c = '~' then ['~', '0'] else [c]

/-- A key may be escaped in two passes, if tildes come first: no tilde that is written for a slash is
escaped then. -/
theorem escape_eq_flatMap_escapeTildes (key : List Char) :
    escape key = (escapeTildes key).flatMap fun c => if c = '/' then ['~', '1'] else [c] := by
  rw [escape, escapeTildes, List.flatMap_assoc]
  congr 1
  funext c
  split_ifs with htilde hslash
  · rfl
  · rw [List.flatMap_singleton, if_pos hslash]
  · rw [List.flatMap_singleton, if_neg hslash]

/-! ## One pass -/

section

variable {a b c : Char}

theorem replacePair_pair (rest : List Char) :
    replacePair a b c (a :: b :: rest) = c :: replacePair a b c rest := by
  rw [replacePair, if_pos ⟨rfl, rfl⟩]

/-- A character that begins no pair is left as it is. -/
theorem replacePair_cons {x : Char} {rest : List Char} (h : x = a → rest.head? ≠ some b) :
    replacePair a b c (x :: rest) = x :: replacePair a b c rest := by
  cases rest with
  | nil => rfl
  | cons y rest => rw [replacePair, if_neg fun hxy => h hxy.1 (congrArg some hxy.2)]

theorem replacePair_cons_of_ne {x : Char} (h : x ≠ a) (rest : List Char) :
    replacePair a b c (x :: rest) = x :: replacePair a b c rest :=
  replacePair_cons fun hx => absurd hx h

theorem replacePair_eq_nil_iff {cs : List Char} : replacePair a b c cs = [] ↔ cs = [] := by
  fun_cases replacePair a b c cs <;> simp [*]

/-- A character that neither begins a pair nor is put for one stands at the head of what a pass leaves
exactly if it stood there before. -/
theorem head?_replacePair_eq_some_iff {d : Char} (ha : d ≠ a) (hc : d ≠ c) {cs : List Char} :
    (replacePair a b c cs).head? = some d ↔ cs.head? = some d := by
  fun_cases replacePair a b c cs with
  | case1 x y rest hxy =>
    obtain ⟨rfl, -⟩ := hxy
    simp [ha.symm, hc.symm]
  | case2 => rfl
  | case3 => rfl

end

/-! ## Two passes -/

@[simp] theorem unescape_eq_nil_iff {segment : List Char} : unescape segment = [] ↔ segment = [] :=
  replacePair_eq_nil_iff.trans replacePair_eq_nil_iff

/-- The first pass reads a slash, and the second leaves it as it is. -/
theorem unescape_slash (rest : List Char) :
    unescape ('~' :: '1' :: rest) = '/' :: unescape rest := by
  rw [unescape, replacePair_pair, replacePair_cons_of_ne (by decide), ← unescape]

/-- The first pass leaves both characters as they are, and the second reads a tilde. -/
theorem unescape_tilde (rest : List Char) :
    unescape ('~' :: '0' :: rest) = '~' :: unescape rest := by
  have hone : ('0' :: rest).head? ≠ some '1' := by simp
  have hzero : '0' ≠ '~' := by decide
  rw [unescape, replacePair_cons fun _ => hone, replacePair_cons_of_ne hzero, replacePair_pair,
    ← unescape]

/-- Both passes leave a character as it is that begins no escape. -/
theorem unescape_cons {c : Char} {rest : List Char}
    (h : c = '~' → rest.head? ≠ some '1' ∧ rest.head? ≠ some '0') :
    unescape (c :: rest) = c :: unescape rest := by
  -- a zero behind the character would be there before the first pass
  have hzero : c = '~' → (replacePair '~' '1' '/' rest).head? ≠ some '0' := fun hc =>
    mt (head?_replacePair_eq_some_iff (by decide) (by decide)).1 (h hc).2
  rw [unescape, replacePair_cons fun hc => (h hc).1, replacePair_cons hzero, ← unescape]

/-- **A key is read back from its escaped form.** -/
theorem unescape_escape (key : List Char) : unescape (escape key) = key := by
  induction key with
  | nil => rfl
  | cons c key ih =>
    rw [escape_cons]
    split_ifs with htilde hslash
    · rw [htilde]
      exact (unescape_tilde _).trans (congrArg _ ih)
    · rw [hslash]
      exact (unescape_slash _).trans (congrArg _ ih)
    · exact (unescape_cons fun hc => absurd hc htilde).trans (congrArg _ ih)

/-! ## Reading from left to right -/

/-- **A segment read from left to right.**  An escape is read where it starts, and every other character
is itself; so is a tilde that begins no escape. -/
def decode : List Char → List Char
  | [] => []
  | '~' :: '1' :: rest => '/' :: decode rest
  | '~' :: '0' :: rest => '~' :: decode rest
  | c :: rest => c :: decode rest

/-- **Two passes read what one does,** in every segment, whether or not it is the escaped form of a
key.  Escaped forms can be written in two passes as well, and the key is read back from them. -/
theorem unescape_eq_decode (segment key : List Char) :
    unescape segment = decode segment ∧
      escape key = ((escapeTildes key).flatMap fun c => if c = '/' then ['~', '1'] else [c]) ∧
      unescape (escape key) = key := by
  refine ⟨?_, escape_eq_flatMap_escapeTildes key, unescape_escape key⟩
  fun_induction decode segment with
  | case1 => rfl
  | case2 rest ih => rw [unescape_slash, ih]
  | case3 rest ih => rw [unescape_tilde, ih]
  | case4 c rest hslash htilde ih =>
    have hplain : c = '~' → rest.head? ≠ some '1' ∧ rest.head? ≠ some '0' := by
      intro hc
      constructor
      · intro hone
        obtain ⟨tail, htail⟩ := List.head?_eq_some_iff.1 hone
        exact hslash tail hc htail
      · intro hzero
        obtain ⟨tail, htail⟩ := List.head?_eq_some_iff.1 hzero
        exact htilde tail hc htail
    rw [unescape_cons hplain, ih]

/-- With tildes first, `~01` would be read twice. -/
example :
    unescape ['~', '0', '1'] = ['~', '1'] ∧
      replacePair '~' '1' '/' (replacePair '~' '0' '~' ['~', '0', '1']) = ['/'] := by
  decide

end LiveJson.Tree.Path
