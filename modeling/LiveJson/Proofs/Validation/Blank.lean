import LiveJson.Proofs.Json.RoundTrip
import Mathlib.Data.List.TakeWhile
import Mathlib.Tactic.SplitIfs

/-!
# Blank texts

A pass sets blank texts aside before they are read.  There are more blanks than there is white space
in documents, but none of them starts a value; so no document is set aside.

## What is here

* `eq_of_runs_blank` — behind blanks, a reader is still where the document may start.
* `isBlank_eq_false_of_check` — **a document is not blank.**
* `validate_eq_valid_iff`, `validate_eq_blank_iff`, `validate_eq_malformed_iff` — the outcomes of a
  pass, told from what reading the text gives.
* `blankFault`, and `readDocument_blank` — what is wrong with a blank text when it is read after all.
* `validate_hides_no_document` — **setting blank texts aside hides no document,** and changes nothing
  else.
-/

set_option autoImplicit false

namespace LiveJson

open Json Json.Document Text

/-! ## Reading blanks -/

theorem isBlank_eq_false_of_isDigit {c : Char} (h : c.isDigit = true) : isBlank c = false := by
  have hdigit : 48 ≤ c.toNat ∧ c.toNat ≤ 57 := Char.isDigit_iff_toNat.1 h
  have hranges : ∀ r ∈ blankRanges, r.2 < 48 ∨ 57 < r.1 := by decide
  rw [isBlank, List.any_eq_false]
  intro r hr
  have := hranges r hr
  simp only [Bool.and_eq_true, decide_eq_true_eq]
  omega

/-- No lexeme starts with a blank. -/
theorem isBlank_eq_false_of_start? {c : Char} {lexeme : Lexeme}
    (h : Lexeme.start? c = some lexeme) : isBlank c = false := by
  by_cases hdigit : c.isDigit = true
  · exact isBlank_eq_false_of_isDigit hdigit
  · rw [Lexeme.start?, if_neg hdigit] at h
    split_ifs at h <;> subst c <;> decide

/-- Where the document may start, a blank is skipped if it is read at all. -/
theorem eq_of_step_blank {c : Char} (hc : isBlank c = true) {next : Config State Slot}
    (h : grammar.step (.between (.value [])) c = .ok next) : next = .between (.value []) := by
  cases Grammar.enter_eq_ok_iff.1 h with
  | space => rfl
  | goto _ hreact =>
    obtain ⟨-, ⟨rfl, -⟩ | ⟨rfl, -⟩⟩ := beginValue_eq_goto_iff.1 hreact <;>
      exact absurd hc (by decide)
  | start _ hreact =>
    rw [isBlank_eq_false_of_start? (beginValue_eq_begin_iff.1 hreact).1] at hc
    cases hc

/-- Behind blanks, a reader is still where the document may start. -/
theorem eq_of_runs_blank {cs : List Char} (hcs : ∀ c ∈ cs, isBlank c = true)
    {last : Config State Slot} (h : grammar.Runs (.between (.value [])) cs last) :
    last = .between (.value []) := by
  induction cs with
  | nil =>
    cases h
    rfl
  | cons c cs ih =>
    rw [List.forall_mem_cons] at hcs
    cases h with
    | cons hstep hrest =>
      rw [eq_of_step_blank hcs.1 hstep] at hrest
      exact ih hcs.2 hrest

/-- **A document is not blank.** -/
theorem isBlank_eq_false_of_check {text : String} {v : Value} (h : check text = .ok v) :
    IsBlank text = false := by
  rw [Bool.eq_false_iff, IsBlank, Ne, List.all_eq_true]
  intro hblank
  rw [check_eq_ok_iff, readDocument] at h
  cases hread : readMembers text.toList with
  | error fault =>
    rw [hread] at h
    cases h
  | ok w =>
    obtain ⟨last, hruns, hclose⟩ := Grammar.read_eq_ok_iff.1 hread
    rw [eq_of_runs_blank hblank hruns] at hclose
    cases hclose

/-! ## Passes -/

variable {text : String}

theorem validate_eq_blank_iff : validate text = .blank ↔ IsBlank text = true := by
  rw [validate]
  split
  · next hblank => simp [hblank]
  · next hblank => cases check text <;> simp [hblank]

/-- A pass finds every document. -/
theorem validate_eq_valid_iff {v : Value} : validate text = .valid v ↔ check text = .ok v := by
  rw [validate]
  split
  · next hblank =>
    refine ⟨fun h => (by cases h), fun h => ?_⟩
    rw [isBlank_eq_false_of_check h] at hblank
    cases hblank
  · cases check text <;> simp

/-- A pass finds something wrong with every other text, unless it is blank. -/
theorem validate_eq_malformed_iff {m : Malformed} :
    validate text = .malformed m ↔ check text = .error m ∧ IsBlank text = false := by
  rw [validate]
  split
  · next hblank => simp [hblank]
  · next hblank => cases check text <;> simp [hblank]

/-! ## Blank texts that are read -/

/-- What is wrong with a blank text.  Either it is white space of documents to its end, or it is so up
to a blank that is not. -/
def blankFault (cs : List Char) : SyntaxFault :=
  if cs.all isSpace then ⟨.endInValue, byteLength cs⟩
  else ⟨.expectedValue, byteLength (cs.takeWhile isSpace) + 1⟩

/-- Where the document may start, no blank can stand but white space. -/
theorem step_blank {c : Char} (hc : isBlank c = true) (hspace : isSpace c = false) :
    grammar.step (.between (.value [])) c = .error ⟨.expectedValue, 1⟩ := by
  have hstart : Lexeme.start? c = none := by
    cases hlexeme : Lexeme.start? c with
    | none => rfl
    | some lexeme =>
      rw [isBlank_eq_false_of_start? hlexeme] at hc
      cases hc
  have hbrackets : c ≠ '[' ∧ c ≠ '{' := by
    constructor <;> rintro rfl <;> exact absurd hc (by decide)
  have hreact : grammar.react (.value []) c = .fail .expectedValue 1 := by
    change beginValue [] c = _
    rw [beginValue, if_neg hbrackets.1, if_neg hbrackets.2, hstart]
  simp only [Grammar.step, Grammar.enter, hspace, Bool.false_eq_true, if_false, hreact]

/-- **A blank text is read up to its first blank that is no white space,** or to its end. -/
theorem readMembers_blank {cs : List Char} (hcs : ∀ c ∈ cs, isBlank c = true) :
    readMembers cs = .error (blankFault cs) := by
  rw [readMembers, Grammar.read_eq_error_iff, blankFault]
  split
  · next hspaces =>
    exact .inl ⟨_, Grammar.runs_space _ (List.all_eq_true.1 hspaces), rfl, rfl⟩
  · next hspaces =>
    right
    cases hback : cs.dropWhile isSpace with
    | nil =>
      exact absurd (List.all_eq_true.2 (List.dropWhile_eq_nil_iff.1 hback)) hspaces
    | cons c back =>
      have hsplit : cs = cs.takeWhile isSpace ++ c :: back := by
        rw [← hback, List.takeWhile_append_dropWhile]
      have hspace : isSpace c = false := by
        have hhead := List.head?_dropWhile_not isSpace cs
        rwa [hback] at hhead
      have hblank : isBlank c = true :=
        hcs c (hsplit ▸ List.mem_append_right _ List.mem_cons_self)
      refine Grammar.feed_eq_error_iff.2 ⟨_, c, back, .between (.value []), _, hsplit, ?_,
        step_blank hblank hspace, ?_⟩
      · exact Grammar.runs_space _ fun d hd => List.mem_takeWhile_imp hd
      · rw [Nat.zero_add]

theorem readDocument_blank {cs : List Char} (hcs : ∀ c ∈ cs, isBlank c = true) :
    readDocument cs = .error (blankFault cs) := by
  rw [readDocument, readMembers_blank hcs]
  rfl

/-- **Setting blank texts aside hides no document.**  The documents that a pass finds are those that
texts are read as.  A text that is set aside would be malformed: at its end if it is white space of
documents throughout, and otherwise at the first blank that is not.  Of any other text a pass says what
reading it says, with the same message, span and help. -/
theorem validate_hides_no_document (text : String) :
    (∀ v, validate text = .valid v ↔ check text = .ok v) ∧
    (IsBlank text = true → validate text = .blank ∧
      check text = .error (.ofFault text.toList (blankFault text.toList))) ∧
    (IsBlank text = false → ∀ m, validate text = .malformed m ↔ check text = .error m) := by
  refine ⟨fun v => validate_eq_valid_iff, fun hblank => ⟨validate_eq_blank_iff.2 hblank, ?_⟩,
    fun hblank m => ?_⟩
  · rw [IsBlank, List.all_eq_true] at hblank
    exact check_eq_error_iff.2 ⟨_, readDocument_blank hblank, rfl⟩
  · rw [validate_eq_malformed_iff, and_iff_left hblank]

/-- A no-break space between white space of documents, and one in front of a document: the first text
is set aside, and would be malformed at the no-break space, as the second one is. -/
theorem validate_hides_no_document_no_break_space :
    IsBlank " \n\u00a0\t" = true ∧ validate " \n\u00a0\t" = .blank ∧
      check " \n\u00a0\t" = .error ⟨.expectedValue, ⟨2, 1⟩, ⟨2, 2⟩, .checkPunctuation⟩ ∧
      IsBlank "\u00a0[]" = false ∧
      validate "\u00a0[]" = .malformed ⟨.expectedValue, ⟨1, 1⟩, ⟨0, 2⟩, .checkPunctuation⟩ := by
  obtain ⟨-, haside, -⟩ := validate_hides_no_document " \n\u00a0\t"
  obtain ⟨-, -, hsame⟩ := validate_hides_no_document "\u00a0[]"
  have hblank : IsBlank " \n\u00a0\t" = true := by decide +kernel
  have hnot : IsBlank "\u00a0[]" = false := by decide +kernel
  obtain ⟨hvalidate, hcheck⟩ := haside hblank
  refine ⟨hblank, hvalidate, ?_, hnot, (hsame hnot _).2 ?_⟩
  · rw [hcheck]
    exact congrArg Except.error (by decide +kernel)
  · obtain ⟨m, hm, hfields⟩ : ∃ m, check "\u00a0[]" = .error m ∧
        decide (m = ⟨.expectedValue, ⟨1, 1⟩, ⟨0, 2⟩, .checkPunctuation⟩) = true :=
      exists_check_eq_error (by decide +kernel)
    rw [hm, of_decide_eq_true hfields]

end LiveJson
