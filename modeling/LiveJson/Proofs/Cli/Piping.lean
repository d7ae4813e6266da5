import LiveJson.Proofs.Cli.Switches
import LiveJson.Proofs.Json.RoundTrip
import LiveJson.Proofs.Text.Lines
import LiveJson.Proofs.Tree.Tour
import LiveJson.Proofs.Validation.Blank
import LiveJson.Proofs.Watch.Rendering

/-!
# Output that can be piped

Without switches that ask for something else, a run prints the formatted text of a document and
nothing around it.  The text goes through its lines on the way, which changes nothing: the only
controls in it are the line feeds between its lines, and it does not end in one.

## What is here

* `joinLines_linesOf_text` — the text of a document comes back from its lines.
* `runOn` — a run on the bytes of a text; `runOn_eq` says what comes of it without a tree and without
  panes, told from the pass over the text.
* `plain_output_pipes` — **what is printed can be the input of another run.**
-/

set_option autoImplicit false

namespace LiveJson

open LiveJson.Json LiveJson.Text LiveJson.Tree

/-! ## The lines of a formatted text -/

/-- The only controls in a formatted text are line feeds. -/
theorem eq_lineFeed_of_mem_writeValue {v : Value} {c : Char} (h : c ∈ writeValue 0 v)
    (hc : isControl c = true) : c = '\n' := by
  have hvisit : c ∈ (tour (.document v)).flatMap fun x => '\n' :: x.text := by
    rw [flatMap_text_tour]
    exact List.mem_append_left _ (List.mem_append_right _ h)
  obtain ⟨x, -, hx⟩ := List.mem_flatMap.1 hvisit
  rcases List.mem_cons.1 hx with rfl | hx
  · rfl
  · rw [noControls_text x c hx] at hc
    cases hc

/-- A value does not end in a line feed. -/
theorem getLast?_writeValue_ne (depth : Nat) (v : Value) :
    (writeValue depth v).getLast? ≠ some '\n' := by
  cases v with
  | null => rw [writeValue]; decide
  | bool b => rw [writeValue]; cases b <;> decide
  | number n =>
    rw [writeValue]
    exact fun h => (noControls_chars n).newline_notMem (List.mem_of_getLast? h)
  | string s =>
    rw [writeValue]
    exact fun h => (noControls_writeString s).newline_notMem (List.mem_of_getLast? h)
  | list items =>
    cases items with
    | nil => rw [writeValue]; decide
    | cons v rest => rw [writeValue, List.getLast?_concat]; decide
  | map members =>
    cases members with
    | nil => rw [writeValue]; decide
    | cons m rest => rw [writeValue, List.getLast?_concat]; decide

/-- **The text of a document comes back from its lines.** -/
theorem joinLines_linesOf_text (v : Value) : joinLines (linesOf v.text) = v.text := by
  rw [Value.text]
  apply joinLines_linesOf <;> rw [String.toList_ofList]
  · intro hreturn
    exact absurd (eq_lineFeed_of_mem_writeValue hreturn (by decide)) (by decide)
  · exact getLast?_writeValue_ne 0 v

/-- A document without doubles is read again from a line feed behind its text. -/
theorem check_text_append_of_check {text : String} {v : Value} (h : check text = .ok v)
    (hfloat : v.FloatFree) : check (v.text ++ "\n") = .ok v := by
  obtain ⟨hfits, hkeys⟩ := readDocument_fits (check_eq_ok_iff.1 h)
  rw [check_eq_ok_iff, String.toList_append, Value.text, String.toList_ofList]
  exact readDocument_writeValue_append hfloat hfits.height hkeys (by simp [isSpace])

namespace Cli

/-! ## Plain runs -/

/-- A run on the bytes of a text. -/
def runOn (t : Task) (text : String) : Outcome :=
  runOnce t (.ofBytes text.toUTF8)

/-- A text is read from its bytes. -/
theorem ofBytes_toUTF8 (text : String) : Reading.ofBytes text.toUTF8 = .ok text := by
  rw [Reading.ofBytes, String.fromUTF8?, String.toUTF8_eq_toByteArray, dif_pos text.isValidUTF8]
  rfl

theorem output_sessionOf (t : Task) (text : String) :
    (sessionOf t text).output = validate text := by
  obtain ⟨collapsed, h⟩ := collapseAll_eq t.collapse (t.session.submit text)
  rw [sessionOf, h]
  rfl

/-- Which paths name no container is a matter of the output. -/
theorem unmatched_congr {s s' : Session} (h : s.output = s'.output) (paths : List Path) :
    unmatched paths s = unmatched paths s' := by
  simp only [unmatched, h, Session.namesContainer_eq h]

/-- Neither the tree nor panes are printed. -/
def Task.Plain (t : Task) : Prop :=
  t.style.tree = false ∧ t.style.panes = false

variable {t : Task}

/-- **A plain run** prints the lines of the formatted text. -/
theorem runOn_eq (h : t.Plain) (text : String) :
    runOn t text =
      { code := if (validate text).error?.isSome then 1 else 0
        stdout := printed (joinLines (linesOf (validate text).formatted))
        message := (validate text).error?.map Malformed.message
        warnings := unmatched t.collapse (sessionOf t text) } := by
  rw [runOn, ofBytes_toUTF8]
  simp [runOnce, rendering, body, h.1, h.2, output_sessionOf]

/-- A plain run is the same on texts of which a pass makes the same. -/
theorem runOn_congr (h : t.Plain) {a b : String} (hab : validate a = validate b) :
    runOn t a = runOn t b := by
  have houtput : (sessionOf t a).output = (sessionOf t b).output := by
    rw [output_sessionOf, output_sessionOf, hab]
  rw [runOn_eq h, runOn_eq h, hab, unmatched_congr houtput]

/-! ## Plain commands -/

/-- A run has the task of its arguments. -/
theorem exists_arguments {words : List String} (h : Command.ofWords words = .run t) :
    ∃ a, Arguments.ofWords words = .ok a ∧ t = .ofArguments a := by
  rw [Command.ofWords] at h
  split at h
  · next a ha =>
    cases h
    exact ⟨a, ha, rfl⟩
  all_goals cases h

/-- A command without a switch for it asks neither for the tree nor for panes nor for watching. -/
theorem plain_of_ofWords {words : List String} (h : Command.ofWords words = .run t)
    (hplain : ∀ s ∈ [Switch.tree, .panes, .watch], s.display ∉ words) :
    t.Plain ∧ t.watch = false := by
  obtain ⟨a, ha, rfl⟩ := exists_arguments h
  have hoff : ∀ s ∈ [Switch.tree, .panes, .watch], a.has s = false := fun s hs =>
    Bool.eq_false_iff.2 fun hon => hplain s hs (display_mem_of_has ha hon)
  simp only [List.forall_mem_cons] at hoff
  obtain ⟨htree, hpanes, hwatch, -⟩ := hoff
  exact ⟨⟨htree, hpanes⟩, hwatch⟩

/-- **Plain output can be piped.**  A command line with no switch for the tree, for panes or for watching
asks for a run that prints the text of a document with a line feed behind it; of other texts it prints
nothing.  The exit code is 1 if the text is malformed, which a blank one is not.  Of a document without
doubles, a second run on what has been printed prints the same again. -/
theorem plain_output_pipes {words : List String} (h : Command.ofWords words = .run t)
    (hplain : ∀ s ∈ [Switch.tree, .panes, .watch], s.display ∉ words) :
    t.watch = false ∧ ∀ text : String,
      (∀ v, check text = .ok v →
        (runOn t text).stdout = v.text ++ "\n" ∧ (runOn t text).code = 0 ∧
        (v.FloatFree → runOn t (runOn t text).stdout = runOn t text)) ∧
      (IsBlank text = true → (runOn t text).stdout = "" ∧ (runOn t text).code = 0) ∧
      ∀ m, check text = .error m → IsBlank text = false →
        (runOn t text).stdout = "" ∧ (runOn t text).code = 1 := by
  obtain ⟨ht, hwatch⟩ := plain_of_ofWords h hplain
  refine ⟨hwatch, fun text => ⟨fun v hv => ?_, fun hblank => ?_, fun m hm hblank => ?_⟩⟩
  · have hvalid := validate_eq_valid_iff.2 hv
    have hstdout : (runOn t text).stdout = v.text ++ "\n" := by
      simp only [runOn_eq ht, hvalid, Validation.formatted, joinLines_linesOf_text, printed]
      rw [if_neg (by simpa using v.text_ne_empty)]
    refine ⟨hstdout, by simp only [runOn_eq ht, hvalid]; rfl, fun hfloat => ?_⟩
    rw [hstdout]
    refine runOn_congr ht ?_
    rw [hvalid, validate_eq_valid_iff.2 (check_text_append_of_check hv hfloat)]
  · have hvalidate := validate_eq_blank_iff.2 hblank
    simp only [runOn_eq ht, hvalidate]
    exact ⟨rfl, rfl⟩
  · have hvalidate := validate_eq_malformed_iff.2 ⟨hm, hblank⟩
    simp only [runOn_eq ht, hvalidate]
    exact ⟨rfl, rfl⟩

/-- A document on lines that end in a carriage return and a line feed, with both in a string, a control
in a key and an empty container: it is printed without the carriage returns between its lines, and read
again from there. -/
theorem plain_output_pipes_carriage_returns :
    ∃ t text v, Command.ofWords ["--collapse", "0", "--sort-keys", "-"] = .run t ∧
      text = "[\"\\r\\n\",\r\n\x7b\"\\u0007\":[]\x7d]\r\n" ∧ check text = .ok v ∧
      (runOn t text).stdout =
        "[\n  \"\\r\\n\",\n  \x7b\n    \"\\u0007\": []\n  \x7d\n]\n" ∧
      runOn t (runOn t text).stdout = runOn t text := by
  obtain ⟨v, hread, hv⟩ : ∃ v, check "[\"\\r\\n\",\r\n\x7b\"\\u0007\":[]\x7d]\r\n" = .ok v ∧
      decide (v.FloatFree ∧ v.text =
        "[\n  \"\\r\\n\",\n  \x7b\n    \"\\u0007\": []\n  \x7d\n]") = true :=
    exists_check_eq_ok (by decide +kernel)
  obtain ⟨hfloat, htext⟩ := of_decide_eq_true hv
  obtain ⟨t, ht⟩ : ∃ t, Command.ofWords ["--collapse", "0", "--sort-keys", "-"] = .run t := ⟨_, rfl⟩
  obtain ⟨-, hruns⟩ := plain_output_pipes ht (by decide)
  obtain ⟨hstdout, -, hagain⟩ := (hruns _).1 v hread
  refine ⟨t, _, v, ht, rfl, hread, ?_, hagain hfloat⟩
  rw [hstdout, htext]
  rfl

end Cli

end LiveJson
