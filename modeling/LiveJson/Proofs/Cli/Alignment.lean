import LiveJson.Proofs.Cli.Piping
import LiveJson.Proofs.View.Columns

/-!
# Both panes side by side

In columns, every row of the page has the input on its left, and the bar behind it at one column.  That
holds as long as every line of the panes is one line.  The lines of the input and of the formatted text
are, as they come from taking a text apart at its line feeds.  The lines of the tree are taken as they
are, and show keys and strings unescaped.

## What is here

* `Aligned` — what it is for panes to stand side by side in rows; `aligned_of_noLineFeeds` and
  `not_aligned_of_lineFeed` say when they do.
* `ShowsLineFeed`, and `exists_lineFeed_mem_render_iff` — the nodes that bring line feeds into the tree.
* `noLineFeeds_inputPane`, `noLineFeeds_outputPane` — what else is shown has none.
* `page_aligned_iff` — **the page is aligned** unless the tree shows a line feed.
-/

set_option autoImplicit false

namespace LiveJson

open LiveJson.Json LiveJson.Text LiveJson.Tree LiveJson.View

/-! ## Two panes -/

/-- **Two panes are aligned in rows.**  There are as many rows as the taller pane has with its title and
its rule.  Each of them begins with what the first pane has there, filled up to the width of the pane, and
a space and the bar follow. -/
structure Aligned (input output : Pane) (rows : List (List Char)) : Prop where
  length_eq : rows.length = max (input.lines.length + 2) (output.lines.length + 2)
  take_eq : ∀ (i : Nat) (row : List Char), rows[i]? = some row →
    row.take input.width = pad input.width (input.cell i)
  bar : ∀ row ∈ rows, row[input.width]? = some ' ' ∧ row[input.width + 1]? = some '│'

section
variable {input output : Pane}

theorem length_columnRows_pair :
    (columnRows ([input, output].map Pane.chars)).length =
      max (input.lines.length + 2) (output.lines.length + 2) := by
  rw [length_columnRows, height_chars]
  rfl

/-- The bar is never cut off. -/
theorem exists_columnRows_eq {i : Nat} {row : List Char}
    (h : (columnRows ([input, output].map Pane.chars))[i]? = some row) :
    ∃ rest, row = pad input.width (input.cell i) ++ ' ' :: '│' :: rest := by
  obtain ⟨front, rest, hfront, hrow, -⟩ :=
    @exists_trimBlankEnd_fullRow_eq [input, output] 0 input rfl (Nat.lt_succ_self 1) i
  obtain rfl := List.length_eq_zero_iff.1 hfront
  exact ⟨rest, (getElem?_columnRows h).trans hrow⟩

/-- Panes without line feeds are aligned. -/
theorem aligned_of_noLineFeeds (hinput : input.NoLineFeeds) (houtput : output.NoLineFeeds) :
    Aligned input output (columnLines [input, output]) := by
  have hpanes : ∀ p ∈ [input, output], p.NoLineFeeds := by simp [hinput, houtput]
  have hwidth := input.length_pad_cell
  rw [columnLines_eq (List.cons_ne_nil _ _) hpanes]
  refine ⟨length_columnRows_pair, fun i row hrow => ?_, fun row hrow => ?_⟩
  · obtain ⟨rest, rfl⟩ := exists_columnRows_eq hrow
    exact List.take_left' (hwidth i)
  · obtain ⟨i, hi⟩ := List.getElem?_of_mem hrow
    obtain ⟨rest, rfl⟩ := exists_columnRows_eq hi
    rw [List.getElem?_append_right (hwidth i).le, List.getElem?_append_right (by rw [hwidth i]; omega),
      hwidth i, Nat.sub_self, Nat.add_sub_cancel_left]
    exact ⟨rfl, rfl⟩

/-- A row with a line feed falls into more than one. -/
theorem not_aligned_of_lineFeed {row : List Char}
    (hrow : row ∈ columnRows ([input, output].map Pane.chars)) (hfeed : '\n' ∈ row) :
    ¬Aligned input output (columnLines [input, output]) := by
  intro haligned
  have hrows : columnRows ([input, output].map Pane.chars) ≠ [] := List.ne_nil_of_mem hrow
  have hlines : columnLines [input, output] =
      (columnRows ([input, output].map Pane.chars)).flatMap fun row => row.splitOn '\n' := by
    change (joinLines ((columnRows ([input, output].map Pane.chars)).map String.ofList)).toList.splitOn
      '\n' = _
    rw [splitOn_joinLines_eq_flatMap (by simpa using hrows), List.flatMap_map]
    simp only [String.toList_ofList]
  have hlength := haligned.length_eq
  rw [hlines, ← length_columnRows_pair, length_flatMap_splitOn_eq_iff] at hlength
  exact hlength row hrow hfeed

end

/-! ## Lines of the tree -/

/-- The key of a node, or the string that it is, has a line feed in it. -/
def ShowsLineFeed (p : Path) (w : Value) : Prop :=
  '\n' ∈ p.key.toList ∨ ∃ s, w = .string s ∧ '\n' ∈ s.toList

theorem lineFeed_mem_keyText_iff {key : String} :
    '\n' ∈ (Tree.keyText key).toList ↔ '\n' ∈ key.toList := by
  rw [Tree.keyText]
  split
  · next hempty =>
    rw [String.isEmpty_iff] at hempty
    simp [hempty]
  · simp

theorem lineFeed_notMem_noun (container : Container) (count : Nat) :
    '\n' ∉ (container.noun count).toList := by
  unfold Container.noun
  split <;> decide

/-- What a line shows in front of its key and behind it.  Only a string can bring in a line feed, and then
there is a quote behind it. -/
theorem exists_kindText_eq (collapsed : Collapse) (p : Path) (w : Value) :
    ∃ lead tail, (kindOf collapsed p w).text = lead ++ Tree.keyText p.key ++ tail ∧
      '\n' ∉ lead.toList ∧
      ((∃ s, w = .string s ∧ tail.toList = '"' :: s.toList ++ ['"']) ∨
        (∀ s, w ≠ .string s) ∧ '\n' ∉ tail.toList) := by
  cases hcontainer : container? w with
  | none =>
    rw [kindOf, hcontainer]
    refine ⟨indentStep, (literal? w).getD "", rfl, by decide, ?_⟩
    cases w with
    | null => exact .inr ⟨fun _ h => (by cases h), by decide⟩
    | bool b => exact .inr ⟨fun _ h => (by cases h), by cases b <;> decide⟩
    | number n =>
      refine .inr ⟨fun _ h => (by cases h), ?_⟩
      simpa [literal?, Number.text] using (noControls_chars n).newline_notMem
    | string s => exact .inl ⟨s, rfl, by simp [literal?]⟩
    | list items => cases hcontainer
    | map members => cases hcontainer
  | some container =>
    have hstring : ∀ s, w ≠ .string s := by
      rintro s rfl
      cases hcontainer
    rw [kindOf, hcontainer]
    dsimp only
    split_ifs
    · exact ⟨indentStep, _, rfl, by decide, .inr ⟨hstring, by cases container <;> decide⟩⟩
    · refine ⟨collapsedMark, String.ofList [container.opener] ++
        String.ofList (Nat.toDigits 10 (children w).length) ++ " " ++
        container.noun (children w).length ++ String.ofList [container.closer], ?_, by decide,
        .inr ⟨hstring, ?_⟩⟩
      · simp only [LineKind.text, String.append_assoc]
      · have hdigits := (noControls_toDigits (children w).length).newline_notMem
        have hnoun := lineFeed_notMem_noun container (children w).length
        cases container <;> simp [Container.opener, Container.closer, hdigits, hnoun]
    · exact ⟨expandedMark, _, rfl, by decide, .inr ⟨hstring, by cases container <;> decide⟩⟩

/-- A line of a node has a line feed if its key or its string has one. -/
theorem lineFeed_mem_lineText_iff {collapsed : Collapse} {p : Path} {w : Value} :
    '\n' ∈ (lineOf collapsed (p, w)).text.toList ↔ ShowsLineFeed p w := by
  obtain ⟨lead, tail, htext, hlead, htail⟩ := exists_kindText_eq collapsed p w
  have hindent : '\n' ∉ (String.join (List.replicate p.segments.length indentStep)).toList := by
    simp [String.toList_join, indentStep]
  rw [Line.text, lineOf, htext]
  simp only [String.toList_append, List.mem_append, hindent, hlead, false_or,
    lineFeed_mem_keyText_iff, ShowsLineFeed]
  refine or_congr_right ?_
  rcases htail with ⟨s, rfl, htail⟩ | ⟨hstring, htail⟩
  · simp [htail]
  · simp [hstring, htail]

/-- The line feed is not cut off with the blanks at the end of the line. -/
theorem lineFeed_mem_trimBlankEnd {collapsed : Collapse} {p : Path} {w : Value}
    (h : ShowsLineFeed p w) : '\n' ∈ trimBlankEnd (lineOf collapsed (p, w)).text.toList := by
  suffices hquote : ∃ front back, (lineOf collapsed (p, w)).text.toList = front ++ '"' :: back ∧
      '\n' ∈ front by
    obtain ⟨front, back, htext, hfront⟩ := hquote
    rw [htext, trimBlankEnd_append_cons (by decide)]
    exact List.mem_append_left _ hfront
  obtain ⟨lead, tail, htext, -, htail⟩ := exists_kindText_eq collapsed p w
  rw [Line.text, lineOf, htext]
  rcases h with hkey | ⟨s, rfl, hs⟩
  · have hempty : p.key.isEmpty = false := by
      rw [String.isEmpty_eq_false_iff]
      rintro hempty
      simp [hempty] at hkey
    refine ⟨(String.join (List.replicate p.segments.length indentStep) ++ lead).toList ++
      '"' :: p.key.toList, ':' :: ' ' :: tail.toList, ?_, ?_⟩
    · simp [Tree.keyText, hempty]
    · simp [hkey]
  · obtain ⟨s', hs', htail⟩ : ∃ s', Value.string s = .string s' ∧
        tail.toList = '"' :: s'.toList ++ ['"'] := htail.resolve_right fun h => h.1 s rfl
    cases hs'
    refine ⟨(String.join (List.replicate p.segments.length indentStep) ++ (lead ++
      Tree.keyText p.key)).toList ++ '"' :: s.toList, [], ?_, ?_⟩
    · simp [htail]
    · simp [hs]

/-- **The tree shows a line feed** if a node that can be seen does.  Its other lines are brackets. -/
theorem exists_lineFeed_mem_render_iff {collapsed : Collapse} {order : KeyOrder} {v : Value} :
    (∃ l ∈ render v collapsed order, '\n' ∈ l.text.toList) ↔
      ∃ p w, Node v p w ∧ Visible collapsed v p ∧ ShowsLineFeed p w := by
  constructor
  · rintro ⟨⟨depth, p, kind⟩, hline, hfeed⟩
    have hclosed : ∀ c, kind ≠ .closed c := by
      rintro c rfl
      cases c <;> simp [Line.text, LineKind.text, String.toList_join, indentStep, Container.closer]
        at hfeed
    obtain ⟨w, hw, rfl, rfl⟩ := exists_node_of_mem_render hline hclosed
    obtain ⟨hnode, hvisible⟩ := mem_walk_root_iff.1 hw
    exact ⟨p, w, hnode, hvisible, lineFeed_mem_lineText_iff.1 hfeed⟩
  · rintro ⟨p, w, hnode, hvisible, hshows⟩
    exact ⟨lineOf collapsed (p, w), lineOf_mem_render (mem_walk_root_iff.2 ⟨hnode, hvisible⟩),
      lineFeed_mem_lineText_iff.2 hshows⟩

/-! ## Lines of the panes -/

/-- The strings of a locale are lines. -/
theorem lineFeed_notMem_builtin (lang : Lang) :
    let locale := Bundle.builtin.get lang
    ∀ text ∈ [locale.title, locale.error, locale.labels.data, locale.labels.input,
      locale.labels.output], '\n' ∉ text.toList := by
  cases lang <;> decide

theorem lineFeed_notMem_linesOf {text line : String} (h : line ∈ linesOf text) :
    '\n' ∉ line.toList := by
  obtain ⟨cs, hcs, rfl⟩ := List.mem_map.1 h
  rw [String.toList_ofList]
  exact lineFeed_notMem_of_mem_lines hcs

/-- An error is told in one line. -/
theorem lineFeed_notMem_message (m : Malformed) : '\n' ∉ m.message.toList := by
  have hcause : '\n' ∉ m.cause.message.toList := by
    cases m.cause <;> decide +kernel
  have hline := (noControls_toDigits m.position.line).newline_notMem
  have hcolumn := (noControls_toDigits m.position.column).newline_notMem
  simp [Malformed.message, errorPrefix, atPosition, hcause, hline, hcolumn]

theorem noLineFeeds_inputPane (lang : Lang) (text : String) :
    (inputPane (Bundle.builtin.get lang) text).NoLineFeeds := by
  have hlocale := lineFeed_notMem_builtin lang
  rw [Pane.NoLineFeeds, List.forall_mem_cons, inputPane]
  refine ⟨hlocale _ (by simp), ?_⟩
  dsimp only
  split
  · exact fun line hline => hlocale line (by simp [List.mem_singleton.1 hline])
  · exact fun line hline => lineFeed_notMem_linesOf hline

theorem noLineFeeds_outputPane (lang : Lang) (output : Validation) {body : List String}
    (h : ∀ line ∈ body, '\n' ∉ line.toList) :
    (outputPane (Bundle.builtin.get lang) output body).NoLineFeeds := by
  have hlocale := lineFeed_notMem_builtin lang
  rw [Pane.NoLineFeeds, List.forall_mem_cons]
  refine ⟨hlocale (Bundle.builtin.get lang).labels.output (by simp), ?_⟩
  cases output with
  | blank => exact fun line hline => absurd hline List.not_mem_nil
  | valid v => exact h
  | malformed m =>
    have herror := hlocale (Bundle.builtin.get lang).error (by simp)
    intro line hline
    change line ∈ ["! " ++ (Bundle.builtin.get lang).error, m.message] at hline
    rcases List.mem_pair.1 hline with rfl | rfl
    · simp [herror]
    · exact lineFeed_notMem_message m

namespace Cli

/-- A tree is asked for, and it shows a line feed. -/
def TreeShowsLineFeed (t : Task) (text : String) : Prop :=
  t.style.tree = true ∧ ∃ v p w, validate text = .valid v ∧ Node v p w ∧
    Visible (sessionOf t text).collapsed v p ∧ ShowsLineFeed p w

/-- The panes of a run. -/
def panesOf (t : Task) (text : String) : Pane × Pane :=
  let locale := Bundle.builtin.get t.style.lang
  (inputPane locale text,
    outputPane locale (validate text) (body t.style (sessionOf t text)))

variable {t : Task} {text : String}

theorem treeShowsLineFeed_iff :
    TreeShowsLineFeed t text ↔
      t.style.tree = true ∧ ∃ l ∈ (sessionOf t text).tree, '\n' ∈ l.text.toList := by
  rw [TreeShowsLineFeed, Session.tree, output_sessionOf]
  refine and_congr_right fun _ => ?_
  cases validate text with
  | valid v => simp [Validation.value?, exists_lineFeed_mem_render_iff]
  | blank => simp [Validation.value?]
  | malformed m => simp [Validation.value?]

instance (t : Task) (text : String) : Decidable (TreeShowsLineFeed t text) :=
  decidable_of_iff _ treeShowsLineFeed_iff.symm

/-- Only the tree can bring line feeds into the body. -/
theorem lineFeed_notMem_body (h : ¬TreeShowsLineFeed t text) :
    ∀ line ∈ body t.style (sessionOf t text), '\n' ∉ line.toList := by
  intro line hline hfeed
  rw [body] at hline
  split at hline
  · next htree =>
    obtain ⟨l, hl, rfl⟩ := List.mem_map.1 hline
    exact h (treeShowsLineFeed_iff.2 ⟨htree, l, hl, hfeed⟩)
  · exact lineFeed_notMem_linesOf hline hfeed

/-- **If the tree shows a line feed, a row has one.** -/
theorem exists_lineFeed_mem_columnRows (h : TreeShowsLineFeed t text) :
    ∃ row ∈ columnRows ([(panesOf t text).1, (panesOf t text).2].map Pane.chars), '\n' ∈ row := by
  obtain ⟨htree, v, p, w, hvalid, hnode, hvisible, hshows⟩ := h
  have hmem : (lineOf (sessionOf t text).collapsed (p, w)).text ∈ (panesOf t text).2.lines := by
    rw [panesOf, hvalid]
    change _ ∈ body t.style (sessionOf t text)
    rw [body, if_pos htree, Session.tree, output_sessionOf, hvalid]
    exact List.mem_map_of_mem (lineOf_mem_render (mem_walk_root_iff.2 ⟨hnode, hvisible⟩))
  obtain ⟨i, hi, hline⟩ := List.getElem_of_mem hmem
  have hrow : i + 2 < (columnRows ([(panesOf t text).1, (panesOf t text).2].map
      Pane.chars)).length := by
    rw [length_columnRows_pair]
    omega
  refine ⟨_, List.getElem_mem hrow, ?_⟩
  have hcell : (panesOf t text).2.cell (i + 2) =
      (lineOf (sessionOf t text).collapsed (p, w)).text.toList := by
    rw [Pane.cell, Pane.rows, List.getElem?_cons_succ, List.getElem?_cons_succ,
      List.getElem?_eq_getElem hi, hline]
    rfl
  -- the line is what is left of its row behind the column of the output
  have hdrop := @drop_trimBlankEnd_fullRow [(panesOf t text).1, (panesOf t text).2] 1 _ rfl rfl (i + 2)
  rw [getElem?_columnRows (List.getElem?_eq_getElem hrow)]
  refine List.mem_of_mem_drop (i := startOf [(panesOf t text).1, (panesOf t text).2] 1) ?_
  rw [hdrop, hcell]
  exact lineFeed_mem_trimBlankEnd hshows

/-! ## The page -/

/-- What is printed in columns: the title and its rule, an empty line, the rows, and the end of the
last row. -/
theorem splitOn_stdout_runOn (hpanes : t.style.panes = true) (hlayout : t.style.layout = .columns)
    (text : String) :
    (runOn t text).stdout.toList.splitOn '\n' =
      [(Bundle.builtin.get t.style.lang).title.toList,
        (rule '═' (Bundle.builtin.get t.style.lang).title).toList, []] ++
      columnLines [(panesOf t text).1, (panesOf t text).2] ++ [[]] := by
  have htitle := lineFeed_notMem_builtin t.style.lang _ List.mem_cons_self
  have hrule : '\n' ∉ (rule '═' (Bundle.builtin.get t.style.lang).title).toList := by
    simp [rule]
  have hpage : (rendering t.style (sessionOf t text)).toList.splitOn '\n' =
      [(Bundle.builtin.get t.style.lang).title.toList,
        (rule '═' (Bundle.builtin.get t.style.lang).title).toList, []] ++
      columnLines [(panesOf t text).1, (panesOf t text).2] := by
    rw [rendering, if_pos hpanes, hlayout, input_sessionOf, output_sessionOf, page,
      splitOn_joinLines_eq_flatMap (List.cons_ne_nil _ _)]
    simp only [List.flatMap_cons, List.flatMap_nil, List.append_nil,
      List.splitOn_eq_singleton htitle, List.splitOn_eq_singleton hrule]
    rfl
  have hne : (rendering t.style (sessionOf t text)).isEmpty = false := by
    rw [String.isEmpty_eq_false_iff]
    intro hempty
    rw [hempty] at hpage
    cases congrArg List.length hpage
  rw [runOn, ofBytes_toUTF8, runOnce]
  dsimp only
  rw [printed, hne, if_neg Bool.false_ne_true, String.toList_append]
  change ((rendering t.style (sessionOf t text)).toList ++ '\n' :: []).splitOn '\n' = _
  rw [List.splitOn_append_cons_self, hpage]
  rfl

/-- **Side by side, the panes of a text are aligned unless the tree shows a line feed.**  The rows
stand below the title, its rule and an empty line.  There are as many of them as the taller pane has,
and in each of them the bar stands right behind the input, which is filled up to its width.  Only
`--tree` can spoil that: it shows keys and strings unescaped, and a line feed in one that can be seen
breaks its row. -/
theorem page_aligned_iff (hpanes : t.style.panes = true) (hlayout : t.style.layout = .columns)
    (text : String) :
    ∃ rows, (runOn t text).stdout.toList.splitOn '\n' =
        [(Bundle.builtin.get t.style.lang).title.toList,
          (rule '═' (Bundle.builtin.get t.style.lang).title).toList, []] ++ rows ++ [[]] ∧
      (Aligned (panesOf t text).1 (panesOf t text).2 rows ↔ ¬TreeShowsLineFeed t text) := by
  refine ⟨_, splitOn_stdout_runOn hpanes hlayout text, fun haligned hfeed => ?_, fun hnone => ?_⟩
  · obtain ⟨row, hrow, hrowfeed⟩ := exists_lineFeed_mem_columnRows hfeed
    exact not_aligned_of_lineFeed hrow hrowfeed haligned
  · exact aligned_of_noLineFeeds (noLineFeeds_inputPane _ _)
      (noLineFeeds_outputPane _ _ (lineFeed_notMem_body hnone))

/-- A map that is shown without its children, in which there are line feeds: the panes have different
heights, and are aligned. -/
theorem page_aligned_iff_folded :
    ∃ t rows, Command.ofWords ["--panes", "--layout", "columns", "--tree", "--lang", "es",
        "--collapse", "0"] = .run t ∧
      (runOn t "[\n\x7b\"\\n\":\"\\n\"\x7d]").stdout.toList.splitOn '\n' =
        ["Formateador JSON".toList, "════════════════".toList, []] ++ rows ++ [[]] ∧
      Aligned (panesOf t "[\n\x7b\"\\n\":\"\\n\"\x7d]").1
        (panesOf t "[\n\x7b\"\\n\":\"\\n\"\x7d]").2 rows := by
  obtain ⟨t, ht, hpanes, hlayout, hlang, hnone⟩ :
      ∃ t, Command.ofWords ["--panes", "--layout", "columns", "--tree", "--lang", "es",
          "--collapse", "0"] = .run t ∧
        t.style.panes = true ∧ t.style.layout = .columns ∧ t.style.lang = .es ∧
        ¬TreeShowsLineFeed t "[\n\x7b\"\\n\":\"\\n\"\x7d]" :=
    ⟨_, rfl, rfl, rfl, rfl, by decide +kernel⟩
  obtain ⟨rows, hrows, haligned⟩ :=
    page_aligned_iff hpanes hlayout "[\n\x7b\"\\n\":\"\\n\"\x7d]"
  rw [hlang] at hrows
  exact ⟨t, rows, ht, hrows, haligned.2 hnone⟩

/-- A string with a line feed: either pane has one line under its title and rule, and there are four
rows. -/
theorem page_not_aligned_lineFeed_in_string :
    ∃ t, Command.ofWords ["--panes", "--layout", "columns", "--tree"] = .run t ∧
      (runOn t "\"a\\nb\"").stdout = "JSON Formatter\n══════════════\n\nInput  │ Output\n" ++
        "─────  │ ──────\n\"a\\nb\" │   \"a\nb\"\n" ∧
      ∀ rows, (runOn t "\"a\\nb\"").stdout.toList.splitOn '\n' =
          ["JSON Formatter".toList, "══════════════".toList, []] ++ rows ++ [[]] →
        ¬Aligned (panesOf t "\"a\\nb\"").1 (panesOf t "\"a\\nb\"").2 rows := by
  obtain ⟨t, ht, hstdout, hinput, houtput⟩ :
      ∃ t, Command.ofWords ["--panes", "--layout", "columns", "--tree"] = .run t ∧
        (runOn t "\"a\\nb\"").stdout = "JSON Formatter\n══════════════\n\nInput  │ Output\n" ++
          "─────  │ ──────\n\"a\\nb\" │   \"a\nb\"\n" ∧
        (panesOf t "\"a\\nb\"").1.lines.length = 1 ∧ (panesOf t "\"a\\nb\"").2.lines.length = 1 := by
    refine ⟨_, rfl, ?_, by decide +kernel, by decide +kernel⟩
    rw [runOn, ofBytes_toUTF8]
    decide +kernel
  refine ⟨t, ht, hstdout, fun rows hrows haligned => ?_⟩
  have hlines : (("JSON Formatter\n══════════════\n\nInput  │ Output\n" ++
      "─────  │ ──────\n\"a\\nb\" │   \"a\nb\"\n").toList.splitOn '\n').length = 8 := by
    decide +kernel
  have hlength := haligned.length_eq
  rw [← hstdout, hrows, List.length_append, List.length_append] at hlines
  rw [hinput, houtput] at hlength
  simp only [List.length_cons, List.length_nil] at hlines
  omega

end Cli

end LiveJson
