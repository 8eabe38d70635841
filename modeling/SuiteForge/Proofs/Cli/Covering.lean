import SuiteForge.Proofs.Cli.Acts
import SuiteForge.Proofs.Console.Table
import SuiteForge.Proofs.Coverage.Verdicts

/-!
# The status of a coverage command

The first run decides: its figures are printed, with a mark for each row, and its total gives the
status of the command. Reports are attempted after that, and change neither.
-/

namespace SuiteForge.Cli

open Binary64 (AtLeast)
open Console (Table shortenStart)
open Coverage (Analyzer Attempt Attempts Counted Figures Row figuresOf goodFrom)
open List (Forall₂)

variable {w : Workbench} {r : CoverageRequest} {c : Session}

/-! ### Marks -/

/-- The last cell of a line of a table is a mark, filled up with blanks. -/
def ShowsMark (mark line : String) : Prop :=
  ∃ front pad, line.toList =
    front ++ '|' :: ' ' :: (mark.toList ++ List.replicate pad ' ' ++ [' ', '|'])

theorem ShowsMark.last {mark line : String} {m : Char} (h : ShowsMark mark line)
    (hlast : mark.toList.getLast? = some m) (hblank : m ≠ ' ') :
    (line.toList.reverse.tail.dropWhile (· = ' ')).head? = some m := by
  obtain ⟨front, pad, hline⟩ := h
  obtain ⟨start, hmark⟩ := List.getLast?_eq_some_iff.mp hlast
  rw [hline, hmark]
  simp [hblank]

def endOf : Coverage.Status → Char
  | .good => 'd'
  | .low => 'w'

/-- Only one mark fits at the end of a line, since marks differ in their last characters. -/
theorem showsMark_iff {s t : Coverage.Status} {line : String} (h : ShowsMark (statusText s) line) :
    ShowsMark (statusText t) line ↔ s = t := by
  have hend (s : Coverage.Status) : (statusText s).toList.getLast? = some (endOf s) := by
    cases s <;> rfl
  have hblank (s : Coverage.Status) : endOf s ≠ ' ' := by
    cases s <;> decide
  constructor
  · intro hother
    have hsame := (h.last (hend s) (hblank s)).symm.trans (hother.last (hend t) (hblank t))
    cases s <;> cases t <;> first | rfl | cases hsame
  · rintro rfl
    exact h

/-- What a line of the table tells of a row. -/
structure Marks (row : Row) (line : String) : Prop where
  names : ∃ rest, line = "| " ++ String.ofList (shortenStart fileWidth row.file.toList) ++ rest
  good_iff : ShowsMark "✅ Good" line ↔ AtLeast row.percent goodFrom
  low_iff : ShowsMark "⚠️ Low" line ↔ ¬ AtLeast row.percent goodFrom

def cellsOf (row : Row) : List String :=
  [String.ofList (shortenStart fileWidth row.file.toList), amountText 1 row.percent ++ "%",
    statusText row.status]

def markedLine (rows : List Row) (row : Row) : String :=
  String.ofList (Table.line (coverageTable rows).widths (cellsOf row))

theorem length_widths_coverageTable (rows : List Row) : (coverageTable rows).widths.length = 3 := by
  have hcells : ∀ cells ∈ (coverageTable rows).rows, cells.length = 3 := by
    intro cells hcells
    obtain ⟨row, -, rfl⟩ := List.mem_map.mp hcells
    rfl
  exact Table.length_widths hcells

theorem marks_markedLine (rows : List Row) (row : Row) : Marks row (markedLine rows row) := by
  have hwidths := length_widths_coverageTable rows
  -- the mark is the last of three cells, padded to the width of its column
  have hshows : ShowsMark (statusText row.status) (markedLine rows row) := by
    obtain ⟨front, width, hline⟩ :=
      @Table.line_eq_concat _ (statusText row.status) (cellsOf row).dropLast hwidths
    refine ⟨front, width - Table.width (statusText row.status), ?_⟩
    rw [markedLine, String.toList_ofList]
    refine hline.trans ?_
    simp [Table.cellText]
  constructor
  case names =>
    obtain ⟨rest, hline⟩ := @Table.line_eq_cons _
      (String.ofList (shortenStart fileWidth row.file.toList)) (cellsOf row).tail hwidths
    refine ⟨String.ofList rest, ?_⟩
    rw [markedLine]
    refine (congrArg String.ofList hline).trans ?_
    simp [String.ext_iff]
  case good_iff => rw [← row.status_eq_good_iff, ← showsMark_iff hshows]; rfl
  case low_iff => rw [← row.status_eq_low_iff, ← showsMark_iff hshows]; rfl

/-! ### What is printed of a verdict -/

theorem textOf_intercalate {lines : List String} (h : lines ≠ []) :
    textOf ["\n".intercalate lines] = textOf lines := by
  induction lines with
  | nil => exact absurd rfl h
  | cons line lines ih =>
    cases lines with
    | nil => rw [String.intercalate_singleton]
    | cons next rest =>
      have hsplit : textOf (line :: next :: rest) = textOf [line] ++ textOf (next :: rest) :=
        textOf_append [line] (next :: rest)
      rw [hsplit, ← ih (by simp), String.intercalate_cons_cons]
      simp only [textOf_singleton, String.append_assoc]

/-- A table is printed with a line for each row, between its headers and its end. -/
theorem textOf_coverageTable (rows : List Row) : ∃ headers border,
    textOf [(coverageTable rows).text] =
      textOf (headers ++ rows.map (markedLine rows) ++ [border]) := by
  refine ⟨[String.ofList (Table.border (coverageTable rows).widths),
    String.ofList (Table.line (coverageTable rows).widths (coverageTable rows).headers),
    String.ofList (Table.border (coverageTable rows).widths)],
    String.ofList (Table.border (coverageTable rows).widths), ?_⟩
  rw [Table.text, textOf_intercalate (by simp [Table.linesOf])]
  simp only [Table.linesOf, List.map_append, List.map_map, coverageTable]
  rfl

theorem textOf_coverageLines {v : Coverage.Verdict} (h : v.figures.rows ≠ []) :
    ∃ before after, textOf (coverageLines v) =
      textOf (before ++ v.figures.rows.map (markedLine v.figures.rows) ++ after) := by
  have hrows : v.figures.rows.isEmpty = false := by simpa using h
  obtain ⟨headers, border, htable⟩ := textOf_coverageTable v.figures.rows
  obtain ⟨rest, hlines⟩ : ∃ rest, coverageLines v =
      ["", "📁 File Coverage:"] ++ [(coverageTable v.figures.rows).text] ++ rest :=
    ⟨_, by simp only [coverageLines, hrows]; rfl⟩
  refine ⟨["", "📁 File Coverage:"] ++ headers, border :: rest, ?_⟩
  rw [hlines, textOf_append, textOf_append, htable]
  simp only [← textOf_append, List.append_assoc, List.singleton_append]

/-! ### Attempts at reports -/

def attemptLines (x : Attempt) : List String :=
  ("Generating " ++ x.format.title ++ " report...") ::
    if x.succeeds then ["✅ " ++ x.format.title ++ " report generated"] else []

def placesOf (w : Workbench) (output : Option Path) : Coverage.Format → Path :=
  w.coverage.places fun f => output.map f.locationIn

theorem writeReports_apply (w : Workbench) (output : Option Path) (fs : List Coverage.Format)
    (c : Session) : ∃ attempts : List Attempt, attempts.map (·.format) = fs ∧
      Attempts w.coverage (placesOf w output) c.state.harness attempts
        (writeReports w output fs c).2.state.harness ∧
      (writeReports w output fs c).2.out = c.out ++ textOf (attempts.flatMap attemptLines) := by
  induction fs generalizing c with
  | nil => exact ⟨[], rfl, .done, by simp [writeReports, textOf]⟩
  | cons f fs ih =>
    obtain ⟨outcome, hresult, hattempted⟩ := Coverage.attempted_report w.coverage
      (fun f => output.map f.locationIn) f c.state.harness
    -- the first format is attempted and told of, and `ih` takes over from there
    let c₁ := (work (w.coverageReport f (output.map f.locationIn))
      (say ("Generating " ++ f.title ++ " report...") c).2).2
    let told : Act Unit :=
      if (w.coverage.report f (output.map f.locationIn) c.state.harness).1 then
        say ("✅ " ++ f.title ++ " report generated")
      else complain ("Failed to generate " ++ f.title ++ " report")
    have hstep : (writeReports w output (f :: fs) c).2 =
        (writeReports w output fs (told c₁).2).2 := by
      have hok : (work (w.coverageReport f (output.map f.locationIn))
          (say ("Generating " ++ f.title ++ " report...") c).2).1 =
            (w.coverage.report f (output.map f.locationIn) c.state.harness).1 := rfl
      simp only [writeReports, bind_apply, hok, told]
      cases (w.coverage.report f (output.map f.locationIn) c.state.harness).1 <;> rfl
    have hstate : (told c₁).2.state.harness =
        (w.coverage.report f (output.map f.locationIn) c.state.harness).2 := by
      simp only [told]
      split <;> rfl
    have hout : (told c₁).2.out = c.out ++ textOf (attemptLines ⟨f, outcome⟩) := by
      simp only [told, c₁, attemptLines, hresult]
      split
      · simp [String.append_assoc, ← textOf_append]
      · simp
    obtain ⟨attempts, hformats, hattempts, htext⟩ := ih (told c₁).2
    refine ⟨⟨f, outcome⟩ :: attempts, by simp [hformats], ?_, ?_⟩
    · rw [hstep]
      rw [hstate] at hattempts
      exact .next hattempted hattempts
    · rw [hstep, htext, List.flatMap_cons, textOf_append, ← String.append_assoc, hout]

/-! ### The command -/

def CoverageRequest.asksFor (r : CoverageRequest) : Coverage.Format → Bool
  | .html => r.html
  | .xml => r.xml
  | .clover => r.clover

theorem formats_eq_filter (r : CoverageRequest) :
    r.formats = [.html, .xml, .clover].filter r.asksFor := by
  unfold CoverageRequest.formats
  cases hhtml : r.html <;> cases hxml : r.xml <;> cases hclover : r.clover <;>
    simp [CoverageRequest.asksFor, hhtml, hxml, hclover]

theorem coverageReports_apply (w : Workbench) (r : CoverageRequest) (c : Session) :
    ∃ attempts : List Attempt, attempts.map (·.format) = r.formats ∧
      Attempts w.coverage (placesOf w (r.output.map w.root.join)) c.state.harness attempts
        (coverageReports w r c).2.state.harness ∧
      ∃ before after, (coverageReports w r c).2.out =
        c.out ++ textOf (before ++ attempts.flatMap attemptLines ++ after) := by
  by_cases hformats : r.formats = []
  · have hnothing : coverageReports w r c = ((), c) := by simp [coverageReports, hformats]
    rw [hnothing, hformats]
    exact ⟨[], rfl, .done, [], [], by simp [textOf]⟩
  · -- only the last line depends on how the reports have gone
    let c₁ := (say "📄 Generating reports..." (say "" c).2).2
    let written := writeReports w (r.output.map w.root.join) r.formats c₁
    let told : Act Unit :=
      if written.1 then
        say ("📁 Reports saved to: " ++
          pathText w.root ((r.output.map w.root.join).getD w.coverage.reportsDirectory))
      else pure ()
    have hstep : (coverageReports w r c).2 = (told written.2).2 := by
      simp only [coverageReports, List.isEmpty_iff, hformats, if_false, bind_apply, told, written]
      cases (writeReports w (r.output.map w.root.join) r.formats c₁).1 <;> rfl
    have htold : ∃ after, (told written.2).2.state = written.2.state ∧
        (told written.2).2.out = written.2.out ++ textOf after := by
      simp only [told]
      split
      · exact ⟨[_], rfl, out_say _ _⟩
      · exact ⟨[], rfl, by simp [textOf]⟩
    obtain ⟨after, hstate, hout⟩ := htold
    obtain ⟨attempts, hattempted, hattempts, htext⟩ :=
      writeReports_apply w (r.output.map w.root.join) r.formats c₁
    refine ⟨attempts, hattempted, ?_, ["", "📄 Generating reports..."], after, ?_⟩
    · rw [hstep, hstate]
      exact hattempts
    · rw [hstep, hout, textOf_append, textOf_append, ← String.append_assoc, ← String.append_assoc,
        htext]
      simp only [c₁, out_say, String.append_assoc]
      rfl

def firstRun (w : Workbench) (s : Workbench.State) : Runner.Outcome :=
  (s.harness.run w.coverage.cwd [Analyzer.textFlag]).1

theorem judgeCoverage_eq (w : Workbench) (threshold : Option Binary64) (s : Workbench.State) :
    w.judgeCoverage threshold s =
      ({ figures := figuresOf (firstRun w s),
         threshold := threshold.getD w.coverage.settings.threshold },
        { s with harness := (s.harness.run w.coverage.cwd [Analyzer.textFlag]).2 }) := by
  simp only [Workbench.judgeCoverage, Workbench.withHarness, Analyzer.judge, Analyzer.measure_eq]
  rfl

theorem coverageStats_fst (w : Workbench) (s : Workbench.State) :
    (w.coverageStats s).1 = .ofFigures (figuresOf (firstRun w s)) := by
  simp only [Workbench.coverageStats, Workbench.withHarness, Analyzer.stats, Analyzer.measure_eq]
  rfl

def closeCoverage (v : Coverage.Verdict) : Act Nat :=
  if v.passed then do
    say "✅ Coverage analysis completed successfully!"
    pure 0
  else do
    complain ("Coverage below threshold of " ++ shortText v.threshold ++ "%")
    say "💡 Consider adding more tests or improving existing ones"
    pure 1

theorem closeCoverage_apply (v : Coverage.Verdict) (c : Session) :
    (closeCoverage v c).1 = (if v.passed then 0 else 1) ∧
      (closeCoverage v c).2.state = c.state ∧
      ∃ last, (closeCoverage v c).2.out = c.out ++ textOf last := by
  unfold closeCoverage
  cases v.passed with
  | true => exact ⟨rfl, rfl, _, out_say _ c⟩
  | false => exact ⟨rfl, rfl, _, out_say _ (complain _ c).2⟩

/-- The verdict is told first, then reports are attempted, and the status is that of the verdict. -/
theorem coverage_apply (w : Workbench) (r : CoverageRequest) (c : Session)
    {v : Coverage.Verdict} (hv : v = (w.judgeCoverage r.threshold c.state).1) :
    ∃ c', c'.state = (w.judgeCoverage r.threshold c.state).2 ∧
      c'.out = c.out ++ textOf ("📊 Analyzing test coverage..." :: coverageLines v) ∧
      (coverage w r c).1 = (if v.passed then 0 else 1) ∧
      (coverage w r c).2.state = (coverageReports w r c').2.state ∧
      ∃ after, (coverage w r c).2.out = (coverageReports w r c').2.out ++ textOf after := by
  let told := (sayAll (coverageLines v)
    (work (w.judgeCoverage r.threshold) (say "📊 Analyzing test coverage..." c).2).2).2
  let reported := (say "" (coverageReports w r told).2).2
  have hstep : coverage w r c = closeCoverage v reported := by
    subst hv
    rfl
  obtain ⟨hstatus, hstate, last, hlast⟩ := closeCoverage_apply v reported
  refine ⟨told, rfl, ?_, ?_, ?_, "" :: last, ?_⟩
  · simp only [told, out_sayAll, out_work, out_say, String.append_assoc]
    rw [← textOf_append, List.singleton_append]
  · rw [hstep, hstatus]
  · rw [hstep, hstate]
    rfl
  · rw [hstep, hlast, textOf_cons, ← String.append_assoc]
    simp only [reported, out_say, textOf_singleton]

/-! ### Agreement -/

/-- What a workbench finds out about coverage from a run. -/
structure Judged (w : Workbench) (threshold : Option Binary64) (s : Workbench.State) : Prop where
  /-- The figures are those of one run, the only one that is made. -/
  figures : (w.judgeCoverage threshold s).1.figures = figuresOf (firstRun w s)
  once : (w.judgeCoverage threshold s).2.harness =
    (s.harness.run w.coverage.cwd [Analyzer.textFlag]).2
  passed_iff : (w.judgeCoverage threshold s).1.passed = true ↔
    AtLeast (figuresOf (firstRun w s)).total (threshold.getD w.coverage.settings.threshold)
  failed : ∀ e, firstRun w s = .error e → figuresOf (firstRun w s) = {}
  unmarked : ∀ output, firstRun w s = .ok output →
    (∀ line ∈ Text.lines output.toList, Text.contains Coverage.totalMark line = false) →
    (figuresOf (firstRun w s)).total = .zero
  good_iff : ∀ row ∈ (figuresOf (firstRun w s)).rows,
    row.status = .good ↔ AtLeast row.percent 80
  /-- The counts are those of a run with the same outcome. -/
  counted : ∀ s', firstRun w s' = firstRun w s →
    Counted (figuresOf (firstRun w s)) (w.coverageStats s').1

theorem judged (w : Workbench) (threshold : Option Binary64) (s : Workbench.State) :
    Judged w threshold s := by
  constructor
  case figures => rw [judgeCoverage_eq]
  case once => rw [judgeCoverage_eq]
  case passed_iff =>
    rw [judgeCoverage_eq]
    exact Binary64.atMost_iff
  case failed =>
    intro e he
    rw [he]
    rfl
  case unmarked =>
    intro output houtput hunmarked
    rw [houtput]
    exact Figures.total_of_unmarked hunmarked
  case good_iff =>
    intro row _
    exact row.status_eq_good_iff
  case counted =>
    intro s' hsame
    rw [coverageStats_fst, hsame]
    exact Coverage.counted_ofFigures _

/-- What a coverage command comes to: its status, what it prints, and the harness that it leaves. -/
structure Covered (w : Workbench) (r : CoverageRequest) (s : Workbench.State) (f : Finished)
    (h : Runner.Harness) : Prop where
  status : f.status = 0 ∨ f.status = 1
  /-- The status tells whether the total of the first run reaches the threshold. -/
  status_iff : f.status = 0 ↔ AtLeast (figuresOf (firstRun w s)).total
    (r.threshold.getD w.coverage.settings.threshold)
  /-- The table has a line for each row of that run, with its mark. -/
  marked : (figuresOf (firstRun w s)).rows ≠ [] → ∃ before lines after,
    f.out = textOf (before ++ lines ++ after) ∧
      Forall₂ Marks (figuresOf (firstRun w s)).rows lines
  /-- After that run each format that is asked for is attempted once, in a fixed order. -/
  attempted : ∃ attempts : List Attempt,
    attempts.map (·.format) = [.html, .xml, .clover].filter r.asksFor ∧
    Attempts w.coverage (placesOf w (r.output.map w.root.join))
      (s.harness.run w.coverage.cwd [Analyzer.textFlag]).2 attempts h ∧
    h.asked = s.harness.asked ++ [Analyzer.textFlag] :: attempts.flatMap
      (fun x => (x.asks (placesOf w (r.output.map w.root.join))).toList) ∧
    ∃ before after, f.out = textOf (before ++ attempts.flatMap attemptLines ++ after)
  disk : f.disk = h.disk

theorem covered (w : Workbench) (r : CoverageRequest) (source : Runner.Source) (now : String)
    (d : Disk) (line : Line) {s : Workbench.State} {f : Finished}
    (hs : s = { harness := { source, disk := d }, line })
    (hf : f = carryOut w source now (.coverage r) d line) :
    Covered w r s f (coverage w r { state := s }).2.state.harness := by
  have hstatus : f.status = (coverage w r { state := s }).1 := by rw [hf, hs]; rfl
  have hout : f.out = (coverage w r { state := s }).2.out := by rw [hf, hs]; rfl
  have hdisk : f.disk = (coverage w r { state := s }).2.state.harness.disk := by
    rw [hf, hs]
    rfl
  have hjudged := judged w r.threshold s
  obtain ⟨c, hc, hsaid, hexit, hstate, closing, hclosing⟩ :=
    coverage_apply w r { state := s } rfl
  obtain ⟨attempts, hformats, hattempts, opening, ending, hreports⟩ :=
    coverageReports_apply w r c
  rw [hc, hjudged.once, ← hstate] at hattempts
  rw [hsaid] at hreports
  constructor
  case status =>
    rw [hstatus, hexit]
    split <;> simp
  case status_iff =>
    rw [hstatus, hexit, ← hjudged.passed_iff]
    cases (w.judgeCoverage r.threshold s).1.passed <;> simp
  case marked =>
    intro hrows
    rw [← hjudged.figures] at hrows ⊢
    obtain ⟨before, after, hlines⟩ := textOf_coverageLines hrows
    refine ⟨"📊 Analyzing test coverage..." :: before,
      (w.judgeCoverage r.threshold s).1.figures.rows.map
        (markedLine (w.judgeCoverage r.threshold s).1.figures.rows),
      after ++ opening ++ attempts.flatMap attemptLines ++ ending ++ closing, ?_,
      List.forall₂_map_right_iff.mpr (List.forall₂_same.mpr fun row _ => marks_markedLine _ row)⟩
    rw [hout, hclosing, hreports, textOf_cons, hlines]
    simp only [textOf_append, textOf_cons, List.cons_append, String.append_assoc]
    rfl
  case attempted =>
    refine ⟨attempts, hformats.trans (formats_eq_filter r), hattempts, ?_, ?_⟩
    · rw [hattempts.asked_eq, Coverage.asked_run, List.append_assoc, List.singleton_append]
    · refine ⟨"📊 Analyzing test coverage..." :: coverageLines (w.judgeCoverage r.threshold s).1 ++
        opening, ending ++ closing, ?_⟩
      rw [hout, hclosing, hreports]
      simp only [textOf_append, String.append_assoc]
      rfl
  case disk => exact hdisk

/-- A coverage command tells the same in counts, marks and status, all taken from its first run, and
the reports that it attempts after that change nothing of it. -/
theorem coverage_verdicts_agree (w : Workbench) (r : CoverageRequest) :
    (∀ s, Judged w r.threshold s) ∧
      (∀ source now d line, Covered w r { harness := { source, disk := d }, line }
        (carryOut w source now (.coverage r) d line)
        (coverage w r { state := { harness := { source, disk := d }, line } }).2.state.harness) ∧
      ∀ first later later' now now' d d' line line',
        (carryOut w (.script (first :: later)) now (.coverage r) d line).status =
          (carryOut w (.script (first :: later')) now' (.coverage r) d' line').status := by
  have hcovered (source now d line) := covered w r source now d line rfl rfl
  refine ⟨judged w r.threshold, hcovered, ?_⟩
  intro first later later' now now' d d' line line'
  have hiff := (hcovered (.script (first :: later)) now d line).status_iff
  have hiff' := (hcovered (.script (first :: later')) now' d' line').status_iff
  -- the first run does not look at what the runner would answer later
  have hsame : firstRun w { harness := { source := .script (first :: later), disk := d }, line } =
      firstRun w
        { harness := { source := .script (first :: later'), disk := d' }, line := line' } := rfl
  rw [hsame, ← hiff'] at hiff
  have hstatus := (hcovered (.script (first :: later)) now d line).status
  have hstatus' := (hcovered (.script (first :: later')) now' d' line').status
  omega

end SuiteForge.Cli
