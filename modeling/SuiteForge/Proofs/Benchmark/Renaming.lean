import SuiteForge.Benchmark.Analysis
import SuiteForge.Proofs.Benchmark.TestLine

/-!
# Test lines with another name

Whatever a test is called, the verdict and the time on its line are read as they stand there. Its
memory is looked for on the whole line, and so in the name as well: a figure for memory in the name
comes before the one behind the time.
-/

namespace SuiteForge.Benchmark

open Text

variable {c : Char} {s : List Char} {l m : TestLine} {limit : Binary64} {a b : Test}

/-! ### Where memory is found -/

/-- The leftmost figure for memory in a text. -/
def memoryFigure? (s : List Char) : Option (List Char) := firstMatch (Figure.at? "MB".toList) s

theorem memoryOf_eq (s : List Char) : memoryOf s =
    (((memoryFigure? s).bind Binary64.ofText?).map (·.scale 1024)).getD .zero := rfl

/-- A text with a figure for memory in it. -/
def HasMemory (s : List Char) : Prop := ∃ i n, Figure.StandsAt "MB".toList s i n

theorem memoryFigure?_isSome_iff : (memoryFigure? s).isSome ↔ HasMemory s :=
  Figure.firstMatch_at?_isSome_iff Figure.endsNumeral_megabytes

instance (s : List Char) : Decidable (HasMemory s) :=
  decidable_of_iff _ memoryFigure?_isSome_iff

theorem memoryFigure?_append (hs : s.any isDecimalDigit = false) (t : List Char) :
    memoryFigure? (s ++ t) = memoryFigure? t :=
  (Figure.inert_at? hs).firstMatch_append t

/-- No figure reaches beyond a character that is not in one. -/
theorem memoryFigure?_append_cons (hdigit : isDecimalDigit c = false) (hpoint : c ≠ '.')
    (hunit : c ∉ "MB".toList) (s t : List Char) :
    memoryFigure? (s ++ c :: t) = (memoryFigure? s).or (memoryFigure? t) :=
  (Figure.stopsAt_at? hdigit hpoint hunit).firstMatch_append s

theorem memoryFigure?_append_blank (hc : isBlank c = true) (s t : List Char) :
    memoryFigure? (s ++ c :: t) = (memoryFigure? s).or (memoryFigure? t) := by
  apply memoryFigure?_append_cons (isDecimalDigit_of_isBlank hc)
  · exact ne_of_isBlank hc (by decide)
  · exact notMem_of_isBlank (by decide) hc

/-- A time is no figure for memory. -/
theorem memoryFigure?_time (n : Numeral isDigit) :
    memoryFigure? (n.text ++ "ms".toList) = none := by
  refine Figure.firstMatch_at?_of_notMem Figure.endsNumeral_megabytes (c := 'M') (by decide) ?_
  intro hmem
  rcases List.mem_append.mp hmem with hmem | hmem
  · exact Numeral.notMem_text (by decide) (by decide) hmem
  · exact absurd hmem (by decide)

theorem any_isDecimalDigit_gap (h : IsGap s) : s.any isDecimalDigit = false := by
  rw [List.any_eq_false]
  intro c hc
  rw [Bool.not_eq_true]
  exact isDecimalDigit_of_isBlank (h c hc).1

theorem any_isDecimalDigit_word (v : Verdict) : v.word.any isDecimalDigit = false := by
  cases v <;> decide

namespace TestLine

/-- Whatever is in front of the time, no figure reaches into it, and there is none in it. -/
theorem memoryFigure?_append_timed (l : TestLine) (s : List Char) :
    memoryFigure? (s ++ l.timed) = (memoryFigure? s).or (memoryFigure? l.tail) := by
  obtain ⟨b, blanks, hbehind⟩ := List.exists_cons_of_ne_nil l.behind_nonempty
  have hgap : IsGap (b :: blanks) := hbehind ▸ l.behind_gap
  obtain ⟨⟨hb, -⟩, hblanks⟩ := List.forall_mem_cons.mp hgap
  have hopen : (blanks ++ ['(']).any isDecimalDigit = false := by
    rw [List.any_append, any_isDecimalDigit_gap hblanks]
    decide
  have htimed : l.timed =
      b :: ((blanks ++ ['(']) ++ ((l.time.text ++ "ms".toList) ++ ')' :: l.tail)) := by
    rw [timed, hbehind]
    simp
  rw [htimed, memoryFigure?_append_blank hb, memoryFigure?_append hopen,
    memoryFigure?_append_cons (by decide) (by decide) (by decide), memoryFigure?_time,
    Option.none_or]

/-- On a test line figures for memory are in the name or behind the time only. -/
theorem memoryFigure?_text (l : TestLine) :
    memoryFigure? l.text = (memoryFigure? l.name).or (memoryFigure? l.tail) := by
  rw [text, memoryFigure?_append (any_isDecimalDigit_gap l.margin_gap),
    memoryFigure?_append (any_isDecimalDigit_word l.verdict),
    memoryFigure?_append (any_isDecimalDigit_gap l.before_gap), l.memoryFigure?_append_timed]

theorem memoryOf_text (l : TestLine) :
    memoryOf l.text = if HasMemory l.name then memoryOf l.name else memoryOf l.tail := by
  rw [memoryOf_eq, memoryOf_eq, memoryOf_eq, l.memoryFigure?_text]
  by_cases hname : HasMemory l.name
  · obtain ⟨numeral, hfound⟩ := Option.isSome_iff_exists.mp (memoryFigure?_isSome_iff.mpr hname)
    rw [if_pos hname, hfound, Option.some_or]
  · have hnone : memoryFigure? l.name = none := by
      rw [← Option.not_isSome_iff_eq_none, memoryFigure?_isSome_iff]
      exact hname
    rw [if_neg hname, hnone, Option.none_or]

end TestLine

/-! ### Two lines -/

/-- Two test lines that differ in the name at most. -/
structure SameButName (l m : TestLine) : Prop where
  margin : l.margin = m.margin
  verdict : l.verdict = m.verdict
  before : l.before = m.before
  behind : l.behind = m.behind
  time : l.time = m.time
  tail : l.tail = m.tail

namespace TestLine

/-- The test that is read from a test line. -/
def test (l : TestLine) : Test where
  name := String.ofList l.name
  verdict := l.verdict
  time := l.time.value
  memory := memoryOf l.text

theorem ofOutput_text (l : TestLine) : ofOutput (String.ofList l.text) = [l.test] := by
  rw [ofOutput, String.toList_ofList, readsLines_testOf?.filterMap_lines_of_notMem l.notMem_text,
    l.testOf?_text, Option.toList_some]
  rfl

/-- The memory of a test is what its name tells of, or else what is behind the time. -/
structure TellsMemory (l : TestLine) (memory : Binary64) : Prop where
  inName : HasMemory l.name → MemoryOn l.name memory
  behindTime : ¬ HasMemory l.name → MemoryOn l.tail memory

theorem tellsMemory (l : TestLine) : l.TellsMemory l.test.memory := by
  have hmemory : l.test.memory = memoryOf l.text := rfl
  rw [hmemory, l.memoryOf_text]
  constructor
  · intro hname
    rw [if_pos hname]
    exact memoryOn_iff.mpr rfl
  · intro hname
    rw [if_neg hname]
    exact memoryOn_iff.mpr rfl

end TestLine

theorem slowTests_singleton_iff {t : Test} :
    slowTests limit [t] = [] ↔ limit.less t.time = false := by
  simp [slowTests]

theorem heavyTests_singleton_iff {t : Test} :
    heavyTests limit [t] = [] ↔ limit.less t.memory = false := by
  simp [heavyTests]

namespace SameButName

theorem verdict_test (h : SameButName l m) : l.test.verdict = m.test.verdict := h.verdict

theorem time_test (h : SameButName l m) : l.test.time = m.test.time := by
  rw [TestLine.test, TestLine.test, h.time]

theorem memory_test (h : SameButName l m) (hl : ¬ HasMemory l.name) (hm : ¬ HasMemory m.name) :
    l.test.memory = m.test.memory := by
  have hleft := memoryOn_iff.mp (l.tellsMemory.behindTime hl)
  have hright := memoryOn_iff.mp (m.tellsMemory.behindTime hm)
  rw [hleft, hright, h.tail]

end SameButName

/-- Two test lines that differ in the name give tests with the same verdict and the same time, so
they are slow alike. The memory of either is that of the first figure in its name, or else that of
the first figure behind the time; without such a figure in the names it is the same, and then they
are heavy alike. -/
theorem name_tells_at_most_memory (h : SameButName l m) :
    ∃ a b, ofOutput (String.ofList l.text) = [a] ∧ ofOutput (String.ofList m.text) = [b] ∧
      a.verdict = b.verdict ∧ a.time = b.time ∧
      (∀ limit, slowTests limit [a] = [] ↔ slowTests limit [b] = []) ∧
      l.TellsMemory a.memory ∧ m.TellsMemory b.memory ∧
      (¬ HasMemory l.name → ¬ HasMemory m.name → a.memory = b.memory ∧
        ∀ limit, heavyTests limit [a] = [] ↔ heavyTests limit [b] = []) := by
  refine ⟨l.test, m.test, l.ofOutput_text, m.ofOutput_text, h.verdict_test, h.time_test, ?_,
    l.tellsMemory, m.tellsMemory, ?_⟩
  · intro limit
    rw [slowTests_singleton_iff, slowTests_singleton_iff, h.time_test]
  · intro hl hm
    refine ⟨h.memory_test hl hm, fun limit => ?_⟩
    rw [heavyTests_singleton_iff, heavyTests_singleton_iff, h.memory_test hl hm]

def addsLine : TestLine where
  __ := nestedLine
  name := "adds".toList
  tail := []
  name_nonempty := by decide
  name_head := by rintro c ⟨rfl⟩; decide
  name_last := by rintro c ⟨rfl⟩; decide
  name_untimed := by decide
  name_line := by decide
  tail_line := List.not_mem_nil

/-- The same line with a figure for memory in the name. -/
def heavyLine : TestLine where
  __ := addsLine
  name := "adds 9MB".toList
  name_nonempty := by decide
  name_head := by rintro c ⟨rfl⟩; decide
  name_last := by rintro c ⟨rfl⟩; decide
  name_untimed := by decide
  name_line := by decide

theorem name_tells_at_most_memory_heavy :
    SameButName addsLine heavyLine ∧
      ∃ a b, ofOutput " PASS\tadds (4.5ms)" = [a] ∧ ofOutput " PASS\tadds 9MB (4.5ms)" = [b] ∧
        a.verdict = b.verdict ∧ a.time = b.time ∧
        MemoryOn addsLine.tail a.memory ∧ MemoryOn heavyLine.name b.memory := by
  have h : SameButName addsLine heavyLine := ⟨rfl, rfl, rfl, rfl, rfl, rfl⟩
  obtain ⟨a, b, ha, hb, hverdict, htime, -, hmemory, hmemory', -⟩ := name_tells_at_most_memory h
  have hnone : ¬ HasMemory addsLine.name := by decide
  have hsome : HasMemory heavyLine.name := by decide
  exact ⟨h, a, b, ha, hb, hverdict, htime, hmemory.behindTime hnone, hmemory'.inName hsome⟩

/-- A figure for memory in a name is taken for the memory of the test, so it makes a difference. -/
theorem name_tells_memory_heavy :
    SameButName addsLine heavyLine ∧
      addsLine.text = " PASS\tadds (4.5ms)".toList ∧
      heavyLine.text = " PASS\tadds 9MB (4.5ms)".toList ∧
      (ofOutput " PASS\tadds (4.5ms)").map (·.memory) ≠
        (ofOutput " PASS\tadds 9MB (4.5ms)").map (·.memory) ∧
      heavyTests 1024 (ofOutput " PASS\tadds (4.5ms)") = [] ∧
      heavyTests 1024 (ofOutput " PASS\tadds 9MB (4.5ms)") ≠ [] := by
  refine ⟨⟨rfl, rfl, rfl, rfl, rfl, rfl⟩, by decide, by decide, ?_, ?_, ?_⟩ <;> decide +kernel

end SuiteForge.Benchmark
