import SuiteForge.Proofs.Runner.Output

/-!
# Test lines

A test line has a verdict, a name, and a time in parentheses. Whatever the name has in it but a time
of its own, verdicts and parentheses included, it is read back as it stands on the line, with the
verdict in front of it and the time behind it; and the memory is that of the first figure for it
anywhere on the line.
-/

namespace SuiteForge.Benchmark

open Text
open Binary64 (ofText?)

variable {c : Char} {s t rest name numeral tail margin : List Char}

/-! ### Times -/

theorem timeAt_eq_some_iff : timeAt s = some (numeral, rest) ↔
    ∃ blanks, ∃ n : Numeral isDecimalDigit, blanks ≠ [] ∧ (∀ c ∈ blanks, isBlank c = true) ∧
      n.text = numeral ∧ s = blanks ++ '(' :: (n.text ++ ("ms)".toList ++ rest)) := by
  constructor
  · intro h
    unfold timeAt at h
    split at h
    · cases h
    rename_i hblanks
    obtain ⟨inside, hinside, h⟩ := Option.bind_eq_some_iff.mp h
    obtain ⟨⟨text, behind⟩, hfigure, h⟩ := Option.bind_eq_some_iff.mp h
    obtain ⟨rest', hclose, heq⟩ := Option.bind_eq_some_iff.mp h
    cases heq
    obtain ⟨n, rfl, rfl⟩ := (Figure.at?_eq_some_iff Figure.endsNumeral_ms).mp hfigure
    refine ⟨s.takeWhile isBlank, n, by simpa using hblanks,
      List.all_eq_true.mp List.all_takeWhile, rfl, ?_⟩
    have hopen : s.dropWhile isBlank = '(' :: (n.text ++ ("ms".toList ++ behind)) :=
      after?_eq_some.mp hinside
    have hparts : s.takeWhile isBlank ++ s.dropWhile isBlank = s :=
      List.takeWhile_append_dropWhile
    rw [hopen, after?_eq_some.mp hclose] at hparts
    exact hparts.symm
  · rintro ⟨blanks, n, hne, hblank, rfl, rfl⟩
    have hhead : ∀ c, ('(' :: (n.text ++ ("ms)".toList ++ rest))).head? = some c →
        isBlank c = false := by
      rintro c ⟨rfl⟩
      decide
    have hfigure : Figure.at? "ms".toList (n.text ++ ("ms)".toList ++ rest)) =
        some (n.text, ')' :: rest) := Figure.at?_text Figure.endsNumeral_ms n (')' :: rest)
    simp only [timeAt, takeWhile_run hblank hhead, dropWhile_run hblank hhead,
      List.isEmpty_iff, if_neg hne, after?, hfigure, Option.bind_eq_bind, Option.bind_some, if_true]
    rfl

/-- A text with a time in it, which is in parentheses behind a blank. -/
def Timed (s : List Char) : Prop :=
  ∃ front c, ∃ n : Numeral isDecimalDigit, ∃ back, isBlank c = true ∧
    s = front ++ c :: '(' :: (n.text ++ ("ms)".toList ++ back))

theorem timed_of_timeAt (h : timeAt t = some (numeral, rest)) (front : List Char) :
    Timed (front ++ t) := by
  obtain ⟨blanks, n, hne, hblank, -, rfl⟩ := timeAt_eq_some_iff.mp h
  refine ⟨front ++ blanks.dropLast, blanks.getLast hne, n, rest,
    hblank _ (List.getLast_mem hne), ?_⟩
  calc
    front ++ (blanks ++ '(' :: (n.text ++ ("ms)".toList ++ rest))) =
        front ++ ((blanks.dropLast ++ [blanks.getLast hne]) ++
          '(' :: (n.text ++ ("ms)".toList ++ rest))) := by rw [List.dropLast_concat_getLast]
    _ = front ++ blanks.dropLast ++ blanks.getLast hne ::
          '(' :: (n.text ++ ("ms)".toList ++ rest)) := by simp

theorem firstMatch_timeAt_isSome_iff : (firstMatch timeAt s).isSome ↔ Timed s := by
  constructor
  · intro h
    rcases firstMatch_cases timeAt s with ⟨i, numeral, rest, htime, -, -⟩ | ⟨-, hnone⟩
    · rw [← List.take_append_drop i s]
      exact timed_of_timeAt htime _
    · simp [hnone] at h
  · rintro ⟨front, c, n, back, hc, hs⟩
    have htime : timeAt (c :: '(' :: (n.text ++ ("ms)".toList ++ back))) = some (n.text, back) :=
      timeAt_eq_some_iff.mpr ⟨[c], n, by simp, by simpa using hc, rfl, rfl⟩
    rcases firstMatch_cases timeAt s with ⟨_, _, _, -, -, hfound⟩ | ⟨hnone, -⟩
    · rw [hfound, Option.isSome_some]
    · have hhere := hnone front.length
      rw [hs, List.drop_left, htime] at hhere
      cases hhere

instance (s : List Char) : Decidable (Timed s) :=
  decidable_of_iff _ firstMatch_timeAt_isSome_iff

/-! ### Lines -/

def Verdict.word : Verdict → List Char
  | .pass => "PASS".toList
  | .fail => "FAIL".toList

/-- White space within a line. -/
def IsGap (s : List Char) : Prop := ∀ c ∈ s, isBlank c = true ∧ c ≠ '\n'

/-- What a runner prints for a test. The name has no time in it, and neither begins nor ends with
white space. -/
structure TestLine where
  margin : List Char
  verdict : Verdict
  before : List Char
  name : List Char
  behind : List Char
  time : Numeral isDigit
  tail : List Char
  margin_gap : IsGap margin
  before_gap : IsGap before
  before_nonempty : before ≠ []
  name_nonempty : name ≠ []
  name_head : ∀ c, name.head? = some c → isBlank c = false
  name_last : ∀ c, name.getLast? = some c → isBlank c = false
  name_untimed : ¬ Timed name
  name_line : '\n' ∉ name
  behind_gap : IsGap behind
  behind_nonempty : behind ≠ []
  tail_line : '\n' ∉ tail

namespace TestLine

/-- The time in parentheses and what is behind it. -/
def timed (l : TestLine) : List Char :=
  l.behind ++ '(' :: (l.time.text ++ ("ms)".toList ++ l.tail))

def text (l : TestLine) : List Char :=
  l.margin ++ (l.verdict.word ++ (l.before ++ (l.name ++ l.timed)))

/-! ### Reading a line -/

theorem timeAt_timed (l : TestLine) : timeAt l.timed = some (l.time.text, l.tail) :=
  timeAt_eq_some_iff.mpr ⟨l.behind, l.time.anyScript, l.behind_nonempty,
    fun c hc => (l.behind_gap c hc).1, rfl, rfl⟩

/-- No time is read before the end of the name: what is left of it does not begin one, and as it
ends with no blank it is not a part of the white space in front of the time either. -/
theorem timeAt_within (l : TestLine) {front back : List Char} (hname : l.name = front ++ back)
    (hback : back ≠ []) : timeAt (back ++ l.timed) = none := by
  obtain ⟨b, blanks, hbehind⟩ := List.exists_cons_of_ne_nil l.behind_nonempty
  have hb : isBlank b = true := (l.behind_gap b (hbehind ▸ List.mem_cons_self)).1
  have hlast : isBlank (back.getLast hback) = false := by
    refine l.name_last _ ?_
    rw [hname, List.getLast?_append_of_ne_nil _ hback, List.getLast?_eq_some_getLast hback]
  have hend : back.dropWhile isBlank ≠ [] := by
    rw [← List.dropLast_concat_getLast hback, dropWhile_append_cons hlast]
    simp
  have htimed : l.timed = b :: (blanks ++ '(' :: (l.time.text ++ ("ms)".toList ++ l.tail))) := by
    rw [timed, hbehind, List.cons_append]
  rw [htimed, timeAt_append_of_end hend hb]
  cases htime : timeAt back with
  | none => rfl
  | some found => exact absurd (hname ▸ timed_of_timeAt htime front) l.name_untimed

end TestLine

/-- A name goes on to the first time behind it. -/
theorem nameUpTo_append (hname : name ≠ []) (htime : timeAt rest = some (numeral, tail))
    (hwithin : ∀ front back, name = front ++ back → back ≠ [] → timeAt (back ++ rest) = none)
    (taken : List Char) :
    nameUpTo taken (name ++ rest) = some ((taken.reverse ++ name, numeral), tail) := by
  induction name generalizing taken with
  | nil => exact absurd rfl hname
  | cons c name ih =>
    rw [List.cons_append, nameUpTo]
    -- only behind the last character of the name a time begins
    by_cases hlast : name = []
    · simp [hlast, htime]
    · have hlater : ∀ front back, name = front ++ back → back ≠ [] →
          timeAt (back ++ rest) = none :=
        fun front back heq => hwithin (c :: front) back (by rw [heq, List.cons_append])
      rw [hwithin [c] name rfl hlast]
      simpa using ih hlast hlater (c :: taken)

theorem verdictAt_word (v : Verdict) (s : List Char) : verdictAt (v.word ++ s) = some (v, s) := by
  cases v <;> rfl

/-- No test is read from where white space begins. -/
theorem inert_testAt (hmargin : IsGap margin) : Inert testAt margin := by
  rintro y z rest rfl hz
  obtain ⟨c, cs, rfl⟩ := List.exists_cons_of_ne_nil hz
  have hc : isBlank c = true := (hmargin c (by simp)).1
  have hP : c ≠ 'P' := ne_of_isBlank hc (by decide)
  have hF : c ≠ 'F' := ne_of_isBlank hc (by decide)
  simp [testAt, verdictAt, after?, hP.symm, hF.symm]

namespace TestLine

theorem testAt_text (l : TestLine) :
    testAt (l.verdict.word ++ (l.before ++ (l.name ++ l.timed))) =
      some ((l.verdict, l.name, l.time.text), l.tail) := by
  have hblank : ∀ c ∈ l.before, isBlank c = true := fun c hc => (l.before_gap c hc).1
  have hhead : ∀ c, (l.name ++ l.timed).head? = some c → isBlank c = false := by
    intro c hc
    rw [List.head?_append_of_ne_nil _ l.name_nonempty] at hc
    exact l.name_head c hc
  have hname : nameUpTo [] (l.name ++ l.timed) = some ((l.name, l.time.text), l.tail) :=
    nameUpTo_append l.name_nonempty l.timeAt_timed (fun _ _ => l.timeAt_within) []
  simp only [testAt, verdictAt_word, Option.bind_eq_bind, Option.bind_some,
    takeWhile_run hblank hhead, dropWhile_run hblank hhead, nameBehind, List.isEmpty_iff,
    if_neg l.before_nonempty, hname]
  rfl

theorem testOf?_text (l : TestLine) : testOf? l.text = some
    { name := String.ofList l.name, verdict := l.verdict, time := l.time.value,
      memory := memoryOf l.text } := by
  have hfound : firstMatch testAt l.text = some (l.verdict, l.name, l.time.text) := by
    rw [text, (inert_testAt l.margin_gap).firstMatch_append, firstMatch_of_match l.testAt_text]
  have htime : ofText? l.time.text = some l.time.value := by
    rw [← Numeral.text_anyScript, Numeral.ofText?_text, Numeral.ascii?_anyScript, Option.map_some]
  have hname : trim l.name = l.name := trim_eq_self l.name_head l.name_last
  simp only [testOf?, hfound, htime, hname, Option.bind_eq_bind, Option.bind_some]
  rfl

theorem notMem_text (l : TestLine) : '\n' ∉ l.text := by
  have hgap {s : List Char} (hs : IsGap s) : '\n' ∉ s := fun hmem => (hs _ hmem).2 rfl
  have hword : '\n' ∉ l.verdict.word := by cases l.verdict <;> decide
  have htime : '\n' ∉ l.time.text := Numeral.notMem_text (by decide) (by decide)
  simp [text, timed, hgap l.margin_gap, hword, hgap l.before_gap, l.name_line,
    hgap l.behind_gap, htime, l.tail_line]

end TestLine

/-! ### Memory -/

/-- The memory that a line tells of: kilobytes for the megabytes of its leftmost figure, and nothing
if there is no such figure or not in ASCII digits. -/
def MemoryOn (line : List Char) (memory : Binary64) : Prop :=
  (∃ n, Figure.First "MB".toList line n ∧
    memory = n.ascii?.elim .zero fun m => m.value.scale 1024) ∨
  (∀ i n, ¬ Figure.StandsAt "MB".toList line i n) ∧ memory = .zero

theorem memoryOn_iff {line : List Char} {memory : Binary64} :
    MemoryOn line memory ↔ memory = memoryOf line := by
  have hvalue {n : Numeral isDecimalDigit} (hn : Figure.First "MB".toList line n) :
      memoryOf line = n.ascii?.elim .zero fun m => m.value.scale 1024 := by
    rw [memoryOf, Figure.first?_of_first Figure.endsNumeral_megabytes hn]
    cases n.ascii? <;> rfl
  have hzero (hnone : ∀ i n, ¬ Figure.StandsAt "MB".toList line i n) :
      memoryOf line = .zero := by
    rw [memoryOf, Figure.first?_of_none Figure.endsNumeral_megabytes hnone, Option.map_none,
      Option.getD_none]
  constructor
  · rintro (⟨n, hn, hmemory⟩ | ⟨hnone, hmemory⟩)
    · exact hmemory.trans (hvalue hn).symm
    · exact hmemory.trans (hzero hnone).symm
  · rintro rfl
    rcases Figure.exists_first_or_none Figure.endsNumeral_megabytes line with ⟨n, hn⟩ | ⟨hnone, -⟩
    · exact Or.inl ⟨n, hn, hvalue hn⟩
    · exact Or.inr ⟨hnone, hzero hnone⟩

/-! ### Outputs of one line -/

/-- A test line is read back as it was put together: one test, with the verdict, the name and the
time of the line and the memory that the line tells of. -/
theorem line_read_back (l : TestLine) :
    ofOutput (String.ofList l.text) = [{
      name := String.ofList l.name, verdict := l.verdict, time := l.time.value,
      memory := memoryOf l.text }] ∧
    ∀ memory, MemoryOn l.text memory ↔ memory = memoryOf l.text := by
  constructor
  · rw [ofOutput, String.toList_ofList, readsLines_testOf?.filterMap_lines_of_notMem l.notMem_text,
      l.testOf?_text, Option.toList_some]
  · intro memory
    exact memoryOn_iff

/-- A name with verdicts, parentheses and what is nearly a time in it. -/
def nestedLine : TestLine where
  margin := [' ']
  verdict := .pass
  before := ['\t']
  name := "FAIL (7ms PASS(8ms) (x)".toList
  behind := [' ']
  time := ⟨['4'], ['5'], by decide, List.forall_mem_singleton.mpr (by decide),
    List.forall_mem_singleton.mpr (by decide)⟩
  tail := " 2MB 3MB (9ms)".toList
  margin_gap := List.forall_mem_singleton.mpr (by decide)
  before_gap := List.forall_mem_singleton.mpr (by decide)
  before_nonempty := by decide
  name_nonempty := by decide
  name_head := by rintro c ⟨rfl⟩; decide
  name_last := by rintro c ⟨rfl⟩; decide
  name_untimed := by decide
  name_line := by decide
  behind_gap := List.forall_mem_singleton.mpr (by decide)
  behind_nonempty := by decide
  tail_line := by decide

theorem line_read_back_nested :
    ofOutput " PASS\tFAIL (7ms PASS(8ms) (x) (4.5ms) 2MB 3MB (9ms)" = [{
      name := "FAIL (7ms PASS(8ms) (x)", verdict := .pass, time := .ofRatio false 45 10,
      memory := memoryOf " PASS\tFAIL (7ms PASS(8ms) (x) (4.5ms) 2MB 3MB (9ms)".toList }] ∧
    ∀ memory, MemoryOn nestedLine.text memory ↔ memory = memoryOf nestedLine.text :=
  line_read_back nestedLine

end SuiteForge.Benchmark
