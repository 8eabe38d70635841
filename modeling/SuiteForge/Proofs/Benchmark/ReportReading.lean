import SuiteForge.Benchmark.Report
import SuiteForge.Proofs.Json.Reading

/-!
# Reports are read back

The text of a report says all that the report says. Its members are read by their names, texts
character for character and figures to the last bit, and no two reports have the same text.
-/

namespace SuiteForge

/-! ### Reading records -/

namespace Json

variable {α : Type} {names : List String} {ms : List (String × Json)}

/-- The values of an object that has just these members, in this order. -/
def values? (names : List String) : Json → Option (List Json)
  | .object ms => if ms.map (·.1) = names.map some then some (ms.map (·.2)) else none
  | _ => none

def nat? : Json → Option Nat
  | .number lexeme =>
    if lexeme.all Text.isDigit then some (Decimal.digitsValue 0 lexeme) else none
  | _ => none

def binary64? : Json → Option Binary64
  | .number lexeme => Binary64.ofText? lexeme
  | _ => none

theorem values?_record (ms : List (String × Json)) :
    (record ms).values? (ms.map (·.1)) = some (ms.map (·.2)) := by
  simp [record, values?, Function.comp_def]

theorem nat?_ofNat (n : Nat) : (ofNat n).nat? = some n := by
  have hall : (Nat.toDigits 10 n).all Text.isDigit = true :=
    List.all_eq_true.mpr fun c => Binary64.isDigit_of_mem_toDigits
  rw [ofNat, nat?, if_pos hall, Binary64.digitsValue_toDigits]

theorem binary64?_ofBinary64 {x : Binary64} (h : x.isFinite = true) :
    (ofBinary64 x).binary64? = some x := by
  cases x with
  | nan => cases h
  | infinite negative => cases h
  | finite negative rank lt => exact Binary64.ofText?_of_compact? rfl

theorem list?_map {element : Json → Option α} {f : α → Json} {as : List α}
    (h : ∀ a ∈ as, element (f a) = some a) : list? element (.array (as.map f)) = some as := by
  rw [list?]
  induction as with
  | nil => rfl
  | cons a as ih =>
    obtain ⟨ha, has⟩ := List.forall_mem_cons.mp h
    rw [List.map_cons, List.mapM_cons, ha, ih has]
    rfl

end Json

namespace Benchmark

/-! ### Tests and advice -/

def Verdict.ofText? : String → Option Verdict
  | "pass" => some .pass
  | "fail" => some .fail
  | _ => none

def Test.ofJson? (v : Json) : Option Test := do
  let [name, status, time, memory] ← v.values? ["name", "status", "time", "memory"] | none
  return {
    name := ← name.text?
    verdict := ← status.text?.bind Verdict.ofText?
    time := ← time.binary64?
    memory := ← memory.binary64? }

/-- The figures of a test are numbers that JSON has. -/
def Test.IsFinite (t : Test) : Prop := t.time.isFinite = true ∧ t.memory.isFinite = true

/-- What a recommendation says. -/
structure Advice where
  kind : String
  message : String
  tests : List String
  deriving DecidableEq

def Advice.json (a : Advice) : Json := .record [
  ("type", .text a.kind),
  ("message", .text a.message),
  ("tests", .array (a.tests.map Json.text))]

def Advice.ofJson? (v : Json) : Option Advice := do
  let [kind, message, tests] ← v.values? ["type", "message", "tests"] | none
  return {
    kind := ← kind.text?
    message := ← message.text?
    tests := ← tests.list? Json.text? }

def Recommendation.advice (r : Recommendation) : Advice := ⟨r.kind, r.message, r.tests⟩

theorem Verdict.ofText?_text (v : Verdict) : Verdict.ofText? v.text = some v := by
  cases v with
  | pass => rfl
  | fail => rfl

theorem Test.ofJson?_json {t : Test} (h : t.IsFinite) : Test.ofJson? t.json = some t := by
  have hvalues : t.json.values? ["name", "status", "time", "memory"] =
    some [.text t.name, .text t.verdict.text, .ofBinary64 t.time, .ofBinary64 t.memory] :=
    Json.values?_record _
  simp [Test.ofJson?, hvalues, Json.text, Json.text?, Verdict.ofText?_text,
    Json.binary64?_ofBinary64 h.1, Json.binary64?_ofBinary64 h.2]

theorem Advice.ofJson?_json (a : Advice) : Advice.ofJson? a.json = some a := by
  have hvalues : a.json.values? ["type", "message", "tests"] =
    some [.text a.kind, .text a.message, .array (a.tests.map Json.text)] := Json.values?_record _
  have htests : Json.list? Json.text? (.array (a.tests.map Json.text)) = some a.tests :=
    Json.list?_map fun _ _ => rfl
  simp [Advice.ofJson?, hvalues, Json.text, Json.text?, htests]

@[simp] theorem Test.spelled_json (t : Test) : Json.Spelled t.json := by
  simp [Test.json]

@[simp] theorem Advice.spelled_json (a : Advice) : Json.Spelled a.json := by
  simp [Advice.json]

/-- The kind tells what is recommended, and the tests for which. -/
theorem Recommendation.advice_injective : Function.Injective Recommendation.advice := by
  intro r s h
  obtain ⟨hkind, -, htests⟩ := Advice.mk.inj h
  cases r <;> cases s
  case speedUp.speedUp => exact congrArg _ htests
  case saveMemory.saveMemory => exact congrArg _ htests
  case allWell.allWell => rfl
  all_goals exact absurd hkind (by simp [Recommendation.kind])

/-! ### Reports -/

/-- What a report says. -/
structure Contents where
  count : Nat
  slowCount : Nat
  heavyCount : Nat
  averageTime : Binary64
  totalTime : Binary64
  slow : List Test
  heavy : List Test
  advice : List Advice
  madeAt : String
  deriving DecidableEq

namespace Contents

structure IsFinite (c : Contents) : Prop where
  average : c.averageTime.isFinite = true
  total : c.totalTime.isFinite = true
  slow : ∀ t ∈ c.slow, t.IsFinite
  heavy : ∀ t ∈ c.heavy, t.IsFinite

def summary (c : Contents) : Json := .record [
  ("total_tests", .ofNat c.count),
  ("slow_tests_count", .ofNat c.slowCount),
  ("memory_issues_count", .ofNat c.heavyCount),
  ("average_time", .ofBinary64 c.averageTime),
  ("total_time", .ofBinary64 c.totalTime)]

def json (c : Contents) : Json := .record [
  ("summary", c.summary),
  ("slow_tests", .array (c.slow.map Test.json)),
  ("memory_issues", .array (c.heavy.map Test.json)),
  ("recommendations", .array (c.advice.map Advice.json)),
  ("generated_at", .text c.madeAt)]

def text (c : Contents) : String := String.ofList (c.json.pretty 0)

def ofJson? (v : Json) : Option Contents := do
  let [summary, slow, heavy, advice, madeAt] ← v.values?
    ["summary", "slow_tests", "memory_issues", "recommendations", "generated_at"] | none
  let [count, slowCount, heavyCount, averageTime, totalTime] ← summary.values?
    ["total_tests", "slow_tests_count", "memory_issues_count", "average_time", "total_time"] | none
  return {
    count := ← count.nat?
    slowCount := ← slowCount.nat?
    heavyCount := ← heavyCount.nat?
    averageTime := ← averageTime.binary64?
    totalTime := ← totalTime.binary64?
    slow := ← slow.list? Test.ofJson?
    heavy := ← heavy.list? Test.ofJson?
    advice := ← advice.list? Advice.ofJson?
    madeAt := ← madeAt.text? }

theorem ofJson?_json {c : Contents} (h : c.IsFinite) : ofJson? c.json = some c := by
  have hmembers : c.json.values?
      ["summary", "slow_tests", "memory_issues", "recommendations", "generated_at"] =
    some [c.summary, .array (c.slow.map Test.json), .array (c.heavy.map Test.json),
      .array (c.advice.map Advice.json), .text c.madeAt] := Json.values?_record _
  have hsummary : c.summary.values?
      ["total_tests", "slow_tests_count", "memory_issues_count", "average_time", "total_time"] =
    some [.ofNat c.count, .ofNat c.slowCount, .ofNat c.heavyCount, .ofBinary64 c.averageTime,
      .ofBinary64 c.totalTime] := Json.values?_record _
  have hslow := Json.list?_map fun t ht => Test.ofJson?_json (h.slow t ht)
  have hheavy := Json.list?_map fun t ht => Test.ofJson?_json (h.heavy t ht)
  have hadvice : Json.list? Advice.ofJson? (.array (c.advice.map Advice.json)) = some c.advice :=
    Json.list?_map fun a _ => a.ofJson?_json
  simp only [ofJson?, hmembers, hsummary, Json.nat?_ofNat, Json.binary64?_ofBinary64 h.average,
    Json.binary64?_ofBinary64 h.total, hslow, hheavy, hadvice, Json.text, Json.text?,
    Option.bind_eq_bind, Option.bind_some, Option.pure_def]

theorem spelled_json (c : Contents) : Json.Spelled c.json := by
  simp [json, summary]

theorem parse?_text (c : Contents) : Json.parse? c.text.toList = some c.json := by
  rw [text, String.toList_ofList, Json.parse?_pretty c.spelled_json]

/-- Nothing is lost in the text. -/
theorem text_injOn : Set.InjOn text {c | c.IsFinite} := by
  intro c hc d hd h
  have hjson : some c.json = some d.json := by
    rw [← c.parse?_text, ← d.parse?_text, h]
  have hread : some c = some d := by
    rw [← ofJson?_json hc, ← ofJson?_json hd, Option.some.inj hjson]
  exact Option.some.inj hread

end Contents

namespace Report

def contents (r : Report) : Contents where
  count := r.analysis.count
  slowCount := r.analysis.slow.length
  heavyCount := r.analysis.heavy.length
  averageTime := r.analysis.averageTime
  totalTime := r.analysis.totalTime
  slow := r.analysis.slow
  heavy := r.analysis.heavy
  advice := r.analysis.recommendations.map Recommendation.advice
  madeAt := r.madeAt

theorem json_contents (r : Report) : r.contents.json = r.json := by
  have hadvice : (r.analysis.recommendations.map Recommendation.advice).map Advice.json =
      r.analysis.recommendations.map Recommendation.json := List.map_map
  rw [Contents.json, contents, hadvice]
  rfl

theorem text_contents (r : Report) : r.contents.text = r.text := by
  rw [Contents.text, json_contents, text]

theorem contents_injective : Function.Injective contents := by
  rintro ⟨⟨⟩, _⟩ ⟨⟨⟩, _⟩ h
  simp [contents, (Recommendation.advice_injective.list_map).eq_iff] at h
  simp [h]

/-- A report with finite figures is read back from its text as it was: as an object with just these
members, of which the first has the lengths of the lists. What it recommends may be worded in any
way. No other report has the same text. -/
theorem recovered (c : Contents) (hc : c.IsFinite) :
    (∃ summary slow heavy advice madeAt v, Json.parse? c.text.toList = some v ∧
      v = .record [("summary", summary), ("slow_tests", slow), ("memory_issues", heavy),
        ("recommendations", advice), ("generated_at", madeAt)] ∧
      Contents.ofJson? v = some c) ∧
    ∀ r : Report, r.contents = c → r.text = c.text ∧
      c.slowCount = c.slow.length ∧ c.heavyCount = c.heavy.length ∧
      ∀ s : Report, s.contents.IsFinite → s.text = r.text → s = r := by
  constructor
  · exact ⟨_, _, _, _, _, _, c.parse?_text, rfl, Contents.ofJson?_json hc⟩
  · rintro r rfl
    refine ⟨r.text_contents.symm, rfl, rfl, fun s hs htext => contents_injective ?_⟩
    refine Contents.text_injOn hs hc ?_
    rw [s.text_contents, r.text_contents, htext]

/-- A report on a test whose name has to be escaped, with the least of the positive numbers and a
zero that has a sign. -/
def unusual : Report :=
  let t : Test := ⟨"says \"a\\b\"\n\x01 é", .fail, .finite false 1 (by decide), .negativeZero⟩
  { analysis := {
      count := 2
      slow := [t]
      heavy := []
      totalTime := .finite false 1 (by decide)
      averageTime := .zero
      recommendations := [.speedUp [t.name]] }
    madeAt := "2024-05-01T12:00:00.000000Z" }

theorem recovered_unusual : unusual.contents.IsFinite ∧
    (∃ v, Json.parse? unusual.text.toList = some v ∧
      Contents.ofJson? v = some unusual.contents) ∧
    ∀ s : Report, s.contents.IsFinite → s.text = unusual.text → s = unusual := by
  have hfinite : unusual.contents.IsFinite :=
    ⟨rfl, rfl, List.forall_mem_singleton.mpr ⟨rfl, rfl⟩, List.forall_mem_nil _⟩
  obtain ⟨⟨_, _, _, _, _, v, hparse, -, hread⟩, hreports⟩ := recovered unusual.contents hfinite
  obtain ⟨htext, -, -, hunique⟩ := hreports unusual rfl
  exact ⟨hfinite, ⟨v, htext ▸ hparse, hread⟩, hunique⟩

end Report

end Benchmark

end SuiteForge
