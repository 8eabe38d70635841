import SuiteForge.Proofs.Provider.Asking
import SuiteForge.Proofs.Text.Trimming

/-!
# Code with and without fences

A file without three backticks in a row is read from an answer as it is, whether the provider put a
fence around it or not, and whatever white space is there. It may begin or end with backticks: white
space keeps it off the closing fence, and the opening fence is not looked for again in what is left.
-/

namespace SuiteForge.CodeFence

open Text

variable {c : Char} {s front inner gap back : List Char}

/-- What fences are made of. -/
def mark : List Char := "```".toList

theorem begins_openingAt : Begins mark openingAt := by
  intro s h
  cases hafter : after? "```php".toList s with
  | none => rw [openingAt, hafter, Option.map_none]
  | some rest =>
    have hmark : after? mark s = some ("php".toList ++ rest) := by
      rw [after?_eq_some, after?_eq_some.mp hafter]
      rfl
    rw [h] at hmark
    cases hmark

theorem begins_closingAt : Begins mark closingAt := by
  intro s h
  unfold mark at h
  rw [closingAt, h]

theorem openingAt_of_notMem (h : 'p' ∉ s) : openingAt s = none := by
  cases hafter : after? "```php".toList s with
  | none => rw [openingAt, hafter, Option.map_none]
  | some rest =>
    rw [after?_eq_some.mp hafter] at h
    simp at h

theorem notMem_mark (hc : isBlank c = true) : c ∉ mark := notMem_of_isBlank (by decide) hc

/-- White space is passed over. -/
theorem inert_blank {r : Recogniser (List Char)} (hbegins : Begins mark r)
    (hs : ∀ c ∈ s, isBlank c = true) : Inert r s :=
  inert_of_notMem hbegins (by decide) fun c hc => notMem_mark (hs c hc)

/-- A text without a fence is passed over together with the white space behind it. -/
theorem inert_code {r : Recogniser (List Char)} (hbegins : Begins mark r) (hs : ¬ mark <:+: s)
    (hgap : ∀ c ∈ gap, isBlank c = true) (hne : gap = [] → s = []) : Inert r (s ++ gap) := by
  cases gap with
  | nil =>
    rw [hne rfl]
    exact .nil
  | cons b gap =>
    obtain ⟨hb, hgap⟩ := List.forall_mem_cons.mp hgap
    have hsplit : s ++ b :: gap = (s ++ [b]) ++ gap := by simp
    rw [hsplit]
    exact (inert_concat hbegins (by decide) (notMem_mark hb) hs).append (inert_blank hbegins hgap)

theorem none_of_unfenced {r : Recogniser (List Char)} (hbegins : Begins mark r)
    (hs : ¬ mark <:+: s) (i : Nat) : r (s.drop i) = none :=
  hbegins _ (after?_drop_eq_none hs i)

/-! ### Without a fence -/

/-- Nothing but white space is taken from a text without a fence. -/
theorem stripped_bare (hs : ¬ mark <:+: s) (htrim : trim s = s)
    (hfront : ∀ c ∈ front, isBlank c = true) (hback : ∀ c ∈ back, isBlank c = true) :
    stripped (front ++ (s ++ back)) = s := by
  have hwhole : ¬ mark <:+: front ++ (s ++ back) := by
    apply not_infix_append_left (by decide) fun c hc => notMem_mark (hfront c hc)
    exact not_infix_append_right (by decide) (fun c hc => notMem_mark (hback c hc)) hs
  rw [stripped, replaceMatches_of_none (none_of_unfenced begins_openingAt hwhole),
    replaceFirst_of_none (none_of_unfenced begins_closingAt hwhole), trim_around hfront hback,
    htrim]

/-! ### In a fence -/

theorem closingAt_mark (hback : ∀ c ∈ back, isBlank c = true) :
    closingAt (mark ++ back) = some ([], []) := by
  have hafter : after? "```".toList (mark ++ back) = some back := after?_eq_some.mpr rfl
  rw [closingAt, hafter]
  exact if_pos (List.all_eq_true.mpr hback)

/-- With an opening fence go the blanks behind it. All of a file is left, and as much white space as
keeps it off the closing fence. -/
theorem exists_gap (hinner : ∀ c ∈ inner, isBlank c = true) (hgap : ∀ c ∈ gap, isBlank c = true)
    (hne : gap ≠ []) (htrim : trim s = s) :
    ∃ gap', (∀ c ∈ gap', isBlank c = true) ∧ (gap' = [] → s = []) ∧
      (inner ++ (s ++ (gap ++ (mark ++ back)))).dropWhile isBlank =
        s ++ (gap' ++ (mark ++ back)) := by
  by_cases hs : s = []
  · refine ⟨[], by simp, fun _ => hs, ?_⟩
    subst hs
    have hblank : ∀ c ∈ inner ++ gap, isBlank c = true := by
      intro c hc
      rcases List.mem_append.mp hc with hc | hc
      · exact hinner c hc
      · exact hgap c hc
    have hrun := dropWhile_run hblank (t := mark ++ back) (by rintro c ⟨rfl⟩; decide)
    simpa using hrun
  · refine ⟨gap, hgap, fun hnil => absurd hnil hne, ?_⟩
    refine dropWhile_run hinner fun c hc => ?_
    rw [List.head?_append_of_ne_nil _ hs] at hc
    exact (trim_eq_iff.mp htrim).head c hc

/-- An opening fence does not stand where the closing one does. -/
theorem replaceMatches_mark (hback : ∀ c ∈ back, isBlank c = true) :
    replaceMatches openingAt (mark ++ back) = mark ++ back := by
  have hp : 'p' ∉ mark ++ back := by
    intro hmem
    rcases List.mem_append.mp hmem with hmem | hmem
    · exact absurd hmem (by decide)
    · exact absurd (hback 'p' hmem) (by decide)
  apply replaceMatches_of_none
  intro i
  apply openingAt_of_notMem
  intro hmem
  exact hp (List.mem_of_mem_drop hmem)

theorem replaceMatches_fenced (hs : ¬ mark <:+: s) (htrim : trim s = s)
    (hinner : ∀ c ∈ inner, isBlank c = true) (hgap : ∀ c ∈ gap, isBlank c = true)
    (hne : gap ≠ []) (hback : ∀ c ∈ back, isBlank c = true) :
    ∃ gap', (∀ c ∈ gap', isBlank c = true) ∧ (gap' = [] → s = []) ∧
      replaceMatches openingAt ("```php".toList ++ (inner ++ (s ++ (gap ++ (mark ++ back))))) =
        (s ++ gap') ++ (mark ++ back) := by
  obtain ⟨gap', hgap', hne', hrest⟩ := exists_gap hinner hgap hne htrim
  refine ⟨gap', hgap', hne', ?_⟩
  generalize inner ++ (s ++ (gap ++ (mark ++ back))) = body at hrest ⊢
  have hmatch : openingAt ("```php".toList ++ body) = some ([], body.dropWhile isBlank) := by
    have hafter : after? "```php".toList ("```php".toList ++ body) = some body :=
      after?_eq_some.mpr rfl
    rw [openingAt, hafter, Option.map_some]
  have hsplit : "```php".toList ++ body =
      '`' :: (("``php".toList ++ body.takeWhile isBlank) ++ body.dropWhile isBlank) := by
    rw [List.append_assoc, List.takeWhile_append_dropWhile]
    rfl
  have hopened : replaceMatches openingAt ("```php".toList ++ body) =
      replaceMatches openingAt (body.dropWhile isBlank) := by
    rw [hsplit] at hmatch ⊢
    exact replaceMatches_of_match hmatch
  have hcode : Inert openingAt (s ++ gap') := inert_code begins_openingAt hs hgap' hne'
  rw [hopened, hrest, ← List.append_assoc, hcode.replaceMatches_append, replaceMatches_mark hback]

/-- Both fences are taken from a text that has no other, with the white space around them. -/
theorem stripped_fenced (hs : ¬ mark <:+: s) (htrim : trim s = s)
    (hfront : ∀ c ∈ front, isBlank c = true) (hinner : ∀ c ∈ inner, isBlank c = true)
    (hgap : ∀ c ∈ gap, isBlank c = true) (hne : gap ≠ []) (hback : ∀ c ∈ back, isBlank c = true) :
    stripped (front ++ ("```php".toList ++ (inner ++ (s ++ (gap ++ (mark ++ back)))))) = s := by
  obtain ⟨gap', hgap', hne', hopened⟩ := replaceMatches_fenced hs htrim hinner hgap hne hback
  have hcode : Inert closingAt (s ++ gap') := inert_code begins_closingAt hs hgap' hne'
  rw [stripped, (inert_blank begins_openingAt hfront).replaceMatches_append, hopened,
    (inert_blank begins_closingAt hfront).replaceFirst_append, hcode.replaceFirst_append,
    replaceFirst_of_match (closingAt_mark hback), List.append_nil, List.append_nil,
    trim_around hfront hgap', htrim]

/-! ### Answers -/

/-- White space and nothing else. -/
def Blank (text : String) : Prop := ∀ c ∈ text.toList, isBlank c = true

/-- What a provider may make of a file: there is white space around it, or a fence and white space
inside and outside of it. White space keeps the file off the closing fence. -/
inductive Wraps (file : String) : String → Prop where
  | bare {front back : String} (hfront : Blank front) (hback : Blank back) :
      Wraps file (front ++ file ++ back)
  | fenced {front inner gap back : String} (hfront : Blank front) (hinner : Blank inner)
      (hgap : Blank gap) (hne : gap ≠ "") (hback : Blank back) :
      Wraps file (front ++ "```php" ++ inner ++ file ++ gap ++ "```" ++ back)

theorem code_of_wraps {file answer : String} (htrim : trim file.toList = file.toList)
    (hfree : ¬ mark <:+: file.toList) (h : Wraps file answer) : code answer = file := by
  cases h with
  | bare hfront hback =>
    rw [code, String.toList_append, String.toList_append, List.append_assoc,
      stripped_bare hfree htrim hfront hback, String.ofList_toList]
  | fenced hfront hinner hgap hne hback =>
    have hstripped := stripped_fenced hfree htrim hfront hinner hgap
      (fun hnil => hne (String.toList_eq_nil_iff.mp hnil)) hback
    rw [code]
    simp only [String.toList_append, List.append_assoc]
    exact (congrArg String.ofList hstripped).trans String.ofList_toList

end SuiteForge.CodeFence

namespace SuiteForge.AiGenerator

open CodeFence (Wraps mark)
open WriteLog (Fits)

variable {g : AiGenerator} {f : Path} {context : List (String × String)} {o : AiOptions}
  {s : State} {client : Client} {text cls file answer : String}

/-- A run whose answer holds a file: it succeeds just when there is something in the file and the
disk takes it. Then the file is at its destination, and otherwise no file changes. -/
structure Delivers (g : AiGenerator) (f : Path) (context : List (String × String)) (o : AiOptions)
    (s : State) (cls file : String) : Prop where
  succeeds_iff : (g.run f context o s).1 = .ok true ↔
    file ≠ "" ∧ Fits s.disk g.cwd (g.destination o cls) file
  delivered : (g.run f context o s).1 = .ok true →
    ∃ place, (g.run f context o s).2.disk.resolve g.cwd (g.destination o cls) =
      .ok (.entry place (.file file.toUTF8))
  kept : (g.run f context o s).1 ≠ .ok true →
    ∀ l c, (g.run f context o s).2.disk.entry? l = some (.file c) ↔
      s.disk.entry? l = some (.file c)

theorem Ready.delivers (h : Ready g f o s client text cls)
    (hmeaning : client.meaning (s.line.post (g.asks context o client text)).1 = .ok (some answer))
    (hcode : CodeFence.code answer = file) : Delivers g f context o s cls file := by
  have hasked : Asked g f context o s client text cls := h.asked
  have hbrings (code : String) :
      client.Brings (s.line.post (g.asks context o client text)).1 code ↔
        code = file ∧ file ≠ "" := by
    rw [Client.brings_iff]
    constructor
    · rintro ⟨answer', hanswer, rfl, hne⟩
      rw [hmeaning] at hanswer
      cases hanswer
      exact ⟨hcode, hcode ▸ hne⟩
    · rintro ⟨rfl, hne⟩
      exact ⟨answer, hmeaning, hcode.symm, hne⟩
  constructor
  case succeeds_iff =>
    rw [hasked.succeeds_iff]
    constructor
    · rintro ⟨code, hcode, hfits⟩
      obtain ⟨rfl, hne⟩ := (hbrings code).mp hcode
      exact ⟨hne, hfits⟩
    · rintro ⟨hne, hfits⟩
      exact ⟨file, (hbrings file).mpr ⟨rfl, hne⟩, hfits⟩
  case delivered =>
    intro htrue
    obtain ⟨-, code, place, hcode, hresolve⟩ := hasked.success htrue
    obtain ⟨rfl, -⟩ := (hbrings code).mp hcode
    exact ⟨place, hresolve⟩
  case kept =>
    intro hfalse
    exact (hasked.failure hfalse).2.2

/-- What a provider wraps around a file is taken off again, so the file reaches the disk as it is,
with a fence or without. -/
theorem fences_undone (file : String) (htrim : Text.trim file.toList = file.toList)
    (hfree : ¬ mark <:+: file.toList) :
    (∀ answer, Wraps file answer → CodeFence.code answer = file) ∧
      ∀ (g : AiGenerator) (f : Path) (context : List (String × String)) (o : AiOptions) (s : State)
        (client : Client) (text cls answer : String), Ready g f o s client text cls →
        client.meaning (s.line.post (g.asks context o client text)).1 = .ok (some answer) →
        Wraps file answer → Delivers g f context o s cls file := by
  constructor
  · intro answer hwraps
    exact CodeFence.code_of_wraps htrim hfree hwraps
  · intro g f context o s client text cls answer hready hmeaning hwraps
    exact hready.delivers hmeaning (CodeFence.code_of_wraps htrim hfree hwraps)

/-- A file with backticks at both ends. -/
def ticked : String := "``<?php`"

theorem trim_ticked : Text.trim ticked.toList = ticked.toList := by
  apply Text.trim_eq_self
  · rintro c ⟨rfl⟩
    decide
  · rintro c ⟨rfl⟩
    decide

theorem ticked_unfenced : ¬ mark <:+: ticked.toList := by
  simp [mark, ticked, List.infix_cons_iff]

/-- An answer with a fence right in front of the file. -/
def tickedAnswer : String := "```php``<?php`\n```"

theorem wraps_ticked : Wraps ticked tickedAnswer := by
  have hempty : CodeFence.Blank "" := List.all_eq_true.mp rfl
  have hfeed : CodeFence.Blank "\n" := List.all_eq_true.mp rfl
  exact .fenced hempty hempty hfeed (by decide) hempty

def tickedBody : String :=
  "\x7b\"choices\": [\x7b\"message\": \x7b\"content\": \"```php``<?php`\\n```\"\x7d\x7d]\x7d"

def answersTicked : State := { fencedAnswer with line := { replies := [.answer 200 tickedBody] } }

theorem content_and_run_ticked :
    (Answer.content .openAi tickedBody).toOption = some (some tickedAnswer) ∧
      (withKey.run ⟨"Foo.php"⟩ [] {} answersTicked).1.toOption = some true := by
  decide +kernel

theorem meaning_tickedBody {client : Client}
    (hsettled : Client.ofSettings withKey.settings.ai = .ok client) (r : Request) :
    client.meaning (answersTicked.line.post r).1 = .ok (some tickedAnswer) := by
  have hprovider : Provider.openAi = client.provider :=
    Except.ok.inj (Client.provider_of_ofSettings hsettled)
  have hreply : (answersTicked.line.post r).1 = .answer 200 tickedBody := rfl
  rw [hreply, Client.meaning_ok_some_iff]
  refine ⟨200, tickedBody, rfl, by decide, by decide, ?_⟩
  have hcontent := content_and_run_ticked.1
  rw [← hprovider]
  generalize Answer.content .openAi tickedBody = content at hcontent ⊢
  cases content with
  | error e => cases hcontent
  | ok text => exact congrArg Except.ok (Option.some.inj hcontent)

theorem exists_ready_answersTicked :
    ∃ client text cls, Ready withKey ⟨"Foo.php"⟩ {} answersTicked client text cls := by
  rcases barred_or_ready withKey ⟨"Foo.php"⟩ {} answersTicked with hbarred | hready
  · have hwritten := content_and_run_ticked.2
    rcases (run_of_barred [] hbarred).2 with hfalse | ⟨e, herror⟩
    · rw [hfalse] at hwritten
      cases hwritten
    · rw [herror] at hwritten
      cases hwritten
  · exact hready

theorem fences_undone_ticked :
    Text.trim ticked.toList = ticked.toList ∧ ¬ mark <:+: ticked.toList ∧
      CodeFence.code tickedAnswer = ticked ∧
      ∃ client text cls, Ready withKey ⟨"Foo.php"⟩ {} answersTicked client text cls ∧
        Delivers withKey ⟨"Foo.php"⟩ [] {} answersTicked cls ticked := by
  obtain ⟨hcode, hdelivers⟩ := fences_undone ticked trim_ticked ticked_unfenced
  obtain ⟨client, text, cls, hready⟩ := exists_ready_answersTicked
  refine ⟨trim_ticked, ticked_unfenced, hcode tickedAnswer wraps_ticked, client, text, cls, hready,
    ?_⟩
  apply hdelivers withKey ⟨"Foo.php"⟩ [] {} answersTicked client text cls tickedAnswer hready
  · exact meaning_tickedBody hready.settled _
  · exact wraps_ticked

end SuiteForge.AiGenerator
