import Mathlib.Logic.Relation
import SuiteForge.Proofs.Association
import SuiteForge.Proofs.Json.Reading
import SuiteForge.Proofs.Provider.Asking

/-!
# Answers that grow

What a reply means hangs on the first text that it offers, and on nothing else in a readable answer.
A provider may add members with names of their own to any record of its answers, and offer more
texts behind the first: none of this is noticed.
-/

namespace SuiteForge

namespace Json

variable {α : Type}

/-- The value of a record under a name; a record in an array has one value, its first. -/
def field? (name : String) : Json → Option Json
  | .array vs => vs.head?
  | v => v.member? name

def first? : Json → Option Json
  | .array vs => vs.head?
  | _ => none

/-! ### Growth -/

/-- An object has one more member, under another name than the one that is read. -/
inductive Gains (name : String) : Json → Json → Prop
  | member {front back : List (Option String × Json)} {other : String} (hother : other ≠ name)
      (v : Json) : Gains name (.object (front ++ back)) (.object (front ++ (some other, v) :: back))

/-- An array has one more element that can be read, behind its first. -/
inductive Lengthens (element : Json → Option α) : Json → Json → Prop
  | element {first v : Json} {front back : List Json} (hv : (element v).isSome = true) :
      Lengthens element (.array (first :: (front ++ back))) (.array (first :: (front ++ v :: back)))

/-- The value of a member has changed as the relation says. -/
inductive InField (name : String) (R : Json → Json → Prop) : Json → Json → Prop
  | field {front back : List (Option String × Json)} {v v' : Json} (h : R v v') :
      InField name R (.object (front ++ (some name, v) :: back))
        (.object (front ++ (some name, v') :: back))

inductive InElement (R : Json → Json → Prop) : Json → Json → Prop
  | element {front back : List Json} {v v' : Json} (h : R v v') :
      InElement R (.array (front ++ v :: back)) (.array (front ++ v' :: back))

end Json

namespace Answer

open Json (Gains Lengthens InField InElement)

/-- An answer grows by one piece: a member of the answer, of one of its choices or blocks or of a
message in it, or another choice or block. -/
inductive Grows : Provider → Json → Json → Prop
  | openAi {v v' : Json} (h : Gains "choices" v v') : Grows .openAi v v'
  | choice {v v' : Json} (h : InField "choices" (InElement (Gains "message")) v v') :
      Grows .openAi v v'
  | message {v v' : Json}
      (h : InField "choices" (InElement (InField "message" (Gains "content"))) v v') :
      Grows .openAi v v'
  | anotherChoice {v v' : Json}
      (h : InField "choices" (Lengthens (recordIn "message" (textRecord "content"))) v v') :
      Grows .openAi v v'
  | anthropic {v v' : Json} (h : Gains "content" v v') : Grows .anthropic v v'
  | block {v v' : Json} (h : InField "content" (InElement (Gains "text")) v v') :
      Grows .anthropic v v'
  | anotherBlock {v v' : Json} (h : InField "content" (Lengthens (textRecord "text")) v v') :
      Grows .anthropic v v'

/-! ### Reading what has grown -/

variable {α : Type} {name : String} {v v' : Json} {R : Json → Json → Prop} {p : Provider}

/-- What is read stays the same. -/
def Keeps (R : Json → Json → Prop) (read : Json → Option α) : Prop :=
  ∀ ⦃v v'⦄, R v v' → read v' = read v

/-- What is read stays a list with the same head. -/
def KeepsFirst (R : Json → Json → Prop) (read : Json → Option (List α)) : Prop :=
  ∀ ⦃v v' as⦄, R v v' → read v = some as → ∃ as', read v' = some as' ∧ as'.head? = as.head?

theorem Keeps.first {read : Json → Option (List α)} (h : Keeps R read) : KeepsFirst R read :=
  fun _ _ as hR has => ⟨as, (h hR).trans has, rfl⟩

theorem onlyField_gains : Keeps (Gains name) (onlyField name) := by
  rintro _ _ ⟨hother, w⟩
  rename_i front back other
  have hmatching : (front ++ (some other, w) :: back).filter (·.1 = some name) =
      (front ++ back).filter (·.1 = some name) := by
    simp [hother]
  have hnames : (front ++ (some other, w) :: back).any (·.1.isNone) =
      (front ++ back).any (·.1.isNone) := by
    simp
  rw [onlyField, onlyField, hmatching, hnames]

theorem textRecord_gains : Keeps (Gains name) (textRecord name) := by
  intro v v' h
  have hfield := onlyField_gains h
  cases h
  unfold textRecord
  rw [hfield]
  cases onlyField name (.object _) with
  | none => rfl
  | some text =>
    cases text with
    | none => rfl
    | some text => rfl

theorem recordIn_gains (inner : Json → Option α) : Keeps (Gains name) (recordIn name inner) := by
  intro v v' h
  rw [recordIn, recordIn, onlyField_gains h]

theorem listRecord_gains (element : Json → Option α) :
    Keeps (Gains name) (listRecord name element) := by
  intro v v' h
  rw [listRecord, listRecord, onlyField_gains h]

/-- A field that is read is the one that has changed. -/
theorem onlyField_inField (h : InField name R v v') :
    onlyField name v = none ∧ onlyField name v' = none ∨
      ∃ w w', R w w' ∧ onlyField name v = some (some w) ∧ onlyField name v' = some (some w') := by
  cases h with
  | @field front back w w' h =>
    have hmatching (x : Json) : (front ++ (some name, x) :: back).filter (·.1 = some name) =
        front.filter (·.1 = some name) ++ (some name, x) :: back.filter (·.1 = some name) := by
      simp
    have hnames (x : Json) : (front ++ (some name, x) :: back).any (·.1.isNone) =
        (front ++ back).any (·.1.isNone) := by
      simp
    simp only [onlyField, hmatching, hnames]
    split
    · exact Or.inl ⟨rfl, rfl⟩
    · -- any other member of the name would be a second one
      cases front.filter (·.1 = some name) with
      | nil =>
        cases back.filter (·.1 = some name) with
        | nil => exact Or.inr ⟨w, w', h, rfl, rfl⟩
        | cons m ms => exact Or.inl ⟨rfl, rfl⟩
      | cons m ms =>
        cases ms with
        | nil => exact Or.inl ⟨rfl, rfl⟩
        | cons n ms => exact Or.inl ⟨rfl, rfl⟩

theorem recordIn_inField {inner : Json → Option α} (hinner : Keeps R inner) :
    Keeps (InField name R) (recordIn name inner) := by
  intro v v' h
  rw [recordIn, recordIn]
  rcases onlyField_inField h with ⟨hv, hv'⟩ | ⟨w, w', hw, hv, hv'⟩
  · rw [hv, hv']
  · rw [hv, hv']
    exact hinner hw

theorem listRecord_inField {element : Json → Option α} (helement : KeepsFirst R (Json.list? element)) :
    KeepsFirst (InField name R) (listRecord name element) := by
  intro v v' as h has
  rw [listRecord] at has ⊢
  rcases onlyField_inField h with ⟨hv, hv'⟩ | ⟨w, w', hw, hv, hv'⟩
  · rw [hv] at has
    cases has
  · rw [hv] at has
    rw [hv']
    exact helement hw has

theorem list?_inElement {element : Json → Option α} (helement : Keeps R element) :
    Keeps (InElement R) (Json.list? element) := by
  rintro _ _ ⟨h⟩
  simp only [Json.list?, List.mapM_append, List.mapM_cons, helement h]

theorem list?_lengthens (element : Json → Option α) :
    KeepsFirst (Lengthens element) (Json.list? element) := by
  rintro _ _ as ⟨hv⟩ has
  rename_i first v front back
  obtain ⟨a, ha⟩ := Option.isSome_iff_exists.mp hv
  simp only [Json.list?, List.mapM_cons, List.mapM_append, Option.bind_eq_bind,
    Option.bind_eq_some_iff, Option.pure_def, Option.some.injEq] at has
  obtain ⟨b, hb, _, ⟨bs, hbs, cs, hcs, rfl⟩, rfl⟩ := has
  exact ⟨b :: (bs ++ a :: cs), by simp [Json.list?, hb, hbs, ha, hcs], rfl⟩

theorem keepsFirst_grows : KeepsFirst (Grows p) (offers p) := by
  rintro v v' as h has
  cases h with
  | openAi h => exact (listRecord_gains _).first h has
  | choice h => exact listRecord_inField (list?_inElement (recordIn_gains _)).first h has
  | message h =>
    exact listRecord_inField (list?_inElement (recordIn_inField textRecord_gains)).first h has
  | anotherChoice h => exact listRecord_inField (list?_lengthens _) h has
  | anthropic h => exact (listRecord_gains _).first h has
  | block h => exact listRecord_inField (list?_inElement textRecord_gains).first h has
  | anotherBlock h => exact listRecord_inField (list?_lengthens _) h has

theorem keepsFirst_grown : KeepsFirst (Relation.ReflTransGen (Grows p)) (offers p) := by
  intro v v' as h has
  induction h with
  | refl => exact ⟨as, has, rfl⟩
  | tail _ hstep ih =>
    obtain ⟨bs, hbs, hhead⟩ := ih
    obtain ⟨cs, hcs, hhead'⟩ := keepsFirst_grows hstep hbs
    exact ⟨cs, hcs, hhead'.trans hhead⟩

/-! ### The first text -/

/-- The text of the first choice or block of an answer, if it has one. -/
def firstText (p : Provider) (v : Json) : Option String :=
  match p with
  | .openAi => do
    let choice ← (v.field? "choices").bind Json.first?
    let message ← choice.field? "message"
    (message.field? "content").bind Json.text?
  | .anthropic => do
    let block ← (v.field? "content").bind Json.first?
    (block.field? "text").bind Json.text?

theorem field?_of_onlyField {w : Option Json} (h : onlyField name v = some w) :
    v.field? name = w := by
  unfold onlyField at h
  split at h
  · rename_i ms
    rw [Json.field?, Json.member?, lookup_eq_head?]
    split at h
    · cases h
    · split at h
      · rename_i hnone
        cases h
        rw [hnone]
        rfl
      · rename_i hone
        cases h
        rw [hone]
        rfl
      · cases h
    · rintro vs ⟨⟩
  · cases h
    rfl
  · cases h
    rfl
  · cases h

theorem text?_of_nullableText {t : Option String} (h : nullableText v = some t) :
    v.text? = t := by
  unfold nullableText at h
  split at h
  · cases h
    rfl
  · cases h
    rfl
  · cases h

theorem text_of_textRecord {t : Option String} (h : textRecord name v = some t) :
    (v.field? name).bind Json.text? = t := by
  unfold textRecord at h
  split at h
  · rename_i w hfield
    rw [field?_of_onlyField hfield]
    exact text?_of_nullableText h
  · rename_i hfield
    cases h
    rw [field?_of_onlyField hfield]
    rfl
  · cases h

theorem field?_of_recordIn {inner : Json → Option α} {a : α} (h : recordIn name inner v = some a) :
    ∃ w, v.field? name = some w ∧ inner w = some a := by
  unfold recordIn at h
  split at h
  · rename_i w hfield
    exact ⟨w, field?_of_onlyField hfield, h⟩
  · cases h

/-- The head of a list that is read is what the first of the values stands for. -/
theorem first_of_listRecord {element : Json → Option α} {as : List α}
    (h : listRecord name element v = some as) :
    (v.field? name).bind Json.first? = none ∧ as.head? = none ∨
      ∃ x a, (v.field? name).bind Json.first? = some x ∧ element x = some a ∧ as.head? = some a := by
  unfold listRecord at h
  split at h
  · rename_i w hfield
    rw [field?_of_onlyField hfield]
    unfold Json.list? at h
    split at h
    · rename_i vs
      cases vs with
      | nil =>
        cases h
        exact Or.inl ⟨rfl, rfl⟩
      | cons x vs =>
        simp only [List.mapM_cons, Option.bind_eq_bind, Option.bind_eq_some_iff, Option.pure_def,
          Option.some.injEq] at h
        obtain ⟨a, ha, rest, -, rfl⟩ := h
        exact Or.inr ⟨x, a, rfl, ha, rfl⟩
    · cases h
  · rename_i hfield
    cases h
    rw [field?_of_onlyField hfield]
    exact Or.inl ⟨rfl, rfl⟩
  · cases h

theorem firstText_of_offers {texts : List (Option String)} (h : offers p v = some texts) :
    texts.head?.join = firstText p v := by
  cases p with
  | openAi =>
    rcases first_of_listRecord h with ⟨hfirst, hhead⟩ | ⟨choice, t, hfirst, hchoice, hhead⟩
    · simp [firstText, hfirst, hhead]
    · obtain ⟨message, hmessage, htext⟩ := field?_of_recordIn hchoice
      simp [firstText, hfirst, hhead, hmessage, text_of_textRecord htext]
  | anthropic =>
    rcases first_of_listRecord h with ⟨hfirst, hhead⟩ | ⟨block, t, hfirst, hblock, hhead⟩
    · simp [firstText, hfirst, hhead]
    · simp [firstText, hfirst, hhead, text_of_textRecord hblock]

theorem content_of_offers {body : String} {texts : List (Option String)}
    (hbody : Json.parse? body.toList = some v) (h : offers p v = some texts) :
    content p body = .ok (firstText p v) := by
  rw [content, hbody, Option.bind_some, h, ← firstText_of_offers h]

/-- An answer that has grown offers the same text first. -/
theorem firstText_of_grown {texts : List (Option String)}
    (h : Relation.ReflTransGen (Grows p) v v') (hv : offers p v = some texts) :
    ∃ texts', offers p v' = some texts' ∧ firstText p v' = firstText p v := by
  obtain ⟨texts', hv', hhead⟩ := keepsFirst_grown h hv
  exact ⟨texts', hv', by rw [← firstText_of_offers hv, ← firstText_of_offers hv', hhead]⟩

/-- The text is that of an answer that can be read. -/
def Decodes (p : Provider) (body : String) : Prop :=
  ∃ v texts, Json.parse? body.toList = some v ∧ offers p v = some texts

theorem content_of_not_decodes {body : String} (h : ¬ Decodes p body) :
    content p body = .error .unreadableAnswer := by
  unfold content
  cases hread : (Json.parse? body.toList).bind (offers p) with
  | none => rfl
  | some texts =>
    obtain ⟨v, hbody, htexts⟩ := Option.bind_eq_some_iff.mp hread
    exact absurd ⟨v, texts, hbody, htexts⟩ h

end Answer

/-! ### What a reply means -/

namespace Client

open Answer (Decodes Grows firstText offers)

variable {c : Client} {reply : Reply} {name body : String} {status : Nat}

theorem meaning_connection_iff {reason : String} :
    c.meaning reply = .error (.connection name reason) ↔
      name = c.provider.name ∧ reply = .lost reason := by
  cases reply with
  | lost other => simp [meaning, eq_comm]
  | answer status body =>
    unfold meaning
    dsimp only
    split
    · split <;> simp
    · simp

theorem meaning_failed_iff :
    c.meaning reply = .error (.providerCallFailed name status body) ↔
      name = c.provider.name ∧ reply = .answer status body ∧ ¬ (200 ≤ status ∧ status < 300) := by
  cases reply with
  | lost other => simp [meaning]
  | answer other text =>
    unfold meaning
    dsimp only
    split
    · rename_i hsuccess
      have hnot : ¬ (name = c.provider.name ∧ Reply.answer other text = .answer status body ∧
          ¬ (200 ≤ status ∧ status < 300)) := by
        rintro ⟨-, ⟨rfl⟩, hfailure⟩
        exact hfailure hsuccess
      split <;> exact iff_of_false (by simp) hnot
    · rename_i hfailure
      constructor
      · rintro ⟨rfl⟩
        exact ⟨rfl, rfl, hfailure⟩
      · rintro ⟨rfl, ⟨rfl⟩, -⟩
        rfl

theorem meaning_of_not_decodes (hlow : 200 ≤ status) (hhigh : status < 300)
    (h : ¬ Decodes c.provider body) : c.meaning (.answer status body) = .ok none := by
  simp only [meaning, if_pos (And.intro hlow hhigh), Answer.content_of_not_decodes h]

theorem meaning_of_offers {v : Json} {texts : List (Option String)} (hlow : 200 ≤ status)
    (hhigh : status < 300) (hbody : Json.parse? body.toList = some v)
    (h : offers c.provider v = some texts) :
    c.meaning (.answer status body) = .ok (firstText c.provider v) := by
  simp only [meaning, if_pos (And.intro hlow hhigh), Answer.content_of_offers hbody h]

theorem complete_eq (c : Client) (prompt : String) (o : CompletionOptions) (line : Line) :
    (c.complete prompt o line).1 = c.meaning (line.post (c.request prompt o)).1 := rfl

/-- No reply, a reply that is no success, one that cannot be read and one that can are told apart;
the last gives the first text that it offers, however the provider lets its answers grow. -/
theorem complete_forward_compatible (c : Client) (prompt : String) (o : CompletionOptions)
    (line : Line) (hreply : (line.post (c.request prompt o)).1 = reply) :
    (∀ name reason, (c.complete prompt o line).1 = .error (.connection name reason) ↔
      name = c.provider.name ∧ reply = .lost reason) ∧
    (∀ name status body,
      (c.complete prompt o line).1 = .error (.providerCallFailed name status body) ↔
        name = c.provider.name ∧ reply = .answer status body ∧
          ¬ (200 ≤ status ∧ status < 300)) ∧
    ∀ status body, reply = .answer status body → 200 ≤ status → status < 300 →
      (¬ Decodes c.provider body → (c.complete prompt o line).1 = .ok none) ∧
      ∀ v texts, Json.parse? body.toList = some v → offers c.provider v = some texts →
        (c.complete prompt o line).1 = .ok (firstText c.provider v) ∧
        ∀ v' body', Relation.ReflTransGen (Grows c.provider) v v' →
          Json.parse? body'.toList = some v' →
          ∀ line', (line'.post (c.request prompt o)).1 = .answer status body' →
            (c.complete prompt o line').1 = (c.complete prompt o line).1 := by
  simp only [complete_eq, hreply]
  refine ⟨fun _ _ => meaning_connection_iff, fun _ _ _ => meaning_failed_iff, ?_⟩
  rintro status body rfl hlow hhigh
  refine ⟨meaning_of_not_decodes hlow hhigh, fun v texts hbody htexts => ?_⟩
  have hmeaning := meaning_of_offers hlow hhigh hbody htexts
  refine ⟨hmeaning, fun v' body' hgrown hbody' line' hreply' => ?_⟩
  obtain ⟨texts', htexts', hfirst⟩ := Answer.firstText_of_grown hgrown htexts
  rw [hreply', meaning_of_offers hlow hhigh hbody' htexts', hfirst, hmeaning]

/-- An answer with one text. -/
def briefAnswer : Json := .record [
  ("choices", .array [.record [("message", .record [("content", .text "hi")])]])]

/-- The same with members that are not read, and with a second choice that has no text. -/
def longAnswer : Json := .record [
  ("id", .array [.null, .ofNat 7]),
  ("choices", .array [
    .record [("message", .record [("role", .text "assistant"), ("content", .text "hi")])],
    .record [("message", .record [("content", .null)])]])]

theorem grown_longAnswer : Relation.ReflTransGen (Grows .openAi) briefAnswer longAnswer := by
  have hid := @Json.Gains.member "choices" [] [(some "choices", .array [.record [
    ("message", .record [("content", .text "hi")])]])] "id" (by decide) (.array [.null, .ofNat 7])
  have hrole := @Json.Gains.member "content" [] [(some "content", .text "hi")] "role" (by decide)
    (.text "assistant")
  have hmessage := @Json.InElement.element _ [] [] _ _
    (@Json.InField.field "message" _ [] [] _ _ hrole)
  have hanother := @Json.Lengthens.element _
    (Answer.recordIn "message" (Answer.textRecord "content"))
    (.record [("message", .record [("role", .text "assistant"), ("content", .text "hi")])])
    (.record [("message", .record [("content", .null)])]) [] [] rfl
  have hfield {R : Json → Json → Prop} {v v' : Json} (h : R v v') :=
    @Json.InField.field "choices" R [(some "id", .array [.null, .ofNat 7])] [] v v' h
  exact ((Relation.ReflTransGen.single (.openAi hid)).tail (.message (hfield hmessage))).tail
    (.anotherChoice (hfield hanother))

theorem complete_forward_compatible_longAnswer :
    let c : Client := ⟨.openAi, "model", "key", "https://api.openai.com/v1/chat/completions"⟩
    let said (v : Json) : Line := { replies := [.answer 200 (String.ofList (v.pretty 0))] }
    offers .openAi briefAnswer = some [some "hi"] ∧
      Relation.ReflTransGen (Grows .openAi) briefAnswer longAnswer ∧
      (c.complete "" {} (said longAnswer)).1 = (c.complete "" {} (said briefAnswer)).1 := by
  intro c said
  have hread {v : Json} (hv : Json.Spelled v) :
      Json.parse? (String.ofList (v.pretty 0)).toList = some v := by
    rw [String.toList_ofList, Json.parse?_pretty hv]
  have hbrief := hread (v := briefAnswer) (by simp [briefAnswer])
  have hlong := hread (v := longAnswer) (by simp [longAnswer])
  have hcomplete := complete_forward_compatible c "" {} (said briefAnswer) rfl
  obtain ⟨-, hsame⟩ := (hcomplete.2.2 200 _ rfl (by decide) (by decide)).2 _ _ hbrief rfl
  exact ⟨rfl, grown_longAnswer, hsame _ _ grown_longAnswer hlong _ rfl⟩

end Client

end SuiteForge
