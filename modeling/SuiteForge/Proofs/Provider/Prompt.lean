import SuiteForge.Provider.Prompt

/-!
# What a prompt says

A prompt for a source says what is wanted, then what the user requires besides, if anything, then
the source itself in a fence, and at its end the context line by line. The source is in it as it is,
whatever characters it has.
-/

namespace SuiteForge.Prompt

variable {phrase front back : String} {context : List (String × String)}
  {custom : Option String}

/-- The lines of a context, one for each entry and in the same order. -/
inductive Lists : List (String × String) → String → Prop where
  | nil : Lists [] ""
  | entry {key value : String} {context : List (String × String)} {s : String}
      (hrest : Lists context s) :
      Lists ((key, value) :: context) ("- " ++ key ++ ": " ++ value ++ "\n" ++ s)

/-- What stands before a source. Requirements that say nothing are left out. -/
inductive Opens : Option String → String → Prop where
  | plain {custom : Option String} (h : ∀ c ∈ custom, c = "") :
      Opens custom (instructions ++ "\n\n")
  | required {c : String} (h : c ≠ "") :
      Opens (some c) (instructions ++ "\n\n" ++ ("Additional requirements: " ++ c ++ "\n\n"))

/-- What stands behind a source. Without context nothing is said of it. -/
inductive Closes : List (String × String) → String → Prop where
  | plain : Closes [] outputRule
  | listed {entry : String × String} {context : List (String × String)} {s : String}
      (h : Lists (entry :: context) s) :
      Closes (entry :: context) (outputRule ++ "\n\nAdditional context:\n" ++ s)

def Tells (text phrase : String) : Prop := ∃ before behind, text = before ++ phrase ++ behind

/-- A prompt asks for tests of a source, with requirements and context. -/
structure Embeds (source : String) (context : List (String × String)) (custom : Option String)
    (prompt : String) : Prop where
  asks : ∀ phrase ∈ ["Generate comprehensive PHPUnit tests",
    "cover all public methods, edge cases", "Generate only the test code"], Tells prompt phrase
  /-- The source is in a fence, behind the requirements and before the context. -/
  parts : ∃ front back, Opens custom front ∧ Closes context back ∧
    prompt = front ++ "Class to test:\n```php\n" ++ source ++ "\n```\n\n" ++ back

/-! ### Phrases -/

theorem Tells.before (h : Tells front phrase) (back : String) : Tells (front ++ back) phrase := by
  obtain ⟨before, behind, rfl⟩ := h
  exact ⟨before, behind ++ back, by rw [String.append_assoc]⟩

theorem Tells.behind (h : Tells back phrase) (front : String) : Tells (front ++ back) phrase := by
  obtain ⟨before, behind, rfl⟩ := h
  exact ⟨front ++ before, behind, by simp only [String.append_assoc]⟩

theorem Opens.tells (h : Opens custom front) (hphrase : Tells instructions phrase) :
    Tells front phrase := by
  cases h with
  | plain h => exact hphrase.before _
  | required h => exact (hphrase.before _).before _

theorem Closes.tells (h : Closes context back) (hphrase : Tells outputRule phrase) :
    Tells back phrase := by
  cases h with
  | plain => exact hphrase
  | listed h => exact (hphrase.before _).before _

theorem tells_tests : Tells instructions "Generate comprehensive PHPUnit tests" :=
  ⟨"", " for the following PHP class. The tests should cover all public methods, edge cases, and " ++
    "follow Laravel testing best practices. Use Pest PHP syntax and include proper setup, " ++
    "teardown, and assertions.", by decide +kernel⟩

theorem tells_methods : Tells instructions "cover all public methods, edge cases" :=
  ⟨"Generate comprehensive PHPUnit tests for the following PHP class. The tests should ",
    ", and follow Laravel testing best practices. Use Pest PHP syntax and include proper setup, " ++
    "teardown, and assertions.", by decide +kernel⟩

theorem tells_code : Tells outputRule "Generate only the test code" :=
  ⟨"", ", no explanations or markdown formatting.", by decide +kernel⟩

/-! ### Prompts -/

theorem lists_join (context : List (String × String)) :
    Lists context
      (String.join (context.map fun (key, value) => "- " ++ key ++ ": " ++ value ++ "\n")) := by
  induction context with
  | nil => exact .nil
  | cons entry context ih =>
    obtain ⟨key, value⟩ := entry
    rw [List.map_cons, String.join_cons]
    exact .entry ih

/-- A prompt without context ends with the rule for what is given back. -/
theorem exists_opens_ofSource (source : String) (custom : Option String) :
    ∃ front, Opens custom front ∧ ofSource source custom =
      front ++ "Class to test:\n```php\n" ++ source ++ "\n```\n\n" ++ outputRule := by
  by_cases hnothing : ∀ c ∈ custom, c = ""
  · have hfilter : custom.filter (· ≠ "") = none := by
      simpa [Option.filter_eq_none_iff] using hnothing
    refine ⟨_, .plain hnothing, ?_⟩
    rw [ofSource, hfilter, String.append_empty]
  · obtain ⟨c, rfl, hc⟩ : ∃ c, custom = some c ∧ c ≠ "" := by
      simpa using hnothing
    have hfilter : (some c).filter (· ≠ "") = some c := by simp [Option.filter, hc]
    exact ⟨_, .required hc, by rw [ofSource, hfilter]⟩

/-- The prompt for a source says all that it is made from. -/
theorem embeds_withContext (source : String) (context : List (String × String))
    (custom : Option String) : Embeds source context custom (withContext source context custom) := by
  obtain ⟨front, hfront, hsource⟩ := exists_opens_ofSource source custom
  have hparts : ∃ front back, Opens custom front ∧ Closes context back ∧
      withContext source context custom =
        front ++ "Class to test:\n```php\n" ++ source ++ "\n```\n\n" ++ back := by
    cases context with
    | nil =>
      refine ⟨front, _, hfront, .plain, ?_⟩
      rw [withContext, if_pos rfl, hsource]
    | cons entry context =>
      refine ⟨front, _, hfront, .listed (lists_join (entry :: context)), ?_⟩
      rw [withContext, if_neg (List.cons_ne_nil _ _), hsource]
      simp only [String.append_assoc]
  refine ⟨?_, hparts⟩
  obtain ⟨front, back, hopens, hcloses, htext⟩ := hparts
  have hinstructions {phrase : String} (h : Tells instructions phrase) :
      Tells (withContext source context custom) phrase := by
    rw [htext]
    exact ((((hopens.tells h).before _).before _).before _).before _
  have hrule {phrase : String} (h : Tells outputRule phrase) :
      Tells (withContext source context custom) phrase := by
    rw [htext]
    exact (hcloses.tells h).behind _
  simp only [List.forall_mem_cons, List.not_mem_nil, false_imp_iff, forall_const, and_true]
  exact ⟨hinstructions tells_tests, hinstructions tells_methods, hrule tells_code⟩

end SuiteForge.Prompt
