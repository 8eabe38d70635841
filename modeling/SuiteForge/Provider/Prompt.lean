/-!
What a provider is asked.
-/

namespace SuiteForge.Prompt

def instructions : String :=
  "Generate comprehensive PHPUnit tests for the following PHP class. " ++
  "The tests should cover all public methods, edge cases, and follow Laravel testing best " ++
  "practices. Use Pest PHP syntax and include proper setup, teardown, and assertions."

def outputRule : String :=
  "Generate only the test code, no explanations or markdown formatting."

/-- Asked to find out whether a provider answers. -/
def probe : String := "Generate a simple PHP test for a basic class."

/-- Asks for tests of a source, with requirements of the user's own. -/
def ofSource (source : String) (custom : Option String) : String :=
  let requirements := match custom.filter (· ≠ "") with
    | some c => "Additional requirements: " ++ c ++ "\n\n"
    | none => ""
  instructions ++ "\n\n" ++ requirements ++ "Class to test:\n```php\n" ++ source ++ "\n```\n\n" ++
    outputRule

/-- Asks for tests of a source and lists context, if there is any. -/
def withContext (source : String) (context : List (String × String)) (custom : Option String) :
    String :=
  if context = [] then ofSource source custom
  else ofSource source custom ++ "\n\nAdditional context:\n" ++
    String.join (context.map fun (key, value) => "- " ++ key ++ ": " ++ value ++ "\n")

end SuiteForge.Prompt
