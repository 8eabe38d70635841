import SuiteForge.Naming
import SuiteForge.Php.Introspection

/-!
The test methods that a class gets, by its kind.

A test case is a name and the lines of its body. Plain classes and services are instantiated and
every method gets a place for a test; controllers get a request per method; models are created,
updated and deleted, and their relationships and accessors are tried.
-/

namespace SuiteForge

open Php (Source Kind)

structure TestCase where
  name : String
  body : List String
  deriving DecidableEq

namespace TestCase

/-- A line of a body, indented; an empty one stays empty. -/
def renderLine (line : String) : String :=
  if line = "" then "\n" else "        " ++ line ++ "\n"

def render (t : TestCase) : String :=
  "    /** @test */\n    public function " ++ t.name ++ "()\n    \x7b\n" ++
    String.join (t.body.map renderLine) ++ "    \x7d"

end TestCase

namespace Synthesis

/-! ### Plain classes and services -/

def instantiation (cls : String) : TestCase where
  name := "it_can_be_instantiated"
  body := ["$instance = new " ++ cls ++ "();", "$this->assertNotNull($instance);"]

def call (cls method : String) : TestCase where
  name := "it_can_call_" ++ Naming.snakeCase method
  body := ["$instance = new " ++ cls ++ "();",
    "// Add test logic for " ++ method ++ " method",
    "$this->assertTrue(true);"]

/-! ### Controllers -/

def request (method : String) : TestCase where
  name := "it_can_" ++ Naming.snakeCase method
  body := ["$response = $this->getJson('/" ++ Naming.kebabCase method ++ "');", "",
    "$response->assertStatus(200);"]

/-! ### Models -/

def create (cls : String) : TestCase where
  name := "it_can_create_a_model"
  body := ["$model = " ++ cls ++ "::factory()->create();", "$this->assertNotNull($model);"]

def update (cls : String) : TestCase where
  name := "it_can_update_a_model"
  body := ["$model = " ++ cls ++ "::factory()->create();",
    "$originalValue = $model->name;",
    "$model->name = 'Updated Name';",
    "$model->save();", "",
    "$this->assertNotEquals($originalValue, $model->fresh()->name);"]

def delete (cls : String) : TestCase where
  name := "it_can_delete_a_model"
  body := ["$model = " ++ cls ++ "::factory()->create();",
    "$modelId = $model->id;", "",
    "$model->delete();", "",
    "$this->assertNull(" ++ cls ++ "::find($modelId));"]

def isRelationship (method : String) : Bool :=
  (Text.after? "has".toList method.toList).isSome ||
    (Text.after? "belongsTo".toList method.toList).isSome

def isAccessor (method : String) : Bool :=
  (Text.after? "get".toList method.toList).isSome &&
    (Text.after? "Attribute".toList.reverse method.toList.reverse).isSome

def relationship (cls method : String) : TestCase where
  name := "it_" ++ Naming.snakeCase method
  body := ["$model = " ++ cls ++ "::factory()->create();",
    "$related = " ++ Naming.relatedModel method ++
      "::factory()->create(['user_id' => $model->id]);", "",
    "$this->assertTrue($model->" ++ method ++ "->contains($related));"]

def accessor (cls method : String) : TestCase where
  name := "it_can_get_" ++ Naming.accessorAttribute method ++ "_attribute"
  body := ["$model = " ++ cls ++ "::factory()->create([",
    "    'first_name' => 'John',",
    "    'last_name' => 'Doe'",
    "]);", "",
    "$this->assertEquals('John Doe', $model->" ++ Naming.accessorAttribute method ++ ");"]

/-! ### By kind -/

def testCases (kind : Kind) (cls : String) (source : Source) : List TestCase :=
  match kind with
  | .plain => instantiation cls :: source.testable.map (call cls)
  | .service => instantiation cls :: source.testable.map (call cls)
  | .controller => source.testable.map request
  | .model =>
    [create cls, update cls, delete cls] ++
      (source.methods.filter isRelationship).map (relationship cls) ++
      (source.methods.filter isAccessor).map (accessor cls)

/-- The text of all test methods for a class, with an empty line between them. -/
def methodsText (kind : Kind) (cls : String) (source : Source) : String :=
  "\n\n".intercalate ((testCases kind cls source).map TestCase.render)

end Synthesis

end SuiteForge
