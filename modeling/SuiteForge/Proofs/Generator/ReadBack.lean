import SuiteForge.Generator
import SuiteForge.Proofs.Synthesis
import SuiteForge.Proofs.Template

/-!
# Test files that read back

A test file from a built-in template is itself a source: its class is named after the class under
test, its namespace is that of its suite, and its public methods are the test cases.
-/

namespace SuiteForge

open Php Text

variable {α : Type} {r : Recogniser α} {w : List Char} {kind : Kind} {cls : String}
  {source : Source} {values : Placeholders}

/-! ### Parts of a test file -/

/-- What test files of models and controllers import and use, to refresh the database. -/
def refreshImport : Kind → String
  | .model | .controller => Template.refreshImport
  | _ => ""

def refreshUse : Kind → String
  | .model | .controller => Template.refreshUse
  | _ => ""

theorem builtIn_ofKind (kind : Kind) :
    Template.builtIn (.ofKind kind) =
      Template.opening ++ refreshImport kind ++ Template.classImport (namespaceKey kind) ++
        Template.classOpening ++ refreshUse kind ++ Template.closing := by
  cases kind <;>
    simp [Template.builtIn, Template.Name.ofKind, refreshImport, refreshUse, namespaceKey]

def preamble (kind : Kind) (cls : String) (source : Source) : List Char :=
  "<?php\n\nnamespace ".toList ++ ((Suite.ofKind kind).namespaceName.toList ++
    (";\n\nuse Tests\\TestCase;\n".toList ++ ((refreshImport kind).toList ++
      ("use ".toList ++ (source.inNamespace.toList ++ ("\\".toList ++
        (cls.toList ++ ";\n\n".toList)))))))

/-- The class of a test file behind its name, up to its methods. -/
def classRest (kind : Kind) : List Char :=
  " extends TestCase\n\x7b\n".toList ++ (refreshUse kind).toList

theorem get?_placeholders (kind : Kind) (cls : String) (source : Source) :
    (Generator.placeholders kind cls source).get? "CLASS" = some cls ∧
    (Generator.placeholders kind cls source).get? "TEST_CLASS" = some (cls ++ "Test") ∧
    (Generator.placeholders kind cls source).get? "NAMESPACE" =
      some (Suite.ofKind kind).namespaceName ∧
    (Generator.placeholders kind cls source).get? (namespaceKey kind) = some source.inNamespace ∧
    (Generator.placeholders kind cls source).get? "METHODS" =
      some (Synthesis.methodsText kind cls source) := by
  cases kind <;> simp [Generator.placeholders, Placeholders.get?, namespaceKey, List.lookup_cons]

/-- A test file from a built-in template. -/
theorem content_toList {g : Generator}
    (htemplate : g.templates.text (.ofKind kind) = Template.builtIn (.ofKind kind)) :
    (g.content kind cls source).toList = preamble kind cls source ++ ("class ".toList ++
      ((cls ++ "Test").toList ++ (classRest kind ++
        ((Synthesis.methodsText kind cls source).toList ++ "\n\x7d\n".toList)))) := by
  obtain ⟨hcls, htest, hsuite, hns, hmethods⟩ := get?_placeholders kind cls source
  have hkey : (namespaceKey kind).toList.all (!Template.isBrace ·) = true := by
    cases kind <;> decide
  have himport : clear ['\x7b', '\x7b'] (refreshImport kind).toList = true := by
    cases kind <;> decide
  have huse : clear ['\x7b', '\x7b'] (refreshUse kind).toList = true := by
    cases kind <;> decide
  rw [Generator.content, htemplate, Template.fill, String.toList_ofList, builtIn_ofKind]
  simp only [String.toList_append, List.append_assoc]
  rw [Template.fill_opening hsuite, Template.fill_literal himport,
    Template.fill_classImport hkey hns hcls, Template.fill_classOpening htest,
    Template.fill_literal huse, Template.fill_closing hmethods]
  unfold preamble classRest
  simp only [String.toList_append]
  simp only [List.append_assoc]

/-! ### Scanning a test file -/

/-- No keyword begins in front of the class, whatever the class is called and wherever it is. -/
theorem inert_preamble (hkeyed : Keyed w r)
    (hopening : clear w "<?php\n\nnamespace ".toList = true)
    (hsuite : clear w (Suite.ofKind kind).namespaceName.toList = true)
    (htestCase : clear w ";\n\nuse Tests\\TestCase;\n".toList = true)
    (himport : clear w (refreshImport kind).toList = true) (huse : clear w "use ".toList = true)
    (hback : closes w "\\".toList = true) (hend : closes w ";\n\n".toList = true)
    (hcls : IsWord cls.toList)
    (hns : ∀ c ∈ source.inNamespace.toList, isWordChar c = true ∨ c = '\\') :
    Inert r (preamble kind cls source) := by
  have hinert {x : List Char} (hx : clear w x = true) : Inert r x :=
    inert_of_clear hkeyed.begins hx
  have hunblank : ∀ c ∈ source.inNamespace.toList, isBlank c = false := by
    intro c hc
    rcases hns c hc with hc | rfl
    · exact isBlank_of_isWordChar hc
    · decide
  have hnamespace : Inert r ("use ".toList ++ (source.inNamespace.toList ++ "\\".toList)) :=
    inert_around hkeyed huse hunblank hback
  have hclass : Inert r ([] ++ (cls.toList ++ ";\n\n".toList)) :=
    inert_around hkeyed rfl (fun c hc => isBlank_of_isWordChar (hcls.chars c hc)) hend
  have hparts := (hinert hopening).append ((hinert hsuite).append ((hinert htestCase).append
    ((hinert himport).append (hnamespace.append hclass))))
  unfold preamble
  simpa only [List.append_assoc, List.nil_append] using hparts

theorem isWord_testClass (hcls : IsWord cls.toList) : IsWord (cls ++ "Test").toList :=
  Synthesis.isWord_append hcls (List.all_eq_true.mp (by decide))

theorem classRest_eq (kind : Kind) : ∃ rest, classRest kind = ' ' :: rest := by
  refine ⟨(classRest kind).tail, ?_⟩
  cases kind <;> decide +kernel

theorem clear_classRest (kind : Kind) : clear "public".toList (classRest kind) = true := by
  cases kind <;> decide +kernel

theorem className?_content {g : Generator}
    (htemplate : g.templates.text (.ofKind kind) = Template.builtIn (.ofKind kind))
    (hcls : IsWord cls.toList)
    (hns : ∀ c ∈ source.inNamespace.toList, isWordChar c = true ∨ c = '\\') :
    className? (g.content kind cls source) = some (cls ++ "Test") := by
  have hpreamble : Inert classAt (preamble kind cls source) := by
    refine inert_preamble keyed_classAt (by decide) ?_ (by decide) ?_ (by decide) (by decide)
      (by decide) hcls hns <;> cases kind <;> decide
  obtain ⟨rest, hrest⟩ := classRest_eq kind
  have hsplit (s : List Char) : classRest kind ++ s = ' ' :: (rest ++ s) :=
    congrArg (· ++ s) hrest
  rw [className?, content_toList htemplate, hpreamble.firstMatch_append, hsplit,
    firstMatch_classAt (isWord_testClass hcls) (by decide)]
  exact congrArg some (String.ofList_toList)

theorem preamble_eq (kind : Kind) (cls : String) (source : Source) :
    ∃ rest, ∀ s, preamble kind cls source ++ s = "<?php\n\n".toList ++ ("namespace ".toList ++
      ((Suite.ofKind kind).namespaceName.toList ++ ';' :: (rest ++ s))) := by
  refine ⟨"\n\nuse Tests\\TestCase;\n".toList ++ ((refreshImport kind).toList ++
    ("use ".toList ++ (source.inNamespace.toList ++ ("\\".toList ++
      (cls.toList ++ ";\n\n".toList))))), fun s => ?_⟩
  unfold preamble
  rw [List.append_assoc, List.append_assoc]
  rfl

theorem namespaceOf_content {g : Generator}
    (htemplate : g.templates.text (.ofKind kind) = Template.builtIn (.ofKind kind)) :
    namespaceOf (g.content kind cls source) = (Suite.ofKind kind).namespaceName := by
  have hfront : Inert namespaceAt "<?php\n\n".toList :=
    inert_of_clear begins_namespaceAt (by decide)
  have hsuite : (Suite.ofKind kind).namespaceName.toList ≠ [] ∧
      ';' ∉ (Suite.ofKind kind).namespaceName.toList ∧
      trim (Suite.ofKind kind).namespaceName.toList = (Suite.ofKind kind).namespaceName.toList := by
    cases kind <;> decide
  obtain ⟨hne, hsemicolon, htrim⟩ := hsuite
  obtain ⟨rest, hrest⟩ := preamble_eq kind cls source
  rw [namespaceOf, content_toList htemplate, hrest, hfront.firstMatch_append,
    firstMatch_namespaceAt hne hsemicolon, htrim]
  exact String.ofList_toList

theorem publicMethods_content {g : Generator}
    (htemplate : g.templates.text (.ofKind kind) = Template.builtIn (.ofKind kind))
    (hcls : IsWord cls.toList) (hmethods : ∀ m ∈ source.methods, IsWord m.toList)
    (hns : ∀ c ∈ source.inNamespace.toList, isWordChar c = true ∨ c = '\\') :
    publicMethods (g.content kind cls source) = testNames kind source := by
  have hpreamble : Inert methodAt (preamble kind cls source) := by
    refine inert_preamble keyed_methodAt (by decide) ?_ (by decide) ?_ (by decide) (by decide)
      (by decide) hcls hns <;> cases kind <;> decide
  have hkeyword : Inert methodAt "class ".toList := Synthesis.inert_literal (by decide)
  have hname : Inert methodAt (cls ++ "Test").toList := by
    refine inert_of_unblank keyed_methodAt
      (fun c hc => isBlank_of_isWordChar ((isWord_testClass hcls).chars c hc)) fun c hc => ?_
    rw [String.toList_append, List.getLast?_append] at hc
    obtain rfl : 't' = c := by simpa using hc
    decide
  have hrest : Inert methodAt (classRest kind) :=
    inert_of_clear keyed_methodAt.begins (clear_classRest kind)
  have hend : Inert methodAt "\n\x7d\n".toList := Synthesis.inert_literal (by decide)
  have hnone : allMatches methodAt "\n\x7d\n".toList = [] := by
    have hpassed := hend.allMatches_append []
    rw [List.append_nil] at hpassed
    exact hpassed
  rw [publicMethods, content_toList htemplate, hpreamble.allMatches_append,
    hkeyword.allMatches_append, hname.allMatches_append, hrest.allMatches_append,
    Synthesis.methodsText, Synthesis.allMatches_intercalate _
      (fun t ht => Synthesis.readsBack_of_mem_testCases hcls hmethods ht), hnone,
    ← names_testCases kind cls source]
  simp

/-- A test file from a built-in template reads back as the class, the namespace and the test cases
that it was made of. -/
theorem content_reads_back (g : Generator) (kind : Kind) (path : Path) (text cls : String)
    (htemplate : g.templates.text (.ofKind kind) = Template.builtIn (.ofKind kind))
    (hclass : className? text = some cls)
    (hns : ∀ c ∈ (namespaceOf text).toList, isWordChar c = true ∨ c = '\\') :
    className? (g.content kind cls (.ofText path text)) = some (cls ++ "Test") ∧
      namespaceOf (g.content kind cls (.ofText path text)) =
        (if kind = .controller then "Tests\\Feature" else "Tests\\Unit") ∧
      publicMethods (g.content kind cls (.ofText path text)) =
        testNames kind (.ofText path text) := by
  have hcls : IsWord cls.toList := isWord_of_className? hclass
  have hmethods : ∀ m ∈ publicMethods text, IsWord m.toList :=
    fun m hm => isWord_of_mem_publicMethods hm
  refine ⟨className?_content htemplate hcls hns, ?_,
    publicMethods_content htemplate hcls hmethods hns⟩
  rw [namespaceOf_content htemplate]
  cases kind <;> rfl

/-- A class in a namespace and with methods that are called like keywords. -/
def keywordClass : String :=
  "<?php namespace App\\class; class public \x7b public function class() public function public()"

theorem content_reads_back_keywordClass :
    (Generator.create {} ⟨"."⟩ [] ⟨[]⟩).templates.text (.ofKind .service) =
        Template.builtIn (.ofKind .service) ∧
      className? keywordClass = some "public" ∧
      (∀ c ∈ (namespaceOf keywordClass).toList, isWordChar c = true ∨ c = '\\') ∧
      publicMethods ((Generator.create {} ⟨"."⟩ [] ⟨[]⟩).content .service "public"
          (.ofText ⟨"public.php"⟩ keywordClass)) =
        ["it_can_be_instantiated", "it_can_call_class", "it_can_call_public"] := by
  have hclass : className? keywordClass = some "public" := by decide +kernel
  have hall : (namespaceOf keywordClass).toList.all (fun c => isWordChar c || c == '\\') = true := by
    decide +kernel
  have hns : ∀ c ∈ (namespaceOf keywordClass).toList, isWordChar c = true ∨ c = '\\' :=
    fun c hc => by simpa using List.all_eq_true.mp hall c hc
  have hnames : testNames .service (.ofText ⟨"public.php"⟩ keywordClass) =
      ["it_can_be_instantiated", "it_can_call_class", "it_can_call_public"] := by decide +kernel
  have hreads := content_reads_back (.create {} ⟨"."⟩ [] ⟨[]⟩) .service ⟨"public.php"⟩ keywordClass
    "public" rfl hclass hns
  exact ⟨rfl, hclass, hns, hreads.2.2.trans hnames⟩

end SuiteForge
