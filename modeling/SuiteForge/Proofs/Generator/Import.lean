import SuiteForge.Proofs.Generator.ReadBack
import SuiteForge.Proofs.Php.Namespace

/-!
# Imports of the class under test

A test file imports the class that it tests by the namespace that was read from the source. The scan
for a namespace takes everything up to a semicolon, so the import is a name only where the source
has nothing but a name there.
-/

namespace SuiteForge

open Php Text

variable {c : Char} {s between cls : List Char}

/-! ### Names -/

namespace Php

/-- What identifiers are made of: letters, digits and underscores, and beyond ASCII everything but
white space. -/
def isNameChar (c : Char) : Bool := isWordChar c || (128 ≤ c.toNat && !isBlank c)

/-- Identifiers have no digit in front. -/
def isIdentifier : List Char → Bool
  | [] => false
  | c :: cs => !isDigit c && (c :: cs).all isNameChar

/-- Identifiers with a backslash between them, and perhaps one in front. -/
def isQualified : List Char → Bool
  | '\\' :: s => (splitOn '\\' s).all isIdentifier
  | s => (splitOn '\\' s).all isIdentifier

/-- What may stand in front of the name of a class: a name, or nothing. -/
def isNamespace (s : List Char) : Bool := s.isEmpty || isQualified s

theorem isQualified_of_head (h : s.head? ≠ some '\\') :
    isQualified s = (splitOn '\\' s).all isIdentifier := by
  unfold isQualified
  split
  · simp at h
  · rfl

/-- A name in a namespace is qualified just when both of them are names. -/
theorem isQualified_append (hcls : '\\' ∉ cls) (ns : List Char) :
    isQualified (ns ++ '\\' :: cls) = (isNamespace ns && isIdentifier cls) := by
  have hsplit (s : List Char) : (splitOn '\\' (s ++ '\\' :: cls)).all isIdentifier =
      ((splitOn '\\' s).all isIdentifier && isIdentifier cls) := by
    rw [splitOn_append, splitOn_of_notMem hcls, List.all_append]
    simp
  cases ns with
  | nil => simp [isNamespace, isQualified, splitOn_of_notMem hcls]
  | cons c ns =>
    by_cases hc : c = '\\'
    · subst hc
      exact hsplit ns
    · have hhead (s : List Char) : (c :: s).head? ≠ some '\\' := by simpa using hc
      rw [isNamespace, List.isEmpty_cons, Bool.false_or, isQualified_of_head (hhead ns),
        ← hsplit (c :: ns)]
      exact isQualified_of_head (hhead _)

theorem isNameChar_of_isIdentifier (h : isIdentifier s = true) (hc : c ∈ s) :
    isNameChar c = true := by
  cases s with
  | nil => cases h
  | cons b s =>
    obtain ⟨-, hall⟩ := Bool.and_eq_true_iff.mp h
    exact List.all_eq_true.mp hall c hc

theorem isNameChar_of_qualified (h : (splitOn '\\' s).all isIdentifier = true) (hc : c ∈ s)
    (hne : c ≠ '\\') : isNameChar c = true := by
  obtain ⟨piece, hpiece, hmem⟩ := exists_mem_splitOn hc hne
  exact isNameChar_of_isIdentifier (List.all_eq_true.mp h piece hpiece) hmem

/-- A namespace is made of identifiers and backslashes. -/
theorem char_of_isNamespace (h : isNamespace s = true) (hc : c ∈ s) :
    isNameChar c = true ∨ c = '\\' := by
  by_cases hne : c = '\\'
  · exact Or.inr hne
  left
  rcases Bool.or_eq_true_iff.mp h with hempty | h
  · rw [List.isEmpty_iff.mp hempty] at hc
    cases hc
  unfold isQualified at h
  split at h
  · rcases List.mem_cons.mp hc with heq | hc
    · exact absurd heq hne
    · exact isNameChar_of_qualified h hc hne
  · exact isNameChar_of_qualified h hc hne

theorem isBlank_of_isNameChar (h : isNameChar c = true) : isBlank c = false := by
  rcases Bool.or_eq_true_iff.mp h with h | h
  · exact isBlank_of_isWordChar h
  · simpa using (Bool.and_eq_true_iff.mp h).2

/-- White space and braces are in no namespace. -/
theorem notMem_of_isNamespace (h : isNamespace s = true)
    (hc : isBlank c = true ∨ c = '\x7b' ∨ c = '\x7d') : c ∉ s := by
  intro hmem
  rcases char_of_isNamespace h hmem with hname | rfl
  · rcases hc with hblank | rfl | rfl
    · rw [isBlank_of_isNameChar hname] at hblank
      cases hblank
    · exact absurd hname (by decide)
    · exact absurd hname (by decide)
  · exact absurd hc (by decide)

theorem trim_of_isNamespace (h : isNamespace s = true) : trim s = s := by
  refine (trimmed_of_unblank fun c hc => ?_).trim_eq
  rw [← Bool.not_eq_true]
  intro hblank
  exact notMem_of_isNamespace h (Or.inl hblank) hc

/-! ### Namespaces that are names -/

/-- A name, or nothing, with white space around it. -/
def EnclosesName (between : List Char) : Prop :=
  ∃ front name back, (∀ c ∈ front, isBlank c = true) ∧ (∀ c ∈ back, isBlank c = true) ∧
    between = front ++ (name ++ back) ∧ isNamespace name = true

theorem enclosesName_iff : EnclosesName between ↔ isNamespace (trim between) = true := by
  constructor
  · rintro ⟨front, name, back, hfront, hback, rfl, hname⟩
    rwa [trim_around hfront hback, trim_of_isNamespace hname]
  · intro h
    obtain ⟨front, back, hfront, hback, hbetween⟩ := exists_around_trim between
    exact ⟨front, trim between, back, hfront, hback, hbetween, h⟩

/-- Between the keyword of a bracketed declaration and a semicolon inside it there is no name. -/
theorem not_enclosesName_of_brace (h : '\x7b' ∈ between) : ¬ EnclosesName between := by
  rintro ⟨front, name, back, hfront, hback, rfl, hname⟩
  rcases List.mem_append.mp h with hmem | hmem
  · exact absurd (hfront _ hmem) (by decide)
  · rcases List.mem_append.mp hmem with hmem | hmem
    · exact notMem_of_isNamespace hname (Or.inr (Or.inl rfl)) hmem
    · exact absurd (hback _ hmem) (by decide)

theorem isNamespace_namespaceOf_iff (text : String) :
    isNamespace (namespaceOf text).toList = true ↔
      ∀ between, FirstDeclared text.toList between → EnclosesName between := by
  rw [namespaceOf_toList]
  rcases firstDeclared_or_none text.toList with ⟨between, h, hfound⟩ | ⟨hnone, hfound⟩
  · rw [hfound, Option.getD_some, ← enclosesName_iff]
    constructor
    · intro hname between' h'
      rwa [← h.unique h']
    · intro hall
      exact hall between h
  · rw [hfound, Option.getD_none]
    refine iff_of_true rfl ?_
    rintro between ⟨i, rest, h, -⟩
    exact absurd h (hnone i between rest)

end Php

/-! ### Imports -/

/-- The name by which a test file imports the class that it tests. -/
def importedName (text cls : String) : List Char := (namespaceOf text).toList ++ '\\' :: cls.toList

/-- The import on a line of its own. -/
def importLine (text cls : String) : List Char :=
  "\nuse ".toList ++ (importedName text cls ++ ";\n".toList)

theorem refreshImport_line (kind : Kind) : ∃ front,
    ";\n\nuse Tests\\TestCase;\n".toList ++ (refreshImport kind).toList = front ++ ['\n'] := by
  refine ⟨(";\n\nuse Tests\\TestCase;\n".toList ++ (refreshImport kind).toList).dropLast, ?_⟩
  cases kind <;> rfl

theorem importLine_infix_content {g : Generator} {kind : Kind}
    (htemplate : g.templates.text (.ofKind kind) = Template.builtIn (.ofKind kind))
    (path : Path) (text cls : String) :
    importLine text cls <:+: (g.content kind cls (.ofText path text)).toList := by
  obtain ⟨front, hfront⟩ := refreshImport_line kind
  have hsplit (s : List Char) : ";\n\nuse Tests\\TestCase;\n".toList ++
      ((refreshImport kind).toList ++ s) = front ++ '\n' :: s := by
    rw [← List.append_assoc, hfront, List.append_assoc]
    rfl
  have huse : "\nuse ".toList = '\n' :: "use ".toList := rfl
  have hend : ";\n\n".toList = ";\n".toList ++ ['\n'] := rfl
  have hslash : "\\".toList = ['\\'] := rfl
  have hns : (Source.ofText path text).inNamespace = namespaceOf text := rfl
  rw [content_toList htemplate]
  -- what is behind the import is named, so that nobody tries to compute it
  generalize "class ".toList ++ _ = back
  refine ⟨"<?php\n\nnamespace ".toList ++ ((Suite.ofKind kind).namespaceName.toList ++ front),
    '\n' :: back, ?_⟩
  unfold preamble importLine importedName
  simp only [hsplit, huse, hend, hslash, hns, List.append_assoc, List.cons_append, List.nil_append]

/-- The namespace of a text is a name or nothing just when the first declaration of the text, if
there is one, has only a name and white space up to its semicolon; a bracketed declaration has not.
A test file has a line that imports the class under test, and the import is a name just when the
class is an identifier and the namespace is a name or nothing. -/
theorem namespace_named_iff (text : String) :
    (isNamespace (namespaceOf text).toList = true ↔
        ∀ between, FirstDeclared text.toList between → EnclosesName between) ∧
      (∀ between, FirstDeclared text.toList between → '\x7b' ∈ between →
        isNamespace (namespaceOf text).toList = false) ∧
      ∀ (g : Generator) (kind : Kind) (path : Path) (cls : String),
        g.templates.text (.ofKind kind) = Template.builtIn (.ofKind kind) →
        className? text = some cls →
        importLine text cls <:+: (g.content kind cls (.ofText path text)).toList ∧
          (isQualified (importedName text cls) = true ↔
            isNamespace (namespaceOf text).toList = true ∧ isIdentifier cls.toList = true) := by
  refine ⟨isNamespace_namespaceOf_iff text, ?_, ?_⟩
  · intro between h hbrace
    rw [← Bool.not_eq_true, isNamespace_namespaceOf_iff]
    intro hall
    exact not_enclosesName_of_brace hbrace (hall between h)
  · intro g kind path cls htemplate hclass
    have hcls : '\\' ∉ cls.toList := by
      intro hmem
      exact absurd ((isWord_of_className? hclass).chars _ hmem) (by decide)
    refine ⟨importLine_infix_content htemplate path text cls, ?_⟩
    rw [importedName, isQualified_append hcls, Bool.and_eq_true_iff]

/-- A class in brackets behind its namespace. -/
def bracketed : String := "<?php\nnamespace App \x7b\nclass Foo \x7b public $x; \x7d\n\x7d\n"

theorem firstMatch_bracketed : firstMatch namespaceAt bracketed.toList =
    some "App \x7b\nclass Foo \x7b public $x".toList := by cbv

theorem namespaceOf_bracketed :
    namespaceOf bracketed = "App \x7b\nclass Foo \x7b public $x" := by
  rw [namespaceOf, firstMatch_bracketed, Option.getD_some, String.ofList_toList]

theorem namespace_named_iff_bracketed :
    isNamespace (namespaceOf bracketed).toList = false ∧
      className? bracketed = some "Foo" ∧
      importLine bracketed "Foo" <:+: ((Generator.create {} ⟨"."⟩ [] ⟨[]⟩).content .plain "Foo"
        (.ofText ⟨"Foo.php"⟩ bracketed)).toList ∧
      isQualified (importedName bracketed "Foo") = false := by
  obtain ⟨-, hbrace, himport⟩ := namespace_named_iff bracketed
  have hnot : isNamespace (namespaceOf bracketed).toList = false := by
    rcases firstDeclared_or_none bracketed.toList with ⟨between, h, hscan⟩ | ⟨-, hscan⟩
    · rw [firstMatch_bracketed] at hscan
      have hmem : '\x7b' ∈ trim between := by
        rw [← Option.some.inj hscan]
        decide
      exact hbrace between h (mem_of_mem_trim hmem)
    · rw [firstMatch_bracketed] at hscan
      cases hscan
  have hclass : className? bracketed = some "Foo" := by cbv
  obtain ⟨hline, hiff⟩ := himport (.create {} ⟨"."⟩ [] ⟨[]⟩) .plain ⟨"Foo.php"⟩ "Foo" rfl hclass
  refine ⟨hnot, hclass, hline, ?_⟩
  rw [← Bool.not_eq_true, hiff, hnot]
  rintro ⟨hfalse, -⟩
  cases hfalse

/-- The namespace of a bracketed declaration has the beginning of the class in it, and so has the
import. -/
theorem namespace_unnamed_bracketed :
    namespaceOf bracketed = "App \x7b\nclass Foo \x7b public $x" ∧
      ¬ (namespaceOf bracketed = "" ∨ isQualified (namespaceOf bracketed).toList = true) ∧
      importLine bracketed "Foo" = "\nuse App \x7b\nclass Foo \x7b public $x\\Foo;\n".toList := by
  unfold importLine importedName
  rw [namespaceOf_bracketed]
  exact ⟨rfl, by decide, rfl⟩

end SuiteForge
