import SuiteForge.Php.Introspection
import SuiteForge.Proofs.Text.Scanning

/-!
# What is read from a source

The names of classes and methods are identifiers. Each of them is found behind its keyword, and
where no keyword has a blank behind it nothing is found.
-/

namespace SuiteForge.Php

open Text

variable {s t rest name : List Char} {c : Char} {text cls method : String}

/-! ### Names -/

theorem isWord_of_nameBehindBlank? (h : nameBehindBlank? s = some (name, rest)) : IsWord name := by
  unfold nameBehindBlank? at h
  split at h
  · cases h
  · dsimp only at h
    split at h
    · cases h
    · rename_i hname
      cases h
      exact ⟨hname, List.all_eq_true.mp List.all_takeWhile⟩

theorem isWord_of_classAt (h : classAt s = some (name, rest)) : IsWord name := by
  obtain ⟨t, -, hname⟩ := Option.bind_eq_some_iff.mp h
  exact isWord_of_nameBehindBlank? hname

theorem isWord_of_methodAt (h : methodAt s = some (name, rest)) : IsWord name := by
  obtain ⟨t, -, h⟩ := Option.bind_eq_some_iff.mp h
  split at h
  · cases h
  · obtain ⟨t', -, hname⟩ := Option.bind_eq_some_iff.mp h
    exact isWord_of_nameBehindBlank? hname

theorem isWord_of_className? (h : className? text = some cls) : IsWord cls.toList := by
  obtain ⟨name, hname, rfl⟩ := Option.map_eq_some_iff.mp h
  obtain ⟨t, rest, hmatch⟩ := firstMatch_some hname
  simpa using isWord_of_classAt hmatch

theorem isWord_of_mem_publicMethods (h : method ∈ publicMethods text) : IsWord method.toList := by
  obtain ⟨name, hname, rfl⟩ := List.mem_map.mp h
  obtain ⟨t, rest, hmatch⟩ := mem_allMatchesFrom hname
  simpa using isWord_of_methodAt hmatch

/-! ### Sources -/

theorem Source.read_ok_iff {d : Disk} {cwd : Location} {f : Path} {source : Source} :
    Source.read d cwd f = .ok source ↔
      ∃ text, d.readText cwd f = .ok text ∧ source = Source.ofText f text := by
  unfold Source.read
  cases d.readText cwd f with
  | error cause => simp
  | ok text => simp [eq_comm]

/-! ### Keywords -/

theorem nameBehindBlank?_eq_none (h : ∀ b t, s = b :: t → isBlank b = false) :
    nameBehindBlank? s = none := by
  cases s with
  | nil => rfl
  | cons b t => simp [nameBehindBlank?, h b t rfl]

theorem keyed_classAt : Keyed "class".toList classAt := by
  intro s h
  unfold classAt
  cases hafter : after? "class".toList s with
  | none => rfl
  | some t => exact nameBehindBlank?_eq_none fun b t' ht => h b t' (ht ▸ hafter)

theorem keyed_methodAt : Keyed "public".toList methodAt := by
  intro s h
  rw [methodAt]
  cases hafter : after? "public".toList s with
  | none => rfl
  | some t =>
    have hblank : t.takeWhile isBlank = [] := by
      cases t with
      | nil => rfl
      | cons b t => simp [h b t hafter]
    change (if (t.takeWhile isBlank).isEmpty then none else _) = none
    rw [hblank]
    rfl

theorem begins_namespaceAt : Begins "namespace".toList namespaceAt := by
  intro s h
  rw [namespaceAt, h]
  rfl

/-! ### Names behind keywords -/

theorem nameBehindBlank?_of_word (hname : IsWord name) (hc : isWordChar c = false) :
    nameBehindBlank? (' ' :: (name ++ c :: rest)) = some (name, c :: rest) := by
  obtain ⟨b, name', rfl⟩ : ∃ b name', name = b :: name' := List.exists_cons_of_ne_nil hname.nonempty
  have hb : isBlank b = false := isBlank_of_isWordChar (hname.chars b List.mem_cons_self)
  have hspace : isBlank ' ' = true := by decide
  have hdrop : (' ' :: (b :: name' ++ c :: rest)).dropWhile isBlank = b :: name' ++ c :: rest := by
    simp [hspace, hb]
  have hblank : ((' ' :: (b :: name' ++ c :: rest)).takeWhile isBlank).isEmpty = false := by
    simp [hspace]
  unfold nameBehindBlank?
  rw [hdrop, hblank]
  dsimp only
  rw [takeWhile_word hname.chars hc, dropWhile_word hname.chars hc]
  rfl

theorem classAt_of_word (hname : IsWord name) (hc : isWordChar c = false) :
    classAt ("class ".toList ++ (name ++ c :: rest)) = some (name, c :: rest) :=
  nameBehindBlank?_of_word hname hc

theorem methodAt_of_word (hname : IsWord name) (hc : isWordChar c = false) :
    methodAt ("public function ".toList ++ (name ++ c :: rest)) = some (name, c :: rest) :=
  nameBehindBlank?_of_word hname hc

theorem namespaceAt_of_name (hname : name ≠ []) (hsemicolon : ';' ∉ name) :
    namespaceAt ("namespace ".toList ++ (name ++ ';' :: rest)) = some (trim name, rest) := by
  obtain ⟨b, name', rfl⟩ : ∃ b name', name = b :: name' := List.exists_cons_of_ne_nil hname
  have hkept : ∀ c ∈ ' ' :: b :: name', decide (c ≠ ';') = true := by
    intro c hc
    rcases List.mem_cons.mp hc with rfl | hc
    · decide
    · exact decide_eq_true fun heq => hsemicolon (heq ▸ hc)
  have htake : ((' ' :: b :: name') ++ ';' :: rest).takeWhile (· ≠ ';') = ' ' :: b :: name' := by
    rw [List.takeWhile_append_of_pos hkept]
    simp
  have hdrop : ((' ' :: b :: name') ++ ';' :: rest).dropWhile (· ≠ ';') = ';' :: rest := by
    rw [List.dropWhile_append_of_pos hkept]
    simp
  have hafter : after? "namespace".toList ("namespace ".toList ++ ((b :: name') ++ ';' :: rest)) =
      some ((' ' :: b :: name') ++ ';' :: rest) := after?_eq_some.mpr rfl
  have hspace : isBlank ' ' = true := by decide
  simp only [namespaceAt, hafter, Option.bind_eq_bind, Option.bind_some, htake, hdrop, hspace,
    if_true]

/-! ### Scans -/

theorem firstMatch_classAt (hname : IsWord name) (hc : isWordChar c = false) :
    firstMatch classAt ("class ".toList ++ (name ++ c :: rest)) = some name :=
  firstMatch_of_match (classAt_of_word hname hc)

theorem firstMatch_namespaceAt (hname : name ≠ []) (hsemicolon : ';' ∉ name) :
    firstMatch namespaceAt ("namespace ".toList ++ (name ++ ';' :: rest)) = some (trim name) :=
  firstMatch_of_match (namespaceAt_of_name hname hsemicolon)

/-- A method name is read and the scan goes on behind it. -/
theorem allMatches_methodAt (hname : IsWord name) (hc : isWordChar c = false) :
    allMatches methodAt ("public function ".toList ++ (name ++ c :: rest)) =
      name :: allMatches methodAt (c :: rest) := by
  have hsplit : "public function ".toList ++ (name ++ c :: rest) =
      'p' :: (("ublic function ".toList ++ name) ++ c :: rest) := by
    rw [List.append_assoc]
    rfl
  have hmatch : methodAt ("public function ".toList ++ (name ++ c :: rest)) =
      some (name, c :: rest) := methodAt_of_word hname hc
  rw [hsplit] at hmatch ⊢
  exact allMatches_of_match hmatch

end SuiteForge.Php
