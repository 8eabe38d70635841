/-!
# Lists of named values

What is found under a name is the value that it was given first, and from the end of the list the
one that it was given last.
-/

namespace SuiteForge

variable {α β : Type} [BEq α] [LawfulBEq α] [DecidableEq α]

theorem lookup_eq_head? (entries : List (α × β)) (name : α) :
    entries.lookup name = (entries.filter (·.1 = name)).head?.map Prod.snd := by
  induction entries with
  | nil => rfl
  | cons entry entries ih =>
    obtain ⟨other, value⟩ := entry
    by_cases hname : other = name
    · simp [hname]
    · have hne : (name == other) = false := by simpa using Ne.symm hname
      rw [List.lookup_cons, hne, ih, List.filter_cons_of_neg (by simpa using hname)]

theorem lookup_reverse (entries : List (α × β)) (name : α) :
    entries.reverse.lookup name = (entries.filter (·.1 = name)).getLast?.map Prod.snd := by
  rw [lookup_eq_head?, List.filter_reverse, List.head?_reverse]

end SuiteForge
