import SuiteForge.Cli.Run

/-!
# What the acts of a command do

Printing leaves the state of the workbench alone, and work on it leaves alone what has been printed.
-/

namespace SuiteForge.Cli

variable {α β : Type} {c : Session}

@[simp] theorem pure_apply (a : α) (c : Session) : (pure a : Act α) c = (a, c) := rfl

@[simp] theorem bind_apply (x : Act α) (f : α → Act β) (c : Session) :
    (x >>= f) c = f (x c).1 (x c).2 := rfl

@[simp] theorem map_apply (f : α → β) (x : Act α) (c : Session) :
    (f <$> x) c = (f (x c).1, (x c).2) := rfl

@[simp] theorem get_apply (c : Session) : (get : Act Session) c = (c, c) := rfl

@[simp ↓] theorem ite_act_apply (p : Prop) [Decidable p] (x y : Act α) (c : Session) :
    (if p then x else y) c = if p then x c else y c := by
  split <;> rfl

@[simp] theorem state_say (text : String) (c : Session) : (say text c).2.state = c.state := rfl

@[simp] theorem state_sayAll (lines : List String) (c : Session) :
    (sayAll lines c).2.state = c.state := rfl

@[simp] theorem state_complain (text : String) (c : Session) :
    (complain text c).2.state = c.state := rfl

@[simp] theorem state_complainAll (lines : List String) (c : Session) :
    (complainAll lines c).2.state = c.state := rfl

@[simp] theorem work_fst (act : Workbench.State → α × Workbench.State) (c : Session) :
    (work act c).1 = (act c.state).1 := rfl

@[simp] theorem state_work (act : Workbench.State → α × Workbench.State) (c : Session) :
    (work act c).2.state = (act c.state).2 := rfl

/-! ### What is printed -/

/-- Lines as they are printed, each of them ended. -/
def textOf (lines : List String) : String := String.join (lines.map (· ++ "\n"))

theorem textOf_cons (line : String) (lines : List String) :
    textOf (line :: lines) = line ++ "\n" ++ textOf lines := by
  rw [textOf, List.map_cons, String.join_cons]
  rfl

theorem textOf_append (xs ys : List String) : textOf (xs ++ ys) = textOf xs ++ textOf ys := by
  rw [textOf, List.map_append, String.join_append]
  rfl

theorem textOf_singleton (line : String) : textOf [line] = line ++ "\n" := by
  simp [textOf, String.join_cons]

@[simp] theorem out_say (text : String) (c : Session) :
    (say text c).2.out = c.out ++ textOf [text] := by
  rw [textOf_singleton, ← String.append_assoc]
  rfl

@[simp] theorem out_sayAll (lines : List String) (c : Session) :
    (sayAll lines c).2.out = c.out ++ textOf lines := rfl

@[simp] theorem out_complain (text : String) (c : Session) :
    (complain text c).2.out = c.out := rfl

@[simp] theorem out_work (act : Workbench.State → α × Workbench.State) (c : Session) :
    (work act c).2.out = c.out := rfl

end SuiteForge.Cli
