import BemLint.Workspace.Change

/-!
# Writing a file

A file that has been written is at the place that its path means, with the bytes that were given.
-/
namespace BemLint

namespace Change

variable {ε ε' α β : Type}

theorem run_bind (x : ExceptT ε (StateM Workspace) α) (f : α → ExceptT ε (StateM Workspace) β)
    (w : Workspace) :
    (x >>= f).run.run w =
      match x.run.run w with
      | (.error e, after) => (.error e, after)
      | (.ok a, between) => (f a).run.run between := by
  rw [ExceptT.run_bind, StateT.run_bind]
  rcases x.run.run w with ⟨e | a, between⟩
  · rfl
  · rfl

/-- A change that succeeds has succeeded in each of its steps. -/
theorem bind_ok {x : ExceptT ε (StateM Workspace) α} {f : α → ExceptT ε (StateM Workspace) β}
    {b : β} {w w' : Workspace} (ok : (x >>= f).run.run w = (.ok b, w')) :
    ∃ a between, x.run.run w = (.ok a, between) ∧ (f a).run.run between = (.ok b, w') := by
  rw [run_bind] at ok
  rcases first : x.run.run w with ⟨e | a, between⟩
  · rw [first] at ok
    cases ok
  · rw [first] at ok
    exact ⟨a, between, rfl, ok⟩

/-- A change under other names for its failures does the same. -/
theorem run_adapt (name : ε → ε') (x : ExceptT ε (StateM Workspace) α) (w : Workspace) :
    (ExceptT.adapt name x).run.run w =
      ((x.run.run w).1.mapError name, (x.run.run w).2) := rfl

end Change

namespace Workspace

theorem node?_place (w : Workspace) (at_ : Location) (node : Node) (notRoot : at_ ≠ []) :
    (w.place at_ node).node? at_ = some node := by
  have others : (w.entries.filter fun e => e.1 ≠ at_).find? (fun e => e.1 = at_) = none := by
    rw [List.find?_eq_none]
    intro e member same
    simp only [List.mem_filter, decide_eq_true_eq] at member same
    exact member.2 same
  rw [node?, if_neg notRoot, place, List.find?_append, others]
  simp

/-- A look-up meets the root of all paths only as a directory. -/
theorem advance_root (w : Workspace) (follow : Bool) (start : Location) (todo : List Text)
    (node : Option Node) (arrived : w.advance follow start todo = .arrived [] node) :
    node = some .directory := by
  fun_induction advance w follow start todo <;> simp_all +zetaDelta

theorem walk_root (w : Workspace) (follow : Bool) (links : Nat) (start : Location)
    (todo : List Text) (node : Option Node)
    (found : w.walk follow links start todo = .ok ([], node)) : node = some .directory := by
  fun_induction walk w follow links start todo with
  | case1 links at_ todo place node? arrived =>
    cases found
    exact advance_root w follow at_ todo node arrived
  | case2 => cases found
  | case3 => cases found
  | case4 links at_ todo directory target rest link start ih => exact ih found

theorem locate_root (w : Workspace) (follow : Bool) (path : Text) (node : Option Node)
    (found : w.locate follow path = .ok ([], node)) : node = some .directory := by
  rw [locate] at found
  split at found
  next => cases found
  split at found
  next => cases found
  split at found
  next => cases found
  next => exact walk_root w follow _ _ _ node found

/-- When a file has been written, the path led to no directory, and the file is where it led. -/
theorem writeFile_ok (p : Path) (bytes : List UInt8) (w w' : Workspace)
    (written : (writeFile p bytes).run.run w = (.ok (), w')) :
    ∃ place before, w.locate true p.text = .ok (place, before) ∧
      w'.node? place = some (.file bytes) := by
  obtain ⟨_, _, got, written⟩ := Change.bind_ok written
  cases got
  split at written
  next => cases written
  next => cases written
  next place before notDirectory found =>
    cases written
    refine ⟨place, before, found, node?_place w place _ ?_⟩
    rintro rfl
    exact notDirectory (locate_root w true p.text before found)

end Workspace
end BemLint
