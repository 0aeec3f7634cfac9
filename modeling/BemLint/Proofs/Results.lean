import Mathlib.Data.List.Forall2

/-!
# Results that may be errors

What is known of a computation in steps that has come to its end, and of one that has not: of its
parts, when it goes through two steps one after the other or reads the values of a list one by one.
-/
namespace BemLint

section Steps

variable {ε α β : Type} {x : Except ε α} {f : α → Except ε β}

/-- A computation that succeeds has succeeded in its parts. -/
theorem bind_ok {b : β} (ok : (x >>= f) = .ok b) : ∃ a, x = .ok a ∧ f a = .ok b := by
  cases x with
  | error fault => cases ok
  | ok a => exact ⟨a, rfl, ok⟩

theorem bind_error {e : ε} (failed : (x >>= f) = .error e) :
    x = .error e ∨ ∃ a, x = .ok a ∧ f a = .error e := by
  cases x with
  | error fault =>
    cases failed
    exact .inl rfl
  | ok a => exact .inr ⟨a, rfl, failed⟩

end Steps

section Lists

variable {ε α β : Type} {read : α → Except ε β} {values : List α}

/-- All values are read, one result for each, or some value is not. -/
theorem mapM_ok_iff {results : List β} :
    values.mapM read = .ok results ↔ List.Forall₂ (fun a b => read a = .ok b) values results := by
  induction values generalizing results with
  | nil =>
    rw [List.mapM_nil, List.forall₂_nil_left_iff]
    exact ⟨fun done => (Except.ok.inj done).symm, fun done => done ▸ rfl⟩
  | cons a values ih =>
    rw [List.mapM_cons, List.forall₂_cons_left_iff]
    constructor
    · intro done
      obtain ⟨b, first, done⟩ := bind_ok done
      obtain ⟨more, rest, done⟩ := bind_ok done
      exact ⟨b, more, first, ih.mp rest, (Except.ok.inj done).symm⟩
    · rintro ⟨b, more, first, rest, rfl⟩
      rw [first, ih.mpr rest]
      rfl

theorem mapM_accepts_iff :
    (∃ results, values.mapM read = .ok results) ↔ ∀ a ∈ values, ∃ b, read a = .ok b := by
  simp only [mapM_ok_iff]
  induction values with
  | nil => simp
  | cons a values ih =>
    rw [List.forall_mem_cons, ← ih]
    simp only [List.forall₂_cons_left_iff]
    constructor
    · rintro ⟨_, b, results, first, rest, rfl⟩
      exact ⟨⟨b, first⟩, results, rest⟩
    · rintro ⟨⟨b, first⟩, results, rest⟩
      exact ⟨_, b, results, first, rest, rfl⟩

theorem mem_of_mapM {results : List β} (done : values.mapM read = .ok results) {b : β}
    (member : b ∈ results) : ∃ a ∈ values, read a = .ok b := by
  rw [mapM_ok_iff] at done
  induction done with
  | nil => cases member
  | @cons a b' values results first rest ih =>
    rcases List.mem_cons.mp member with rfl | member
    · exact ⟨a, List.mem_cons_self .., first⟩
    · obtain ⟨a', inside, found⟩ := ih member
      exact ⟨a', List.mem_cons_of_mem _ inside, found⟩

/-- What stands in the lists that were read is what was read for one of the values. -/
theorem mem_flatten_of_mapM {read : α → Except ε (List β)} {results : List (List β)}
    (done : values.mapM read = .ok results) (b : β) :
    b ∈ results.flatten ↔ ∃ a ∈ values, ∃ found, read a = .ok found ∧ b ∈ found := by
  rw [mapM_ok_iff] at done
  induction done with
  | nil => simp
  | @cons a found values results first rest ih =>
    simp only [List.flatten_cons, List.mem_append, ih, List.exists_mem_cons_iff, first,
      Except.ok.injEq, exists_eq_left']

theorem mapM_error {e : ε} (failed : values.mapM read = .error e) :
    ∃ a ∈ values, read a = .error e := by
  induction values with
  | nil => cases failed
  | cons a values ih =>
    rw [List.mapM_cons] at failed
    rcases bind_error failed with first | ⟨b, -, failed⟩
    · exact ⟨a, List.mem_cons_self .., first⟩
    · rcases bind_error failed with later | ⟨results, -, done⟩
      · obtain ⟨a', inside, found⟩ := ih later
        exact ⟨a', List.mem_cons_of_mem _ inside, found⟩
      · cases done

end Lists
end BemLint
