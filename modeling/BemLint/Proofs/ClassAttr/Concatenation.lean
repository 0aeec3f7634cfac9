import BemLint.Proofs.ClassAttr.LeftToRight

/-!
# Class attributes of two texts put together

Whether an attribute stands at a place is decided by the characters that it is made of: what follows
a text neither makes nor unmakes an attribute in it. So as long as no attribute that is taken reaches
from the first of two texts into the second, both are scanned as they would be alone.
-/
namespace BemLint.ClassAttr

/-- No attribute that the scan of two texts takes begins in the first and ends in the second. -/
def NoneAcross (a b : Text) : Prop :=
  ∀ x ∈ scan (a ++ b), ¬ (x.first < a.length ∧ a.length < x.stop)

/-- An attribute at the front stays there when the text goes on. -/
theorem atFront?_append (s t : Text) (x : ClassAttr) (front : atFront? s = some x) :
    atFront? (s ++ t) = some x := by
  obtain ⟨lead, tail, after, written, whole, span⟩ := (atFront?_iff s x).mp front
  apply (atFront?_iff (s ++ t) x).mpr
  exact ⟨lead, tail, after ++ t, written, by simp [whole], span⟩

/-- An attribute that ends within a text does not need what follows. -/
theorem atFront?_of_append (s t : Text) (x : ClassAttr) (front : atFront? (s ++ t) = some x)
    (inside : x.stop ≤ s.length) : atFront? s = some x := by
  obtain ⟨lead, tail, after, written, whole, span⟩ := (atFront?_iff (s ++ t) x).mp front
  have stop : x.stop = (lead ++ (x.value ++ tail)).length := by
    rw [span]
    simp [spanOf, Nat.add_assoc]
  have covers : lead ++ (x.value ++ tail) <+: s ++ t := ⟨after, by simp [whole]⟩
  obtain ⟨rest, behind⟩ := List.prefix_of_prefix_length_le covers (List.prefix_append s t)
    (by omega)
  apply (atFront?_iff s x).mpr
  exact ⟨lead, tail, rest, written, by simp [← behind], span⟩

theorem atFront?_stop (s : Text) (x : ClassAttr) (front : atFront? s = some x) :
    x.first = 0 ∧ 0 < x.stop ∧ x.stop ≤ s.length := by
  have occurs := occurs_shift [] s x front
  have bounds := occurs_bounds _ _ occurs
  obtain ⟨lead, tail, after, written, whole, span⟩ := (atFront?_iff s x).mp front
  have first : x.first = 0 := by
    rw [span]
    rfl
  simp only [shift, List.length_nil, List.nil_append, Nat.zero_add] at bounds
  omega

/-- The scan of a text that begins further on finds the same, further on. -/
theorem scanFrom_shift (k offset skip : Nat) (s : Text) :
    scanFrom (k + offset) skip s = (scanFrom offset skip s).map (shift k) := by
  induction s generalizing offset skip with
  | nil => rfl
  | cons c s ih =>
    cases skip with
    | succ skip =>
      rw [scanFrom, scanFrom, Nat.add_assoc]
      exact ih (offset + 1) skip
    | zero =>
      rw [scanFrom, scanFrom, Nat.add_assoc]
      cases front : atFront? (c :: s) with
      | none => exact ih (offset + 1) 0
      | some x =>
        simp only [List.map_cons, ih (offset + 1) (x.stop - 1)]
        simp only [shift, Nat.add_assoc]

/-- The scan passes from the first text to the second where the second begins. -/
theorem scanFrom_append (a b : Text) (offset skip : Nat) (bound : skip ≤ a.length)
    (none : ∀ x ∈ scanFrom offset skip (a ++ b),
      ¬ (x.first < offset + a.length ∧ offset + a.length < x.stop)) :
    scanFrom offset skip (a ++ b) = scanFrom offset skip a ++ scanFrom (offset + a.length) 0 b := by
  induction a generalizing offset skip with
  | nil =>
    obtain rfl : skip = 0 := by simpa using bound
    rfl
  | cons c a ih =>
    have next : offset + (c :: a).length = offset + 1 + a.length := by
      rw [List.length_cons]
      omega
    rw [next] at none ⊢
    cases skip with
    | succ skip =>
      rw [List.cons_append, scanFrom] at none ⊢
      rw [scanFrom]
      exact ih (offset + 1) skip (by simpa using bound) none
    | zero =>
      rw [List.cons_append, scanFrom] at none ⊢
      rw [scanFrom]
      cases front : atFront? (c :: (a ++ b)) with
      | none =>
        rw [front] at none
        have absent : atFront? (c :: a) = Option.none := by
          cases alone : atFront? (c :: a) with
          | none => rfl
          | some x =>
            have longer := atFront?_append (c :: a) b x alone
            rw [List.cons_append, front] at longer
            contradiction
        rw [absent]
        exact ih (offset + 1) 0 (Nat.zero_le _) none
      | some x =>
        rw [front] at none
        have place := atFront?_stop _ x front
        have first := none (x.shift offset) List.mem_cons_self
        simp only [shift] at first
        have inside : x.stop ≤ (c :: a).length := by
          rw [List.length_cons]
          omega
        rw [atFront?_of_append (c :: a) b x front inside]
        simp only [List.cons_append]
        rw [ih (offset + 1) (x.stop - 1) (by rw [List.length_cons] at inside; omega)
          fun y member => none y (List.mem_cons_of_mem _ member)]

/-- Two texts with no attribute across their border have the attributes of both. -/
theorem scan_append (a b : Text) (apart : NoneAcross a b) :
    scan (a ++ b) = scan a ++ (scan b).map (shift a.length) := by
  unfold NoneAcross scan at apart
  have whole := scanFrom_append a b 0 0 (Nat.zero_le _) (by simpa only [Nat.zero_add] using apart)
  have behind := scanFrom_shift a.length 0 0 b
  unfold scan
  rw [whole, Nat.zero_add, ← behind, Nat.add_zero]

end BemLint.ClassAttr
