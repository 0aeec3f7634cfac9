import BemLint.Proofs.Json.RoundTrip

/-!
# Printed values hold no control characters

A string writes control characters as escapes, and the line feeds between the fields and items are
the only ones that a printed value holds. So a text of JSON passes unchanged through whatever looks
for line ends of another kind or for the escape character.
-/
namespace BemLint.Json

/-- A character that a printed value can hold. -/
def IsVisible (c : Char) : Prop := 32 ≤ c.toNat ∨ c = '\n'

instance (c : Char) : Decidable (IsVisible c) :=
  inferInstanceAs (Decidable (32 ≤ c.toNat ∨ c = '\n'))

theorem IsVisible.ne {c d : Char} (visible : IsVisible c) (hidden : ¬IsVisible d) : c ≠ d := by
  rintro rfl
  exact hidden visible

theorem visible_of_all {s : Text} (all : s.all (fun c => decide (IsVisible c)) = true) :
    ∀ c ∈ s, IsVisible c := fun c member => of_decide_eq_true (List.all_eq_true.mp all c member)

theorem visible_hexDigit : ∀ d, d < 16 → IsVisible (Text.hexDigit d) := by decide

theorem visible_hexDigits (width n : Nat) : ∀ c ∈ Text.hexDigits width n, IsVisible c := by
  induction width generalizing n with
  | zero => simp [Text.hexDigits]
  | succ width ih =>
    intro c member
    rw [Text.hexDigits, List.mem_append, List.mem_singleton] at member
    rcases member with member | rfl
    · exact ih _ c member
    · exact visible_hexDigit _ (Nat.mod_lt _ (by decide))

theorem visible_writeChar (c : Char) : ∀ d ∈ writeChar .unicode c, IsVisible d := by
  have escape : ∀ letter, IsVisible letter → ∀ d ∈ ['\\', letter], IsVisible d := by
    intro letter visible d member
    rcases List.mem_cons.mp member with rfl | member
    · decide
    · exact List.mem_singleton.mp member ▸ visible
  simp only [writeChar]
  split
  next => exact escape '"' (by decide)
  split
  next => exact escape '\\' (by decide)
  split
  next => exact escape 'n' (by decide)
  split
  next => exact escape 'r' (by decide)
  split
  next => exact escape 't' (by decide)
  split
  next => exact escape 'b' (by decide)
  split
  next => exact escape 'f' (by decide)
  split
  next =>
    intro d member
    rw [unitEscape, List.mem_append] at member
    exact member.elim (escape 'u' (by decide) d) (visible_hexDigits 4 _ d)
  next visible =>
    intro d member
    rw [List.mem_singleton.mp member]
    exact .inl (Nat.not_lt.mp visible)

theorem visible_writeString (s : Text) : ∀ c ∈ writeString .unicode s, IsVisible c := by
  intro c member
  rw [writeString, List.mem_append, List.mem_cons, List.mem_flatMap, List.mem_singleton] at member
  rcases member with (rfl | ⟨d, -, written⟩) | rfl
  · decide
  · exact visible_writeChar d c written
  · decide

theorem visible_newline (level : Nat) : ∀ c ∈ newline level, IsVisible c := by
  intro c member
  rcases List.mem_cons.mp member with rfl | member
  · decide
  · rw [(List.mem_replicate.mp member).2]
    decide

theorem visible_ofInt (n : Int) : ∀ c ∈ Text.ofInt n, IsVisible c := by
  have digit : ∀ c, Text.isAsciiDigit c = true → IsVisible c := by
    intro c isDigit
    simp only [Text.isAsciiDigit, Bool.and_eq_true, decide_eq_true_eq] at isDigit
    exact .inl (Nat.le_trans (by decide) isDigit.1)
  intro c member
  rw [ofInt_eq, List.mem_append] at member
  rcases member with sign | member
  · split at sign
    next =>
      rw [List.mem_singleton.mp sign]
      decide
    next => cases sign
  · exact digit c (Text.ofNat_digits _ c member)

-- The recursions are those of the printer.
mutual

theorem visible_write (j : Json) (level : Nat) (plain : Plain j) :
    ∀ c ∈ write .unicode level j, IsVisible c := by
  match j with
  | .null | .bool true | .bool false | .arr [] | .obj [] =>
    rw [write]
    exact visible_of_all (by decide)
  | .int n => exact visible_ofInt n
  | .float _ => exact absurd plain (by simp [Plain])
  | .str s => exact visible_writeString s
  | .arr (item :: items) =>
    simp only [write, List.forall_mem_append, List.forall_mem_cons]
    exact ⟨⟨⟨⟨⟨by decide, visible_newline _⟩, visible_write item (level + 1) plain.1⟩,
      visible_writeItems items (level + 1) plain.2⟩, visible_newline _⟩, by decide, nofun⟩
  | .obj ((name, value) :: fields) =>
    simp only [write, List.forall_mem_append, List.forall_mem_cons]
    exact ⟨⟨⟨⟨⟨⟨⟨by decide, visible_newline _⟩, visible_writeString name⟩, by decide, by decide,
      nofun⟩, visible_write value (level + 1) plain.2.1⟩,
      visible_writeFields fields (level + 1) plain.2.2⟩, visible_newline _⟩, by decide, nofun⟩

theorem visible_writeItems (items : List Json) (level : Nat) (plain : PlainItems items) :
    ∀ c ∈ writeItems .unicode level items, IsVisible c := by
  match items with
  | [] =>
    rw [writeItems]
    exact nofun
  | item :: items =>
    simp only [writeItems, List.forall_mem_append, List.forall_mem_cons]
    exact ⟨⟨⟨by decide, visible_newline level⟩, visible_write item level plain.1⟩,
      visible_writeItems items level plain.2⟩

theorem visible_writeFields (fields : List (Text × Json)) (level : Nat)
    (plain : PlainFields fields) : ∀ c ∈ writeFields .unicode level fields, IsVisible c := by
  match fields with
  | [] =>
    rw [writeFields]
    exact nofun
  | (name, value) :: fields =>
    simp only [writeFields, List.forall_mem_append, List.forall_mem_cons]
    exact ⟨⟨⟨⟨⟨by decide, visible_newline level⟩, visible_writeString name⟩, by decide, by decide,
      nofun⟩, visible_write value level plain.1⟩, visible_writeFields fields level plain.2⟩

end

end BemLint.Json
