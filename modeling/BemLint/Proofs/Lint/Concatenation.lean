import BemLint.Proofs.ClassAttr.Concatenation
import BemLint.Proofs.Lint.Ignoring

/-!
# Linting two texts put together

When no attribute that is taken reaches across the border of two texts, the names of both together
are those of the first and, moved behind it, those of the second. The rules look at names alone, so
the same holds of the violations.
-/
namespace BemLint

namespace ClassToken

def shift (k : Nat) (t : ClassToken) : ClassToken := ⟨t.name, k + t.offset⟩

theorem locateFrom_shift (k : Nat) (a : ClassAttr) (cursor : Nat) (words : List Text) :
    locateFrom (a.shift k) cursor words = (locateFrom a cursor words).map (shift k) := by
  induction words generalizing cursor with
  | nil => rfl
  | cons word words ih =>
    rw [locateFrom, locateFrom, ih]
    simp only [List.map_cons, shift, ClassAttr.shift, Nat.add_assoc]

theorem ofAttr_shift (k : Nat) (a : ClassAttr) : ofAttr (a.shift k) = (ofAttr a).map (shift k) := by
  unfold ofAttr
  exact locateFrom_shift k a 0 (Text.words a.value)

theorem scan_append (a b : Text) (apart : ClassAttr.NoneAcross a b) :
    scan (a ++ b) = scan a ++ (scan b).map (shift a.length) := by
  unfold scan
  rw [ClassAttr.scan_append a b apart, List.flatMap_append, List.flatMap_map, List.map_flatMap]
  simp only [ofAttr_shift]

/-- A name stands inside its text. -/
theorem offset_le (source : Text) (t : ClassToken) (member : t ∈ scan source) :
    t.offset ≤ source.length := by
  obtain ⟨a, chosen, inside⟩ := List.mem_flatMap.mp member
  have occurs := ((ClassAttr.scan_leftToRight source).occurs a chosen).1
  have bounds := ClassAttr.occurs_bounds source a occurs
  have word := (ofAttr_wordAt source a occurs t inside).inside
  omega

/-- The names of two texts are those of the first and those of the second, moved behind it. -/
theorem placed_append (a b : Text) (apart : ClassAttr.NoneAcross a b) :
    placed (a ++ b) = placed a ++ (placed b).map fun n => (n.1, n.2.after a) := by
  unfold placed
  rw [scan_append a b apart, List.map_append, List.map_map, List.map_map]
  congr 1
  · apply List.map_congr_left
    intro t member
    unfold position
    rw [Text.positionAt_append a b t.offset (offset_le a t member)]
  · apply List.map_congr_left
    intro t _
    simp only [Function.comp_apply, shift, position, Text.positionAt_after]

end ClassToken

namespace Lint
open IgnorePattern (Usable)
open IgnoreList (matchedBy)

variable {table : CharacterNames}

/-- A violation of a text when another text comes before it. -/
def behind (front : Text) (v : Violation) : Violation :=
  stamp (Text.Position.after front ⟨v.line.value, v.column.value⟩) v

/-- What the rules have against a name at a place. -/
def checkPlaced (n : Text × Text.Position) : List Violation :=
  (Rule.checkAll n.1).map (stamp n.2)

theorem allViolations_placed (source : Text) :
    allViolations source = (ClassToken.placed source).flatMap checkPlaced := by
  unfold allViolations ClassToken.placed
  rw [List.flatMap_map]
  rfl

theorem checkPlaced_after (front : Text) (n : Text × Text.Position) :
    checkPlaced (n.1, n.2.after front) = (checkPlaced n).map (behind front) := by
  unfold checkPlaced
  rw [List.map_map]
  rfl

/-- The violations of two texts are those of the first and those of the second, moved behind it. -/
theorem allViolations_append (a b : Text) (apart : ClassAttr.NoneAcross a b) :
    allViolations (a ++ b) = allViolations a ++ (allViolations b).map (behind a) := by
  rw [allViolations_placed, allViolations_placed, allViolations_placed,
    ClassToken.placed_append a b apart, List.flatMap_append, List.flatMap_map, List.map_flatMap]
  simp only [checkPlaced_after]

theorem remaining_texts (a b : Text) (patterns : List Text) (apart : ClassAttr.NoneAcross a b) :
    remaining table (a ++ b) patterns =
      remaining table a patterns ++ (remaining table b patterns).map (behind a) := by
  unfold remaining
  rw [allViolations_append a b apart, List.filter_append, List.filter_map]
  rfl

/-- Linting is compositional. When no attribute that the scan of two texts takes begins in the first
and ends in the second, the names of both together are those of the first, where they were, and then
those of the second, moved on: by as many lines as the first has line feeds and, on the line where
the second begins, by as many columns as the first has characters after its last line feed. The
violations, for all patterns that can be used, are those of the first and those of the second moved
in the same way. -/
theorem linting_is_compositional (a b : Text) (apart : ClassAttr.NoneAcross a b) :
    (ClassToken.placed (a ++ b) = ClassToken.placed a ++
      (ClassToken.placed b).map fun n => (n.1, n.2.after a)) ∧
    ∀ path patterns, (∀ p ∈ patterns, Usable table p) → ∃ front back,
      analyze table a path patterns = .ok (reportOn path front) ∧
      analyze table b path patterns = .ok (reportOn path back) ∧
      analyze table (a ++ b) path patterns =
        .ok (reportOn path (front ++ back.map (behind a))) := by
  refine ⟨ClassToken.placed_append a b apart, fun path patterns usable => ?_⟩
  refine ⟨_, _, analyze_usable a path patterns usable, analyze_usable b path patterns usable, ?_⟩
  rw [analyze_usable (a ++ b) path patterns usable, remaining_texts a b patterns apart]

/-- A text that ends in the midst of an attribute's beginning. -/
def cutShort : Text := "<p class=\"Card\">\n<i class=".toList

/-- A text that does not go on with its value. -/
def otherElement : Text := "<b class='Item'>\n<p class=\"Menu\">".toList

theorem linting_is_compositional_cutShort :
    ClassAttr.NoneAcross cutShort otherElement ∧
      ClassToken.placed otherElement =
        [("Item".toList, ⟨1, 11⟩), ("Menu".toList, ⟨2, 11⟩)] ∧
      ClassToken.placed (cutShort ++ otherElement) =
        [("Card".toList, ⟨1, 11⟩), ("Item".toList, ⟨2, 20⟩), ("Menu".toList, ⟨3, 11⟩)] ∧
      (∀ p ∈ ["^Menu".toList], Usable .ascii p) ∧
      analyze .ascii otherElement [] ["^Menu".toList] =
        .ok (reportOn [] [blockBreach "Item" "item" 1 11]) ∧
      analyze .ascii (cutShort ++ otherElement) [] ["^Menu".toList] =
        .ok (reportOn [] [blockBreach "Card" "card" 1 11, blockBreach "Item" "item" 2 20]) := by
  have apart : ClassAttr.NoneAcross cutShort otherElement := by
    unfold ClassAttr.NoneAcross
    decide +kernel
  have usable : ∀ p ∈ ["^Menu".toList], Usable .ascii p := IgnorePattern.usable_single rfl
  have second : ClassToken.placed otherElement =
      [("Item".toList, ⟨1, 11⟩), ("Menu".toList, ⟨2, 11⟩)] := by
    decide +kernel
  have first' : analyze .ascii cutShort [] ["^Menu".toList] =
      .ok (reportOn [] [blockBreach "Card" "card" 1 11]) := by
    decide +kernel
  have second' : analyze .ascii otherElement [] ["^Menu".toList] =
      .ok (reportOn [] [blockBreach "Item" "item" 1 11]) := by
    decide +kernel
  obtain ⟨places, linted⟩ := linting_is_compositional cutShort otherElement apart
  obtain ⟨front, back, here, there, both⟩ := linted [] _ usable
  obtain rfl := reportOn_injective (Except.ok.inj (here.symm.trans first'))
  obtain rfl := reportOn_injective (Except.ok.inj (there.symm.trans second'))
  refine ⟨apart, second, ?_, usable, second', both.trans ?_⟩
  · rw [places, second]
    decide +kernel
  · decide +kernel

end Lint
end BemLint
