import BemLint.Proofs.Text.Pieces
import BemLint.Proofs.Text.Words
import BemLint.Terminal.Layout

/-!
# Lines that fit

A line without line feeds, tabs and cursor controls that takes no more cells than the page has is
neither broken nor cropped: the paragraph is that line. The pieces between which it could be broken
take no more cells than the line, so each of them fits behind those before it.
-/
namespace BemLint.Terminal
open Text (total trimEnd)

/-! ## Cells -/

theorem total_append (first second : List Nat) :
    total (first ++ second) = total first + total second := by
  induction first with
  | nil => simp [total]
  | cons n first ih => rw [List.cons_append, total, total, ih, Nat.add_assoc]

theorem cells_append (s t : Text) : cells (s ++ t) = cells s + cells t := by
  rw [cells, List.map_append, total_append]
  rfl

theorem cells_cons (c : Char) (s : Text) : cells (c :: s) = cellWidth c + cells s := rfl

theorem cells_reverse (s : Text) : cells s.reverse = cells s := by
  induction s with
  | nil => rfl
  | cons c s ih =>
    rw [List.reverse_cons, cells_append, ih, cells_cons, cells_cons, Nat.add_comm]
    rfl

def isPrintable (c : Char) : Bool := 0x20 ≤ c.toNat && c.toNat < 0x7F

theorem cells_printable {s : Text} (printable : s.all isPrintable = true) :
    cells s = s.length := by
  induction s with
  | nil => rfl
  | cons c s ih =>
    simp only [List.all_cons, Bool.and_eq_true] at printable
    have one : cellWidth c = 1 := if_pos printable.1
    rw [cells_cons, one, ih printable.2, List.length_cons, Nat.add_comm]

theorem cells_trimEnd_le (s : Text) : cells (trimEnd s) ≤ cells s := by
  have cut : s.reverse.takeWhile Text.isBlank ++ s.reverse.dropWhile Text.isBlank = s.reverse :=
    List.takeWhile_append_dropWhile
  have whole := congrArg cells cut
  rw [cells_append, cells_reverse s] at whole
  rw [trimEnd, cells_reverse]
  omega

/-! ## Breaking -/

/-- The pieces of a line are no more than the line. -/
theorem total_piecesFrom_le (phase : WordPhase) (piece s : Text) :
    total ((piecesFrom phase piece s).map cells) ≤ cells piece + cells s := by
  fun_induction piecesFrom phase piece s with
  | case1 => exact Nat.zero_le _
  | case2 => simp [total, cells_reverse]
  | case3 phase piece c rest blank ih =>
    rw [cells_cons] at ih ⊢
    omega
  | case4 piece c rest solid ih =>
    have first : cells [c] = cellWidth c := rfl
    rw [first] at ih
    rw [List.map_cons, total, cells_reverse, cells_cons]
    omega
  | case5 phase piece c rest solid inside ih =>
    rw [cells_cons] at ih ⊢
    omega

/-- Pieces that all fit are not broken. -/
theorem breaksFrom_fits (width cell offset : Nat) (parts : List Text)
    (fits : cell + total (parts.map cells) ≤ width) : breaksFrom width cell offset parts = [] := by
  induction parts generalizing cell offset with
  | nil => rfl
  | cons part parts ih =>
    rw [List.map_cons, total] at fits
    have small := cells_trimEnd_le part
    rw [breaksFrom]
    simp only
    rw [if_pos (by omega)]
    exact ih _ _ (by omega)

/-- A line that fits is one line of the page. White space at its end is shed only from a line with
more characters than the page has cells. -/
theorem wrapLine_fits {width : Nat} {s : Text} (fits : cells s ≤ width)
    (ends : s.length ≤ width ∨ trimEnd s = s) : wrapLine width s = [s] := by
  have whole : total ((pieces s).map cells) ≤ cells s := by
    have bound := total_piecesFrom_le .before [] s
    have nothing : cells [] = 0 := rfl
    rwa [nothing, Nat.zero_add] at bound
  have unbroken : breaksFrom width 0 0 (pieces s) = [] :=
    breaksFrom_fits width 0 0 (pieces s) (by omega)
  have nothing : min (s.length - width) (s.length - (trimEnd s).length) = 0 := by
    rcases ends with short | solid
    · omega
    · rw [solid]
      omega
  have kept : shedEnd width s = s := by
    rw [shedEnd, nothing, Nat.sub_zero, List.take_length]
  rw [wrapLine, unbroken, divideFrom, List.map_singleton, kept, cropTo, if_pos fits]

/-! ## Paragraphs -/

theorem expandTabsFrom_self (cell : Nat) {s : Text} (noTab : '\t' ∉ s) :
    expandTabsFrom cell s = s := by
  induction s generalizing cell with
  | nil => rfl
  | cons c s ih =>
    simp only [List.mem_cons, not_or] at noTab
    rw [expandTabsFrom, if_neg (Ne.symm noTab.1), ih _ noTab.2]

/-- A line as it may stand on a page: without line feeds, tabs and what would move the cursor. -/
structure IsLine (s : Text) : Prop where
  noFeed : '\n' ∉ s
  noTab : '\t' ∉ s
  still : ∀ c ∈ s, isCursorControl c = false

/-- A text without control characters is a line. -/
theorem isLine_of_visible {s : Text} (visible : ∀ c ∈ s, 32 ≤ c.toNat) : IsLine s where
  noFeed member := absurd (visible _ member) (by decide)
  noTab member := absurd (visible _ member) (by decide)
  still c member := by
    have above := visible c member
    simp only [isCursorControl, Bool.or_eq_false_iff, Bool.and_eq_false_iff, beq_eq_false_iff_ne,
      decide_eq_false_iff_not]
    omega

theorem paragraph_fits {width : Nat} {s : Text} (line : IsLine s) (fits : cells s ≤ width)
    (ends : s.length ≤ width ∨ trimEnd s = s) : paragraph width s = s ++ ['\n'] := by
  have same : plain s = s := List.filter_eq_self.mpr fun c member => by simp [line.still c member]
  rw [paragraph, same, Text.feedLines, Text.splitAt_absent '\n' s line.noFeed,
    List.flatMap_singleton, expandTabs, expandTabsFrom_self 0 line.noTab, wrapLine_fits fits ends,
    List.flatMap_singleton]

end BemLint.Terminal
