import BemLint.Proofs.Report.WorkflowCommand
import BemLint.Proofs.Text.Substitution

/-!
# Escapes of messages

A message is escaped character by character, which is what three replacements in a row come to when
the percent sign goes first. Nothing is lost: one pass from left to right undoes the escapes, and so do
three replacements in a row when the percent sign comes last. For the latter an escaped message is seen
as the blocks that its characters are written as; a code is found nowhere but where it is a block.
-/
namespace BemLint.Report
open Text (replace replaceChar replace_singleton replaceChar_flatMap)

/-- Escape a message by replacing the percent signs, then the two line ends. -/
def escapeInTurn (s : Text) : Text :=
  replace ['\n'] "%0A".toList (replace ['\r'] "%0D".toList (replace ['%'] "%25".toList s))

/-- Undo the escapes of a message by replacing those of the line ends, then that of the percent
sign. -/
def unescapeInTurn (s : Text) : Text :=
  replace "%25".toList ['%'] (replace "%0A".toList ['\n'] (replace "%0D".toList ['\r'] s))

/-! ## Escaping in turn -/

/-- The percent sign goes first, so no percent sign of an escape is escaped again. -/
theorem escapeMessage_eq (s : Text) : escapeMessage s = escapeInTurn s := by
  have whole : replaceChar '%' "%25".toList s =
      s.flatMap fun c => if c = '%' then "%25".toList else [c] := rfl
  rw [escapeInTurn, replace_singleton, replace_singleton, replace_singleton, whole,
    replaceChar_flatMap, replaceChar_flatMap, escapeMessage]
  refine List.flatMap_congr fun c _ => ?_
  by_cases percent : c = '%'
  · rw [percent]
    decide
  by_cases return_ : c = '\r'
  · rw [return_]
    decide
  simp [escapeChar, replaceChar, percent, return_]

/-! ## Undoing in turn -/

def IsCode (code : Text) : Prop := ∃ a b, code = ['%', a, b] ∧ a ≠ '%' ∧ b ≠ '%'

theorem isCode_escapes : IsCode "%25".toList ∧ IsCode "%0D".toList ∧ IsCode "%0A".toList :=
  ⟨⟨'2', '5', rfl, by decide, by decide⟩, ⟨'0', 'D', rfl, by decide, by decide⟩,
    ⟨'0', 'A', rfl, by decide, by decide⟩⟩

/-- What a character may be written as: one character other than the percent sign, or a code. -/
def IsBlock (block : Text) : Prop := (∃ c, block = [c] ∧ c ≠ '%') ∨ IsCode block

/-- A block after a code has been replaced by a character. -/
def undo (code : Text) (c : Char) (block : Text) : Text := if block = code then [c] else block

/-- Among blocks a code is found just where it is one of them. -/
theorem replace_blocks {code : Text} (isCode : IsCode code) (d : Char) {write : Char → Text}
    (blocks : ∀ c, IsBlock (write c)) (s : Text) :
    replace code [d] (s.flatMap write) = s.flatMap fun c => undo code d (write c) := by
  obtain ⟨a, b, rfl, -, -⟩ := isCode
  induction s with
  | nil => rfl
  | cons c s ih =>
    rw [List.flatMap_cons, List.flatMap_cons, ← ih]
    generalize s.flatMap write = rest
    rcases blocks c with ⟨e, same, differ⟩ | ⟨a', b', same, first, second⟩
    · rw [same, undo, if_neg (by simp)]
      exact Text.replace_front _ [d] [e] rest '%' [a, b] rfl (by simpa using Ne.symm differ)
    · rw [same, undo]
      split
      next equal =>
        rw [equal]
        exact Text.replace_mark _ [d] rest (by simp)
      next other =>
        have absent : ¬ ['%', a, b] <+: '%' :: ([a', b'] ++ rest) := by
          intro begins
          simp only [List.cons_append, List.nil_append, List.cons_prefix_cons] at begins
          exact other (by rw [begins.2.1, begins.2.2.1])
        have inner : '%' ∉ [a', b'] := by simp [Ne.symm first, Ne.symm second]
        rw [List.cons_append, Text.replace_copy _ [d] _ '%' absent,
          Text.replace_front _ [d] [a', b'] rest '%' [a, b] rfl inner]
        rfl

theorem IsBlock.undo {block : Text} (isBlock : IsBlock block) (code : Text) {d : Char}
    (differ : d ≠ '%') : IsBlock (undo code d block) := by
  unfold Report.undo
  split
  · exact .inl ⟨d, rfl, differ⟩
  · exact isBlock

theorem isBlock_escapeChar (c : Char) : IsBlock (escapeChar c) := by
  obtain ⟨ofPercent, ofReturn, ofFeed⟩ := isCode_escapes
  unfold escapeChar
  split
  · exact .inr ofPercent
  split
  · exact .inr ofReturn
  split
  · exact .inr ofFeed
  next percent _ _ => exact .inl ⟨c, rfl, percent⟩

/-- The code of a character is undone to that character, and by no other replacement. -/
theorem undo_escapeChar (c : Char) :
    undo "%25".toList '%' (undo "%0A".toList '\n' (undo "%0D".toList '\r' (escapeChar c))) =
      [c] := by
  by_cases percent : c = '%'
  · rw [percent]
    decide
  by_cases return_ : c = '\r'
  · rw [return_]
    decide
  by_cases feed : c = '\n'
  · rw [feed]
    decide
  simp [undo, escapeChar, percent, return_, feed]

theorem unescapeInTurn_escapeMessage (s : Text) : unescapeInTurn (escapeMessage s) = s := by
  obtain ⟨ofPercent, ofReturn, ofFeed⟩ := isCode_escapes
  have returns := fun c => (isBlock_escapeChar c).undo "%0D".toList (d := '\r') (by decide)
  have feeds := fun c => (returns c).undo "%0A".toList (d := '\n') (by decide)
  have first := replace_blocks ofReturn '\r' isBlock_escapeChar s
  have second := replace_blocks ofFeed '\n' returns s
  have third := replace_blocks ofPercent '%' feeds s
  rw [unescapeInTurn, escapeMessage, first, second, third]
  simp only [undo_escapeChar, List.flatMap_singleton']

/-- Escaping a message replaces the percent signs, then the carriage returns, then the line feeds. What
comes of it has no end of a line in it, and both ways to undo the escapes give the message back: one
pass from left to right, and replacing the escapes of the line ends before that of the percent sign. So
no two messages are escaped alike, whatever escapes they hold themselves. -/
theorem escapes_lose_nothing (s : Text) :
    escapeMessage s = escapeInTurn s ∧
      ('\r' ∉ escapeMessage s ∧ '\n' ∉ escapeMessage s) ∧
      unescape (escapeMessage s) = s ∧
      unescapeInTurn (escapeMessage s) = s ∧
      ∀ other, escapeMessage other = escapeMessage s → other = s := by
  refine ⟨escapeMessage_eq s, (escapeMessage_oneLine s).symm, unescape_escapeMessage s,
    unescapeInTurn_escapeMessage s, fun other same => ?_⟩
  calc other
    _ = unescape (escapeMessage other) := (unescape_escapeMessage other).symm
    _ = unescape (escapeMessage s) := by rw [same]
    _ = s := unescape_escapeMessage s

/-- Undoing the percent sign first would take what it leaves for another escape. -/
example : replace "%0A".toList ['\n'] (replace "%25".toList ['%'] (escapeMessage "%0A".toList)) =
    ['\n'] := by decide

end BemLint.Report
