import BemLint.Text.CharClass

/-!
# Control sequences

The sequences that a terminal takes as commands: an escape character, a bracket, some numbers and
a letter. They are taken out of text that does not go to a terminal.
-/
namespace BemLint.Terminal

/-- A character between the bracket and the letter of a control sequence. -/
def isParameter (c : Char) : Bool := c = ';' || c = '?' || Text.isAsciiDigit c

def isAsciiLetter (c : Char) : Bool := ('a' ≤ c && c ≤ 'z') || ('A' ≤ c && c ≤ 'Z')

/-- The length of the control sequence at the front of a text. -/
def sequenceLength? : Text → Option Nat
  | c :: '[' :: rest =>
    let parameters := (rest.takeWhile isParameter).length
    match rest.drop parameters with
    | d :: _ => if c = Char.ofNat 27 && isAsciiLetter d then some (parameters + 3) else none
    | [] => none
  | _ => none

/-- Removal in progress: `skip` characters of a sequence are still to be passed over. -/
def dropSequencesFrom : (skip : Nat) → Text → Text
  | _, [] => []
  | skip + 1, _ :: rest => dropSequencesFrom skip rest
  | 0, c :: rest =>
    match sequenceLength? (c :: rest) with
    | some length => dropSequencesFrom (length - 1) rest
    | none => c :: dropSequencesFrom 0 rest

def dropSequences (s : Text) : Text := dropSequencesFrom 0 s

end BemLint.Terminal
