import BemLint.Text.Basic
import BemLint.Text.Table.Case

/-!
# Letter case

The full lower-case form of a text, and the comparison of single characters without regard to
case. Two characters have a lower-case form that depends on more than themselves: the dotted
capital I becomes two characters, and a capital sigma becomes the final sigma where a word ends.
-/
namespace BemLint.Text
open Table

/-- Whether a code point is one of the run's upper-case characters. -/
def Table.CaseRun.covers (run : CaseRun) (n : Nat) : Bool :=
  run.first ≤ n && n ≤ run.last && (n - run.first) % run.step == 0

/-- The single lower-case form of a code point, itself if it has none. -/
def lowerCode (n : Nat) : Nat :=
  match lowerRuns.find? (·.covers n) with
  | some run => n + run.rise - run.fall
  | none => n

def lowerChar (c : Char) : Char := Char.ofNat (lowerCode c.toNat)

/-- Whether the nearest character that the search for a letter does not pass over is a letter
with case. -/
def meetsCased (s : Text) : Bool :=
  match s.dropWhile fun c => inside caseIgnorable c.toNat with
  | [] => false
  | c :: _ => inside cased c.toNat

/-- A capital sigma ends a word when a letter comes before it and none after it. -/
def lowerSigma (before after : Text) : Char :=
  if meetsCased before && !meetsCased after then 'ς' else 'σ'

/-- Lower case of what follows the characters `before`, nearest first. -/
def lowerFrom (before : Text) : Text → Text
  | [] => []
  | c :: rest =>
    let here :=
      if c.toNat = 0x3A3 then [lowerSigma before rest]
      else if c.toNat = 0x130 then ['i', Char.ofNat 0x307]
      else [lowerChar c]
    here ++ lowerFrom (c :: before) rest

/-- The full lower-case form of a text. -/
def toLower (s : Text) : Text := lowerFrom [] s

/-- The upper-case form of a character as far as it consists of ASCII letters; any other
character stays as it is. This is upper case enough to compare with a text in ASCII. -/
def upperAscii (c : Char) : Text :=
  match c.toNat with
  | 0xDF => ['S', 'S']
  | 0x131 => ['I']
  | 0x17F => ['S']
  | 0xFB00 => ['F', 'F']
  | 0xFB01 => ['F', 'I']
  | 0xFB02 => ['F', 'L']
  | 0xFB03 => ['F', 'F', 'I']
  | 0xFB04 => ['F', 'F', 'L']
  | 0xFB05 => ['S', 'T']
  | 0xFB06 => ['S', 'T']
  | _ => [c.toUpper]

/-- The code points whose single lower-case form is the given one, other than itself. -/
def upperForms (n : Nat) : List Nat :=
  lowerRuns.filterMap fun run =>
    let source := n + run.fall - run.rise
    if run.rise ≤ n + run.fall && run.covers source then some source else none

/-- The code points that share an upper-case form with a lower-case one, other than itself. -/
def peers (n : Nat) : List Nat :=
  match sharedUpper.find? (·.1 == n) with
  | some (_, others) => others
  | none => []

def lowerAsciiCode (n : Nat) : Nat := if 65 ≤ n && n ≤ 90 then n + 32 else n

end BemLint.Text
