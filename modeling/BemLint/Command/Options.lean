import BemLint.Command.Error

/-!
# Options and arguments

Taking a command line apart. Options are known by their names; an option that takes a value finds
it after an equals sign or in the next word. What is neither an option nor its value is an
argument, and so is every word after two hyphens alone.
-/
namespace BemLint

inductive OptionSpec (α : Type) where
  | flag (names : List Text) (option : α)
  | valued (names : List Text) (option : Text → α)

structure Arguments (α : Type) where
  options : List α
  words : List Text
deriving Repr

namespace Arguments

def withOption {α : Type} (option : α) (a : Arguments α) : Arguments α :=
  { a with options := option :: a.options }

def withWord {α : Type} (word : Text) (a : Arguments α) : Arguments α :=
  { a with words := word :: a.words }

def isNamed {α : Type} (name : Text) : OptionSpec α → Bool
  | .flag names _ => names.contains name
  | .valued names _ => names.contains name

def flag? {α : Type} (specs : List (OptionSpec α)) (name : Text) : Option α :=
  match specs.find? (isNamed name) with
  | some (.flag _ option) => some option
  | _ => none

/-- Several flags of one letter each behind one hyphen. -/
def cluster {α : Type} (specs : List (OptionSpec α)) : Text → Except UsageError (List α)
  | [] => .ok []
  | c :: rest =>
    match flag? specs ['-', c] with
    | none => .error (.unknownOption ['-', c])
    | some option => (cluster specs rest).map (option :: ·)

/-- A word up to its first equals sign, and what follows that sign. -/
def splitValue (word : Text) : Text × Option Text :=
  match word.dropWhile (· ≠ '=') with
  | [] => (word, none)
  | _ :: value => (word.takeWhile (· ≠ '='), some value)

def looksLikeOption : Text → Bool
  | '-' :: _ :: _ => true
  | _ => false

def looksLong : Text → Bool
  | '-' :: '-' :: _ => true
  | _ => false

/-- Take a command line apart. Unless options may stand anywhere, the first argument ends them. -/
def parse {α : Type} (specs : List (OptionSpec α)) (anywhere : Bool) :
    List Text → Except UsageError (Arguments α)
  | [] => .ok ⟨[], []⟩
  | word :: rest =>
    if word = ['-', '-'] then .ok ⟨[], rest⟩
    else if !looksLikeOption word then
      if anywhere then (parse specs anywhere rest).map (withWord word) else .ok ⟨[], word :: rest⟩
    else
      let (name, value?) := splitValue word
      let long := if looksLong name then specs.find? (isNamed name) else none
      match long, value? with
      | some (.flag _ _), some _ => .error (.needlessValue name)
      | some (.flag _ option), none => (parse specs anywhere rest).map (withOption option)
      | some (.valued _ option), some value =>
        (parse specs anywhere rest).map (withOption (option value))
      | some (.valued _ option), none =>
        match rest with
        | [] => .error (.missingValue name)
        | value :: rest => (parse specs anywhere rest).map (withOption (option value))
      | none, _ =>
        if looksLong word then .error (.unknownOption name)
        else do
          let flags ← cluster specs (word.drop 1)
          let later ← parse specs anywhere rest
          return { later with options := flags ++ later.options }

end Arguments
end BemLint
