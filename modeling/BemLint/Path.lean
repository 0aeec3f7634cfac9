import BemLint.Text.Basic

/-!
# Paths

A path is its root and the names after it. Repeated slashes and names that are a single dot carry
no meaning and are dropped when a path is read; two dots are kept, because a link before them may
lead elsewhere. Exactly two slashes at the front are a root of their own.
-/
namespace BemLint

/-- What a path starts from. -/
inductive PathRoot where
  | none
  | slash
  | doubleSlash
deriving DecidableEq, Repr

structure Path where
  root : PathRoot
  parts : List Text
deriving DecidableEq, Repr

namespace PathRoot

def text : PathRoot → Text
  | .none => []
  | .slash => ['/']
  | .doubleSlash => ['/', '/']

def ofText : Text → PathRoot
  | '/' :: '/' :: '/' :: _ => .slash
  | '/' :: '/' :: _ => .doubleSlash
  | '/' :: _ => .slash
  | _ => .none

end PathRoot

namespace Path

def names (s : Text) : List Text :=
  (Text.splitAt '/' s).filter fun name => !name.isEmpty && name ≠ ['.']

def ofText (s : Text) : Path := ⟨.ofText s, names s⟩

/-- A path as written; the path without root and names is a dot. -/
def text (p : Path) : Text :=
  if p.root = .none ∧ p.parts = [] then ['.'] else p.root.text ++ Text.join ['/'] p.parts

def isAbsolute (p : Path) : Bool := p.root ≠ .none

/-- Follow one path after another; an absolute path needs nothing before it. -/
def append (p q : Path) : Path := if q.isAbsolute then q else ⟨p.root, p.parts ++ q.parts⟩

def child (p : Path) (name : Text) : Path := ⟨p.root, p.parts ++ [name]⟩

def parent (p : Path) : Path := ⟨p.root, p.parts.dropLast⟩

def name (p : Path) : Text := p.parts.getLastD []

/-- The end of a name from its last dot on, empty when that dot is the first or last character. -/
def suffixOf (name : Text) : Text :=
  let extension := name.reverse.takeWhile (· ≠ '.')
  match extension, name.reverse.dropWhile (· ≠ '.') with
  | _ :: _, _ :: _ :: _ => '.' :: extension.reverse
  | _, _ => []

/-- What is left of a list of names after those of another at its front. -/
def namesAfter? : List Text → List Text → Option (List Text)
  | names, [] => some names
  | [], _ :: _ => none
  | n :: names, m :: others => if n = m then namesAfter? names others else none

/-- The way from a path to another below it. -/
def relativeTo? (p base : Path) : Option Path :=
  if p.root = base.root then (namesAfter? p.parts base.parts).map (Path.mk .none) else none

/-- The order of lists of names: by the first name that differs. -/
def namesLe : List Text → List Text → Bool
  | [], _ => true
  | _ :: _, [] => false
  | n :: names, m :: others => if n = m then namesLe names others else Text.le n m

end Path
end BemLint
