import BemLint.Proofs.Workspace.Rooted
import BemLint.Workspace.Resolve

/-!
# Paths without links

A path that goes through directories only, each under its own name, means the same whether it is
looked up or read as it is written. What is behind one more name is found without following
anything.
-/
namespace BemLint

namespace Path

theorem child_parent (p : Path) (name : Text) : (p.child name).parent = p := by
  rw [parent, child, List.dropLast_concat]

theorem child_injective {p q : Path} {name other : Text} (same : p.child name = q.child other) :
    p = q ∧ name = other := by
  obtain ⟨start, parts⟩ := p
  obtain ⟨start', parts'⟩ := q
  simp only [child, mk.injEq] at same
  obtain ⟨rfl, parts⟩ := same
  obtain ⟨rfl, last⟩ := List.append_inj' parts rfl
  exact ⟨rfl, (List.cons.inj last).1⟩

theorem dropDots_concat (names : List Text) (name : Text) :
    dropDots (names ++ [name]) =
      if name = ['.'] then dropDots names
      else if name = ['.', '.'] then (dropDots names).dropLast else dropDots names ++ [name] := by
  simp only [dropDots, List.foldl_append, List.foldl_cons, List.foldl_nil]

/-- Names without dots stay as they are. -/
theorem dropDots_self (names : List Text)
    (plain : ∀ name ∈ names, name ≠ ['.'] ∧ name ≠ ['.', '.']) : dropDots names = names := by
  induction names using List.reverseRecOn with
  | nil => rfl
  | append_singleton names name ih =>
    have last := plain name (by simp)
    rw [dropDots_concat, if_neg last.1, if_neg last.2,
      ih fun other member => plain other (by simp [member])]

end Path

def Node.isLink : Node → Bool
  | .link _ => true
  | .directory | .file _ => false

namespace Workspace

/-- A path that goes through directories only, below the root of all paths or the running directory,
where it can begin with dots that lead up; and the directory that it leads to. -/
inductive Straight (w : Workspace) : Path → Location → Prop where
  | root : Straight w ⟨.slash, []⟩ []
  | home : Straight w ⟨.none, []⟩ w.home
  | up {p : Path} {at_ : Location} (straight : Straight w p at_) (relative : p.root = .none)
      (dots : ∀ name ∈ p.parts, name = ['.', '.']) : Straight w (p.child ['.', '.']) at_.dropLast
  | down {p : Path} {at_ : Location} {name : Text} (straight : Straight w p at_)
      (isName : IsName name) (there : w.node? (at_ ++ [name]) = some .directory) :
      Straight w (p.child name) (at_ ++ [name])

/-- A path without links that leads to something: to a directory, or to a file in one. -/
inductive Ends (w : Workspace) : Path → Location → Node → Prop where
  | directory {p : Path} {at_ : Location} (straight : Straight w p at_) : Ends w p at_ .directory
  | file {p : Path} {at_ : Location} {name : Text} {bytes : List UInt8}
      (straight : Straight w p at_) (isName : IsName name)
      (there : w.node? (at_ ++ [name]) = some (.file bytes)) :
      Ends w (p.child name) (at_ ++ [name]) (.file bytes)

section Straight

variable {w : Workspace} {p : Path} {at_ : Location}

theorem Straight.directory (straight : Straight w p at_) (rooted : w.IsRooted) :
    w.node? at_ = some .directory := by
  induction straight with
  | root => exact w.node?_root
  | home => exact rooted.home
  | up _ _ _ ih => exact rooted.parent ih
  | down _ _ there _ => exact there

theorem Straight.named (straight : Straight w p at_) :
    ∀ name ∈ p.parts, IsName name ∨ name = ['.', '.'] := by
  induction straight with
  | root | home => simp
  | up _ _ _ ih =>
    intro name member
    rcases List.mem_append.mp member with member | last
    · exact ih name member
    · exact .inr (List.mem_singleton.mp last)
  | down _ isName _ ih =>
    intro name member
    rcases List.mem_append.mp member with member | last
    · exact ih name member
    · exact .inl (List.mem_singleton.mp last ▸ isName)

theorem readable_of_named (named : ∀ name ∈ p.parts, IsName name ∨ name = ['.', '.']) :
    p.Readable := by
  intro name member
  rcases named name member with isName | rfl
  · exact ⟨isName.nonempty, isName.notDot, isName.noSlash⟩
  · decide

theorem Straight.named_child (straight : Straight w p at_) {name : Text} (isName : IsName name) :
    ∀ other ∈ (p.child name).parts, IsName other ∨ other = ['.', '.'] := by
  intro other member
  rcases List.mem_append.mp member with member | last
  · exact straight.named other member
  · exact .inl (List.mem_singleton.mp last ▸ isName)

/-- The path above leads to the directory above. -/
theorem Straight.above (straight : Straight w p at_) : Straight w p.above at_.dropLast := by
  cases straight with
  | root => exact .root
  | home => exact .up .home rfl (by simp)
  | @up p at_ straight relative dots =>
    have again : (p.child ['.', '.']).above = (p.child ['.', '.']).child ['.', '.'] := by
      simp [Path.above, Path.isAbsolute, Path.child, Path.name, relative]
    rw [again]
    refine .up (.up straight relative dots) relative fun name member => ?_
    rcases List.mem_append.mp member with member | last
    · exact dots name member
    · exact List.mem_singleton.mp last
  | @down p at_ name straight isName there =>
    have parent : (p.child name).above = p := by
      have filled : (p.child name).parts.isEmpty = false := by simp [Path.child]
      have last : (p.child name).name = name := by simp [Path.child, Path.name]
      rw [Path.above, filled, last, Path.child_parent]
      simp [isName.notDots]
    rw [parent, List.dropLast_concat]
    exact straight

/-! ## As it is written -/

theorem absolute_child (w : Workspace) (p : Path) (name : Text) :
    w.absolute (p.child name) = (w.absolute p).child name := by
  have same : (p.child name).isAbsolute = p.isAbsolute := rfl
  rw [absolute, absolute, Path.append, Path.append, same]
  split
  next => rfl
  next => simp [Path.child]

theorem IsTree.named_place {w : Workspace} (tree : w.IsTree) {place : Location} {node : Node}
    (there : w.node? place = some node) : ∀ name ∈ place, IsName name := by
  by_cases root : place = []
  · simp [root]
  · exact tree.named _ ((tree.node?_iff _ _ root).mp there)

/-- Where a path leads when no link is followed. -/
def writtenPlace (w : Workspace) (p : Path) : Location := Path.dropDots (w.absolute p).parts

theorem writtenPlace_child {name : Text} (isName : IsName name) (w : Workspace) (p : Path) :
    w.writtenPlace (p.child name) = w.writtenPlace p ++ [name] := by
  rw [writtenPlace, absolute_child, Path.child, Path.dropDots_concat, if_neg isName.notDot,
    if_neg isName.notDots]
  rfl

/-- A path without links leads where it is written to lead. -/
theorem Straight.written (straight : Straight w p at_) (tree : w.IsTree) (rooted : w.IsRooted) :
    (w.absolute p).root = .slash ∧ w.writtenPlace p = at_ := by
  induction straight with
  | root => exact ⟨rfl, rfl⟩
  | home =>
    refine ⟨rfl, ?_⟩
    change Path.dropDots (w.home ++ []) = w.home
    rw [List.append_nil]
    refine Path.dropDots_self w.home fun name member => ?_
    have isName := tree.named_place rooted.home name member
    exact ⟨isName.notDot, isName.notDots⟩
  | @up p _ _ _ _ ih =>
    have last : w.writtenPlace (p.child ['.', '.']) = (w.writtenPlace p).dropLast := by
      rw [writtenPlace, absolute_child, Path.child, Path.dropDots_concat]
      rfl
    rw [last, ih.2, absolute_child]
    exact ⟨ih.1, rfl⟩
  | down _ isName _ ih =>
    rw [writtenPlace_child isName, ih.2, absolute_child]
    exact ⟨ih.1, rfl⟩

theorem Straight.written_child (straight : Straight w p at_) {name : Text} (isName : IsName name)
    (tree : w.IsTree) (rooted : w.IsRooted) : w.writtenPlace (p.child name) = at_ ++ [name] := by
  rw [writtenPlace_child isName, (straight.written tree rooted).2]

theorem Ends.written {node : Node} (ends : Ends w p at_ node) (tree : w.IsTree)
    (rooted : w.IsRooted) : (w.absolute p).root = .slash ∧ w.writtenPlace p = at_ := by
  cases ends with
  | directory straight => exact straight.written tree rooted
  | file straight isName there =>
    rw [straight.written_child isName tree rooted, absolute_child]
    exact ⟨(straight.written tree rooted).1, rfl⟩

/-- A path without links leads to one directory. -/
theorem Straight.unique (straight : Straight w p at_) {other : Location}
    (again : Straight w p other) (tree : w.IsTree) (rooted : w.IsRooted) : at_ = other := by
  rw [← (straight.written tree rooted).2, (again.written tree rooted).2]

/-- The path of a directory from the root of all paths has no links. -/
theorem straight_place (tree : w.IsTree) (rooted : w.IsRooted) (place : Location)
    (there : w.node? place = some .directory) : Straight w ⟨.slash, place⟩ place := by
  induction place using List.reverseRecOn with
  | nil => exact .root
  | append_singleton place name ih =>
    have parent := rooted.front place [name] there (by simp)
    exact .down (ih parent) (tree.isName there) there

/-! ## As it is looked up -/

/-- From where the names after a root are looked up. -/
def rootPlace (w : Workspace) : PathRoot → Location
  | .none => w.home
  | .slash | .doubleSlash => []

theorem startOf_text (readable : p.Readable) : w.startOf p.text = w.rootPlace p.root := by
  rw [startOf, readable.root_text]
  cases p.root <;> rfl

theorem Straight.advance (straight : Straight w p at_) (follow : Bool) (more : List Text) :
    w.advance follow (w.rootPlace p.root) (p.parts ++ more) = w.advance follow at_ more := by
  induction straight generalizing more with
  | root | home => rfl
  | @up p at_ _ _ _ ih =>
    change w.advance follow (w.rootPlace p.root) ((p.parts ++ [['.', '.']]) ++ more) = _
    rw [List.append_assoc, ih]
    simp [Workspace.advance]
  | @down p at_ name _ isName there ih =>
    have short := Nat.not_lt.mpr isName.short
    change w.advance follow (w.rootPlace p.root) ((p.parts ++ [name]) ++ more) = _
    rw [List.append_assoc, ih]
    simp [Workspace.advance, isName.notDot, isName.notDots, short, there]

/-- Steps that get as far by themselves get as far with links. -/
theorem walk_of_advance {follow : Bool} {start start' : Location} {todo todo' : List Text}
    (same : w.advance follow start todo = w.advance follow start' todo') (links : Nat) :
    w.walk follow links start todo = w.walk follow links start' todo' := by
  cases links <;> rw [walk, walk, same]

/-- A path that can be looked up takes its names as its steps. -/
theorem locate_readable (readable : p.Readable) (clean : Char.ofNat 0 ∉ p.text)
    (short : byteLength p.text < pathLimit) (follow : Bool) :
    w.locate follow p.text = w.walk follow linkLimit (w.rootPlace p.root) p.parts := by
  rw [locate, if_neg (by simpa using clean), if_neg (Nat.not_le.mpr short),
    if_neg (by simpa using readable.text_ne_nil)]
  change w.walk follow linkLimit (w.startOf p.text) (steps p.text) = _
  rw [startOf_text readable, steps_text readable]
  split
  next none =>
    rw [none]
    exact walk_of_advance rfl linkLimit
  next => rfl

theorem locate_readable_ok (readable : p.Readable) {follow : Bool}
    {found : Location × Option Node} (located : w.locate follow p.text = .ok found) :
    Char.ofNat 0 ∉ p.text ∧ byteLength p.text < pathLimit ∧
      w.walk follow linkLimit (w.rootPlace p.root) p.parts = .ok found := by
  obtain ⟨clean, short, -, -⟩ := (w.locate_ok_iff follow p.text found).mp located
  exact ⟨clean, short, locate_readable readable clean short follow ▸ located⟩

theorem notNull_of_named (named : ∀ name ∈ p.parts, IsName name ∨ name = ['.', '.']) :
    Char.ofNat 0 ∉ p.text := by
  rw [Path.null_mem_text_iff]
  rintro ⟨part, member, null⟩
  rcases named part member with isName | rfl
  · exact isName.noNull null
  · exact absurd null (by decide)

/-- What is behind one more name is looked up in the directory, unless the path is too long. -/
theorem Straight.locate_child (straight : Straight w p at_) {name : Text} (isName : IsName name)
    (follow : Bool) (short : byteLength (p.child name).text < pathLimit) :
    w.locate follow (p.child name).text = w.walk follow linkLimit at_ [name] := by
  have named := straight.named_child isName
  rw [locate_readable (readable_of_named named) (notNull_of_named named) short]
  exact walk_of_advance (straight.advance follow [name]) linkLimit

/-- A link is found at a path just where there is one, unless the path is too long. -/
theorem Straight.linkAt?_child (straight : Straight w p at_) {name : Text} (isName : IsName name)
    (short : byteLength (p.child name).text < pathLimit) (target : Text) :
    w.linkAt? (p.child name) = some target ↔ w.node? (at_ ++ [name]) = some (.link target) := by
  have small := Nat.not_lt.mpr isName.short
  rw [linkAt?, straight.locate_child isName false short, walk]
  simp only [Workspace.advance, isName.notDot, isName.notDots, small, if_false]
  rcases w.node? (at_ ++ [name]) with _ | _ | _ | _ <;> simp

/-- No link is found where there is none. -/
theorem Straight.linkAt?_none (straight : Straight w p at_) {name : Text} (isName : IsName name)
    (plain : ∀ target, w.node? (at_ ++ [name]) ≠ some (.link target)) :
    w.linkAt? (p.child name) = none := by
  by_cases short : byteLength (p.child name).text < pathLimit
  · rw [Option.eq_none_iff_forall_ne_some]
    intro target found
    exact plain target ((straight.linkAt?_child isName short target).mp found)
  · rw [linkAt?]
    split
    next found =>
      have found := (w.locate_ok_iff false _ _).mp found
      exact absurd found.2.1 short
    next => rfl

end Straight

end Workspace
end BemLint
