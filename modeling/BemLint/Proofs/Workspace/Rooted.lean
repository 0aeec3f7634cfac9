import BemLint.Proofs.Path.Written
import BemLint.Proofs.Workspace.Writing
import Mathlib.Data.List.Induction

/-!
# Trees of directories

A workspace in which every entry stands in a directory, the running directory among them. A look-up
then never leaves the directories before its last step: what it arrives at stands in a directory,
and the path without its last names leads to a directory as well.
-/
namespace BemLint

namespace Workspace

/-- Every entry stands in a directory, and the running directory is one. -/
structure IsRooted (w : Workspace) : Prop where
  home : w.node? w.home = some .directory
  above : ∀ e ∈ w.entries, w.node? e.1.dropLast = some .directory

instance (w : Workspace) : Decidable w.IsRooted :=
  decidable_of_iff (w.node? w.home = some .directory ∧
    ∀ e ∈ w.entries, w.node? e.1.dropLast = some .directory)
    ⟨fun ⟨a, b⟩ => ⟨a, b⟩, fun ⟨a, b⟩ => ⟨a, b⟩⟩

theorem node?_root (w : Workspace) : w.node? [] = some .directory := if_pos rfl

/-- What is at a place has an entry there, but for the root of all paths. -/
theorem exists_entry {w : Workspace} {at_ : Location} {node : Node} (below : at_ ≠ [])
    (there : w.node? at_ = some node) : (at_, node) ∈ w.entries := by
  rw [node?, if_neg below, Option.map_eq_some_iff] at there
  obtain ⟨⟨place, node'⟩, found, rfl⟩ := there
  obtain rfl : place = at_ := by simpa using List.find?_some found
  exact List.mem_of_find?_eq_some found

section Rooted

variable {w : Workspace}

theorem IsRooted.parent (rooted : w.IsRooted) {at_ : Location} {node : Node}
    (there : w.node? at_ = some node) : w.node? at_.dropLast = some .directory := by
  by_cases root : at_ = []
  · rw [root]
    exact w.node?_root
  · exact rooted.above _ (exists_entry root there)

theorem IsRooted.front (rooted : w.IsRooted) (at_ more : Location) {node : Node}
    (there : w.node? (at_ ++ more) = some node) (below : more ≠ []) :
    w.node? at_ = some .directory := by
  induction more using List.reverseRecOn generalizing node with
  | nil => exact absurd rfl below
  | append_singleton more name ih =>
    have parent := rooted.parent there
    rw [← List.append_assoc, List.dropLast_concat] at parent
    by_cases last : more = []
    · rw [last, List.append_nil] at parent
      exact parent
    · exact ih parent last

/-- Nothing is missing above the running directory. -/
theorem IsRooted.isAboveHome (rooted : w.IsRooted) {at_ : Location} (free : w.node? at_ = none) :
    w.isAboveHome at_ = false := by
  cases above : w.isAboveHome at_ with
  | false => rfl
  | true =>
    rw [Workspace.isAboveHome, Bool.and_eq_true, Option.isSome_iff_exists] at above
    obtain ⟨-, rest, after⟩ := above
    rw [Path.namesAfter?_iff] at after
    by_cases last : rest = []
    · rw [last, List.append_nil] at after
      rw [← after, rooted.home] at free
      cases free
    · rw [rooted.front at_ rest (after ▸ rooted.home) last] at free
      cases free

/-! ## Where a look-up arrives -/

theorem IsRooted.advance_arrived (rooted : w.IsRooted) {follow : Bool} {start place : Location}
    {todo : List Text} {node : Option Node} (directory : w.node? start = some .directory)
    (arrived : w.advance follow start todo = .arrived place node) :
    w.node? place = node ∧ w.node? place.dropLast = some .directory := by
  fun_induction advance w follow start todo with
  | case1 =>
    cases arrived
    exact ⟨directory, rooted.parent directory⟩
  | case2 _ _ ih => exact ih directory arrived
  | case3 _ _ _ ih => exact ih (rooted.parent directory) arrived
  | case4 | case6 | case9 | case12 => cases arrived
  | case5 start name rest _ _ _ next target there _ =>
    obtain ⟨rfl, rfl⟩ := Progress.arrived.inj arrived
    exact ⟨there, rooted.parent there⟩
  | case7 start name rest _ _ _ next there ih => exact ih there arrived
  | case8 start name rest _ _ _ next bytes there _ =>
    obtain ⟨rfl, rfl⟩ := Progress.arrived.inj arrived
    exact ⟨there, rooted.parent there⟩
  | case10 start name rest _ _ _ next free _ =>
    obtain ⟨rfl, rfl⟩ := Progress.arrived.inj arrived
    refine ⟨free, ?_⟩
    rw [show next.dropLast = start from List.dropLast_concat ..]
    exact directory
  | case11 start name rest _ _ _ next free _ above =>
    rw [rooted.isAboveHome free] at above
    cases above

theorem IsRooted.advance_link (rooted : w.IsRooted) {follow : Bool} {start place : Location}
    {todo rest : List Text} {target : Text} (directory : w.node? start = some .directory)
    (met : w.advance follow start todo = .link place target rest) :
    w.node? place = some .directory := by
  fun_induction advance w follow start todo with
  | case1 | case4 | case5 | case8 | case9 | case10 | case12 => cases met
  | case2 _ _ ih => exact ih directory met
  | case3 _ _ _ ih => exact ih (rooted.parent directory) met
  | case6 start name rest _ _ _ next target there _ =>
    cases met
    exact directory
  | case7 start name rest _ _ _ next there ih => exact ih there met
  | case11 start name rest _ _ _ next free _ above =>
    rw [rooted.isAboveHome free] at above
    cases above

/-- Links are followed, so nothing ends at one. -/
theorem advance_notLink (w : Workspace) (start place : Location) (todo : List Text)
    (target : Text) : w.advance true start todo ≠ .arrived place (some (.link target)) := by
  fun_induction advance w true start todo <;> simp_all

theorem walk_notLink (w : Workspace) (links : Nat) (start place : Location) (todo : List Text)
    (target : Text) : w.walk true links start todo ≠ .ok (place, some (.link target)) := by
  fun_induction walk w true links start todo with
  | case1 links start todo place' node arrived =>
    rintro ⟨⟩
    exact w.advance_notLink start place todo target arrived
  | case2 | case3 => simp
  | case4 start todo directory target' rest met links from_ ih => exact ih

/-- From where the steps of a link's target are taken. -/
theorem target_start (target : Text) {place : Location}
    (directory : w.node? place = some .directory) :
    w.node? (if PathRoot.ofText target = .none then place else []) = some .directory := by
  split
  next => exact directory
  next => exact w.node?_root

theorem IsRooted.walk_arrived (rooted : w.IsRooted) {follow : Bool} {links : Nat}
    {start place : Location} {todo : List Text} {node : Option Node}
    (directory : w.node? start = some .directory)
    (arrived : w.walk follow links start todo = .ok (place, node)) :
    w.node? place = node ∧ w.node? place.dropLast = some .directory := by
  fun_induction walk w follow links start todo with
  | case1 links start todo place' node' there =>
    cases arrived
    exact rooted.advance_arrived directory there
  | case2 | case3 => cases arrived
  | case4 start todo directory' target rest met links from_ ih =>
    exact ih (target_start target (rooted.advance_link directory met)) arrived

/-- The directory from which the steps of a path are taken. -/
def startOf (w : Workspace) (path : Text) : Location :=
  if PathRoot.ofText path = .none then w.home else []

theorem IsRooted.startOf (rooted : w.IsRooted) (path : Text) :
    w.node? (w.startOf path) = some .directory := by
  rw [Workspace.startOf]
  split
  next => exact rooted.home
  next => exact w.node?_root

theorem locate_ok_iff (w : Workspace) (follow : Bool) (path : Text)
    (found : Location × Option Node) :
    w.locate follow path = .ok found ↔ Char.ofNat 0 ∉ path ∧ byteLength path < pathLimit ∧
      path ≠ [] ∧ w.walk follow linkLimit (w.startOf path) (steps path) = .ok found := by
  rw [locate]
  split
  next null =>
    have null : Char.ofNat 0 ∈ path := by simpa using null
    simp [null]
  next clean =>
    have clean : Char.ofNat 0 ∉ path := by simpa using clean
    split
    next long => simp [Nat.not_lt.mpr long]
    next short =>
      split
      next empty => simp [List.isEmpty_iff.mp empty]
      next filled =>
        simp [clean, Nat.not_le.mp short, startOf, (List.isEmpty_iff (l := path)).not.mp filled]

theorem IsRooted.locate_arrived (rooted : w.IsRooted) {follow : Bool} {path : Text}
    {place : Location} {node : Option Node} (found : w.locate follow path = .ok (place, node)) :
    w.node? place = node ∧ w.node? place.dropLast = some .directory := by
  obtain ⟨-, -, -, walked⟩ := (w.locate_ok_iff follow path _).mp found
  exact rooted.walk_arrived (rooted.startOf path) walked

/-! ## The way to the last step -/

/-- Where the first steps end is a directory, or the look-up fails with the further steps; a link
that is met is met with them as well. -/
theorem IsRooted.advance_front (rooted : w.IsRooted) (follow : Bool) (start : Location)
    (todo : List Text) {more : List Text} (some : more ≠ []) :
    (∀ place node, w.advance true start todo = .arrived place node →
      node = Option.some .directory ∧
          w.advance follow start (todo ++ more) = w.advance follow place more ∨
        ∃ fault, w.advance follow start (todo ++ more) = .failed fault) ∧
    (∀ fault, w.advance true start todo = .failed fault →
      w.advance follow start (todo ++ more) = .failed fault) ∧
    ∀ place target rest, w.advance true start todo = .link place target rest →
      w.advance follow start (todo ++ more) = .link place target (rest ++ more) := by
  fun_induction advance w true start todo
  case case1 => exact ⟨fun _ _ arrived => by cases arrived; exact .inl ⟨rfl, rfl⟩, by simp, by simp⟩
  case case2 ih | case3 ih => simpa [advance] using ih
  case case4 start name rest noDot noDots long =>
    refine ⟨by simp, fun fault failed => ?_, by simp⟩
    simpa [advance, noDot, noDots, long] using failed
  case case5 none => simp at none
  case case6 start name rest noDot noDots short next target link _ =>
    refine ⟨by simp, by simp, ?_⟩
    rintro _ _ _ ⟨⟩
    have link : w.node? (start ++ [name]) = Option.some (.link target) := link
    simp [advance, noDot, noDots, short, link, some]
  case case7 start name rest noDot noDots short next there ih =>
    have there : w.node? (start ++ [name]) = Option.some .directory := there
    simpa [advance, noDot, noDots, short, there] using ih
  case case8 start name rest noDot noDots short next bytes there last =>
    have there : w.node? (start ++ [name]) = Option.some (.file bytes) := there
    refine ⟨fun _ _ _ => .inr ?_, by simp, by simp⟩
    simp [advance, noDot, noDots, short, there, some]
  case case9 start name rest noDot noDots short next bytes there more' =>
    have there : w.node? (start ++ [name]) = Option.some (.file bytes) := there
    refine ⟨by simp, fun fault failed => ?_, by simp⟩
    simpa [advance, noDot, noDots, short, there, some] using failed
  case case10 start name rest noDot noDots short next free last =>
    have below := rooted.isAboveHome free
    have free : w.node? (start ++ [name]) = none := free
    have below : w.isAboveHome (start ++ [name]) = false := below
    refine ⟨fun _ _ _ => .inr ?_, by simp, by simp⟩
    simp [advance, noDot, noDots, short, free, below, some]
  case case11 start name rest noDot noDots short next free more' above ih =>
    rw [rooted.isAboveHome free] at above
    cases above
  case case12 start name rest noDot noDots short next free more' below =>
    have free : w.node? (start ++ [name]) = none := free
    have below : w.isAboveHome (start ++ [name]) = false := by simpa using below
    refine ⟨by simp, fun fault failed => ?_, by simp⟩
    simpa [advance, noDot, noDots, short, free, below, some] using failed

/-- A look-up that succeeds has come to a directory before each of its last steps. -/
theorem IsRooted.walk_front (rooted : w.IsRooted) {follow : Bool} {links : Nat} {start : Location}
    {todo more : List Text} {found : Location × Option Node} (some : more ≠ [])
    (walked : w.walk follow links start (todo ++ more) = .ok found) :
    ∃ place, w.walk true links start todo = .ok (place, Option.some .directory) := by
  induction links generalizing start todo with
  | zero =>
    obtain ⟨arrived, failed, met⟩ := rooted.advance_front follow start todo some
    rw [walk] at walked ⊢
    cases first : w.advance true start todo with
    | arrived place node =>
      rcases arrived place node first with ⟨rfl, -⟩ | ⟨fault, stuck⟩
      · exact ⟨place, rfl⟩
      · rw [stuck] at walked
        cases walked
    | failed fault =>
      rw [failed fault first] at walked
      cases walked
    | link place target rest =>
      rw [met place target rest first] at walked
      cases walked
  | succ links ih =>
    obtain ⟨arrived, failed, met⟩ := rooted.advance_front follow start todo some
    rw [walk] at walked ⊢
    cases first : w.advance true start todo with
    | arrived place node =>
      rcases arrived place node first with ⟨rfl, -⟩ | ⟨fault, stuck⟩
      · exact ⟨place, rfl⟩
      · rw [stuck] at walked
        cases walked
    | failed fault =>
      rw [failed fault first] at walked
      cases walked
    | link place target rest =>
      rw [met place target rest first] at walked
      simp only [← List.append_assoc] at walked
      exact ih walked

/-- When a path can be looked up, the path of its first names leads to a directory. -/
theorem IsRooted.locate_front (rooted : w.IsRooted) {follow : Bool} {p : Path}
    (readable : p.Readable) {n : Nat} (less : n < p.parts.length)
    {found : Location × Option Node} (located : w.locate follow p.text = .ok found) :
    ∃ place, w.locate true (p.front n).text = .ok (place, some .directory) := by
  have named : p.parts ≠ [] := by
    rintro none
    simp [none] at less
  obtain ⟨clean, short, -, walked⟩ := (w.locate_ok_iff follow p.text found).mp located
  rw [steps_text readable, if_neg named, ← List.take_append_drop n p.parts] at walked
  obtain ⟨place, front⟩ := rooted.walk_front (by simpa using less) walked
  refine ⟨place, (w.locate_ok_iff true _ _).mpr ⟨fun null => clean ?_, ?_, ?_, ?_⟩⟩
  · rw [Path.null_mem_text_iff] at null ⊢
    obtain ⟨part, member, inside⟩ := null
    exact ⟨part, List.mem_of_mem_take member, inside⟩
  · exact Nat.lt_of_le_of_lt (byteLength_front readable n) short
  · exact (readable.front n).text_ne_nil
  · have start : w.startOf (p.front n).text = w.startOf p.text := by
      rw [Workspace.startOf, Workspace.startOf, readable.root_text, (readable.front n).root_text]
      rfl
    rw [start, steps_text (readable.front n)]
    split
    next none =>
      have none : p.parts.take n = [] := none
      rw [none] at front
      rw [walk] at front ⊢
      exact front
    next => exact front

/-! ## Putting something at a place -/

theorem node?_place_other (at_ place : Location) (node : Node) (other : place ≠ at_) :
    (w.place at_ node).node? place = w.node? place := by
  have kept : (w.entries.filter fun e => e.1 ≠ at_).find? (fun e => e.1 = place) =
      w.entries.find? fun e => e.1 = place := by
    rw [List.find?_filter]
    congr 1
    funext e
    by_cases same : e.1 = place <;> simp [same, other]
  have last : [(at_, node)].find? (fun e => e.1 = place) = none := by
    simpa using other.symm
  rw [node?, node?, Workspace.place, List.find?_append, kept, last, Option.or_none]

/-- In a directory, what is no directory itself can be replaced by anything. -/
theorem IsRooted.place (rooted : w.IsRooted) {at_ : Location} (node : Node)
    (parent : w.node? at_.dropLast = some .directory) (leaf : w.node? at_ ≠ some .directory) :
    (w.place at_ node).IsRooted := by
  have kept : ∀ place, w.node? place = some .directory →
      (w.place at_ node).node? place = some .directory := by
    intro place directory
    rw [node?_place_other at_ place node fun same => leaf (same ▸ directory), directory]
  refine ⟨kept w.home rooted.home, fun e member => kept _ ?_⟩
  rcases List.mem_append.mp member with old | new
  · exact rooted.above e (List.mem_filter.mp old).1
  · rw [List.mem_singleton.mp new]
    exact parent

section Written

variable {at_ : Location} (bytes : List UInt8)

/-- A look-up does not notice a file that is written at a place where there was a file or nothing,
unless it leads there. -/
theorem IsRooted.advance_place (rooted : w.IsRooted) (leaf : w.node? at_ ≠ some .directory)
    (plain : ∀ target, w.node? at_ ≠ some (.link target)) (start : Location)
    (directory : w.node? start = some .directory) (todo : List Text) :
    (∀ place node, w.advance true start todo = .arrived place node →
      (w.place at_ (.file bytes)).advance true start todo =
        .arrived place (if place = at_ then some (.file bytes) else node)) ∧
    ∀ place target rest, w.advance true start todo = .link place target rest →
      (w.place at_ (.file bytes)).advance true start todo = .link place target rest := by
  have here : (w.place at_ (.file bytes)).node? at_ = some (.file bytes) :=
    node?_place w at_ _ fun root => leaf (root ▸ w.node?_root)
  have there := fun place => node?_place_other (w := w) at_ place (.file bytes)
  fun_induction advance w true start todo with
  | case1 start =>
    refine ⟨fun place node arrived => ?_, by simp⟩
    have apart : start ≠ at_ := fun same => leaf (same ▸ directory)
    obtain ⟨rfl, rfl⟩ := Progress.arrived.inj arrived
    rw [advance, if_neg apart]
  | case2 start rest ih => simpa [advance] using ih directory
  | case3 start rest _ ih => simpa [advance] using ih (rooted.parent directory)
  | case4 | case9 | case12 => exact ⟨by simp, by simp⟩
  | case5 _ _ _ _ _ _ _ _ _ none => simp at none
  | case6 start name rest noDot noDots short next target link _ =>
    refine ⟨by simp, ?_⟩
    rintro _ _ _ ⟨⟩
    have kept := there next fun same => plain target (same ▸ link)
    rw [link] at kept
    have kept : (w.place at_ (.file bytes)).node? (start ++ [name]) = some (.link target) := kept
    simp [advance, noDot, noDots, short, kept]
  | case7 start name rest noDot noDots short next found ih =>
    have kept := there next fun same => leaf (same ▸ found)
    rw [found] at kept
    have kept : (w.place at_ (.file bytes)).node? (start ++ [name]) = some .directory := kept
    simpa [advance, noDot, noDots, short, kept] using ih found
  | case8 start name rest noDot noDots short next before found last =>
    refine ⟨fun place node arrived => ?_, by simp⟩
    obtain ⟨rfl, rfl⟩ := Progress.arrived.inj arrived
    by_cases same : next = at_
    · simp [advance, noDot, noDots, short, here, last, same, next]
    · have kept := there next same
      rw [found] at kept
      have kept : (w.place at_ (.file bytes)).node? (start ++ [name]) = some (.file before) := kept
      simp [advance, noDot, noDots, short, kept, last, same, next]
  | case10 start name rest noDot noDots short next free last =>
    refine ⟨fun place node arrived => ?_, by simp⟩
    obtain ⟨rfl, rfl⟩ := Progress.arrived.inj arrived
    by_cases same : next = at_
    · simp [advance, noDot, noDots, short, here, last, same, next]
    · have kept := there next same
      rw [free] at kept
      have kept : (w.place at_ (.file bytes)).node? (start ++ [name]) = none := kept
      simp [advance, noDot, noDots, short, kept, last, same, next]
  | case11 start name rest _ _ _ next free _ above =>
    rw [rooted.isAboveHome free] at above
    cases above

theorem IsRooted.walk_place (rooted : w.IsRooted) (leaf : w.node? at_ ≠ some .directory)
    (plain : ∀ target, w.node? at_ ≠ some (.link target)) {links : Nat} {start : Location}
    (directory : w.node? start = some .directory) {todo : List Text} {node : Option Node}
    (walked : w.walk true links start todo = .ok (at_, node)) :
    (w.place at_ (.file bytes)).walk true links start todo = .ok (at_, some (.file bytes)) := by
  have step := rooted.advance_place bytes leaf plain
  fun_induction walk w true links start todo with
  | case1 links start todo place node' arrived =>
    cases walked
    rw [walk, (step start directory todo).1 _ _ arrived, if_pos rfl]
  | case2 | case3 => cases walked
  | case4 start todo place target rest met links from_ ih =>
    have later := ih (target_start target (rooted.advance_link directory met)) walked
    rw [walk, (step start directory todo).2 _ _ _ met]
    exact later

/-- A file that is written is found where its path led. -/
theorem IsRooted.locate_place (rooted : w.IsRooted) {path : Text} {node : Option Node}
    (leaf : node ≠ some .directory) (located : w.locate true path = .ok (at_, node)) :
    (w.place at_ (.file bytes)).locate true path = .ok (at_, some (.file bytes)) := by
  obtain ⟨clean, short, filled, walked⟩ := (w.locate_ok_iff true path _).mp located
  obtain ⟨there, -⟩ := rooted.locate_arrived located
  rw [← there] at leaf
  have plain : ∀ target, w.node? at_ ≠ some (.link target) := by
    intro target link
    rw [there] at link
    subst link
    exact w.walk_notLink _ _ _ _ _ walked
  refine (locate_ok_iff _ true path _).mpr ⟨clean, short, filled, ?_⟩
  exact rooted.walk_place bytes leaf plain (rooted.startOf path) walked

end Written

end Rooted

end Workspace
end BemLint
