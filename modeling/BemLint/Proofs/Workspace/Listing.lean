import BemLint.Workspace.Basic
import Mathlib.Data.List.Nodup

/-!
# Directories and what they list

A look-up that leads to a directory goes on from there, one name at a time, with the links that it has
left. So the path of an entry leads to what the directory lists under its name, as long as the path is
not too long.
-/
namespace BemLint

namespace Path

theorem namesAfter?_iff (names front rest : List Text) :
    namesAfter? names front = some rest ↔ names = front ++ rest := by
  fun_induction namesAfter? names front <;> simp_all

end Path

namespace Workspace

/-- A name that an entry of a directory can have. -/
structure IsName (name : Text) : Prop where
  nonempty : name ≠ []
  noSlash : '/' ∉ name
  noNull : Char.ofNat 0 ∉ name
  notDot : name ≠ ['.']
  notDots : name ≠ ['.', '.']
  short : byteLength name ≤ nameLimit

instance (name : Text) : Decidable (IsName name) :=
  decidable_of_iff (name ≠ [] ∧ '/' ∉ name ∧ Char.ofNat 0 ∉ name ∧ name ≠ ['.'] ∧
    name ≠ ['.', '.'] ∧ byteLength name ≤ nameLimit)
    ⟨fun ⟨a, b, c, d, e, f⟩ => ⟨a, b, c, d, e, f⟩, fun ⟨a, b, c, d, e, f⟩ => ⟨a, b, c, d, e, f⟩⟩

/-- The entries of a workspace make a tree: one for each place, under names that can be. -/
structure IsTree (w : Workspace) : Prop where
  distinct : (w.entries.map (·.1)).Nodup
  named : ∀ e ∈ w.entries, ∀ name ∈ e.1, IsName name

instance (w : Workspace) : Decidable w.IsTree :=
  decidable_of_iff ((w.entries.map (·.1)).Nodup ∧
    ∀ e ∈ w.entries, ∀ name ∈ e.1, IsName name) ⟨fun ⟨a, b⟩ => ⟨a, b⟩, fun ⟨a, b⟩ => ⟨a, b⟩⟩

/-! ## Entries -/

theorem IsTree.node?_iff {w : Workspace} (tree : w.IsTree) (place : Location) (node : Node)
    (below : place ≠ []) : w.node? place = some node ↔ (place, node) ∈ w.entries := by
  rw [node?, if_neg below, Option.map_eq_some_iff]
  constructor
  · rintro ⟨⟨place', node'⟩, found, rfl⟩
    obtain rfl : place' = place := by simpa using List.find?_some found
    exact List.mem_of_find?_eq_some found
  · intro member
    cases found : w.entries.find? fun e => e.1 = place with
    | none => simpa using List.find?_eq_none.mp found _ member
    | some e =>
      have same : e.1 = place := by simpa using List.find?_some found
      have listed := List.mem_of_find?_eq_some found
      obtain rfl := List.inj_on_of_nodup_map tree.distinct listed member same
      exact ⟨_, rfl, rfl⟩

theorem IsTree.mem_list_iff {w : Workspace} (tree : w.IsTree) (directory : Location) (name : Text)
    (node : Node) :
    (name, node) ∈ w.list directory ↔ w.node? (directory ++ [name]) = some node := by
  rw [tree.node?_iff _ _ (by simp), list, List.mem_filterMap]
  constructor
  · rintro ⟨⟨place, node'⟩, member, named⟩
    split at named
    next rest after =>
      cases named
      rw [Path.namesAfter?_iff] at after
      exact after ▸ member
    next => cases named
  · intro member
    refine ⟨_, member, ?_⟩
    rw [(Path.namesAfter?_iff _ directory [name]).mpr rfl]

theorem IsTree.isName {w : Workspace} (tree : w.IsTree) {directory : Location} {name : Text}
    {node : Node} (there : w.node? (directory ++ [name]) = some node) : IsName name :=
  tree.named _ ((tree.node?_iff _ _ (by simp)).mp there) name (by simp)

/-! ## Going on from a directory -/

/-- Steps that lead to a directory are followed by further ones from there, and steps up to a link
leave the further ones for after it. -/
theorem advance_append (w : Workspace) (start : Location) (todo more : List Text) :
    (∀ place, w.advance true start todo = .arrived place (some .directory) →
      w.advance true start (todo ++ more) = w.advance true place more) ∧
    ∀ directory target rest, w.advance true start todo = .link directory target rest →
      w.advance true start (todo ++ more) = .link directory target (rest ++ more) := by
  fun_induction advance w true start todo
  case case1 => exact ⟨fun _ arrived => by cases arrived; rfl, nofun⟩
  case case2 ih | case3 ih => simpa [advance] using ih
  case case4 | case8 | case9 | case10 | case12 => exact ⟨nofun, nofun⟩
  case case5 none => simp at none
  case case6 start name rest noDot noDots short next target link _ =>
    refine ⟨nofun, ?_⟩
    rintro _ _ _ ⟨⟩
    have link : w.node? (start ++ [name]) = some (.link target) := link
    simp [advance, noDot, noDots, short, link]
  case case7 start name rest noDot noDots short next there ih =>
    have there : w.node? (start ++ [name]) = some .directory := there
    simpa [advance, noDot, noDots, short, there] using ih
  case case11 start name rest noDot noDots short next there filled above ih =>
    have there : w.node? (start ++ [name]) = none := there
    have above : w.isAboveHome (start ++ [name]) = true := above
    have filled : rest ≠ [] := by simpa using filled
    simpa [advance, noDot, noDots, short, there, above, filled] using ih

/-- A look-up that leads to a directory leaves some links for the steps after it. -/
theorem walk_append (w : Workspace) (links : Nat) (start place : Location) (todo : List Text)
    (arrived : w.walk true links start todo = .ok (place, some .directory)) :
    ∃ left, ∀ more, w.walk true links start (todo ++ more) = w.walk true left place more := by
  fun_induction walk w true links start todo with
  | case1 links start todo place' node there =>
    cases arrived
    refine ⟨links, fun more => ?_⟩
    rw [walk.eq_def, walk.eq_def w true links place]
    simp only [(advance_append w start todo more).1 place there]
  | case2 | case3 => cases arrived
  | case4 start todo directory target rest met links from_ ih =>
    obtain ⟨left, onwards⟩ := ih arrived
    refine ⟨left, fun more => ?_⟩
    rw [walk.eq_def]
    simp only [(advance_append w start todo more).2 _ _ _ met, ← onwards more, List.append_assoc]
    rfl

/-- One name after a directory leads to what is there, but for a link. -/
theorem walk_name (w : Workspace) (links : Nat) (directory : Location) (name : Text) (node : Node)
    (isName : IsName name) (there : w.node? (directory ++ [name]) = some node)
    (plain : ∀ target, node ≠ .link target) :
    w.walk true links directory [name] = .ok (directory ++ [name], some node) := by
  have short := Nat.not_lt.mpr isName.short
  have arrived : w.advance true directory [name] = .arrived (directory ++ [name]) (some node) := by
    cases node with
    | link target => exact absurd rfl (plain target)
    | directory | file => simp [advance, isName.notDot, isName.notDots, short, there]
  rw [walk.eq_def]
  simp only [arrived]

/-! ## Other lists of the same entries -/

theorem IsTree.perm {w : Workspace} (tree : w.IsTree) {entries : List (Location × Node)}
    (same : entries.Perm w.entries) : IsTree { w with entries := entries } where
  distinct := (same.map _).nodup_iff.mpr tree.distinct
  named := fun e member => tree.named e (same.mem_iff.mp member)

theorem IsTree.node?_perm {w : Workspace} (tree : w.IsTree) {entries : List (Location × Node)}
    (same : entries.Perm w.entries) (place : Location) :
    node? { w with entries := entries } place = w.node? place := by
  by_cases root : place = []
  · rw [root]
    rfl
  · ext node
    rw [(tree.perm same).node?_iff _ _ root, tree.node?_iff _ _ root, same.mem_iff]

/-- A look-up depends on nothing but what is at each place and on the running directory. -/
theorem advance_congr {w w' : Workspace} (home : w'.home = w.home) (nodes : w'.node? = w.node?)
    (follow : Bool) (start : Location) (todo : List Text) :
    w'.advance follow start todo = w.advance follow start todo := by
  have above : w'.isAboveHome = w.isAboveHome := by
    funext place
    rw [isAboveHome, isAboveHome, home]
  induction todo generalizing start with
  | nil => rw [advance, advance]
  | cons name rest ih => simp only [advance, nodes, above, ih]

theorem walk_congr {w w' : Workspace} (home : w'.home = w.home) (nodes : w'.node? = w.node?)
    (follow : Bool) (links : Nat) (start : Location) (todo : List Text) :
    w'.walk follow links start todo = w.walk follow links start todo := by
  induction links generalizing start todo with
  | zero => rw [walk, walk, advance_congr home nodes]
  | succ links ih =>
    rw [walk, walk, advance_congr home nodes]
    simp only [ih]

theorem locate_congr {w w' : Workspace} (home : w'.home = w.home) (nodes : w'.node? = w.node?)
    (follow : Bool) (path : Text) : w'.locate follow path = w.locate follow path := by
  rw [locate, locate, home]
  simp only [walk_congr home nodes]

theorem IsTree.locate_perm {w : Workspace} (tree : w.IsTree) {entries : List (Location × Node)}
    (same : entries.Perm w.entries) (follow : Bool) :
    locate { w with entries := entries } follow = w.locate follow := by
  have home : Workspace.home { w with entries := entries } = w.home := rfl
  have nodes : node? { w with entries := entries } = w.node? := funext (tree.node?_perm same)
  exact funext fun path => locate_congr home nodes follow path

theorem peek_directory_iff (w : Workspace) (p : Path) (top : Location) :
    w.peek p = .ok (some (top, .directory)) ↔ w.locate true p.text = .ok (top, some .directory) := by
  rw [peek, stat]
  cases found : w.locate true p.text with
  | error fault =>
    simp only [bind, Except.bind]
    cases absent : isAbsence fault <;> simp
  | ok place =>
    obtain ⟨place, _ | node⟩ := place
    · exact ⟨nofun, nofun⟩
    · constructor
      · intro there
        cases there
        rfl
      · intro there
        cases there
        rfl

/-! ## Bytes -/

theorem byteLength_append (s t : Text) : byteLength (s ++ t) = byteLength s + byteLength t := by
  simp [byteLength, Text.Utf8.encode]

theorem length_le_byteLength (s : Text) : s.length ≤ byteLength s := by
  induction s with
  | nil => exact Nat.zero_le _
  | cons c s ih =>
    have one : 1 ≤ byteLength [c] := by
      simp only [byteLength, Text.Utf8.encode, List.flatMap_cons, List.flatMap_nil,
        List.append_nil, Text.Utf8.encodeChar]
      split_ifs <;> simp
    have both := byteLength_append [c] s
    rw [List.singleton_append] at both
    rw [both, List.length_cons]
    omega

end Workspace
end BemLint
