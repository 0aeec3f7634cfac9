import BemLint.Discovery
import BemLint.Proofs.Path.Names
import BemLint.Proofs.Path.Order
import BemLint.Proofs.Results
import BemLint.Proofs.Workspace.Listing
import Mathlib.Data.List.Sort

/-!
# Which files are discovered

Below a directory exactly the eligible files are found, each once and in the order of their paths,
whatever the order in which directories list their entries. A file is eligible by the names on the way
to it and by its own name; the name of the directory itself plays no part. The walk opens every
directory by the path that leads to it, so nothing is found below a directory whose path is too long.
Where the directories that it opens lie deeper in each other than it can go, it fails.
-/
namespace BemLint.Discovery
open Workspace (byteLength pathLimit IsName)

/-- The walk comes to a directory and opens it. It starts at a directory that a path leads to, and
goes on by names. -/
structure Reached (w : Workspace) (excluded : List Text) (path : Text) (top : Location)
    (directories : List Text) : Prop where
  /-- The names lead through directories that are no links. -/
  real : ∀ front, front ≠ [] → front <+: directories → w.node? (top ++ front) = some .directory
  entered : ∀ d ∈ directories, d ∉ excluded ∧ d.head? ≠ some '.'
  /-- The last directory can be opened by its path. -/
  opened : byteLength (directories.foldl entryPath path) < pathLimit

/-- A file below a directory that is wanted. The directory is opened by a path, which leads to a
place; the file is reached by names of directories and its own name. -/
structure Eligible (w : Workspace) (f : Filter) (path : Text) (top : Location)
    (directories : List Text) (name : Text) : Prop
    extends Reached w f.excludedDirectories path top directories where
  /-- The name is that of an entry other than a directory. -/
  entry : ∃ node, w.node? (top ++ directories ++ [name]) = some node ∧ node ≠ .directory
  /-- Nor does its path lead to one. -/
  elsewhere : ∀ place, w.locate true ((directories ++ [name]).foldl entryPath path) ≠
    .ok (place, some .directory)
  visible : name.head? ≠ some '.'
  wanted : ∃ s, Path.SuffixIs name s ∧ Text.toLower s ∈ f.extensions.map Text.toLower

/-- An entry at which the walk would go on: a directory or a link to one. -/
structure Onward (w : Workspace) (f : Filter) (path : Text) (top : Location)
    (directories : List Text) (name : Text) : Prop
    extends Reached w f.excludedDirectories path top directories where
  entry : ∃ node, w.node? (top ++ directories ++ [name]) = some node ∧ (node = .directory ∨
    ∃ place, w.locate true ((directories ++ [name]).foldl entryPath path) =
      .ok (place, some .directory))
  permitted : name ∉ f.excludedDirectories ∧ name.head? ≠ some '.'

/-- The walk would go on from a directory that is as deep as it can go. -/
def IsTooDeep (w : Workspace) (f : Filter) (path : Text) (top : Location) (depth : Nat) : Prop :=
  ∃ directories name, directories.length = depth ∧ Onward w f path top directories name

/-! ## Names -/

theorem isHidden_eq_false_iff (name : Text) : isHidden name = false ↔ name.head? ≠ some '.' := by
  cases name <;> simp [isHidden, Text.startsWith]

theorem enters_iff (f : Filter) (name : Text) :
    f.enters name = true ↔ name ∉ f.excludedDirectories ∧ name.head? ≠ some '.' := by
  rw [Filter.enters, Bool.and_eq_true, Bool.not_eq_true', Bool.not_eq_true',
    isHidden_eq_false_iff]
  simp

theorem wants_iff (f : Filter) (name : Text) :
    f.wants name = true ↔ name.head? ≠ some '.' ∧
      ∃ s, Path.SuffixIs name s ∧ Text.toLower s ∈ f.extensions.map Text.toLower := by
  rw [Filter.wants, Bool.and_eq_true, Bool.not_eq_true', isHidden_eq_false_iff]
  simp [Path.suffixIs_iff]

/-! ## Paths of entries -/

/-- A path that leads to a directory and ends in a slash only at a root. -/
structure Opens (w : Workspace) (path : Text) (at_ : Location) : Prop where
  found : w.locate true path = .ok (at_, some .directory)
  slashes : path.getLast? = some '/' → ∀ c ∈ path, c = '/'

theorem ofText_none_iff (s : Text) : PathRoot.ofText s = .none ↔ s.head? ≠ some '/' := by
  cases s with
  | nil => simp [PathRoot.ofText]
  | cons c rest =>
    unfold PathRoot.ofText
    split <;> simp_all

theorem head?_entryPath (path name : Text) (some : path ≠ []) :
    (entryPath path name).head? = path.head? := by
  obtain ⟨c, rest, rfl⟩ := List.exists_cons_of_ne_nil some
  rw [entryPath]
  split <;> rfl

theorem getLast?_entryPath (path name : Text) (isName : IsName name) :
    (entryPath path name).getLast? ≠ Option.some '/' := by
  have last : ∀ front : Text, (front ++ name).getLast? = some (name.getLast isName.nonempty) := by
    intro front
    rw [List.getLast?_append, List.getLast?_eq_some_getLast isName.nonempty, Option.some_or]
  have other : name.getLast isName.nonempty ≠ '/' := fun same =>
    isName.noSlash (same ▸ List.getLast_mem isName.nonempty)
  have longer := last (path ++ ['/'])
  rw [List.append_assoc, List.singleton_append] at longer
  rw [entryPath]
  split
  · rw [last]
    simpa using other
  · rw [longer]
    simpa using other

/-- The steps of a path, when those to its end count for nothing where it is a root. -/
theorem steps_slashes {path : Text} (slashes : ∀ c ∈ path, c = '/') (name : Text)
    (solid : '/' ∉ name) :
    (Text.splitAt '/' (path ++ name)).filter (fun name => !name.isEmpty) =
      [name].filter fun name => !name.isEmpty := by
  induction path with
  | nil => rw [List.nil_append, Text.splitAt_absent '/' name solid]
  | cons c path ih =>
    obtain rfl := slashes c (by simp)
    have rest := ih fun c member => slashes c (by simp [member])
    simpa [Text.splitAt] using rest

/-- The steps of a path that does not end in a slash. -/
theorem steps_of_last {path : Text} (last : path.getLast? ≠ some '/') :
    Workspace.steps path = (Text.splitAt '/' path).filter fun name => !name.isEmpty := by
  rw [Workspace.steps]
  split
  next same => exact absurd same last
  next => rfl

/-- The steps to an entry are those to its directory and its name; a root has none of its own. -/
theorem steps_entryPath {path name : Text} (isName : IsName name)
    (slashes : path.getLast? = Option.some '/' → ∀ c ∈ path, c = '/') :
    ∃ front, Workspace.steps (entryPath path name) = front ++ [name] ∧
      (Workspace.steps path = front ∨ Workspace.steps path = ['.'] :: front ∧ front = []) := by
  have filled : (!name.isEmpty) = true := by simpa using isName.nonempty
  rw [steps_of_last (getLast?_entryPath path name isName), entryPath]
  split
  next slash =>
    refine ⟨[], ?_, .inr ⟨?_, rfl⟩⟩
    · rw [steps_slashes (slashes slash) name isName.noSlash]
      simp [isName.nonempty]
    · have none := steps_slashes (slashes slash) [] (by simp)
      rw [List.append_nil] at none
      simp [Workspace.steps, slash, none]
  next solid =>
    refine ⟨Workspace.steps path, ?_, .inl rfl⟩
    rw [Text.splitAt_sep, Text.splitAt_absent '/' name isName.noSlash, List.filter_append,
      steps_of_last solid]
    simp [isName.nonempty]

/-- The directory from which the steps of a path are taken. -/
def startOf (w : Workspace) (path : Text) : Location :=
  if PathRoot.ofText path = .none then w.home else []

theorem startOf_entryPath (w : Workspace) (path name : Text) (some : path ≠ []) :
    startOf w (entryPath path name) = startOf w path := by
  have same := head?_entryPath path name some
  simp only [startOf, ofText_none_iff, same]

theorem locate_eq {w : Workspace} {path : Text} (some : path ≠ []) (clean : Char.ofNat 0 ∉ path) :
    w.locate true path = if pathLimit ≤ byteLength path then .error .nameTooLong
      else w.walk true Workspace.linkLimit (startOf w path) (Workspace.steps path) := by
  have filled : ¬path.isEmpty = true := by simpa using some
  rw [Workspace.locate, if_neg (by simpa using clean), if_neg filled]
  rfl

theorem Opens.walk_eq {w : Workspace} {path : Text} {at_ : Location} (opens : Opens w path at_) :
    path ≠ [] ∧ Char.ofNat 0 ∉ path ∧ byteLength path < pathLimit ∧
      w.walk true Workspace.linkLimit (startOf w path) (Workspace.steps path) =
        .ok (at_, some .directory) := by
  have found := opens.found
  rw [Workspace.locate] at found
  split at found
  next => cases found
  split at found
  next => cases found
  split at found
  next => cases found
  next clean short filled =>
    exact ⟨by simpa using filled, by simpa using clean, Nat.not_le.mp short, found⟩

/-- The path of an entry leads on from the directory, unless it is too long. -/
theorem Opens.locate_entry {w : Workspace} {path : Text} {at_ : Location} (opens : Opens w path at_)
    {name : Text} (isName : IsName name) :
    ∃ left, w.locate true (entryPath path name) =
      if pathLimit ≤ byteLength (entryPath path name) then .error .nameTooLong
      else w.walk true left at_ [name] := by
  obtain ⟨some, clean, -, found⟩ := opens.walk_eq
  have longer : entryPath path name ≠ [] := by
    rw [entryPath]
    split <;> simp [some]
  have clean : Char.ofNat 0 ∉ entryPath path name := by
    have solid := isName.noNull
    rw [entryPath]
    split <;> simp_all
  obtain ⟨front, steps, same⟩ := steps_entryPath isName opens.slashes
  have arrived : w.walk true Workspace.linkLimit (startOf w path) front =
      .ok (at_, Option.some .directory) := by
    rcases same with same | ⟨same, rfl⟩
    · exact same ▸ found
    · rw [same, Workspace.walk] at found
      exact found
  obtain ⟨left, onwards⟩ := Workspace.walk_append w _ _ _ _ arrived
  refine ⟨left, ?_⟩
  rw [locate_eq longer clean, startOf_entryPath w path name some, steps, onwards]

variable {w : Workspace} {f : Filter} {path : Text} {at_ : Location}

/-- A directory in another is opened by its path, unless that is too long. -/
theorem Opens.entry (opens : Opens w path at_) (tree : w.IsTree) {name : Text}
    (there : w.node? (at_ ++ [name]) = some .directory)
    (short : byteLength (entryPath path name) < pathLimit) :
    Opens w (entryPath path name) (at_ ++ [name]) := by
  have isName := tree.isName there
  obtain ⟨left, found⟩ := opens.locate_entry isName
  rw [if_neg (Nat.not_le.mpr short), Workspace.walk_name w left at_ name _ isName there nofun] at found
  exact ⟨found, fun slash => absurd slash (getLast?_entryPath path name isName)⟩

theorem leadsToDirectory_eq_false_iff (opens : Opens w path at_) (tree : w.IsTree) {name : Text}
    {node : Node} (there : w.node? (at_ ++ [name]) = some node) :
    leadsToDirectory w (entryPath path name) node = false ↔ node ≠ .directory ∧
      ∀ place, w.locate true (entryPath path name) ≠ .ok (place, some .directory) := by
  cases node with
  | directory => simp [leadsToDirectory]
  | link target =>
    rw [leadsToDirectory]
    split <;> simp_all
  | file bytes =>
    have isName := tree.isName there
    obtain ⟨left, found⟩ := opens.locate_entry isName
    rw [Workspace.walk_name w left at_ name _ isName there nofun] at found
    refine ⟨fun _ => ⟨nofun, fun place => ?_⟩, fun _ => rfl⟩
    rw [found]
    split <;> simp

/-! ## The walk -/

theorem Opens.reached (opens : Opens w path at_) (excluded : List Text) :
    Reached w excluded path at_ [] :=
  ⟨fun _ some within => absurd (List.prefix_nil.mp within) some, nofun, opens.walk_eq.2.2.1⟩

theorem byteLength_le_entryPath (path name : Text) :
    byteLength path ≤ byteLength (entryPath path name) := by
  rw [entryPath]
  split <;> rw [Workspace.byteLength_append] <;> omega

theorem byteLength_le_foldl (directories : List Text) (path : Text) :
    byteLength path ≤ byteLength (directories.foldl entryPath path) := by
  induction directories generalizing path with
  | nil => exact Nat.le_refl _
  | cons d directories ih => exact (byteLength_le_entryPath path d).trans (ih _)

structure Enters (w : Workspace) (f : Filter) (path : Text) (at_ : Location) (d : Text) : Prop where
  real : w.node? (at_ ++ [d]) = some .directory
  permitted : f.enters d = true
  opened : byteLength (entryPath path d) < pathLimit

theorem Enters.onward {d : Text} (enters : Enters w f path at_ d) (opens : Opens w path at_) :
    Onward w f path at_ [] d := by
  refine ⟨opens.reached _, ⟨.directory, ?_, .inl rfl⟩, (enters_iff f d).mp enters.permitted⟩
  rw [List.append_nil]
  exact enters.real

theorem reached_cons (d : Text) (directories : List Text) :
    Reached w f.excludedDirectories path at_ (d :: directories) ↔ Enters w f path at_ d ∧
      Reached w f.excludedDirectories (entryPath path d) (at_ ++ [d]) directories := by
  constructor
  · rintro ⟨real, entered, opened⟩
    have short := (byteLength_le_foldl directories (entryPath path d)).trans_lt opened
    refine ⟨⟨real [d] (by simp) ⟨directories, rfl⟩, (enters_iff f d).mpr (entered d (by simp)),
      short⟩, ?_, fun e member => entered e (by simp [member]), opened⟩
    intro front some within
    have whole := real (d :: front) (by simp) (List.cons_prefix_cons.mpr ⟨rfl, within⟩)
    simpa using whole
  · rintro ⟨⟨first, enters, -⟩, real, entered, opened⟩
    refine ⟨?_, List.forall_mem_cons.mpr ⟨(enters_iff f d).mp enters, entered⟩, opened⟩
    rintro (_ | ⟨e, front⟩) some within
    · exact absurd rfl some
    · obtain ⟨rfl, rest⟩ := List.cons_prefix_cons.mp within
      by_cases last : front = []
      · rw [last]
        exact first
      · simpa using real front last rest

theorem eligible_nil (opens : Opens w path at_) (tree : w.IsTree) (name : Text) :
    Eligible w f path at_ [] name ↔ ∃ node, w.node? (at_ ++ [name]) = some node ∧
      leadsToDirectory w (entryPath path name) node = false ∧ f.wants name = true := by
  constructor
  · rintro ⟨-, ⟨node, there, other⟩, elsewhere, visible, wanted⟩
    rw [List.append_nil] at there
    exact ⟨node, there, (leadsToDirectory_eq_false_iff opens tree there).mpr ⟨other, elsewhere⟩,
      (wants_iff f name).mpr ⟨visible, wanted⟩⟩
  · rintro ⟨node, there, other, wanted⟩
    obtain ⟨other, elsewhere⟩ := (leadsToDirectory_eq_false_iff opens tree there).mp other
    obtain ⟨visible, wanted⟩ := (wants_iff f name).mp wanted
    refine ⟨opens.reached _, ⟨node, ?_, other⟩, elsewhere, visible, wanted⟩
    rwa [List.append_nil]

theorem eligible_cons (d : Text) (directories : List Text) (name : Text) :
    Eligible w f path at_ (d :: directories) name ↔ Enters w f path at_ d ∧
      Eligible w f (entryPath path d) (at_ ++ [d]) directories name := by
  constructor
  · rintro ⟨reached, ⟨node, there, other⟩, elsewhere, visible, wanted⟩
    obtain ⟨enters, deeper⟩ := (reached_cons d directories).mp reached
    exact ⟨enters, deeper, ⟨node, by simpa using there, other⟩, elsewhere, visible, wanted⟩
  · rintro ⟨enters, deeper, ⟨node, there, other⟩, elsewhere, visible, wanted⟩
    exact ⟨(reached_cons d directories).mpr ⟨enters, deeper⟩, ⟨node, by simpa using there, other⟩,
      elsewhere, visible, wanted⟩

theorem onward_nil (opens : Opens w path at_) (tree : w.IsTree) (name : Text) :
    Onward w f path at_ [] name ↔ ∃ node, w.node? (at_ ++ [name]) = some node ∧
      leadsToDirectory w (entryPath path name) node = true ∧ f.enters name = true := by
  have leads : ∀ node, w.node? (at_ ++ [name]) = some node →
      (leadsToDirectory w (entryPath path name) node = true ↔ node = .directory ∨
        ∃ place, w.locate true (entryPath path name) = .ok (place, some .directory)) := by
    intro node there
    rw [← Bool.not_eq_false, leadsToDirectory_eq_false_iff opens tree there]
    simp only [not_and_or, not_not, not_forall]
  constructor
  · rintro ⟨-, ⟨node, there, directory⟩, permitted⟩
    rw [List.append_nil] at there
    exact ⟨node, there, (leads node there).mpr directory, (enters_iff f name).mpr permitted⟩
  · rintro ⟨node, there, directory, permitted⟩
    refine ⟨opens.reached _, ⟨node, ?_, (leads node there).mp directory⟩,
      (enters_iff f name).mp permitted⟩
    rwa [List.append_nil]

theorem onward_cons (d : Text) (directories : List Text) (name : Text) :
    Onward w f path at_ (d :: directories) name ↔ Enters w f path at_ d ∧
      Onward w f (entryPath path d) (at_ ++ [d]) directories name := by
  constructor
  · rintro ⟨reached, ⟨node, there, directory⟩, permitted⟩
    obtain ⟨enters, deeper⟩ := (reached_cons d directories).mp reached
    exact ⟨enters, deeper, ⟨node, by simpa using there, directory⟩, permitted⟩
  · rintro ⟨enters, deeper, ⟨node, there, directory⟩, permitted⟩
    exact ⟨(reached_cons d directories).mpr ⟨enters, deeper⟩,
      ⟨node, by simpa using there, directory⟩, permitted⟩

theorem isTooDeep_zero : IsTooDeep w f path at_ 0 ↔ ∃ name, Onward w f path at_ [] name := by
  constructor
  · rintro ⟨directories, name, none, onward⟩
    exact ⟨name, List.length_eq_zero_iff.mp none ▸ onward⟩
  · rintro ⟨name, onward⟩
    exact ⟨[], name, rfl, onward⟩

theorem isTooDeep_succ (depth : Nat) :
    IsTooDeep w f path at_ (depth + 1) ↔
      ∃ d, Enters w f path at_ d ∧ IsTooDeep w f (entryPath path d) (at_ ++ [d]) depth := by
  constructor
  · rintro ⟨_ | ⟨d, directories⟩, name, deep, onward⟩
    · cases deep
    · obtain ⟨enters, onward⟩ := (onward_cons d directories name).mp onward
      exact ⟨d, enters, directories, name, Nat.succ.inj deep, onward⟩
  · rintro ⟨d, enters, directories, name, rfl, onward⟩
    exact ⟨d :: directories, name, rfl, (onward_cons d directories name).mpr ⟨enters, onward⟩⟩

theorem walk_tooLong (long : pathLimit ≤ byteLength path) (depth : Nat) (way : List Text) :
    walk w f depth path way = .ok [] := by
  have failed : ∃ fault, w.locate true path = .error fault := by
    rw [Workspace.locate, if_pos long]
    split
    next => exact ⟨_, rfl⟩
    next => exact ⟨_, rfl⟩
  obtain ⟨fault, failed⟩ := failed
  rw [walk.eq_def, failed]

theorem mem_wantedNames (opens : Opens w path at_) (tree : w.IsTree) (name : Text) :
    name ∈ wantedNames w f path (w.list at_) ↔ Eligible w f path at_ [] name := by
  rw [eligible_nil opens tree, wantedNames]
  simp [tree.mem_list_iff]

theorem onwardEntries_isEmpty_iff (opens : Opens w path at_) (tree : w.IsTree) :
    (onwardEntries w f path (w.list at_)).isEmpty = true ↔ ¬IsTooDeep w f path at_ 0 := by
  simp only [isTooDeep_zero, onward_nil opens tree, onwardEntries, List.isEmpty_iff,
    List.filter_eq_nil_iff, Prod.forall, tree.mem_list_iff, Bool.and_eq_true, not_exists, not_and]

/-- The directories from which the walk goes on are entered, if their paths are not too long. -/
theorem mem_onwardDirectories (tree : w.IsTree) (e : Text × Node) :
    e ∈ (onwardEntries w f path (w.list at_)).filter (fun e => e.2 = .directory) ↔
      e.2 = .directory ∧ w.node? (at_ ++ [e.1]) = some .directory ∧ f.enters e.1 = true := by
  obtain ⟨d, node⟩ := e
  simp only [onwardEntries, List.mem_filter, tree.mem_list_iff, Bool.and_eq_true,
    decide_eq_true_eq]
  constructor
  · rintro ⟨⟨there, -, enters⟩, rfl⟩
    exact ⟨rfl, there, enters⟩
  · rintro ⟨rfl, there, enters⟩
    exact ⟨⟨there, rfl, enters⟩, rfl⟩

/-- Names lead to an eligible file. -/
def LeadToEligible (w : Workspace) (f : Filter) (path : Text) (top : Location)
    (names : List Text) : Prop :=
  ∃ directories name, names = directories ++ [name] ∧ Eligible w f path top directories name

/-- A name of an eligible file alone, or a directory that is entered and names from there. -/
theorem leadToEligible_iff (names : List Text) :
    LeadToEligible w f path at_ names ↔ (∃ name, names = [name] ∧ Eligible w f path at_ [] name) ∨
      ∃ d rest, names = d :: rest ∧ Enters w f path at_ d ∧
        LeadToEligible w f (entryPath path d) (at_ ++ [d]) rest := by
  constructor
  · rintro ⟨_ | ⟨d, directories⟩, name, rfl, eligible⟩
    · exact .inl ⟨name, rfl, eligible⟩
    · obtain ⟨enters, eligible⟩ := (eligible_cons d directories name).mp eligible
      exact .inr ⟨d, _, rfl, enters, directories, name, rfl, eligible⟩
  · rintro (⟨name, rfl, eligible⟩ | ⟨d, _, rfl, enters, directories, name, rfl, eligible⟩)
    · exact ⟨[], name, rfl, eligible⟩
    · exact ⟨d :: directories, name, rfl, (eligible_cons d directories name).mpr ⟨enters, eligible⟩⟩

/-- At its depth a walk finds the files of one directory, where it need not go on. -/
theorem walk_zero (opens : Opens w path at_) (way : List Text) :
    walk w f 0 path way = if (onwardEntries w f path (w.list at_)).isEmpty = true then
        .ok ((wantedNames w f path (w.list at_)).map fun name => way ++ [name])
      else .error .tooDeep := by
  rw [walk, opens.found]

/-- Before that, it finds the files of a directory and what is found below. -/
theorem walk_succ (opens : Opens w path at_) (depth : Nat) (way : List Text) :
    walk w f (depth + 1) path way =
      ((onwardEntries w f path (w.list at_)).filter fun e => e.2 = .directory).mapM (fun e =>
        walk w f depth (entryPath path e.1) (way ++ [e.1])) >>= fun below =>
      .ok ((wantedNames w f path (w.list at_)).map (fun name => way ++ [name]) ++
        below.flatten) := by
  rw [walk, opens.found]
  rfl

/-- A walk that ends has not come too deep. -/
theorem walk_shallow (tree : w.IsTree) {depth : Nat} (opens : Opens w path at_) {way : List Text}
    {found : List (List Text)} (done : walk w f depth path way = .ok found) :
    ¬IsTooDeep w f path at_ depth := by
  induction depth generalizing path at_ way found with
  | zero =>
    rw [walk_zero opens] at done
    split at done
    next bottom => exact (onwardEntries_isEmpty_iff opens tree).mp bottom
    next => cases done
  | succ depth ih =>
    rw [walk_succ opens] at done
    obtain ⟨below, walked, -⟩ := bind_ok done
    rw [isTooDeep_succ]
    rintro ⟨d, enters, deep⟩
    obtain ⟨found, done⟩ := mapM_accepts_iff.mp ⟨below, walked⟩ (d, .directory)
      ((mem_onwardDirectories tree _).mpr ⟨rfl, enters.real, enters.permitted⟩)
    exact ih (opens.entry tree enters.real enters.opened) done deep

/-- What is found in a directory of a directory. One whose path is too long gives nothing, so what it
would give need not be known. -/
theorem walk_below_iff {d : Text} (real : w.node? (at_ ++ [d]) = some .directory)
    (permitted : f.enters d = true) {depth : Nat} {way : List Text} {found : List (List Text)}
    (done : walk w f depth (entryPath path d) (way ++ [d]) = .ok found)
    (exact_ : Enters w f path at_ d → ∀ names, names ∈ found ↔
      ∃ rest, names = way ++ [d] ++ rest ∧
        LeadToEligible w f (entryPath path d) (at_ ++ [d]) rest) (names : List Text) :
    names ∈ found ↔ ∃ rest, names = way ++ d :: rest ∧ Enters w f path at_ d ∧
      LeadToEligible w f (entryPath path d) (at_ ++ [d]) rest := by
  by_cases short : byteLength (entryPath path d) < pathLimit
  · have enters : Enters w f path at_ d := ⟨real, permitted, short⟩
    simp only [exact_ enters names, enters, true_and, List.append_assoc, List.singleton_append]
  · rw [walk_tooLong (Nat.not_lt.mp short)] at done
    obtain rfl := Except.ok.inj done
    simp only [List.not_mem_nil, false_iff]
    rintro ⟨rest, -, enters, -⟩
    exact short enters.opened

/-- A walk that ends has found what is eligible. -/
theorem mem_walk_iff (tree : w.IsTree) {depth : Nat} (opens : Opens w path at_) {way : List Text}
    {found : List (List Text)} (done : walk w f depth path way = .ok found) (names : List Text) :
    names ∈ found ↔ ∃ rest, names = way ++ rest ∧ LeadToEligible w f path at_ rest := by
  induction depth generalizing path at_ way found names with
  | zero =>
    have shallow := walk_shallow tree opens done
    rw [walk_zero opens, if_pos ((onwardEntries_isEmpty_iff opens tree).mpr shallow)] at done
    obtain rfl := Except.ok.inj done
    simp only [List.mem_map, mem_wantedNames opens tree]
    constructor
    · rintro ⟨name, eligible, rfl⟩
      exact ⟨_, rfl, (leadToEligible_iff _).mpr (.inl ⟨name, rfl, eligible⟩)⟩
    · rintro ⟨rest, rfl, leads⟩
      rcases (leadToEligible_iff rest).mp leads with ⟨name, rfl, eligible⟩ | ⟨d, _, -, enters, -⟩
      · exact ⟨name, eligible, rfl⟩
      · exact absurd (isTooDeep_zero.mpr ⟨d, enters.onward opens⟩) shallow
  | succ depth ih =>
    rw [walk_succ opens] at done
    obtain ⟨below, walked, done⟩ := bind_ok done
    obtain rfl := Except.ok.inj done
    have deeper : ∀ d found, w.node? (at_ ++ [d]) = some .directory → f.enters d = true →
        walk w f depth (entryPath path d) (way ++ [d]) = .ok found → ∀ names, names ∈ found ↔
          ∃ rest, names = way ++ d :: rest ∧ Enters w f path at_ d ∧
            LeadToEligible w f (entryPath path d) (at_ ++ [d]) rest :=
      fun d found real permitted done => walk_below_iff real permitted done
        fun enters => ih (opens.entry tree real enters.opened) done
    rw [List.mem_append, mem_flatten_of_mapM walked]
    simp only [List.mem_map, mem_wantedNames opens tree, mem_onwardDirectories tree]
    constructor
    · rintro (⟨name, eligible, rfl⟩ | ⟨⟨d, _⟩, ⟨-, real, permitted⟩, found, done, member⟩)
      · exact ⟨_, rfl, (leadToEligible_iff _).mpr (.inl ⟨name, rfl, eligible⟩)⟩
      · obtain ⟨rest, rfl, enters, leads⟩ := (deeper d found real permitted done _).mp member
        exact ⟨_, rfl, (leadToEligible_iff _).mpr (.inr ⟨d, rest, rfl, enters, leads⟩)⟩
    · rintro ⟨rest, rfl, leads⟩
      rcases (leadToEligible_iff rest).mp leads with
        ⟨name, rfl, eligible⟩ | ⟨d, rest, rfl, enters, leads⟩
      · exact .inl ⟨name, eligible, rfl⟩
      · have inside := And.intro (rfl : Node.directory = .directory)
          (And.intro enters.real enters.permitted)
        obtain ⟨found, done⟩ := mapM_accepts_iff.mp ⟨below, walked⟩ (d, .directory)
          ((mem_onwardDirectories tree _).mpr inside)
        exact .inr ⟨(d, .directory), inside, found, done,
          (deeper d found enters.real enters.permitted done _).mpr ⟨rest, rfl, enters, leads⟩⟩

/-- A walk fails only where it comes too deep. -/
theorem walk_error (tree : w.IsTree) {depth : Nat} (opens : Opens w path at_) {way : List Text}
    {fault : Fault} (failed : walk w f depth path way = .error fault) :
    fault = .tooDeep ∧ IsTooDeep w f path at_ depth := by
  induction depth generalizing path at_ way with
  | zero =>
    rw [walk_zero opens] at failed
    split at failed
    next => cases failed
    next going =>
      rw [onwardEntries_isEmpty_iff opens tree, not_not] at going
      exact ⟨(Except.error.inj failed).symm, going⟩
  | succ depth ih =>
    rw [walk_succ opens] at failed
    obtain failed | ⟨below, -, done⟩ := bind_error failed
    · obtain ⟨⟨d, _⟩, member, failed⟩ := mapM_error failed
      obtain ⟨-, real, permitted⟩ := (mem_onwardDirectories tree _).mp member
      by_cases short : byteLength (entryPath path d) < pathLimit
      · obtain ⟨tooDeep, deep⟩ := ih (opens.entry tree real short) failed
        exact ⟨tooDeep, (isTooDeep_succ depth).mpr ⟨d, ⟨real, permitted, short⟩, deep⟩⟩
      · rw [walk_tooLong (Nat.not_lt.mp short)] at failed
        cases failed
    · cases done

theorem namesBelow_tooDeep (tree : w.IsTree) {depth : Nat} (opens : Opens w path at_)
    (deep : IsTooDeep w f path at_ depth) : namesBelow w f path depth = .error .tooDeep := by
  rw [namesBelow]
  cases walked : walk w f depth path [] with
  | error fault =>
    rw [(walk_error tree opens walked).1]
    rfl
  | ok found => exact absurd deep (walk_shallow tree opens walked)

/-- The names below a directory are those of the eligible files, in increasing order. -/
theorem namesBelow_ok (tree : w.IsTree) {depth : Nat} (opens : Opens w path at_)
    (shallow : ¬IsTooDeep w f path at_ depth) :
    ∃ found, namesBelow w f path depth = .ok found ∧ found.Pairwise (· < ·) ∧
      ∀ names, names ∈ found ↔ LeadToEligible w f path at_ names := by
  rw [namesBelow]
  cases walked : walk w f depth path [] with
  | error fault => exact absurd (walk_error tree opens walked).2 shallow
  | ok found =>
    refine ⟨_, rfl, Path.sortedNames_increasing found, fun names => ?_⟩
    rw [List.mem_mergeSort, List.mem_eraseDups, mem_walk_iff tree opens walked]
    simp

/-- What the walk finds, put in increasing order, are the names below a directory. -/
theorem namesBelow_eq {depth : Nat} {walked found : List (List Text)}
    (done : walk w f depth path [] = .ok walked) (increasing : found.Pairwise (· < ·))
    (same : walked.Perm found) : namesBelow w f path depth = .ok found := by
  rw [namesBelow, done]
  refine congrArg Except.ok ((Path.sortedNames_increasing _).eq_of_mem_iff increasing ?_)
  intro names
  rw [List.mem_mergeSort, List.mem_eraseDups, same.mem_iff]

/-- Where the walk comes depends on nothing but what is at each place and where paths lead. -/
theorem Reached.transfer {w' : Workspace} {excluded directories : List Text}
    (reached : Reached w excluded path at_ directories) (nodes : w'.node? = w.node?) :
    Reached w' excluded path at_ directories where
  real := nodes ▸ reached.real
  entered := reached.entered
  opened := reached.opened

theorem Eligible.transfer {w' : Workspace} {directories : List Text} {name : Text}
    (eligible : Eligible w f path at_ directories name) (nodes : w'.node? = w.node?)
    (ways : w'.locate true = w.locate true) : Eligible w' f path at_ directories name where
  toReached := eligible.toReached.transfer nodes
  entry := nodes ▸ eligible.entry
  elsewhere := ways ▸ eligible.elsewhere
  visible := eligible.visible
  wanted := eligible.wanted

theorem Onward.transfer {w' : Workspace} {directories : List Text} {name : Text}
    (onward : Onward w f path at_ directories name) (nodes : w'.node? = w.node?)
    (ways : w'.locate true = w.locate true) : Onward w' f path at_ directories name where
  toReached := onward.toReached.transfer nodes
  entry := nodes ▸ ways ▸ onward.entry
  permitted := onward.permitted

/-- The order of entries does not matter. -/
theorem namesBelow_perm (tree : w.IsTree) (opens : Opens w path at_)
    {entries : List (Location × Node)} (same : entries.Perm w.entries) (depth : Nat) :
    namesBelow { w with entries := entries } f path depth = namesBelow w f path depth := by
  have nodes : Workspace.node? { w with entries := entries } = w.node? :=
    funext (tree.node?_perm same)
  have ways := tree.locate_perm same true
  have opens' : Opens { w with entries := entries } path at_ := ⟨ways ▸ opens.found, opens.slashes⟩
  have deeps : IsTooDeep { w with entries := entries } f path at_ depth ↔
      IsTooDeep w f path at_ depth := by
    constructor
    · rintro ⟨directories, name, deep, onward⟩
      exact ⟨directories, name, deep, onward.transfer nodes.symm ways.symm⟩
    · rintro ⟨directories, name, deep, onward⟩
      exact ⟨directories, name, deep, onward.transfer nodes ways⟩
  have leads : ∀ names, LeadToEligible { w with entries := entries } f path at_ names ↔
      LeadToEligible w f path at_ names := by
    intro names
    constructor
    · rintro ⟨directories, name, rfl, eligible⟩
      exact ⟨directories, name, rfl, eligible.transfer nodes.symm ways.symm⟩
    · rintro ⟨directories, name, rfl, eligible⟩
      exact ⟨directories, name, rfl, eligible.transfer nodes ways⟩
  by_cases deep : IsTooDeep w f path at_ depth
  · rw [namesBelow_tooDeep tree opens deep,
      namesBelow_tooDeep (tree.perm same) opens' (deeps.mpr deep)]
  · obtain ⟨found, done, increasing, members⟩ := namesBelow_ok tree opens deep
    obtain ⟨found', done', increasing', members'⟩ :=
      namesBelow_ok (tree.perm same) opens' (mt deeps.mp deep)
    rw [done, done', increasing'.eq_of_mem_iff increasing fun names => by
      rw [members, members', leads]]

theorem files_directory {p : Path} {top : Location} {depth : Nat}
    (there : w.peek p = .ok (some (top, .directory))) :
    files w f p depth = (namesBelow w f p.text depth).map
      fun found => found.map fun names => ⟨p.root, p.parts ++ names⟩ := by
  rw [files, there]
  rfl

/-- Discovery finds exactly the eligible files of a directory that exists, or does not end where it
comes too deep. There is a list of the files found, strictly increasing by the names of the paths
and so without repetition. A path is in it just if it goes on from that of the directory by names of
directories and of a file that is eligible. The order in which directories list their entries does
not matter, neither to what is found nor to a failure. -/
theorem files_are_eligible (w : Workspace) (f : Filter) (s : Text) (top : Location) (depth : Nat)
    (tree : w.IsTree) (there : w.peek (Path.ofText s) = .ok (some (top, .directory))) :
    (¬IsTooDeep w f (Path.ofText s).text top depth →
      ∃ found, files w f (Path.ofText s) depth = .ok found ∧
        found.Pairwise (fun p q => p.parts < q.parts) ∧
        ∀ q, q ∈ found ↔ ∃ directories name,
          Eligible w f (Path.ofText s).text top directories name ∧
            q = ⟨(Path.ofText s).root, (Path.ofText s).parts ++ directories ++ [name]⟩) ∧
    (IsTooDeep w f (Path.ofText s).text top depth →
      files w f (Path.ofText s) depth = .error .tooDeep) ∧
    ∀ entries, entries.Perm w.entries →
      files { w with entries := entries } f (Path.ofText s) depth =
        files w f (Path.ofText s) depth := by
  have opens : Opens w (Path.ofText s).text top :=
    ⟨(Workspace.peek_directory_iff w _ top).mp there, Path.text_ofText_last s⟩
  refine ⟨fun shallow => ?_, fun deep => ?_, fun entries same => ?_⟩
  · obtain ⟨below, done, increasing, members⟩ := namesBelow_ok tree opens shallow
    refine ⟨_, by rw [files_directory there, done]; rfl, ?_, fun q => ?_⟩
    · rw [List.pairwise_map]
      exact increasing.imp List.append_left_lt
    · simp only [List.mem_map, members]
      constructor
      · rintro ⟨_, ⟨directories, name, rfl, eligible⟩, rfl⟩
        exact ⟨directories, name, eligible, by rw [List.append_assoc]⟩
      · rintro ⟨directories, name, eligible, rfl⟩
        exact ⟨_, ⟨directories, name, rfl, eligible⟩, by rw [List.append_assoc]⟩
  · rw [files_directory there, namesBelow_tooDeep tree opens deep]
    rfl
  · have ways : Workspace.locate { w with entries := entries } true _ = _ :=
      (congrFun (tree.locate_perm same true) _).trans opens.found
    rw [files_directory there, files_directory ((Workspace.peek_directory_iff _ _ top).mpr ways),
      namesBelow_perm tree opens same]

def pages : Filter := ⟨[".html".toList], ["dist".toList]⟩

/-- A directory with pages, some of them hidden, excluded or behind links. -/
def site : Workspace where
  home := []
  entries := [
    (["d".toList], .directory),
    (["d".toList, "in-b.html".toList], .link "nowhere".toList),
    (["d".toList, "in".toList], .directory),
    (["d".toList, "in".toList, "a.HTML".toList], .file []),
    (["d".toList, "in".toList, "dist".toList], .directory),
    (["d".toList, "in".toList, "dist".toList, "c.html".toList], .file []),
    (["d".toList, "in".toList, ".html".toList], .file []),
    (["d".toList, "to.html".toList], .link "in".toList),
    (["d".toList, ".git".toList], .directory),
    (["d".toList, ".git".toList, "x.html".toList], .file []),
    (["d".toList, "read.me".toList], .file [])]

theorem files_are_eligible_site :
    site.IsTree ∧ site.peek (Path.ofText "d".toList) = .ok (some (["d".toList], .directory)) ∧
      ¬IsTooDeep site pages "d".toList ["d".toList] 1 ∧
      IsTooDeep site pages "d".toList ["d".toList] 0 ∧
      files site pages (Path.ofText "d".toList) 0 = .error .tooDeep ∧
      ∃ found, found = [Path.ofText "d/in/a.HTML".toList, Path.ofText "d/in-b.html".toList] ∧
        files site pages (Path.ofText "d".toList) 1 = .ok found ∧
        found.Pairwise (fun p q => p.parts < q.parts) ∧
        (∃ directories name, Eligible site pages "d".toList ["d".toList] directories name ∧
          Path.ofText "d/in/a.HTML".toList =
            ⟨.none, ["d".toList] ++ directories ++ [name]⟩) ∧
        files { site with entries := site.entries.reverse } pages (Path.ofText "d".toList) 1 =
          .ok found := by
  have tree : site.IsTree := by decide +kernel
  have there : site.peek (Path.ofText "d".toList) = .ok (some (["d".toList], .directory)) := by
    decide +kernel
  have opens : Opens site "d".toList ["d".toList] := ⟨by decide +kernel, nofun⟩
  have walked : walk site pages 1 "d".toList [] =
      .ok [["in-b.html".toList], ["in".toList, "a.HTML".toList]] := by
    decide +kernel
  have stopped : walk site pages 0 "d".toList [] = .error .tooDeep := by decide +kernel
  have shallow := walk_shallow tree opens walked
  have deep := (walk_error tree opens stopped).2
  have names : namesBelow site pages (Path.ofText "d".toList).text 1 =
      .ok [["in".toList, "a.HTML".toList], ["in-b.html".toList]] :=
    namesBelow_eq walked (by decide) (by decide)
  have two : files site pages (Path.ofText "d".toList) 1 =
      .ok [Path.ofText "d/in/a.HTML".toList, Path.ofText "d/in-b.html".toList] := by
    rw [files_directory there, names]
    rfl
  obtain ⟨listed, -, anyOrder⟩ :=
    files_are_eligible site pages "d".toList ["d".toList] 1 tree there
  obtain ⟨-, failed, -⟩ := files_are_eligible site pages "d".toList ["d".toList] 0 tree there
  obtain ⟨found, listed, increasing, exact_⟩ := listed shallow
  obtain rfl := Except.ok.inj (two.symm.trans listed)
  exact ⟨tree, there, shallow, deep, failed deep, _, rfl, listed, increasing,
    (exact_ _).mp (by simp), (anyOrder _ (List.reverse_perm _)).trans listed⟩

def longName : Text := List.replicate 237 'a'

/-- A path that goes in and out of a directory many times. -/
def longWay : Text := (List.replicate 16 (longName ++ "/../".toList)).flatten ++ longName

def twoPages : Workspace where
  home := []
  entries := [
    ([longName], .directory),
    ([longName, "inner".toList], .directory),
    ([longName, "inner".toList, "x.html".toList], .file []),
    ([longName, "y.html".toList], .file [])]

/-- By a short way both pages are found. By a long way to the same directory the inner directory has
a path that takes too many bytes, and the page in it is missing. -/
theorem long_way_passed_over :
    twoPages.IsTree ∧ twoPages.peek (Path.ofText longName) = .ok (some ([longName], .directory)) ∧
      files twoPages pages (Path.ofText longName) =
        .ok [⟨.none, [longName, "inner".toList, "x.html".toList]⟩,
          ⟨.none, [longName, "y.html".toList]⟩] ∧
      twoPages.peek (Path.ofText longWay) = .ok (some ([longName], .directory)) ∧
      files twoPages pages (Path.ofText longWay) =
        .ok [(Path.ofText longWay).child "y.html".toList] := by
  have byShort : twoPages.peek (Path.ofText longName) = .ok (some ([longName], .directory)) := by
    decide +kernel
  have both : walk twoPages pages depthLimit (Path.ofText longName).text [] =
      .ok [["y.html".toList], ["inner".toList, "x.html".toList]] := by
    decide +kernel
  have two : namesBelow twoPages pages (Path.ofText longName).text depthLimit =
      .ok [["inner".toList, "x.html".toList], ["y.html".toList]] :=
    namesBelow_eq both (by decide) (by decide)
  have byLong : twoPages.peek (Path.ofText longWay) = .ok (some ([longName], .directory)) ∧
      walk twoPages pages depthLimit (Path.ofText longWay).text [] = .ok [["y.html".toList]] := by
    decide +kernel
  have one : namesBelow twoPages pages (Path.ofText longWay).text depthLimit =
      .ok [["y.html".toList]] :=
    namesBelow_eq byLong.2 (by decide) (.refl _)
  refine ⟨by decide +kernel, byShort, ?_, byLong.1, ?_⟩
  · rw [files_directory byShort, two]
    decide +kernel
  · rw [files_directory byLong.1, one]
    rfl

end BemLint.Discovery
