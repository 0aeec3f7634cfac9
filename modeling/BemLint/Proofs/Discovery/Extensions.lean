import BemLint.Proofs.Discovery.Eligible
import BemLint.Proofs.Settings.Extensions
import BemLint.Proofs.Text.FinalSigma

/-!
# Configured extensions

Settings may list any text as an extension, but discovery compares with the text of a name from its
last dot on. So a file whose name ends in an extension is found if the extension is a dot with a text
that has no further dot. In one more case the two ways to look at a name differ: lower case is made of
the suffix alone, and a capital sigma that ends a word before the dot is then taken for another one.
-/
namespace BemLint.Discovery
open Text (SigmaBehindDot toLower)
open Workspace (byteLength pathLimit IsName)

/-! ## Names and extensions -/

/-- A name in lower case ends in an extension, with at least one character before it. -/
def EndsIn (name e : Text) : Prop := ∃ stem, stem ≠ [] ∧ toLower name = stem ++ e

/-- A dot and at least one other character, without a further dot. -/
def IsSimple (e : Text) : Prop := ∃ rest, e = '.' :: rest ∧ rest ≠ [] ∧ '.' ∉ rest

/-- How a name carries an extension. -/
inductive Carries (name : Text) : Text → Prop where
  /-- The name ends in an extension with a single dot. -/
  | ending {e : Text} (simple : IsSimple e) (ends : EndsIn name e)
      (apart : ¬SigmaBehindDot name) : Carries name e
  /-- The name has no suffix. -/
  | bare (none : Path.SuffixIs name []) : Carries name []
  /-- The suffix alone has another lower case than in the name. -/
  | sigma {s : Text} (suffix : Path.SuffixIs name s) (behind : SigmaBehindDot name) :
      Carries name (toLower s)

theorem toLower_suffix {extension : Text} :
    toLower ('.' :: extension) = '.' :: Text.lowerFrom ['.'] extension :=
  Text.lowerFrom_dot [] extension

/-- A suffix in lower case is how the name in lower case ends. -/
theorem carries_of_suffix {name s : Text} (suffix : Path.SuffixIs name s)
    (apart : ¬SigmaBehindDot name) : Carries name (toLower s) := by
  cases suffix with
  | @dotted stem extension stemmed filled last =>
    obtain ⟨front, whole, empty⟩ := Text.toLower_lastDot stem extension
    have same := (Text.lowerFrom_extension_iff last).mpr apart
    rw [toLower_suffix]
    refine .ending ⟨_, rfl, ?_, Text.dot_notMem_lowerFrom last _⟩ ⟨front, ?_, ?_⟩ apart
    · exact mt (Text.lowerFrom_eq_nil_iff _ _).mp filled
    · exact fun none => stemmed (empty.mp none)
    · rw [whole, same]
  | none bare => exact .bare (.none bare)

/-- An extension with a single dot in which a name ends is its suffix in lower case. -/
theorem suffix_of_ending {name e : Text} (simple : IsSimple e) (ends : EndsIn name e)
    (apart : ¬SigmaBehindDot name) : ∃ s, Path.SuffixIs name s ∧ toLower s = e := by
  obtain ⟨rest, rfl, filled, single⟩ := simple
  obtain ⟨stem', stemmed, whole⟩ := ends
  have dotted : '.' ∈ name := by
    rw [← Text.dot_mem_toLower, whole]
    simp
  obtain ⟨stem, extension, rfl, last⟩ := Text.exists_last '.' name dotted
  obtain ⟨front, whole', empty⟩ := Text.toLower_lastDot stem extension
  rw [whole'] at whole
  obtain ⟨rfl, behind⟩ := Text.last_unique (Text.dot_notMem_lowerFrom last _) single whole
  have same := (Text.lowerFrom_extension_iff last).mpr apart
  refine ⟨_, .dotted (fun none => stemmed (empty.mpr none)) ?_ last, ?_⟩
  · rintro rfl
    exact filled behind.symm
  · rw [toLower_suffix, ← same, behind]

theorem carries_iff (name e : Text) :
    Carries name e ↔ ∃ s, Path.SuffixIs name s ∧ toLower s = e := by
  constructor
  · rintro (⟨simple, ends, apart⟩ | none | ⟨suffix, -⟩)
    · exact suffix_of_ending simple ends apart
    · exact ⟨[], none, rfl⟩
    · exact ⟨_, suffix, rfl⟩
  · rintro ⟨s, suffix, rfl⟩
    by_cases behind : SigmaBehindDot name
    · exact .sigma suffix behind
    · exact carries_of_suffix suffix behind

/-! ## Files -/

/-- A regular file below a directory with nothing hidden and no excluded directory on the way, where
every directory can be opened by its path. -/
structure IsRegular (w : Workspace) (excluded : List Text) (path : Text) (top : Location)
    (directories : List Text) (name : Text) : Prop
    extends Reached w excluded path top directories where
  regular : ∃ bytes, w.node? (top ++ directories ++ [name]) = some (.file bytes)
  visible : name.head? ≠ some '.'

variable {w : Workspace} {path : Text} {top : Location}

/-- The directories on the way to a file are opened by their paths. -/
theorem Opens.descend (opens : Opens w path top) (tree : w.IsTree) {directories : List Text}
    (real : ∀ front, front ≠ [] → front <+: directories → w.node? (top ++ front) = some .directory)
    (opened : byteLength (directories.foldl entryPath path) < pathLimit) :
    Opens w (directories.foldl entryPath path) (top ++ directories) := by
  induction directories generalizing path top with
  | nil => rwa [List.append_nil]
  | cons d directories ih =>
    have short := (byteLength_le_foldl directories (entryPath path d)).trans_lt opened
    have first := real [d] (by simp) ⟨directories, rfl⟩
    have deeper := ih (opens.entry tree first short) ?_ opened
    · simpa using deeper
    · intro front some within
      have whole := real (d :: front) (by simp) (List.cons_prefix_cons.mpr ⟨rfl, within⟩)
      simpa using whole

theorem IsRegular.eligible_iff {extensions excluded : List Text} {directories : List Text}
    {name : Text} (opens : Opens w path top) (tree : w.IsTree)
    (file : IsRegular w excluded path top directories name) :
    Eligible w ⟨extensions, excluded⟩ path top directories name ↔
      ∃ s, Path.SuffixIs name s ∧ toLower s ∈ extensions.map toLower := by
  refine ⟨Eligible.wanted, fun wanted => ?_⟩
  obtain ⟨bytes, there⟩ := file.regular
  have at_ := opens.descend tree file.real file.opened
  have elsewhere := ((leadsToDirectory_eq_false_iff at_ tree there).mp rfl).2
  exact {
    toReached := file.toReached
    entry := ⟨_, there, nofun⟩
    elsewhere := by rwa [List.foldl_append]
    visible := file.visible
    wanted := wanted }

/-- The names of a path below a directory are those of the directories and of the file. -/
theorem leadToEligible_concat {f : Filter} (directories : List Text) (name : Text) :
    LeadToEligible w f path top (directories ++ [name]) ↔
      Eligible w f path top directories name := by
  constructor
  · rintro ⟨directories', name', same, eligible⟩
    obtain ⟨rfl, last⟩ := List.append_inj' same rfl
    obtain rfl := (List.cons.inj last).1
    exact eligible
  · exact fun eligible => ⟨directories, name, rfl, eligible⟩

/-- A regular file is found exactly if its name carries one of the extensions that settings were
loaded with, unless the walk comes too deep to find anything. -/
theorem configured_extensions_found {project : Workspace} {directory : Path}
    {log after : List LogRecord} {settings : Settings}
    (loaded : (Settings.load project directory).run.run log = (.ok settings, after))
    {w : Workspace} (tree : w.IsTree) {s : Text} {top : Location}
    (there : w.peek (Path.ofText s) = .ok (some (top, .directory))) (excluded : List Text)
    {depth : Nat} (shallow : ¬IsTooDeep w ⟨settings.extensions, excluded⟩ (Path.ofText s).text top
      depth) :
    ∃ found, files w ⟨settings.extensions, excluded⟩ (Path.ofText s) depth = .ok found ∧
      ∀ directories name,
        IsRegular w excluded (Path.ofText s).text top directories name →
        (⟨(Path.ofText s).root, (Path.ofText s).parts ++ (directories ++ [name])⟩ ∈ found ↔
          ∃ e ∈ settings.extensions, Carries name e) := by
  have opens : Opens w (Path.ofText s).text top :=
    ⟨(Workspace.peek_directory_iff w _ top).mp there, Path.text_ofText_last s⟩
  have lowers : settings.extensions.map toLower = settings.extensions := by
    have each := Settings.load_provides project directory log settings after loaded
    rw [List.map_congr_left each, List.map_id']
  obtain ⟨below, done, -, members⟩ := namesBelow_ok tree opens shallow
  refine ⟨_, by rw [files_directory there, done]; rfl, fun directories name file => ?_⟩
  simp only [List.mem_map, Path.mk.injEq, true_and, List.append_cancel_left_eq, exists_eq_right,
    members, leadToEligible_concat]
  rw [file.eligible_iff opens tree, lowers]
  simp only [carries_iff]
  exact ⟨fun ⟨s, suffix, listed⟩ => ⟨_, listed, s, suffix, rfl⟩,
    fun ⟨e, listed, s, suffix, same⟩ => ⟨s, suffix, same ▸ listed⟩⟩

/-- A project whose settings list one extension, with one more file of a name. -/
def listing (extension name : Text) : Workspace :=
  ⟨["work".toList], [(["work".toList], .directory),
    (["work".toList, Settings.ownFileName], .file (Text.Utf8.encode
      ("\x7b\"extensions\": [\"".toList ++ extension ++ "\"]\x7d".toList))),
    (["work".toList, name], .file [])]⟩

def listed (extension : Text) : Settings :=
  { extensions := [extension], source := some ⟨.none, [Settings.ownFileName]⟩ }

theorem loaded_of_toOption {x : Loading Settings} {log : List LogRecord} {settings : Settings}
    (some : (x.run.run log).1.toOption = .some settings) :
    ∃ after, x.run.run log = (.ok settings, after) := by
  rcases ran : x.run.run log with ⟨fault | other, after⟩
  · rw [ran] at some
    cases some
  · rw [ran] at some
    cases some
    exact ⟨after, rfl⟩

theorem not_sigmaBehindDot {name : Text} (without : 'Σ' ∉ name) : ¬SigmaBehindDot name := by
  rintro ⟨stem, front, back, rfl, -⟩
  exact without (by simp)

theorem configured_extensions_found_vue :
    ∃ after, (Settings.load (listing "VUE".toList "a.Vue".toList) ⟨.none, []⟩).run.run [] =
        (.ok (listed ".vue".toList), after) ∧
      (listing "VUE".toList "a.Vue".toList).IsTree ∧
      (listing "VUE".toList "a.Vue".toList).peek (Path.ofText ['.']) =
        .ok (some (["work".toList], .directory)) ∧
      ¬IsTooDeep (listing "VUE".toList "a.Vue".toList) ⟨[".vue".toList], []⟩ ['.'] ["work".toList]
        depthLimit ∧
      IsRegular (listing "VUE".toList "a.Vue".toList) [] ['.'] ["work".toList] [] "a.Vue".toList ∧
      Carries "a.Vue".toList ".vue".toList ∧
      ∃ found, files (listing "VUE".toList "a.Vue".toList) ⟨[".vue".toList], []⟩
        (Path.ofText ['.']) = .ok found ∧ Path.ofText "a.Vue".toList ∈ found := by
  have some : ((Settings.load (listing "VUE".toList "a.Vue".toList) ⟨.none, []⟩).run.run
      []).1.toOption = .some (listed ".vue".toList) := by decide +kernel
  obtain ⟨after, loaded⟩ := loaded_of_toOption some
  have tree : (listing "VUE".toList "a.Vue".toList).IsTree := by decide +kernel
  have there : (listing "VUE".toList "a.Vue".toList).peek (Path.ofText ['.']) =
      .ok (.some (["work".toList], .directory)) := by decide +kernel
  have opens : Opens (listing "VUE".toList "a.Vue".toList) ['.'] ["work".toList] :=
    ⟨by decide +kernel, nofun⟩
  have walked : walk (listing "VUE".toList "a.Vue".toList) ⟨[".vue".toList], []⟩ depthLimit ['.']
      [] = .ok [["a.Vue".toList]] := by
    decide +kernel
  have shallow := walk_shallow tree opens walked
  have regular : IsRegular (listing "VUE".toList "a.Vue".toList) [] ['.'] ["work".toList] []
      "a.Vue".toList :=
    ⟨opens.reached [], ⟨[], by decide +kernel⟩, by decide⟩
  have carries : Carries "a.Vue".toList ".vue".toList :=
    .ending ⟨"vue".toList, by decide, by decide, by decide⟩ ⟨['a'], by decide, by decide +kernel⟩
      (not_sigmaBehindDot (by decide))
  obtain ⟨found, below, exact_⟩ := configured_extensions_found loaded tree there [] shallow
  exact ⟨after, loaded, tree, there, shallow, regular, carries, found, below,
    (exact_ [] _ regular).mpr ⟨_, .head _, carries⟩⟩

/-- A file is passed over though settings were loaded with an extension in which its name ends: it is
a regular file below a directory, with nothing hidden and no excluded directory on the way. -/
def PassesOver (w : Workspace) (s : Text) (directories : List Text) (name e : Text) : Prop :=
  ∃ settings after top found,
    (Settings.load w ⟨.none, []⟩).run.run [] = (.ok settings, after) ∧
    e ∈ settings.extensions ∧ e ≠ [] ∧ EndsIn name e ∧ w.IsTree ∧
    w.peek (Path.ofText s) = .ok (some (top, .directory)) ∧
    (∀ front, front ≠ [] → front <+: directories → w.node? (top ++ front) = some .directory) ∧
    (∀ d ∈ directories, d ∉ settings.excludedDirectories ∧ d.head? ≠ some '.') ∧
    (∃ bytes, w.node? (top ++ directories ++ [name]) = some (.file bytes)) ∧
    name.head? ≠ some '.' ∧
    files w ⟨settings.extensions, settings.excludedDirectories⟩ (Path.ofText s) = .ok found ∧
    ⟨(Path.ofText s).root, (Path.ofText s).parts ++ (directories ++ [name])⟩ ∉ found

theorem listing_passesOver {extension name e : Text}
    (read : ((Settings.load (listing extension name) ⟨.none, []⟩).run.run []).1.toOption =
      some (listed e)) (filled : e ≠ []) (ends : EndsIn name e)
    (tree : (listing extension name).IsTree)
    (there : (listing extension name).peek (Path.ofText ['.']) =
      .ok (some (["work".toList], .directory)))
    (regular : (listing extension name).node? ["work".toList, name] = some (.file []))
    (visible : name.head? ≠ some '.')
    (unfound : walk (listing extension name) ⟨[e], defaultExcludedDirectories⟩ depthLimit ['.'] [] =
      .ok []) : PassesOver (listing extension name) ['.'] [] name e := by
  obtain ⟨after, loaded⟩ := loaded_of_toOption read
  have none : files (listing extension name) ⟨[e], defaultExcludedDirectories⟩ (Path.ofText ['.']) =
      .ok [] := by
    have names : namesBelow (listing extension name) ⟨[e], defaultExcludedDirectories⟩
        (Path.ofText ['.']).text depthLimit = .ok [] := namesBelow_eq unfound .nil (.refl _)
    rw [files_directory there, names]
    rfl
  exact ⟨listed e, after, ["work".toList], [], loaded, .head _, filled, ends, tree, there,
    fun front some within => absurd (List.prefix_nil.mp within) some, nofun, ⟨[], regular⟩, visible,
    none, nofun⟩

/-- What discovery passes over: an extension with a further dot, a final sigma that only the whole name
has, and a directory whose path is too long. -/
theorem extensions_passed_over :
    PassesOver (listing ".d.ts".toList "a.d.ts".toList) ['.'] [] "a.d.ts".toList ".d.ts".toList ∧
      PassesOver (listing ".ς".toList "a.Σ".toList) ['.'] [] "a.Σ".toList ".ς".toList ∧
      PassesOver twoPages longWay ["inner".toList] "x.html".toList ".html".toList := by
  refine ⟨?_, ?_, ?_⟩
  · exact listing_passesOver (by decide +kernel) (by decide) ⟨['a'], by decide, by decide +kernel⟩
      (by decide +kernel) (by decide +kernel) (by decide +kernel) (by decide) (by decide +kernel)
  · exact listing_passesOver (by decide +kernel) (by decide) ⟨['a'], by decide, by decide +kernel⟩
      (by decide +kernel) (by decide +kernel) (by decide +kernel) (by decide) (by decide +kernel)
  · have read : ((Settings.load twoPages ⟨.none, []⟩).run.run []).1.toOption = some {} := by
      decide +kernel
    obtain ⟨after, loaded⟩ := loaded_of_toOption read
    have both : twoPages.peek (Path.ofText longWay) = .ok (some ([longName], .directory)) ∧
        walk twoPages ⟨defaultExtensions, defaultExcludedDirectories⟩ depthLimit
          (Path.ofText longWay).text [] = .ok [["y.html".toList]] := by
      decide +kernel
    obtain ⟨there, walked⟩ := both
    have one : namesBelow twoPages ⟨defaultExtensions, defaultExcludedDirectories⟩
        (Path.ofText longWay).text depthLimit = .ok [["y.html".toList]] :=
      namesBelow_eq walked (by decide) (.refl _)
    have listed : files twoPages ⟨defaultExtensions, defaultExcludedDirectories⟩
        (Path.ofText longWay) = .ok [(Path.ofText longWay).child "y.html".toList] := by
      rw [files_directory there, one]
      rfl
    refine ⟨{}, after, [longName], _, loaded, by decide, by decide, ⟨['x'], by decide,
      by decide +kernel⟩, by decide +kernel, there, ?_, by decide, ⟨[], by decide +kernel⟩, by decide,
      listed, ?_⟩
    · intro front some within
      obtain none | ⟨rest, rfl, behind⟩ := List.prefix_cons_iff.mp within
      · exact absurd none some
      · obtain rfl := List.prefix_nil.mp behind
        decide +kernel
    · decide +kernel

end BemLint.Discovery
