import BemLint.Command.Run
import BemLint.Proofs.Workspace.Resolving

/-!
# The path shown for a file leads back to it

A file below a root is shown by the way that leads to it from there, any other file by its absolute
path, and in both cases the lines that are read for the shown path are those of the file. Only the
name of a snippet is no path. All of this needs a root that leads somewhere, and paths that are short
enough to be looked up: a way without links can be much longer than the path by which a file was
found.
-/
namespace BemLint.Audit
open Workspace (IsName byteLength pathLimit)

section Located

variable {w : Workspace} {p q : Path} {place : Location} {bytes : List UInt8}

theorem readSource_located (located : w.locate true p.text = .ok (place, some (.file bytes))) :
    readSource w p = .ok (Text.unifyNewlines (Text.Utf8.decodeLossy bytes)) := by
  rw [readSource, Workspace.readBytes, Workspace.stat, located]
  rfl

/-- The lines for a path that leads to a file are those of the file. -/
theorem sourceLines_located {root : Path} {shown : Text} (isPath : shown ≠ Lint.snippetPath)
    (located : w.locate true (root.append (Path.ofText shown)).text =
      .ok (place, some (.file bytes))) :
    Command.sourceLines w (some root) shown =
      .ok (Text.pageLines (Text.unifyNewlines (Text.Utf8.decodeLossy bytes))) := by
  have given : (if (Path.ofText shown).isAbsolute then some (Path.ofText shown)
      else (some root).map (·.append (Path.ofText shown))) =
        some (root.append (Path.ofText shown)) := by
    by_cases absolute : (Path.ofText shown).isAbsolute = true
    · rw [Path.append, if_pos absolute, if_pos absolute]
    · rw [if_neg absolute]
      rfl
  rw [Command.sourceLines, if_neg isPath]
  simp only [given, readSource_located located]

end Located

section Shown

variable {w : Workspace} {p root : Path} {place top : Location} {bytes : List UInt8}

/-- A way down from what a path leads to leads to the file that is there. -/
theorem locate_way (tree : w.IsTree) (rooted : w.IsRooted) (readable : root.Readable)
    {node : Node} (led : w.locate true root.text = .ok (top, some node)) {way : List Text}
    (there : w.node? (top ++ way) = some (.file bytes))
    (short : byteLength (root.append ⟨.none, way⟩).text < pathLimit) :
    w.locate true (root.append ⟨.none, way⟩).text = .ok (top ++ way, some (.file bytes)) := by
  have topThere := (rooted.locate_arrived led).1
  rcases List.eq_nil_or_concat way with rfl | ⟨front, name, rfl⟩
  · rw [List.append_nil] at there ⊢
    obtain rfl := Option.some.inj (topThere.symm.trans there)
    have same : root.append ⟨.none, []⟩ = root := by
      rw [Path.append, if_neg (by decide), List.append_nil]
    rw [same]
    exact led
  · rw [List.concat_eq_append] at there short ⊢
    obtain rfl := Option.some.inj (topThere.symm.trans (rooted.front top _ there (by simp)))
    have names : ∀ name' ∈ front ++ [name], IsName name' := fun name' member =>
      tree.named_place there name' (List.mem_append_right _ member)
    obtain ⟨clean, -, walked⟩ := Workspace.locate_readable_ok readable led
    have whole : (root.append ⟨.none, front ++ [name]⟩).Readable :=
      readable.append (Workspace.readable_of_named fun name' member => .inl (names name' member))
    have clean : Char.ofNat 0 ∉ (root.append ⟨.none, front ++ [name]⟩).text := by
      rw [Path.null_mem_text_iff] at clean ⊢
      rintro ⟨part, member, null⟩
      rcases List.mem_append.mp member with member | member
      · exact clean ⟨part, member, null⟩
      · exact (names part member).noNull null
    obtain ⟨left, onwards⟩ := w.walk_append _ _ _ _ walked
    rw [Workspace.locate_readable whole clean short]
    refine (onwards (front ++ [name])).trans ?_
    rw [← List.append_assoc] at there ⊢
    have parent := rooted.front (top ++ front) [name] there (by simp)
    -- There is no link below, so the steps from the root's place and those from the last directory
    -- on the way get equally far.
    have fromTop :=
      (Workspace.straight_place tree rooted top topThere).advance true (front ++ [name])
    have fromLast := (Workspace.straight_place tree rooted _ parent).advance true [name]
    have same : w.advance true top (front ++ [name]) = w.advance true (top ++ front) [name] := by
      rw [← fromTop, ← fromLast, List.append_assoc]
    rw [Workspace.walk_of_advance same left]
    exact Workspace.walk_name w left _ name _ (tree.isName there) there (by simp)

theorem readable_absolute (tree : w.IsTree) (rooted : w.IsRooted) (readable : p.Readable) :
    (w.absolute p).Readable := by
  have home : w.homePath.Readable :=
    Workspace.readable_of_named fun name member => .inl (tree.named_place rooted.home name member)
  exact home.append readable

theorem isAbsolute_absolute (w : Workspace) (p : Path) : (w.absolute p).isAbsolute = true := by
  rw [Workspace.absolute, Path.append]
  split
  next absolute => exact absolute
  next => rfl

/-- A path made absolute leads where it led before. -/
theorem locate_absolute (tree : w.IsTree) (rooted : w.IsRooted) (readable : p.Readable)
    {found : Location × Option Node} (located : w.locate true p.text = .ok found)
    (short : byteLength (w.absolute p).text < pathLimit) :
    w.locate true (w.absolute p).text = .ok found := by
  obtain ⟨clean, -, walked⟩ := Workspace.locate_readable_ok readable located
  have whole := readable_absolute tree rooted readable
  by_cases absolute : p.isAbsolute = true
  · rw [Workspace.absolute, Path.append, if_pos absolute]
    exact located
  · have relative : p.root = .none := by simpa [Path.isAbsolute] using absolute
    have joined : w.absolute p = ⟨.slash, w.home ++ p.parts⟩ := if_neg absolute
    rw [joined] at short whole ⊢
    have clean : Char.ofNat 0 ∉ (Path.mk .slash (w.home ++ p.parts)).text := by
      rw [Path.null_mem_text_iff] at clean ⊢
      rintro ⟨part, member, null⟩
      rcases List.mem_append.mp member with member | member
      · exact (tree.named_place rooted.home part member).noNull null
      · exact clean ⟨part, member, null⟩
    rw [Workspace.locate_readable whole clean short, ← walked, relative]
    exact Workspace.walk_of_advance
      ((Workspace.straight_place tree rooted w.home rooted.home).advance true p.parts) _

/-! ## What is shown -/

/-- The place that a root resolves to is on the way to another, or is that one. -/
def IsAbove (w : Workspace) (root : Path) (place : Location) : Prop :=
  ∃ top, w.resolve root = .ok ⟨.slash, top⟩ ∧ top <+: place

theorem displayPath_above {way : List Text} (fileAt : w.resolve p = .ok ⟨.slash, top ++ way⟩)
    (rootAt : w.resolve root = .ok ⟨.slash, top⟩) :
    w.displayPath p root = (Path.mk .none way).text := by
  rw [Workspace.displayPath, fileAt, rootAt]
  simp only [Path.relativeTo?, if_true, (Path.namesAfter?_iff _ top way).mpr rfl, Option.map_some]

theorem displayPath_elsewhere (fileAt : w.resolve p = .ok ⟨.slash, place⟩)
    (elsewhere : ¬IsAbove w root place) : w.displayPath p root = (w.absolute p).text := by
  rw [Workspace.displayPath, fileAt]
  rcases rootAt : w.resolve root with fault | ⟨start, top⟩
  · rfl
  · have none : (Path.mk .slash place).relativeTo? ⟨start, top⟩ = none := by
      rw [Path.relativeTo?]
      split
      next same =>
        obtain rfl : PathRoot.slash = start := same
        rw [Option.map_eq_none_iff, Option.eq_none_iff_forall_ne_some]
        intro way after
        exact elsewhere ⟨top, rootAt, way, ((Path.namesAfter?_iff _ _ _).mp after).symm⟩
      next => rfl
    simp only [none]

/-- The path shown for a readable file leads back to it: below the root by a relative path without
dots, elsewhere by the absolute path. So the lines for the shown path are those of the file, unless
it is shown under the name of a snippet. For this a root that resolves to a place above the file has
to lead somewhere, no link may be missed, and the shown path may not become too long. -/
theorem shown_paths_lead_back (tree : w.IsTree) (rooted : w.IsRooted) (readable : p.Readable)
    (rootReadable : root.Readable)
    (file : w.locate true p.text = .ok (place, some (.file bytes))) (seen : w.SeesLinks p)
    (usable : IsAbove w root place →
      w.SeesLinks root ∧ ∃ top node, w.locate true root.text = .ok (top, some node))
    (short : byteLength (root.append (Path.ofText (w.displayPath p root))).text < pathLimit) :
    w.resolve p = .ok ⟨.slash, place⟩ ∧
      (IsAbove w root place →
        (Path.ofText (w.displayPath p root)).isAbsolute = false ∧
        ['.', '.'] ∉ (Path.ofText (w.displayPath p root)).parts ∧
        w.locate true (root.append (Path.ofText (w.displayPath p root))).text =
          .ok (place, some (.file bytes))) ∧
      (¬IsAbove w root place →
        (Path.ofText (w.displayPath p root)).isAbsolute = true ∧
        w.locate true (Path.ofText (w.displayPath p root)).text =
          .ok (place, some (.file bytes))) ∧
      (w.displayPath p root ≠ Lint.snippetPath →
        ∃ source, readSource w p = .ok source ∧
          Command.sourceLines w (some root) (w.displayPath p root) =
            .ok (Text.pageLines source)) := by
  have fileAt := tree.resolve_eq rooted readable seen file
  have there := (rooted.locate_arrived file).1
  refine ⟨fileAt, ?_⟩
  by_cases above : IsAbove w root place
  · obtain ⟨rootSeen, top, node, led⟩ := usable above
    have rootAt := tree.resolve_eq rooted rootReadable rootSeen led
    obtain ⟨top', rootAt', way, rfl⟩ := above
    -- What a usable root resolves to is what it leads to.
    cases rootAt.symm.trans rootAt'
    have names : ∀ name ∈ way, IsName name := fun name member =>
      tree.named_place there name (List.mem_append_right _ member)
    have wayReadable : (Path.mk .none way).Readable :=
      Workspace.readable_of_named fun name member => .inl (names name member)
    have again : Path.ofText (w.displayPath p root) = ⟨.none, way⟩ := by
      rw [displayPath_above fileAt rootAt]
      exact wayReadable.ofText_text
    rw [again] at short
    have located := locate_way tree rooted rootReadable led there short
    rw [again]
    refine ⟨fun _ => ⟨rfl, fun dots => (names _ dots).notDots rfl, located⟩,
      fun elsewhere => absurd ⟨top, rootAt, way, rfl⟩ elsewhere, fun isPath => ?_⟩
    exact ⟨_, readSource_located file, sourceLines_located isPath (again ▸ located)⟩
  · have absolute := isAbsolute_absolute w p
    have again : Path.ofText (w.displayPath p root) = w.absolute p := by
      rw [displayPath_elsewhere fileAt above]
      exact (readable_absolute tree rooted readable).ofText_text
    have rootless : root.append (w.absolute p) = w.absolute p := if_pos absolute
    rw [again, rootless] at short
    have located := locate_absolute tree rooted readable file short
    have back : w.locate true (root.append (Path.ofText (w.displayPath p root))).text =
        .ok (place, some (.file bytes)) := by
      rw [again, rootless]
      exact located
    rw [again]
    refine ⟨fun other => absurd other above, fun _ => ⟨absolute, located⟩, fun isPath => ?_⟩
    exact ⟨_, readSource_located file, sourceLines_located isPath back⟩

end Shown

/-- A file of one line in a directory with a link to it. -/
def linkedSources : Workspace :=
  ⟨["work".toList], [(["work".toList], .directory), (["work".toList, "src".toList], .directory),
    (["work".toList, "src".toList, "a.html".toList], .file (Text.Utf8.encode "<p>\n".toList)),
    (["work".toList, "site".toList], .link "./src//".toList)]⟩

def linkedPage : Path := ⟨.slash, ["work".toList, "src".toList, "a.html".toList]⟩

/-- The link, which leads to a project root. -/
def linkedRoot : Path := ⟨.none, ["site".toList]⟩

theorem shown_paths_lead_back_linkedSources :
    linkedSources.displayPath linkedPage linkedRoot = "a.html".toList ∧
      linkedSources.locate true (linkedRoot.append (Path.ofText "a.html".toList)).text =
        .ok (linkedPage.parts, some (.file (Text.Utf8.encode "<p>\n".toList))) ∧
      ∃ source, readSource linkedSources linkedPage = .ok source ∧
        Command.sourceLines linkedSources (some linkedRoot) "a.html".toList =
          .ok (Text.pageLines source) := by
  have shown : linkedSources.displayPath linkedPage linkedRoot = "a.html".toList := by
    decide +kernel
  have tree : linkedSources.IsTree := by decide
  have rooted : linkedSources.IsRooted := by decide
  have file : linkedSources.locate true linkedPage.text =
      .ok (linkedPage.parts, some (.file (Text.Utf8.encode "<p>\n".toList))) := by
    decide +kernel
  have led : linkedSources.locate true linkedRoot.text =
      .ok (["work".toList, "src".toList], some .directory) := by
    decide +kernel
  have rootAt : linkedSources.resolve linkedRoot = .ok ⟨.slash, ["work".toList, "src".toList]⟩ := by
    decide +kernel
  have seen : linkedSources.SeesLinks linkedPage := by decide +kernel
  have rootSeen : linkedSources.SeesLinks linkedRoot := by decide +kernel
  have short : byteLength (linkedRoot.append
      (Path.ofText (linkedSources.displayPath linkedPage linkedRoot))).text < pathLimit := by
    decide +kernel
  obtain ⟨-, below, -, lines⟩ := shown_paths_lead_back tree rooted (by decide) (by decide) file
    seen (fun _ => ⟨rootSeen, _, _, led⟩) short
  obtain ⟨-, -, located⟩ := below ⟨_, rootAt, by decide⟩
  rw [shown] at located lines
  exact ⟨shown, located, lines (by decide)⟩

def longName : Text := List.replicate 63 '😀'

/-- Directories with the long name, each in the one before. -/
def nestedPlace (depth : Nat) : Location := "work".toList :: List.replicate depth longName

/-- Nested directories that no path without links leads to the end of. From the end a link leads to
the directory of a file, from the top another one halfway down. -/
def nestedSources : Workspace :=
  ⟨["work".toList],
    (List.range 18).map (fun depth => (nestedPlace depth, .directory)) ++
    [(["work".toList, "half".toList], .link (Path.mk .none (List.replicate 9 longName)).text),
     (nestedPlace 1 ++ ["x.html".toList], .file (Text.Utf8.encode "<p>\n".toList)),
     (nestedPlace 17 ++ ["x.html".toList], .file (Text.Utf8.encode "<i>\n".toList)),
     (nestedPlace 17 ++ ["out".toList], .link "/work/src/sub".toList),
     (["work".toList, "src".toList], .directory),
     (["work".toList, "src".toList, "sub".toList], .directory),
     (["work".toList, "src".toList, "x.html".toList], .file (Text.Utf8.encode "<p>\n".toList))]⟩

/-- A file next to nested directories. -/
def nearPage : Path := ⟨.none, [longName, "x.html".toList]⟩

/-- The directory of that file, by a path that goes in and out of it many times. -/
def longRoot : Path :=
  ⟨.none, (List.replicate 15 [longName, ['.', '.']]).flatten ++ [longName]⟩

/-- Another file, by a path through both links. -/
def farPage : Path :=
  ⟨.none, "half".toList :: List.replicate 8 longName ++ ["out".toList, ['.', '.'], "x.html".toList]⟩

/-- The first of these links. -/
def halfRoot : Path := ⟨.none, ["half".toList]⟩

/-- The way from there to another file, which does not go through the second link. -/
def farWay : Path := ⟨.none, List.replicate 8 longName ++ ["x.html".toList]⟩

/-- A root by a path through a directory that is not there, and out of it again. -/
def missingRoot : Path := ⟨.none, ["missing".toList, ['.', '.']]⟩

/-- Shown paths can lead astray. The path of a root can resolve although it leads nowhere, and it can
leave no room for the way to a file; then no lines are found. And a link that is looked up by a path
that is too long is not followed, so that the way shown is to another file. -/
theorem shown_paths_lead_astray :
    nestedSources.IsTree ∧ nestedSources.IsRooted ∧ nearPage.Readable ∧ missingRoot.Readable ∧
      longRoot.Readable ∧ farPage.Readable ∧ halfRoot.Readable ∧
      Text.pageLines "<p>\n".toList = ["<p>".toList] ∧
      (readSource nestedSources nearPage = .ok "<p>\n".toList ∧
        nestedSources.displayPath nearPage missingRoot = nearPage.text ∧
        Command.sourceLines nestedSources (some missingRoot) nearPage.text = .ok []) ∧
      (nestedSources.locate true longRoot.text = .ok (nestedPlace 1, some .directory) ∧
        nestedSources.SeesLinks nearPage ∧ nestedSources.SeesLinks longRoot ∧
        nestedSources.displayPath nearPage longRoot = "x.html".toList ∧
        Command.sourceLines nestedSources (some longRoot) "x.html".toList = .ok []) ∧
      (readSource nestedSources farPage = .ok "<p>\n".toList ∧
        nestedSources.locate true halfRoot.text = .ok (nestedPlace 9, some .directory) ∧
        nestedSources.displayPath farPage halfRoot = farWay.text ∧
        byteLength (halfRoot.append farWay).text < pathLimit ∧
        Command.sourceLines nestedSources (some halfRoot) farWay.text = .ok ["<i>".toList]) := by
  decide +kernel

end BemLint.Audit
