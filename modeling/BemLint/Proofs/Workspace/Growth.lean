import BemLint.Proofs.Workspace.Rooted

/-!
# What making directories keeps

Making a directory, and those on the way to it, leaves everything that is there, whatever comes of
it. Nothing but directories is new, and a tree of directories stays one.
-/
namespace BemLint

namespace Change

variable {α β : Type}

/-- However a change ends, the workspace that it leaves is related to the one before. -/
def Leaves (x : Change α) (relation : Workspace → Workspace → Prop) : Prop :=
  ∀ w, relation w (x.run.run w).2

section Leaves

variable {relation : Workspace → Workspace → Prop}

theorem Leaves.bind {x : Change α} {f : α → Change β}
    (trans : ∀ {a b c}, relation a b → relation b c → relation a c)
    (first : Leaves x relation) (next : ∀ a, Leaves (f a) relation) :
    Leaves (x >>= f) relation := by
  intro w
  have before := first w
  rw [ExceptT.run_bind, StateT.run_bind]
  rcases ran : x.run.run w with ⟨e | a, between⟩
  · rw [ran] at before
    exact before
  · rw [ran] at before
    exact trans before (next a between)

theorem Leaves.tryCatch {x : Change α} {handle : FileError → Change α}
    (trans : ∀ {a b c}, relation a b → relation b c → relation a c)
    (first : Leaves x relation) (handled : ∀ e, Leaves (handle e) relation) :
    Leaves (tryCatch x handle) relation := by
  intro w
  have before := first w
  rw [ExceptT.run_tryCatch, StateT.run_bind]
  rcases ran : x.run.run w with ⟨e | a, between⟩
  · rw [ran] at before
    exact trans before (handled e between)
  · rw [ran] at before
    exact before

theorem leaves_throw (refl : ∀ w, relation w w) (e : FileError) :
    Leaves (throw e : Change α) relation := refl

end Leaves

end Change

namespace Workspace
open Change (Leaves)

/-- A workspace that has further directories at most. -/
structure Grows (w after : Workspace) : Prop where
  home : after.home = w.home
  node : ∀ place, after.node? place = w.node? place ∨
    w.node? place = none ∧ after.node? place = some .directory
  rooted : w.IsRooted → after.IsRooted

theorem Grows.refl (w : Workspace) : Grows w w := ⟨rfl, fun _ => .inl rfl, id⟩

theorem Grows.trans {a b c : Workspace} (first : Grows a b) (second : Grows b c) : Grows a c where
  home := second.home.trans first.home
  node := by
    intro place
    rcases second.node place with same | ⟨free, made⟩
    · rw [same]
      exact first.node place
    · rcases first.node place with same | ⟨free', -⟩
      · exact .inr ⟨same ▸ free, made⟩
      · exact .inr ⟨free', made⟩
  rooted := second.rooted ∘ first.rooted

/-- Where a look-up arrives at nothing there is nothing. -/
theorem advance_free (w : Workspace) (follow : Bool) (start place : Location) (todo : List Text)
    (arrived : w.advance follow start todo = .arrived place none) : w.node? place = none := by
  fun_induction advance w follow start todo <;> simp_all +zetaDelta

theorem walk_free (w : Workspace) (follow : Bool) (links : Nat) (start place : Location)
    (todo : List Text) (walked : w.walk follow links start todo = .ok (place, none)) :
    w.node? place = none := by
  fun_induction walk w follow links start todo with
  | case1 links start todo place' node arrived =>
    cases walked
    exact w.advance_free follow start place todo arrived
  | case2 | case3 => cases walked
  | case4 start todo directory target rest met links from_ ih => exact ih walked

theorem locate_free {w : Workspace} {follow : Bool} {path : Text} {place : Location}
    (located : w.locate follow path = .ok (place, none)) : w.node? place = none := by
  obtain ⟨-, -, -, walked⟩ := (w.locate_ok_iff follow path _).mp located
  exact w.walk_free _ _ _ _ _ walked

theorem makeDirectory_grows (p : Path) : Leaves (makeDirectory p) Grows := by
  intro w
  rw [makeDirectory_run]
  split
  next => exact .refl w
  next => exact .refl w
  next at_ located =>
    have free := locate_free located
    refine ⟨rfl, fun place => ?_, fun rooted => ?_⟩
    · by_cases same : place = at_
      · subst same
        refine .inr ⟨free, node?_place w place _ ?_⟩
        rintro rfl
        cases free
      · exact .inl (node?_place_other at_ place _ same)
    · exact rooted.place _ (rooted.locate_arrived located).2 (by rw [free]; nofun)

theorem unlessDirectory_grows (p : Path) (e : FileError) : Leaves (unlessDirectory p e) Grows := by
  intro w
  rw [unlessDirectory_run]
  rcases w.hasDirectory p with other | _ | _ <;> exact .refl w

theorem ensureDirectory_grows (p : Path) : Leaves (ensureDirectory p) Grows := by
  refine (makeDirectory_grows p).tryCatch Grows.trans fun e => ?_
  split
  next => exact Change.leaves_throw Grows.refl e
  next => exact unlessDirectory_grows p e

theorem ensureDirectoriesFrom_grows (depth : Nat) (p : Path) :
    Leaves (ensureDirectoriesFrom depth p) Grows := by
  induction depth generalizing p with
  | zero => exact ensureDirectory_grows p
  | succ depth ih =>
    refine (makeDirectory_grows p).tryCatch Grows.trans fun e => ?_
    split
    next => exact unlessDirectory_grows p e
    split
    next => exact Change.leaves_throw Grows.refl e
    next => exact (ih p.parent).bind Grows.trans fun _ => ensureDirectory_grows p

theorem ensureDirectories_grows (p : Path) : Leaves (ensureDirectories p) Grows :=
  ensureDirectoriesFrom_grows _ p

/-- A workspace with further directories at most, and a file that is found by a path. -/
structure Wrote (w after : Workspace) (p : Path) (bytes : List UInt8) : Prop where
  rooted : after.IsRooted
  /-- The path leads to the file, and everything elsewhere is as it was. -/
  frame : ∃ place, after.locate true p.text = .ok (place, some (.file bytes)) ∧
    ∀ other, other ≠ place → after.node? other = w.node? other ∨
      w.node? other = none ∧ after.node? other = some .directory

/-- A file that is not written leaves everything as it is. -/
theorem writeFile_failed {w after : Workspace} {p : Path} {bytes : List UInt8} {e : FileError}
    (failed : (writeFile p bytes).run.run w = (.error e, after)) : after = w := by
  rw [writeFile_run] at failed
  split at failed
  next => exact (Prod.mk.inj failed).2.symm
  next => exact (Prod.mk.inj failed).2.symm
  next => cases failed

theorem writeFile_wrote {w after : Workspace} {p : Path} {bytes : List UInt8}
    (rooted : w.IsRooted) (written : (writeFile p bytes).run.run w = (.ok (), after)) :
    Wrote w after p bytes := by
  rw [writeFile_run] at written
  split at written
  next => cases written
  next => cases written
  next place before notDirectory located =>
    cases written
    have leaf : before ≠ some .directory := by
      rintro rfl
      exact notDirectory rfl
    obtain ⟨there, parent⟩ := rooted.locate_arrived located
    refine ⟨rooted.place _ parent (there ▸ leaf), place,
      rooted.locate_place bytes leaf located, fun other apart => ?_⟩
    exact .inl (node?_place_other place other _ apart)

/-- What was written after directories were made has been written from before. -/
theorem Grows.wrote {w between after : Workspace} {p : Path} {bytes : List UInt8}
    (grows : Grows w between) (wrote : Wrote between after p bytes) : Wrote w after p bytes := by
  obtain ⟨place, located, kept⟩ := wrote.frame
  refine ⟨wrote.rooted, place, located, fun other apart => ?_⟩
  rcases kept other apart with same | ⟨free, made⟩
  · rw [same]
    exact grows.node other
  · rcases grows.node other with same | ⟨free', -⟩
    · exact .inr ⟨same ▸ free, made⟩
    · exact .inr ⟨free', made⟩

section Wrote

variable {w after : Workspace} {p : Path} {bytes : List UInt8}

theorem Wrote.readBytes (wrote : Wrote w after p bytes) : after.readBytes p = .ok bytes := by
  obtain ⟨place, located, -⟩ := wrote.frame
  rw [Workspace.readBytes, stat, located]
  rfl

/-- Every directory on the way to what has been written is there. -/
theorem Wrote.directories (wrote : Wrote w after p bytes) (readable : p.Readable) (n : Nat)
    (less : n < p.parts.length) : after.hasDirectory (p.front n) = .ok true := by
  obtain ⟨place, located, -⟩ := wrote.frame
  obtain ⟨front, found⟩ := wrote.rooted.locate_front readable less located
  rw [hasDirectory, (peek_directory_iff after (p.front n) front).mpr found]
  rfl

end Wrote

end Workspace
end BemLint
