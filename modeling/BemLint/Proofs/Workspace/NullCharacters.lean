import BemLint.Proofs.Text.Pieces
import BemLint.Proofs.Workspace.LookUp
import BemLint.Workspace.Change

/-!
# Null characters in paths

A path with a null character never gets to the file system: every change by such a path fails at
once and leaves the workspace as it is, and no change by another path fails for that reason.
-/
namespace BemLint

namespace Path

theorem null_mem_text_iff (p : Path) :
    Char.ofNat 0 ∈ p.text ↔ ∃ part ∈ p.parts, Char.ofNat 0 ∈ part := by
  rw [text]
  split
  next dot => simp [dot.2]
  next =>
    have root : Char.ofNat 0 ∉ p.root.text := by
      cases p.root <;> decide
    rw [List.mem_append, Text.mem_join _ _ _ (by decide)]
    simp [root]

theorem null_mem_text_of_parent {p : Path} (null : Char.ofNat 0 ∈ p.parent.text) :
    Char.ofNat 0 ∈ p.text := by
  rw [null_mem_text_iff] at null ⊢
  obtain ⟨part, member, inside⟩ := null
  exact ⟨part, List.dropLast_subset _ member, inside⟩

end Path

namespace Change

variable {α β : Type}

/-- A change fails only with failures of a kind. -/
def FailsWith (x : Change α) (kind : FileError → Prop) : Prop :=
  ∀ w e after, x.run.run w = (.error e, after) → kind e

theorem failsWith_throw {kind : FileError → Prop} {e : FileError} (inKind : kind e) :
    FailsWith (throw e : Change α) kind := by
  intro w e after failed
  cases failed
  exact inKind

theorem FailsWith.bind {x : Change α} {f : α → Change β} {kind : FileError → Prop}
    (first : FailsWith x kind) (next : ∀ a, FailsWith (f a) kind) : FailsWith (x >>= f) kind := by
  intro w e after failed
  rw [ExceptT.run_bind, StateT.run_bind] at failed
  rcases ran : x.run.run w with ⟨e' | a, between⟩
  · rw [ran] at failed
    cases failed
    exact first w e _ ran
  · rw [ran] at failed
    exact next a between e after failed

/-- What handles failures of one kind fails only in its own ways. -/
theorem FailsWith.tryCatch {x : Change α} {handle : FileError → Change α}
    {inner kind : FileError → Prop} (first : FailsWith x inner)
    (handled : ∀ e, inner e → FailsWith (handle e) kind) :
    FailsWith (tryCatch x handle) kind := by
  intro w e after failed
  rw [ExceptT.run_tryCatch, StateT.run_bind] at failed
  rcases ran : x.run.run w with ⟨e' | a, between⟩
  · rw [ran] at failed
    exact handled e' (first w e' between ran) between e after failed
  · rw [ran] at failed
    cases failed

end Change

namespace Workspace
open Change (FailsWith)

theorem stat_null_iff (w : Workspace) (follow : Bool) (p : Path) :
    w.stat follow p = .error .embeddedNull ↔ Char.ofNat 0 ∈ p.text := by
  rw [← w.locate_null_iff follow p.text, stat]
  cases found : w.locate follow p.text with
  | error fault =>
    exact ⟨fun failed => congrArg _ (Except.error.inj failed),
      fun failed => congrArg _ (Except.error.inj failed)⟩
  | ok place =>
    obtain ⟨place, _ | node⟩ := place
    all_goals
      constructor
      · intro failed
        cases failed
      · intro failed
        cases failed

/-- Reading blames a null character exactly when the path holds one. -/
theorem readBytes_null_iff (w : Workspace) (p : Path) :
    (∃ e, w.readBytes p = .error e ∧ e.fault = .embeddedNull) ↔ Char.ofNat 0 ∈ p.text := by
  rw [← w.stat_null_iff true p, readBytes]
  cases found : w.stat true p with
  | error fault => simp
  | ok place =>
    obtain ⟨place, node⟩ := place
    cases node <;> simp

/-- A failure that blames a null character is about a path that holds one. -/
def BlamesNull (p : Path) (e : FileError) : Prop :=
  e.fault = .embeddedNull → Char.ofNat 0 ∈ p.text

theorem makeDirectory_run (p : Path) (w : Workspace) :
    (makeDirectory p).run.run w = match w.locate false p.text with
      | .error fault => (.error ⟨fault, p.text⟩, w)
      | .ok (_, some _) => (.error ⟨.occupied, p.text⟩, w)
      | .ok (at_, none) => (.ok (), w.place at_ .directory) := by
  change (match w.locate false p.text with
    | .error fault => throw ⟨fault, p.text⟩
    | .ok (_, some _) => throw ⟨.occupied, p.text⟩
    | .ok (at_, none) => set (w.place at_ .directory) : Change Unit).run.run w = _
  rcases w.locate false p.text with fault | ⟨at_, _ | node⟩ <;> rfl

theorem unlessDirectory_run (p : Path) (e : FileError) (w : Workspace) :
    (unlessDirectory p e).run.run w = match w.hasDirectory p with
      | .error other => (.error other, w)
      | .ok true => (.ok (), w)
      | .ok false => (.error e, w) := by
  change (match w.hasDirectory p with
    | .error other => throw other
    | .ok true => return ()
    | .ok false => throw e : Change Unit).run.run w = _
  rcases w.hasDirectory p with other | _ | _ <;> rfl

theorem writeFile_run (p : Path) (bytes : List UInt8) (w : Workspace) :
    (writeFile p bytes).run.run w = match w.locate true p.text with
      | .error fault => (.error ⟨fault, p.text⟩, w)
      | .ok (_, some .directory) => (.error ⟨.isADirectory, p.text⟩, w)
      | .ok (at_, _) => (.ok (), w.place at_ (.file bytes)) := by
  change (match w.locate true p.text with
    | .error fault => throw ⟨fault, p.text⟩
    | .ok (_, some .directory) => throw ⟨.isADirectory, p.text⟩
    | .ok (at_, _) => set (w.place at_ (.file bytes)) : Change Unit).run.run w = _
  rcases w.locate true p.text with fault | ⟨at_, _ | _ | _ | _⟩ <;> rfl

theorem makeDirectory_failsWith (p : Path) : FailsWith (makeDirectory p) (BlamesNull p) := by
  intro w e after failed blamed
  rw [makeDirectory_run] at failed
  split at failed
  next found =>
    cases failed
    cases blamed
    exact (w.locate_null_iff false p.text).mp found
  next =>
    cases failed
    cases blamed
  next => cases failed

theorem hasDirectory_null {w : Workspace} {p : Path} (null : Char.ofNat 0 ∈ p.text) :
    w.hasDirectory p = .ok false := by
  rw [hasDirectory, peek, stat, (w.locate_null_iff true p.text).mpr null]
  rfl

theorem hasDirectory_error {w : Workspace} {p : Path} {e : FileError}
    (failed : w.hasDirectory p = .error e) : e.fault ≠ .embeddedNull := by
  rintro blamed
  rw [hasDirectory, peek] at failed
  cases found : w.stat true p with
  | ok place =>
    rw [found] at failed
    obtain ⟨at_, node⟩ := place
    cases node <;> cases failed
  | error fault =>
    rw [found] at failed
    cases absent : isAbsence fault with
    | true => simp [absent, bind, Except.bind, pure, Except.pure] at failed
    | false =>
      simp [absent, bind, Except.bind] at failed
      subst failed
      cases blamed
      cases absent

theorem unlessDirectory_failsWith (p : Path) (e : FileError) (blames : BlamesNull p e) :
    FailsWith (unlessDirectory p e) (BlamesNull p) := by
  intro w e' after failed blamed
  rw [unlessDirectory_run] at failed
  split at failed
  next known =>
    cases failed
    exact absurd blamed (hasDirectory_error known)
  next => cases failed
  next =>
    cases failed
    exact blames blamed

theorem ensureDirectory_failsWith (p : Path) : FailsWith (ensureDirectory p) (BlamesNull p) := by
  refine (makeDirectory_failsWith p).tryCatch fun e blames => ?_
  split
  next => exact Change.failsWith_throw blames
  next => exact unlessDirectory_failsWith p e blames

theorem ensureDirectoriesFrom_failsWith (depth : Nat) (p : Path) :
    FailsWith (ensureDirectoriesFrom depth p) (BlamesNull p) := by
  induction depth generalizing p with
  | zero => exact ensureDirectory_failsWith p
  | succ depth ih =>
    refine (makeDirectory_failsWith p).tryCatch fun e blames => ?_
    split
    next => exact unlessDirectory_failsWith p e blames
    split
    next => exact Change.failsWith_throw blames
    next =>
      refine FailsWith.bind ?_ fun _ => ensureDirectory_failsWith p
      intro w e after failed blamed
      exact Path.null_mem_text_of_parent (ih p.parent w e after failed blamed)

/-- Neither the path nor what is above it can be made a directory. -/
theorem ensureDirectoriesFrom_null {p : Path} (null : Char.ofNat 0 ∈ p.text) (depth : Nat)
    (w : Workspace) :
    (ensureDirectoriesFrom depth p).run.run w = (.error ⟨.embeddedNull, p.text⟩, w) := by
  have made : (makeDirectory p).run.run w = (.error ⟨.embeddedNull, p.text⟩, w) := by
    rw [makeDirectory_run, (w.locate_null_iff false p.text).mpr null]
  have kept : (unlessDirectory p ⟨.embeddedNull, p.text⟩).run.run w =
      (.error ⟨.embeddedNull, p.text⟩, w) := by
    rw [unlessDirectory_run, hasDirectory_null null]
  cases depth with
  | zero =>
    rw [ensureDirectoriesFrom, ensureDirectory, ExceptT.run_tryCatch, StateT.run_bind, made]
    exact kept
  | succ depth =>
    rw [ensureDirectoriesFrom, ExceptT.run_tryCatch, StateT.run_bind, made]
    exact kept

theorem writeFile_null_iff (p : Path) (bytes : List UInt8) (w : Workspace) (e : FileError)
    (after : Workspace) :
    (writeFile p bytes).run.run w = (.error e, after) ∧ e.fault = .embeddedNull ↔
      Char.ofNat 0 ∈ p.text ∧ e = ⟨.embeddedNull, p.text⟩ ∧ after = w := by
  rw [writeFile_run]
  constructor
  · rintro ⟨failed, blamed⟩
    split at failed
    next found =>
      cases failed
      cases blamed
      exact ⟨(w.locate_null_iff true p.text).mp found, rfl, rfl⟩
    next =>
      cases failed
      cases blamed
    next => cases failed
  · rintro ⟨null, rfl, rfl⟩
    rw [(after.locate_null_iff true p.text).mpr null]
    exact ⟨rfl, rfl⟩

theorem writeFile_null {p : Path} (null : Char.ofNat 0 ∈ p.text) (bytes : List UInt8)
    (w : Workspace) :
    (writeFile p bytes).run.run w = (.error ⟨.embeddedNull, p.text⟩, w) :=
  ((writeFile_null_iff p bytes w _ w).mpr ⟨null, rfl, rfl⟩).1

end Workspace
end BemLint
