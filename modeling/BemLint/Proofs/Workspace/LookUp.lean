import BemLint.Workspace.Basic

/-!
# Faults of look-ups

What looking up a path can fail with, and what remains of that when only the presence of something
is asked for: a name that is too long is no answer, everything else means that nothing is there.
-/
namespace BemLint.Workspace

/-- The faults that the way to a place can have. -/
inductive OnTheWay : FileFault → Prop where
  | noEntry : OnTheWay .noEntry
  | notADirectory : OnTheWay .notADirectory
  | nameTooLong : OnTheWay .nameTooLong
  | manyLinks : OnTheWay .manyLinks
  | embeddedNull : OnTheWay .embeddedNull

/-- Only the path as it is given can hold a null character. -/
theorem advance_failed (w : Workspace) (follow : Bool) (start : Location) (todo : List Text)
    (fault : FileFault) (failed : w.advance follow start todo = .failed fault) :
    OnTheWay fault ∧ fault ≠ .embeddedNull := by
  fun_induction advance w follow start todo
  case case1 | case5 | case6 | case8 | case10 => cases failed
  case case2 ih | case3 ih | case7 ih | case11 ih => exact ih failed
  case case4 =>
    cases failed
    exact ⟨.nameTooLong, nofun⟩
  case case9 =>
    cases failed
    exact ⟨.notADirectory, nofun⟩
  case case12 =>
    cases failed
    exact ⟨.noEntry, nofun⟩

theorem walk_failed (w : Workspace) (follow : Bool) (links : Nat) (start : Location)
    (todo : List Text) (fault : FileFault)
    (failed : w.walk follow links start todo = .error fault) :
    OnTheWay fault ∧ fault ≠ .embeddedNull := by
  fun_induction walk w follow links start todo with
  | case1 => cases failed
  | case2 links at_ todo _ stuck =>
    cases failed
    exact advance_failed w follow at_ todo fault stuck
  | case3 =>
    cases failed
    exact ⟨.manyLinks, nofun⟩
  | case4 links at_ todo directory target rest link start ih => exact ih failed

theorem locate_failed (w : Workspace) (follow : Bool) (path : Text) (fault : FileFault)
    (failed : w.locate follow path = .error fault) : OnTheWay fault := by
  rw [locate] at failed
  split at failed
  next =>
    cases failed
    exact .embeddedNull
  split at failed
  next =>
    cases failed
    exact .nameTooLong
  split at failed
  next =>
    cases failed
    exact .noEntry
  next => exact (walk_failed w follow _ _ _ fault failed).1

theorem locate_null_iff (w : Workspace) (follow : Bool) (path : Text) :
    w.locate follow path = .error .embeddedNull ↔ Char.ofNat 0 ∈ path := by
  have any : path.any (· = Char.ofNat 0) = true ↔ Char.ofNat 0 ∈ path := by simp
  rw [locate]
  split
  next null => simp [any.mp null]
  next clean =>
    rw [any] at clean
    refine ⟨fun failed => ?_, fun null => absurd null clean⟩
    split at failed
    next => cases failed
    split at failed
    next => cases failed
    next => exact absurd rfl (walk_failed w follow _ _ _ _ failed).2

theorem stat_failed (w : Workspace) (follow : Bool) (p : Path) (fault : FileFault)
    (failed : w.stat follow p = .error fault) : OnTheWay fault := by
  cases found : w.locate follow p.text with
  | error stuck =>
    rw [stat, found] at failed
    cases failed
    exact locate_failed w follow p.text fault found
  | ok place =>
    obtain ⟨place, _ | node⟩ := place
    · rw [stat, found] at failed
      cases failed
      exact .noEntry
    · rw [stat, found] at failed
      cases failed

/-- Whether something is at a path is only unknown when a name on the way is too long. -/
theorem hasEntry_error_iff (w : Workspace) (p : Path) (error : FileError) :
    w.hasEntry p = .error error ↔
      w.stat true p = .error .nameTooLong ∧ error = ⟨.nameTooLong, p.text⟩ := by
  cases found : w.stat true p with
  | ok place =>
    rw [hasEntry, peek, found]
    constructor
    · intro failed
      cases failed
    · rintro ⟨failed, -⟩
      cases failed
  | error fault =>
    rw [hasEntry, peek, found]
    cases stat_failed w true p fault found with
    | nameTooLong =>
      constructor
      · intro failed
        cases failed
        exact ⟨rfl, rfl⟩
      · rintro ⟨-, rfl⟩
        rfl
    | noEntry | notADirectory | manyLinks | embeddedNull =>
      constructor
      · intro failed
        cases failed
      · rintro ⟨failed, -⟩
        cases failed

/-- There is something at the path of a file that is read. -/
theorem hasEntry_of_readBytes (w : Workspace) (p : Path) (bytes : List UInt8)
    (content : w.readBytes p = .ok bytes) : w.hasEntry p = .ok true := by
  rw [readBytes] at content
  cases found : w.stat true p with
  | error fault =>
    rw [found] at content
    cases content
  | ok place =>
    rw [hasEntry, peek, found]
    rfl

end BemLint.Workspace
