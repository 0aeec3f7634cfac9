import BemLint.Main
import BemLint.Proofs.Json.Visible

/-!
# What parts of a run come to

A part of a run comes to a result, leaves a workspace and has printed a text. What it tells on the
standard error is left open, so a part of a run that only tells something changes nothing here.
-/
namespace BemLint

namespace Terminal

theorem sequenceLength?_eq_none {c : Char} (rest : Text) (visible : c ≠ Char.ofNat 27) :
    sequenceLength? (c :: rest) = none := by
  rw [sequenceLength?.eq_def]
  split
  next d after same =>
    cases same
    simp only [visible, decide_false, Bool.false_and, Bool.false_eq_true, if_false]
    split <;> rfl
  next => rfl

/-- A text without escape characters is printed as it is. -/
theorem dropSequences_self (s : Text) (visible : ∀ c ∈ s, c ≠ Char.ofNat 27) :
    dropSequences s = s := by
  rw [dropSequences]
  induction s with
  | nil => rfl
  | cons c rest ih =>
    rw [dropSequencesFrom, sequenceLength?_eq_none rest (visible c (by simp))]
    simp only [ih fun d member => visible d (by simp [member])]

end Terminal

namespace Command

/-- A part of a run that begins in a state comes to a result and ends in a state, whatever has been
and is told on the standard error. -/
def Gives {α : Type} (part : Run α) (before : RunState) (result : Except Stop α)
    (after : RunState) : Prop :=
  ∀ errors, ∃ errors',
    part.run.run { before with errors := errors } = (result, { after with errors := errors' })

section Parts

variable {α β : Type} {part : Run α} {next : α → Run β} {a : α} {s s' s'' : RunState}
  {result : Except Stop β} {reason : Stop}

theorem Gives.pure (a : α) (s : RunState) : Gives (pure a) s (.ok a) s :=
  fun errors => ⟨errors, rfl⟩

theorem Gives.bind (first : Gives part s (.ok a) s') (later : Gives (next a) s' result s'') :
    Gives (part >>= next) s result s'' := by
  intro errors
  obtain ⟨between, first⟩ := first errors
  obtain ⟨errors', later⟩ := later between
  refine ⟨errors', ?_⟩
  rw [ExceptT.run_bind, StateT.run_bind, first]
  exact later

/-- A part that stops the run stops what it is part of. -/
theorem Gives.stop (first : Gives part s (.error reason) s') :
    Gives (part >>= next) s (.error reason) s' := by
  intro errors
  obtain ⟨errors', first⟩ := first errors
  refine ⟨errors', ?_⟩
  rw [ExceptT.run_bind, StateT.run_bind, first]
  rfl

theorem Gives.get {next : RunState → Run β}
    (later : ∀ errors, Gives (next { s with errors := errors }) s result s') :
    Gives (MonadState.get >>= next) s result s' := fun errors => later errors errors

theorem gives_set (new s : RunState) : Gives (set new) s (.ok ()) new :=
  fun _ => ⟨new.errors, rfl⟩

theorem gives_throw (reason : Stop) (s : RunState) :
    Gives (throw reason : Run α) s (.error reason) s := fun errors => ⟨errors, rfl⟩

theorem gives_print (text : Text) (s : RunState) :
    Gives (print text) s (.ok ()) { s with output := s.output ++ text } :=
  fun errors => ⟨errors, rfl⟩

theorem gives_printError (text : Text) (s : RunState) : Gives (printError text) s (.ok ()) s :=
  fun errors => ⟨errors ++ text, rfl⟩

theorem gives_showLog (v : Verbosity) (records : List LogRecord) (s : RunState) :
    Gives (showLog v records) s (.ok ()) s := gives_printError _ s

theorem gives_orFail {ε : Type} (wrap : ε → CommandError) {value : Except ε α}
    (fine : value = .ok a) (s : RunState) : Gives (orFail wrap value) s (.ok a) s := by
  rw [fine]
  exact .pure a s

end Parts

/-- What a run comes to when its parts come to a result. -/
def ending : Except Stop Unit → Except CommandError Nat
  | .ok () => .ok 0
  | .error (.status code) => .ok code
  | .error (.error e) => .error e

theorem Gives.run {around : Surroundings} {w : Workspace} {words : List Text}
    {result : Except Stop Unit} {s : RunState}
    (gives : Gives (carryOut around words) ⟨w, [], []⟩ result s) :
    (run around w words).1 = ending result ∧ (run around w words).2.output = s.output ∧
      (run around w words).2.workspace = s.workspace := by
  obtain ⟨errors, done⟩ := gives []
  rw [Command.run, done]
  rcases result with (_ | _) | _ <;> exact ⟨rfl, rfl, rfl⟩

end Command
end BemLint
