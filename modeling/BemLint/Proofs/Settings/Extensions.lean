import BemLint.Proofs.Json.Limits
import BemLint.Proofs.Settings.Fallback
import BemLint.Proofs.Text.Case

/-!
# Extensions of loaded settings

Whatever a settings file lists as extensions, settings that are loaded hold them in lower case, and so
do the settings of a project without a file. What looks for files may compare with them as they are.
-/
namespace BemLint.Settings

variable {α β : Type}

/-- Whenever a computation has a value, that is good. -/
def Provides (x : Loading α) (good : α → Prop) : Prop :=
  ∀ log a after, x.run.run log = (.ok a, after) → good a

theorem provides_pure {a : α} {good : α → Prop} (holds : good a) : Provides (pure a) good := by
  intro log b after done
  cases done
  exact holds

theorem provides_throw (fault : LoadFault) (good : α → Prop) : Provides (throw fault) good := by
  intro log a after done
  cases done

theorem Provides.bind {x : Loading α} {f : α → Loading β} {mid : α → Prop} {good : β → Prop}
    (first : Provides x mid) (next : ∀ a, mid a → Provides (f a) good) :
    Provides (x >>= f) good := by
  intro log b after done
  rw [ExceptT.run_bind, StateT.run_bind] at done
  rcases ran : x.run.run log with ⟨fault | a, between⟩
  · rw [ran] at done
    cases done
  · rw [ran] at done
    exact next a (first log a between ran) between b after done

/-- Nothing need be known of what a computation goes on from. -/
theorem Provides.andThen {x : Loading α} {f : α → Loading β} {good : β → Prop}
    (next : ∀ a, Provides (f a) good) : Provides (x >>= f) good := by
  have anything : Provides x fun _ => True := fun _ _ _ _ => trivial
  exact anything.bind fun a _ => next a

/-! ## Lower case -/

def LowersExtensions (settings : Settings) : Prop :=
  ∀ e ∈ settings.extensions, Text.toLower e = e

theorem toLower_normalExtension (given : Text) :
    Text.toLower (normalExtension given) = normalExtension given := by
  apply Text.toLower_eq_self
  intro c member
  have lower : ∀ d ∈ Text.toLower (Text.trim given), Text.lowerChar d = d :=
    fun d => Text.lowerChar_of_mem_toLower
  have dot : Text.lowerChar '.' = '.' := by decide +kernel
  unfold normalExtension at member
  split at member
  next => cases member
  next first rest bare =>
    rw [bare] at lower
    split at member
    · exact lower c member
    · rcases List.mem_cons.mp member with rfl | inside
      · exact dot
      · exact lower c inside

theorem lowersExtensions_default : LowersExtensions {} := by
  have all : ∀ e ∈ defaultExtensions, Text.toLower e = e := by decide +kernel
  exact all

theorem lowersExtensions_map (texts : List Text) :
    ∀ e ∈ texts.map normalExtension, Text.toLower e = e := by
  intro e member
  obtain ⟨given, -, rfl⟩ := List.mem_map.mp member
  exact toLower_normalExtension given

theorem ofFields_lowersExtensions {names : SettingNames} {p : Path}
    {fields : List (Text × SettingValue)} {settings : Settings}
    (read : ofFields names p fields = .ok settings) : LowersExtensions settings := by
  obtain ⟨ignoreList, -, read⟩ := bind_ok read
  simp only at read
  split at read
  next =>
    obtain ⟨extensions, listed, read⟩ := bind_ok read
    obtain ⟨directories, -, read⟩ := bind_ok read
    obtain ⟨output, -, read⟩ := bind_ok read
    cases listed
    cases read
    exact lowersExtensions_default
  next =>
    obtain ⟨extensions, listed, read⟩ := bind_ok read
    obtain ⟨directories, -, read⟩ := bind_ok read
    obtain ⟨output, -, read⟩ := bind_ok read
    cases given : readTexts names.scope (SettingValue.firstPresent names.extensions fields) with
    | error fault =>
      rw [given] at listed
      cases listed
    | ok texts =>
      rw [given] at listed
      cases listed
      cases read
      exact lowersExtensions_map texts

theorem readTable_provides (names : SettingNames) (p : Path) (fields : List (Text × SettingValue)) :
    Provides (readTable names p fields) LowersExtensions := by
  refine Provides.andThen fun _ => ?_
  split
  next settings read => exact provides_pure (ofFields_lowersExtensions read)
  next => exact provides_throw _ _

theorem loadOwnFile_provides (w : Workspace) (p : Path) :
    Provides (loadOwnFile w p) LowersExtensions := by
  refine Provides.andThen fun source => ?_
  split
  next => exact provides_throw _ _
  next => exact provides_throw _ _
  next => exact provides_throw _ _
  next => exact readTable_provides _ _ _
  next => exact provides_throw _ _

theorem loadProjectFile_provides (w : Workspace) (p : Path) :
    Provides (loadProjectFile w p) fun settings? => LowersExtensions (settings?.getD {}) := by
  refine Provides.andThen fun source => ?_
  split
  next => exact provides_throw _ _
  next => exact provides_throw _ _
  next => exact provides_throw _ _
  next =>
    split
    next => exact provides_pure lowersExtensions_default
    next =>
      exact (readTable_provides _ _ _).bind fun settings lowers => provides_pure lowers

/-- Loaded settings have their extensions in lower case. -/
theorem load_provides (w : Workspace) (directory : Path) :
    Provides (load w directory) LowersExtensions := by
  refine Provides.andThen fun own => ?_
  split
  next => exact loadOwnFile_provides w _
  next =>
    refine Provides.andThen fun project => ?_
    split
    next =>
      refine (loadProjectFile_provides w _).bind fun settings? lowers => ?_
      split
      next settings => exact provides_pure lowers
      next => exact provides_pure lowersExtensions_default
    next => exact provides_pure lowersExtensions_default

end BemLint.Settings
