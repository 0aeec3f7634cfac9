import BemLint.Proofs.Text.Words
import BemLint.Terminal.Emoji

/-!
# Texts with emoji codes

The colons of a text without white space are used up in pairs from the left, and what the two colons of
a pair enclose is looked up as the name of a picture. So a text is left as it is exactly when no such
name is known; a colon without a partner encloses nothing. What white space follows before the next
colon is no code either.
-/
namespace BemLint.Terminal
open Text (Solid splitAt)

/-- What the colons of a text enclose in pairs, given the pieces between its colons: every second
piece that has another one behind it. -/
def enclosed : List Text → List Text
  | _ :: code :: next :: rest => code :: enclosed (next :: rest)
  | _ => []

/-- No pair of colons in a text encloses the name of a picture. -/
def NamesNone (pictures : Pictures) (s : Text) : Prop :=
  ∀ code ∈ enclosed (splitAt ':' s), pictures.find? (Text.toLower (splitVariant code).1) = none

/-! ## Steps of the replacement -/

section

variable (pictures : Pictures)

theorem takeWhile_code {code : Text} (solid : Solid code) (noColon : ':' ∉ code) (s : Text) :
    (code ++ s).takeWhile (fun c => c ≠ ':' && !Text.isBlank c) =
      code ++ s.takeWhile fun c => c ≠ ':' && !Text.isBlank c := by
  refine List.takeWhile_append_of_pos fun c member => ?_
  have differ : c ≠ ':' := fun same => noColon (same ▸ member)
  simp [differ, solid c member]

theorem codeAt?_colon {code : Text} (solid : Solid code) (noColon : ':' ∉ code) (s : Text) :
    codeAt? (code ++ ':' :: s) = some code := by
  have front := takeWhile_code solid noColon (':' :: s)
  rw [List.takeWhile_cons_of_neg (by simp), List.append_nil] at front
  simp only [codeAt?, front, List.drop_left]

/-- Where the text ends or white space comes before the next colon there is no code. -/
theorem codeAt?_stop {code : Text} (solid : Solid code) (noColon : ':' ∉ code) {s : Text}
    (stop : ∀ c ∈ s.head?, Text.isBlank c = true) : codeAt? (code ++ s) = none := by
  cases s with
  | nil =>
    have front := takeWhile_code solid noColon []
    simp only [List.takeWhile_nil, List.append_nil] at front
    simp only [codeAt?, List.append_nil, front, List.drop_length]
  | cons c s =>
    have blank : Text.isBlank c = true := stop c rfl
    have front := takeWhile_code solid noColon (c :: s)
    rw [List.takeWhile_cons_of_neg (by simp [blank]), List.append_nil] at front
    have differ : c ≠ ':' := by
      rintro rfl
      cases blank
    simp only [codeAt?, front, List.drop_left]
    split
    next rest same => exact absurd (List.cons.inj same).1 differ
    next => rfl

theorem replaceEmojiFrom_skip (front s : Text) :
    replaceEmojiFrom pictures front.length (front ++ s) = replaceEmoji pictures s := by
  induction front with
  | nil => rfl
  | cons c front ih => exact ih

theorem replaceEmoji_front {front : Text} (noColon : ':' ∉ front) (s : Text) :
    replaceEmoji pictures (front ++ s) = front ++ replaceEmoji pictures s := by
  induction front with
  | nil => rfl
  | cons c front ih =>
    simp only [List.mem_cons, not_or] at noColon
    rw [List.cons_append, replaceEmoji, replaceEmojiFrom, if_neg (Ne.symm noColon.1),
      ← replaceEmoji, ih noColon.2]
    rfl

theorem replaceEmoji_plain {s : Text} (noColon : ':' ∉ s) : replaceEmoji pictures s = s := by
  have nothing : replaceEmoji pictures [] = [] := rfl
  have whole := replaceEmoji_front pictures noColon []
  rwa [List.append_nil, nothing, List.append_nil] at whole

theorem replaceEmoji_code {code : Text} (solid : Solid code) (noColon : ':' ∉ code) (s : Text) :
    replaceEmoji pictures (':' :: (code ++ ':' :: s)) =
      pictureOf pictures code ++ replaceEmoji pictures s := by
  have passed := replaceEmojiFrom_skip pictures (code ++ [':']) s
  rw [List.length_append, List.append_assoc] at passed
  rw [replaceEmoji, replaceEmojiFrom, if_pos rfl, codeAt?_colon solid noColon s]
  exact congrArg (pictureOf pictures code ++ ·) passed

/-- A colon that begins no code is a character as any other. -/
theorem replaceEmoji_colon {code : Text} (solid : Solid code) (noColon : ':' ∉ code) {s : Text}
    (stop : ∀ c ∈ s.head?, Text.isBlank c = true) :
    replaceEmoji pictures (':' :: (code ++ s)) = ':' :: (code ++ replaceEmoji pictures s) := by
  rw [replaceEmoji, replaceEmojiFrom, if_pos rfl, codeAt?_stop solid noColon stop,
    ← replaceEmoji_front pictures noColon s]
  rfl

/-- A colon with a space after it begins no code. -/
theorem replaceEmoji_label {label front : Text} (ends : label = front ++ [':', ' '])
    (noColon : ':' ∉ front) (s : Text) :
    replaceEmoji pictures (label ++ s) = label ++ replaceEmoji pictures s := by
  have blank : ∀ c ∈ (' ' :: s).head?, Text.isBlank c = true := by
    rintro c ⟨⟩
    rfl
  have noCode : Solid [] ∧ ':' ∉ ([] : Text) := ⟨nofun, nofun⟩
  have colon := replaceEmoji_colon pictures noCode.1 noCode.2 blank
  have space : replaceEmoji pictures ([' '] ++ s) = [' '] ++ replaceEmoji pictures s :=
    replaceEmoji_front pictures (by decide) s
  rw [List.nil_append, List.nil_append] at colon
  rw [ends, List.append_assoc, replaceEmoji_front pictures noColon, List.append_assoc]
  exact congrArg (front ++ ·) (colon.trans (congrArg (':' :: ·) space))

end

/-! ## From pair to pair -/

/-- What holds of texts with a single colon or none, and of a text as soon as it holds of what follows
its first two colons, holds of all texts. -/
@[elab_as_elim]
theorem codeInduction {motive : Text → Prop} (plain : ∀ s, ':' ∉ s → motive s)
    (single : ∀ front code, ':' ∉ front → ':' ∉ code → motive (front ++ ':' :: code))
    (pair : ∀ front code rest, ':' ∉ front → ':' ∉ code → motive rest →
      motive (front ++ ':' :: (code ++ ':' :: rest))) (s : Text) : motive s := by
  by_cases colon : ':' ∈ s
  · obtain ⟨front, behind, rfl, noColon⟩ := List.eq_append_cons_of_mem colon
    by_cases second : ':' ∈ behind
    · obtain ⟨code, rest, rfl, noColon'⟩ := List.eq_append_cons_of_mem second
      have shorter : rest.length < (front ++ ':' :: (code ++ ':' :: rest)).length := by
        simp only [List.length_append, List.length_cons]
        omega
      exact pair front code rest noColon noColon' (codeInduction plain single pair rest)
    · exact single front behind noColon second
  · exact plain s colon
termination_by s.length

theorem enclosed_pair (front code rest : Text) (noColon : ':' ∉ front) (noColon' : ':' ∉ code) :
    enclosed (splitAt ':' (front ++ ':' :: (code ++ ':' :: rest))) =
      code :: enclosed (splitAt ':' rest) := by
  obtain ⟨next, pieces, cut⟩ := List.exists_cons_of_ne_nil (Text.splitAt_ne_nil ':' rest)
  rw [Text.splitAt_append ':' front _ noColon, Text.splitAt_append ':' code rest noColon', cut]
  rfl

theorem namesNone_pair (pictures : Pictures) (front code rest : Text) (noColon : ':' ∉ front)
    (noColon' : ':' ∉ code) : NamesNone pictures (front ++ ':' :: (code ++ ':' :: rest)) ↔
      pictures.find? (Text.toLower (splitVariant code).1) = none ∧ NamesNone pictures rest := by
  rw [NamesNone, enclosed_pair front code rest noColon noColon', List.forall_mem_cons]
  rfl

theorem namesNone_single (pictures : Pictures) (front code : Text) (noColon : ':' ∉ front)
    (noColon' : ':' ∉ code) : NamesNone pictures (front ++ ':' :: code) := by
  rw [NamesNone, Text.splitAt_append ':' front code noColon, Text.splitAt_absent ':' code noColon']
  nofun

theorem namesNone_plain (pictures : Pictures) {s : Text} (noColon : ':' ∉ s) :
    NamesNone pictures s := by
  rw [NamesNone, Text.splitAt_absent ':' s noColon]
  nofun

/-! ## What the replacement leaves -/

/-- A character that may stand in a name or a picture: it moves nothing on a page. -/
def IsMark (c : Char) : Prop := Text.isBlank c = false ∧ 32 < c.toNat

theorem isMark_of_all {s : Text}
    (all : (s.all fun c => !Text.isBlank c && 32 < c.toNat) = true) : ∀ c ∈ s, IsMark c := by
  intro c member
  have here := List.all_eq_true.mp all c member
  simpa [IsMark] using here

theorem variant_marks (code : Text) : ∀ c ∈ (splitVariant code).2, IsMark c := by
  unfold splitVariant
  split
  · exact isMark_of_all (s := [Char.ofNat 0xFE0E]) (by decide)
  split
  · exact isMark_of_all (s := [Char.ofNat 0xFE0F]) (by decide)
  · exact nofun

theorem pictureOf_eq (pictures : Pictures) (code : Text) : pictureOf pictures code =
    match pictures.find? (Text.toLower (splitVariant code).1) with
    | some picture => picture ++ (splitVariant code).2
    | none => ':' :: (code ++ [':']) := rfl

theorem pictureOf_unknown {pictures : Pictures} {code : Text}
    (unknown : pictures.find? (Text.toLower (splitVariant code).1) = none) :
    pictureOf pictures code = ':' :: (code ++ [':']) := by
  rw [pictureOf_eq, unknown]

theorem pictureOf_known {pictures : Pictures} {code picture : Text}
    (known : pictures.find? (Text.toLower (splitVariant code).1) = some picture) :
    pictureOf pictures code = picture ++ (splitVariant code).2 := by
  rw [pictureOf_eq, known]

/-- A picture does not begin as a code does. -/
theorem pictureOf_head {pictures : Pictures} {code picture : Text}
    (known : pictures.find? (Text.toLower (splitVariant code).1) = some picture) (s t : Text) :
    pictureOf pictures code ++ s ≠ ':' :: t := by
  obtain ⟨some, visible⟩ := pictures.visible _ picture known
  obtain ⟨c, more, rfl⟩ := List.exists_cons_of_ne_nil some
  rw [pictureOf_known known]
  intro same
  exact (visible c (by simp)).2.2 (List.cons.inj same).1

/-- A text without white space is left as it is just when it names no picture. -/
theorem replaceEmoji_eq_self_iff (pictures : Pictures) {s : Text} (solid : Solid s) :
    replaceEmoji pictures s = s ↔ NamesNone pictures s := by
  induction s using codeInduction with
  | plain s noColon =>
    exact iff_of_true (replaceEmoji_plain pictures noColon) (namesNone_plain pictures noColon)
  | single front code noColon noColon' =>
    have solid' : Solid code := fun c member => solid c (by simp [member])
    have kept := replaceEmoji_colon pictures solid' noColon' (s := []) nofun
    rw [List.append_nil] at kept
    refine iff_of_true ?_ (namesNone_single pictures front code noColon noColon')
    rw [replaceEmoji_front pictures noColon, kept]
    simp [replaceEmoji, replaceEmojiFrom]
  | pair front code rest noColon noColon' ih =>
    have solid' : Solid code := fun c member => solid c (by simp [member])
    have behind := ih fun c member => solid c (by simp [member])
    rw [replaceEmoji_front pictures noColon, replaceEmoji_code pictures solid' noColon',
      namesNone_pair pictures front code rest noColon noColon', List.append_cancel_left_eq]
    cases found : pictures.find? (Text.toLower (splitVariant code).1) with
    | none => simp [pictureOf_unknown found, behind]
    | some picture =>
      exact iff_of_false (pictureOf_head found _ _) fun both => nomatch both.1

/-- What stands in the new text stood in the old one or belongs to a picture. -/
theorem replaceEmoji_marks (pictures : Pictures) {s : Text} (marks : ∀ c ∈ s, IsMark c) :
    ∀ c ∈ replaceEmoji pictures s, IsMark c := by
  have solid {part : Text} (marks : ∀ c ∈ part, IsMark c) : Solid part :=
    fun c member => (marks c member).1
  induction s using codeInduction with
  | plain s noColon => rwa [replaceEmoji_plain pictures noColon]
  | single front code noColon noColon' =>
    have marks' : ∀ c ∈ code, IsMark c := fun c member => marks c (by simp [member])
    have named := namesNone_single pictures front code noColon noColon'
    rwa [(replaceEmoji_eq_self_iff pictures (solid marks)).mpr named]
  | pair front code rest noColon noColon' ih =>
    simp only [List.mem_append, List.mem_cons, or_imp, forall_and, forall_eq] at marks
    obtain ⟨ofFront, ofColon, ofCode, -, ofRest⟩ := marks
    rw [replaceEmoji_front pictures noColon, replaceEmoji_code pictures (solid ofCode) noColon']
    simp only [List.mem_append, or_imp, forall_and]
    refine ⟨ofFront, ?_, ih ofRest⟩
    cases found : pictures.find? (Text.toLower (splitVariant code).1) with
    | none =>
      rw [pictureOf_unknown found]
      simp only [List.mem_cons, List.mem_append, List.not_mem_nil, or_false, or_imp, forall_and,
        forall_eq]
      exact ⟨ofColon, ofCode, ofColon⟩
    | some picture =>
      rw [pictureOf_known found]
      simp only [List.mem_append, or_imp, forall_and]
      refine ⟨fun c member => ?_, variant_marks code⟩
      obtain ⟨above, solid, -⟩ := (pictures.visible _ picture found).2 c member
      exact ⟨solid, above⟩

end BemLint.Terminal
