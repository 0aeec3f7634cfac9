import BemLint.Text.Blank
import BemLint.Text.Case

/-!
# Emoji codes

A picture may be written as its name between colons. A name that is not known stays as it is, and
the colons around it are used up all the same: the text goes on after the second of them. Which
pictures there are is left open; a page is made with some table of them.
-/
namespace BemLint.Terminal

/-- A table of pictures by their names. A picture is not empty, and its characters are neither
control characters nor white space nor colons. -/
structure Pictures where
  find? : Text → Option Text
  visible : ∀ name picture, find? name = some picture →
    picture ≠ [] ∧ ∀ c ∈ picture, 32 < c.toNat ∧ Text.isBlank c = false ∧ c ≠ ':'

/-- Four pictures with their names. A terminal knows thousands: what is printed with this table
keeps the codes of all the others as they are written. -/
def knownPictures : List (Text × Text) :=
  [("fire".toList, [Char.ofNat 0x1F525]), ("heart".toList, [Char.ofNat 0x2764]),
    ("smile".toList, [Char.ofNat 0x1F604]), ("thumbs_up".toList, [Char.ofNat 0x1F44D])]

def Pictures.known : Pictures where
  find? name := (knownPictures.find? fun entry => entry.1 = name).map (·.2)
  visible name picture found := by
    obtain ⟨entry, listed, rfl⟩ := Option.map_eq_some_iff.mp found
    have all : (knownPictures.all fun entry => entry.2 ≠ [] && entry.2.all fun c =>
        32 < c.toNat && !Text.isBlank c && c ≠ ':') = true := by decide
    have here := List.all_eq_true.mp all entry (List.mem_of_find?_eq_some listed)
    simpa [and_assoc] using here

def beforeEnding? (s ending : Text) : Option Text :=
  (Text.after? s.reverse ending.reverse).map List.reverse

/-- A name with the character that selects its presentation. -/
def splitVariant (code : Text) : Text × Text :=
  match beforeEnding? code "-text".toList with
  | some name => (name, [Char.ofNat 0xFE0E])
  | none =>
    match beforeEnding? code "-emoji".toList with
    | some name => (name, [Char.ofNat 0xFE0F])
    | none => (code, [])

/-- The picture for what stands between two colons, or that text with its colons. -/
def pictureOf (pictures : Pictures) (code : Text) : Text :=
  let (name, variant) := splitVariant code
  match pictures.find? (Text.toLower name) with
  | some picture => picture ++ variant
  | none => ':' :: code ++ [':']

/-- What stands between a colon and the next one, when no white space comes between. -/
def codeAt? (s : Text) : Option Text :=
  let code := s.takeWhile fun c => c ≠ ':' && !Text.isBlank c
  match s.drop code.length with
  | ':' :: _ => some code
  | _ => none

/-- Replacement in progress: `skip` characters of a code are still to be passed over. -/
def replaceEmojiFrom (pictures : Pictures) : (skip : Nat) → Text → Text
  | _, [] => []
  | skip + 1, _ :: rest => replaceEmojiFrom pictures skip rest
  | 0, c :: rest =>
    if c = ':' then
      match codeAt? rest with
      | some code => pictureOf pictures code ++ replaceEmojiFrom pictures (code.length + 1) rest
      | none => c :: replaceEmojiFrom pictures 0 rest
    else c :: replaceEmojiFrom pictures 0 rest

def replaceEmoji (pictures : Pictures) (s : Text) : Text := replaceEmojiFrom pictures 0 s

end BemLint.Terminal
