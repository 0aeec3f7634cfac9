import BemLint.Proofs.Lint.Places
import Mathlib.Control.Monad.Basic

/-!
# What an ignore list takes away

Tokens are dropped before the rules see them, yet the outcome is that of dropping violations after
all rules were applied: every violation carries the name of its token, and a pattern looks at nothing
but that name. So the violations that remain are those whose name no pattern matches, in their old
order, and a list of patterns counts as a set.
-/
namespace BemLint

variable {table : CharacterNames}

namespace IgnorePattern

/-- A pattern that can be used, as an expression or as a wildcard pattern. -/
def Usable (table : CharacterNames) (pattern : Text) : Prop := ∃ p, compile table pattern = .ok p

theorem usable_single {pattern : Text} {p : IgnorePattern}
    (compiled : compile table pattern = .ok p) :
    ∀ q ∈ [pattern], Usable table q := by
  intro q member
  obtain rfl := List.mem_singleton.mp member
  exact ⟨p, compiled⟩

/-- Whether a pattern can be used and matches somewhere in a class name. -/
def matchesName (table : CharacterNames) (pattern name : Text) : Bool :=
  match compile table pattern with
  | .ok p => p.ignores name
  | .error _ => false

end IgnorePattern

namespace IgnoreList
open IgnorePattern (Usable matchesName)

def matchedBy (table : CharacterNames) (patterns : List Text) (name : Text) : Bool :=
  patterns.any fun pattern => matchesName table pattern name

theorem matchedBy_append (patterns more : List Text) (name : Text) :
    matchedBy table (patterns ++ more) name =
      (matchedBy table patterns name || matchedBy table more name) := by
  unfold matchedBy
  exact List.any_append

/-- Order and repetition of patterns do not matter. -/
theorem matchedBy_congr (patterns others : List Text) (same : ∀ p, p ∈ others ↔ p ∈ patterns)
    (name : Text) : matchedBy table others name = matchedBy table patterns name := by
  unfold matchedBy
  rw [Bool.eq_iff_iff, List.any_eq_true, List.any_eq_true]
  simp only [same]

theorem defaults_usable : ∀ pattern ∈ defaults, Usable table pattern := by
  intro pattern member
  simp only [defaults, List.mem_cons, List.not_mem_nil, or_false] at member
  rcases member with rfl | rfl | rfl
  all_goals exact ⟨_, rfl⟩

theorem exists_compiled (patterns : List Text) (usable : ∀ p ∈ patterns, Usable table p) :
    ∃ list, patterns.mapM (IgnorePattern.compile table) = .ok list ∧
      ∀ name, ignores list name = matchedBy table patterns name := by
  induction patterns with
  | nil => exact ⟨[], rfl, fun _ => rfl⟩
  | cons pattern patterns ih =>
    obtain ⟨p, compiled⟩ := usable pattern (by simp)
    obtain ⟨list, more, same⟩ := ih fun q member => usable q (by simp [member])
    refine ⟨p :: list, ?_, fun name => ?_⟩
    · rw [List.mapM_cons, compiled, more]
      rfl
    · have first : matchesName table pattern name = p.ignores name := by
        rw [matchesName, compiled]
      have rest := same name
      unfold ignores matchedBy at rest ⊢
      rw [List.any_cons, List.any_cons, first, rest]

/-- A list of usable patterns can be used, and ignores what they or the default patterns match. -/
theorem exists_ofPatterns (patterns : List Text) (usable : ∀ p ∈ patterns, Usable table p) :
    ∃ list, ofPatterns table patterns = .ok list ∧
      ∀ name, ignores list name = matchedBy table (defaults ++ patterns) name := by
  apply exists_compiled
  intro p member
  rcases List.mem_append.mp member with member | member
  · exact defaults_usable p member
  · exact usable p member

end IgnoreList

namespace Lint
open IgnorePattern (Usable matchesName)
open IgnoreList (matchedBy)

/-- The report on one text that has some violations. -/
def reportOn (path : Text) (found : List Violation) : Report :=
  .ofFiles [⟨if path.isEmpty then snippetPath else path, found⟩]

theorem violationCount_reportOn (path : Text) (found : List Violation) :
    (reportOn path found).violationCount = .ofNat found.length := by
  unfold reportOn Report.ofFiles
  rfl

theorem reportOn_injective {path : Text} {found others : List Violation}
    (same : reportOn path found = reportOn path others) : found = others := by
  simpa [reportOn, Report.ofFiles] using congrArg Report.files same

def allViolations (source : Text) : List Violation :=
  (ClassToken.scan source).flatMap (checkToken source)

theorem original_checkToken (source : Text) (t : ClassToken) (v : Violation)
    (found : v ∈ checkToken source t) : v.original = t.name := by
  obtain ⟨raw, raised, rfl⟩ := List.mem_map.mp found
  exact Rule.original_checkAll t.name raw raised

/-- Leaving out tokens by their names leaves out violations by the names that they carry. -/
theorem flatMap_checkToken_filter (keep : Text → Bool) (source : Text)
    (tokens : List ClassToken) :
    (tokens.filter fun t => keep t.name).flatMap (checkToken source) =
      (tokens.flatMap (checkToken source)).filter fun v => keep v.original := by
  induction tokens with
  | nil => rfl
  | cons t tokens ih =>
    rw [List.flatMap_cons, List.filter_append, ← ih, List.filter_cons]
    cases kept : keep t.name with
    | true =>
      have all : (checkToken source t).filter (fun v => keep v.original) =
          checkToken source t := by
        apply List.filter_eq_self.mpr
        intro v found
        rw [original_checkToken source t v found, kept]
      rw [all, if_pos rfl, List.flatMap_cons]
    | false =>
      have none : (checkToken source t).filter (fun v => keep v.original) = [] := by
        apply List.filter_eq_nil_iff.mpr
        intro v found
        rw [original_checkToken source t v found, kept]
        exact Bool.false_ne_true
      rw [none, if_neg Bool.false_ne_true, List.nil_append]

theorem violations_eq (ignored : IgnoreList) (source : Text) :
    violations ignored source =
      (allViolations source).filter fun v => !ignored.ignores v.original := by
  unfold violations allViolations
  exact flatMap_checkToken_filter (fun name => !ignored.ignores name) source _

/-- The violations of a text whose names neither some patterns nor the default ones match. -/
def remaining (table : CharacterNames) (source : Text) (patterns : List Text) : List Violation :=
  (allViolations source).filter fun v =>
    !matchedBy table (IgnoreList.defaults ++ patterns) v.original

/-- Linting with usable patterns reports what remains with them. -/
theorem analyze_usable (source path : Text) (patterns : List Text)
    (usable : ∀ p ∈ patterns, Usable table p) :
    analyze table source path patterns = .ok (reportOn path (remaining table source patterns)) := by
  obtain ⟨list, compiled, same⟩ := IgnoreList.exists_ofPatterns patterns usable
  unfold analyze remaining
  rw [compiled]
  simp only [← same, ← violations_eq]
  rfl

/-- Further patterns filter what remains. -/
theorem remaining_append (source : Text) (patterns more : List Text) :
    remaining table source (patterns ++ more) =
      (remaining table source patterns).filter fun v => !matchedBy table more v.original := by
  unfold remaining
  rw [List.filter_filter]
  simp only [← List.append_assoc, IgnoreList.matchedBy_append, Bool.not_or, Bool.and_comm]

theorem remaining_congr (source : Text) (patterns others : List Text)
    (same : ∀ p, p ∈ others ↔ p ∈ patterns) :
    remaining table source others = remaining table source patterns := by
  have member : ∀ p, p ∈ IgnoreList.defaults ++ others ↔ p ∈ IgnoreList.defaults ++ patterns := by
    intro p
    rw [List.mem_append, List.mem_append, same]
  unfold remaining
  simp only [IgnoreList.matchedBy_congr _ _ member]

/-- One pattern more leaves the violations of the names that it does not match. -/
theorem remaining_other (found : List Violation) (p name : Text)
    (other : matchesName table p name = false) :
    ((found.filter fun v => !matchedBy table [p] v.original).filter fun v => v.original = name) =
      found.filter fun v => v.original = name := by
  have passes : matchedBy table [p] name = false := by simpa [matchedBy] using other
  rw [List.filter_filter]
  apply List.filter_congr
  intro v _
  by_cases same : v.original = name
  · simp [same, passes]
  · simp [same]

/-- Ignoring is filtering. With further patterns, those violations remain whose name none of them
matches, unchanged and in order, and the count is that of what remains. The same patterns in another
order or number leave the same report. One pattern more takes nothing from the names that it does not
match and adds nothing. No name in a report is matched by one of its patterns or a default one. -/
theorem ignoring_is_filtering (source path : Text) (patterns more : List Text)
    (usable : ∀ p ∈ patterns, Usable table p) (usable' : ∀ p ∈ more, Usable table p) :
    ∃ found, analyze table source path patterns = .ok (reportOn path found) ∧
      (∃ kept, kept = (found.filter fun v => !matchedBy table more v.original) ∧
        analyze table source path (patterns ++ more) = .ok (reportOn path kept) ∧
        (reportOn path kept).violationCount = .ofNat kept.length) ∧
      (∀ others, (∀ p, p ∈ others ↔ p ∈ patterns) →
        analyze table source path others = analyze table source path patterns) ∧
      (∀ p, Usable table p → ∃ kept,
        analyze table source path (patterns ++ [p]) = .ok (reportOn path kept) ∧
        kept.Sublist found ∧ ∀ name, matchesName table p name = false →
          (kept.filter fun v => v.original = name) = found.filter fun v => v.original = name) ∧
      ∀ v ∈ found, ∀ p ∈ IgnoreList.defaults ++ patterns,
        matchesName table p v.original = false := by
  have further : ∀ more, (∀ p ∈ more, Usable table p) →
      analyze table source path (patterns ++ more) =
        .ok (reportOn path ((remaining table source patterns).filter fun v =>
          !matchedBy table more v.original)) := by
    intro more usable'
    rw [← remaining_append]
    apply analyze_usable
    intro p member
    rcases List.mem_append.mp member with member | member
    · exact usable p member
    · exact usable' p member
  refine ⟨_, analyze_usable source path patterns usable, ⟨_, rfl, further more usable',
    violationCount_reportOn _ _⟩, fun others same => ?_, fun p usable' => ?_, ?_⟩
  · rw [analyze_usable source path patterns usable,
      analyze_usable source path others fun p inside => usable p ((same p).mp inside),
      remaining_congr source patterns others same]
  · exact ⟨_, further [p] (by simpa using usable'), List.filter_sublist, remaining_other _ p⟩
  · intro v found p member
    have unmatched := (List.mem_filter.mp found).2
    rw [Bool.not_eq_true', matchedBy, List.any_eq_false] at unmatched
    exact Bool.eq_false_iff.mpr (unmatched p member)

/-- Two names with a breach, one name that a pattern matches and one that a default pattern does. -/
def mixedNames : Text := "<p class=\"Card js-Card cardItem is-On\">".toList

def blockBreach (name better : String) (line column : Nat) : Violation :=
  ⟨.blockName, "Block name should be kebab-case (e.g. `profile-card`).".toList, name.toList,
    better.toList, .int line, .int column⟩

theorem ignoring_is_filtering_mixedNames :
    (∀ p ∈ ["^js-".toList], Usable .ascii p) ∧ (∀ p ∈ ["*Item".toList], Usable .ascii p) ∧
      ∃ found, found = [blockBreach "Card" "card" 1 11, blockBreach "cardItem" "card-item" 1 24] ∧
        analyze .ascii mixedNames [] ["^js-".toList] = .ok (reportOn [] found) ∧
        analyze .ascii mixedNames [] (["^js-".toList] ++ ["*Item".toList]) =
          .ok (reportOn []
            (found.filter fun v => !matchedBy .ascii ["*Item".toList] v.original)) := by
  have usable : ∀ p ∈ ["^js-".toList], Usable .ascii p := IgnorePattern.usable_single rfl
  have usable' : ∀ p ∈ ["*Item".toList], Usable .ascii p := IgnorePattern.usable_single rfl
  obtain ⟨found, linted, ⟨kept, rfl, again, -⟩, -⟩ :=
    ignoring_is_filtering mixedNames [] _ _ usable usable'
  have two : analyze .ascii mixedNames [] ["^js-".toList] = .ok (reportOn []
      [blockBreach "Card" "card" 1 11, blockBreach "cardItem" "card-item" 1 24]) := by
    decide +kernel
  have same : found = [blockBreach "Card" "card" 1 11, blockBreach "cardItem" "card-item" 1 24] :=
    reportOn_injective (Except.ok.inj (linted.symm.trans two))
  exact ⟨usable, usable', found, same, linted, again⟩

end Lint
end BemLint
