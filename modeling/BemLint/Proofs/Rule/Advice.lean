import BemLint.Proofs.Rule.LowLines

/-!
# Taking the advice about modifiers

The advice writes two hyphens for one delimiter of the name: its last low line, or its only hyphen
where two words are joined by that alone. Behind the two hyphens the rule finds nothing, so whether
it speaks again is decided in front of them, where another low line may join a modifier. Each time
the advice is taken the name has one low line fewer, and that bounds how often there is any.
-/
namespace BemLint.Rule

/-- How advice is made of a name: the delimiter between `before` and `after` becomes two hyphens. -/
structure Rejoins (name advice before after : Text) : Prop where
  delimiter : name = before ++ '_' :: after ∧ '_' ∉ after ∨
    name = before ++ '-' :: after ∧ '_' ∉ name ∧ '-' ∉ before ∧ '-' ∉ after
  advice : advice = before ++ '-' :: '-' :: after

/-- One name comes of another by taking the advice of the rule so many times. -/
inductive Heeded : Nat → Text → Text → Prop
  | done (name : Text) : Heeded 0 name name
  | step {count : Nat} {name final : Text} {v : Violation} (found : v ∈ checkModifier name)
      (more : Heeded count v.suggestion final) : Heeded (count + 1) name final

/-! ## One piece of advice -/

theorem HoldsModifier.lowLine_mem {name : Text} (holds : HoldsModifier name) : '_' ∈ name := by
  obtain ⟨before, element, modifier, after, rfl, -⟩ := holds
  simp

theorem lowLineModifier_rejoins {name : Text} (holds : HoldsModifier name)
    (ends : name.getLast? ≠ some '_') :
    ∃ before after, Rejoins name (lowLineModifier name).suggestion before after := by
  obtain ⟨before, after, rfl, last⟩ := Text.exists_last '_' name holds.lowLine_mem
  have filled : after ≠ [] := by
    rintro rfl
    simp at ends
  exact ⟨before, after, .inl ⟨rfl, last⟩, hyphenateLastLowLine_append before after filled last⟩

theorem hyphenModifier_rejoins {name : Text} (twoPart : isTwoPartKebab name = true) :
    ∃ before after, Rejoins name (hyphenModifier name).suggestion before after := by
  obtain ⟨lowLines, hyphens⟩ := isTwoPartKebab_counts name twoPart
  have some : '-' ∈ name := List.count_pos_iff.mp (by omega)
  obtain ⟨before, after, rfl, first⟩ := List.eq_append_cons_of_mem some
  rw [List.count_append, List.count_cons_self] at hyphens
  have last : '-' ∉ after := List.count_eq_zero.mp (by omega)
  exact ⟨before, after, .inr ⟨rfl, lowLines, first, last⟩,
    Text.replaceFirst_append '-' ['-', '-'] before after first⟩

theorem checkModifier_rejoins {name : Text} {v : Violation} (found : v ∈ checkModifier name)
    (ends : name.getLast? ≠ some '_') : ∃ before after, Rejoins name v.suggestion before after := by
  rcases (mem_checkModifier_iff name v).mp found with ⟨low, rfl⟩ | ⟨twoPart, rfl⟩
  · exact lowLineModifier_rejoins ((hasLowLineModifier_iff_holds name).mp low) ends
  · exact hyphenModifier_rejoins twoPart

section Rejoined

variable {name advice before after : Text} (rejoins : Rejoins name advice before after)

include rejoins

theorem Rejoins.after_absent : '_' ∉ after := by
  rcases rejoins.delimiter with ⟨-, absent⟩ | ⟨rfl, absent, -⟩
  · exact absent
  · exact fun member => absent (by simp [member])

theorem Rejoins.ne : advice ≠ name := by
  intro same
  have lengths := congrArg List.length same
  rw [rejoins.advice] at lengths
  rcases rejoins.delimiter with ⟨rfl, -⟩ | ⟨rfl, -⟩ <;>
    simp only [List.length_append, List.length_cons] at lengths <;> omega

theorem Rejoins.twoPart : isTwoPartKebab advice = false := by
  apply isTwoPartKebab_delimited
  right
  simp only [rejoins.advice, List.count_append, List.count_cons_self]
  omega

theorem Rejoins.getLast? : advice.getLast? ≠ some '_' := by
  rw [rejoins.advice, List.getLast?_append_of_ne_nil _ (by simp)]
  intro last
  have member := List.mem_of_getLast? last
  simp [rejoins.after_absent] at member

/-- The advice is taken for good when there is no modifier in front of the two hyphens. -/
theorem Rejoins.settled_iff : checkModifier advice = [] ↔ ¬ HoldsModifier before := by
  have behind : hasLowLineModifier ('-' :: after) = false :=
    hasLowLineModifier_absent _ (by simp [rejoins.after_absent])
  have low : hasLowLineModifier advice = hasLowLineModifier before := by
    rw [rejoins.advice, hasLowLineModifier_hyphen, behind, Bool.or_false]
  rw [checkModifier_eq_nil_iff, low, ← hasLowLineModifier_iff_holds, Bool.not_eq_true]
  exact and_iff_left rejoins.twoPart

theorem Rejoins.count_lowLine (some : '_' ∈ name) : advice.count '_' + 1 = name.count '_' := by
  rw [rejoins.advice]
  rcases rejoins.delimiter with ⟨rfl, -⟩ | ⟨-, absent, -⟩
  · simp [List.count_append, Nat.add_assoc]
  · exact absurd some absent

end Rejoined

/-! ## Advice taken again and again -/

/-- What advice leaves to be found: low lines only, and none at the end of the name. -/
structure Advised (name : Text) : Prop where
  last : name.getLast? ≠ some '_'
  twoPart : isTwoPartKebab name = false

/-- A piece of advice on such a name leads to another and uses up one low line. -/
theorem Advised.step {name : Text} (advised : Advised name) {v : Violation}
    (found : v ∈ checkModifier name) :
    Advised v.suggestion ∧ v.suggestion.count '_' + 1 = name.count '_' := by
  obtain ⟨before, after, rejoins⟩ := checkModifier_rejoins found advised.last
  have holds : HoldsModifier name := by
    rcases (mem_checkModifier_iff name v).mp found with ⟨low, -⟩ | ⟨twoPart, -⟩
    · exact (hasLowLineModifier_iff_holds name).mp low
    · simp [advised.twoPart] at twoPart
  exact ⟨⟨rejoins.getLast?, rejoins.twoPart⟩, rejoins.count_lowLine holds.lowLine_mem⟩

/-- Every time the advice is taken there is one low line fewer. -/
theorem Heeded.count_lowLine {count : Nat} {name final : Text} (heeded : Heeded count name final)
    (advised : Advised name) : count + final.count '_' = name.count '_' := by
  induction heeded with
  | done name => omega
  | step found more ih =>
    obtain ⟨next, fewer⟩ := advised.step found
    have rest := ih next
    omega

/-- The low lines do not last for ever, so neither does the advice. -/
theorem Advised.exists_settled {name : Text} (advised : Advised name) :
    ∃ count final, Heeded count name final ∧ checkModifier final = [] := by
  -- By induction on the low lines that are left, of which each step uses up one.
  induction lowLines : name.count '_' generalizing name with
  | zero =>
    have none := hasLowLineModifier_absent name (List.count_eq_zero.mp lowLines)
    exact ⟨0, name, .done name, (checkModifier_eq_nil_iff name).mpr ⟨none, advised.twoPart⟩⟩
  | succ n ih =>
    by_cases silent : checkModifier name = []
    · exact ⟨0, name, .done name, silent⟩
    · obtain ⟨v, found⟩ := List.exists_mem_of_ne_nil _ silent
      obtain ⟨next, fewer⟩ := advised.step found
      obtain ⟨count, final, more, settled⟩ := ih next (by omega)
      exact ⟨count + 1, final, .step found more, settled⟩

/-- The advice on a name that does not end in a low line is another name, in which two hyphens stand
for its last low line or its only hyphen. The rule has nothing against that name unless there is a
modifier in front of the two hyphens. In any case taking its advice again and again, which uses up
one low line each time, leads to a name that it has nothing against. -/
theorem modifier_advice_settles (name : Text) (v : Violation) (found : v ∈ checkModifier name)
    (ends : name.getLast? ≠ some '_') :
    v.suggestion ≠ name ∧
    (∃ before after, Rejoins name v.suggestion before after ∧
      (checkModifier v.suggestion = [] ↔ ¬ HoldsModifier before)) ∧
    (∀ count final, Heeded count v.suggestion final →
      count + final.count '_' = v.suggestion.count '_') ∧
    ∃ count final, Heeded count v.suggestion final ∧ checkModifier final = [] := by
  obtain ⟨before, after, rejoins⟩ := checkModifier_rejoins found ends
  have advised : Advised v.suggestion := ⟨rejoins.getLast?, rejoins.twoPart⟩
  exact ⟨rejoins.ne, ⟨before, after, rejoins, rejoins.settled_iff⟩,
    fun _ _ heeded => heeded.count_lowLine advised, advised.exists_settled⟩

theorem modifier_advice_settles_twice :
    lowLineModifier "button__a_b_c".toList ∈ checkModifier "button__a_b_c".toList ∧
    (lowLineModifier "button__a_b_c".toList).suggestion = "button__a_b--c".toList ∧
    ∃ count final, Heeded count "button__a_b--c".toList final ∧ checkModifier final = [] := by
  have found : lowLineModifier "button__a_b_c".toList ∈ checkModifier "button__a_b_c".toList := by
    decide
  have advice : (lowLineModifier "button__a_b_c".toList).suggestion = "button__a_b--c".toList := by
    decide
  obtain ⟨-, -, -, settles⟩ := modifier_advice_settles _ _ found (by decide)
  rw [advice] at settles
  exact ⟨found, advice, settles⟩

/-- With two low lines behind a delimiter, the advice leaves the first of them; and a low line at
the end of the name is left, so the advice is the name itself. -/
theorem advice_leaves_modifier :
    (∃ v ∈ checkModifier "button__a_b_c".toList, checkModifier v.suggestion ≠ []) ∧
    ∃ v ∈ checkModifier "button__a_b_".toList, v.suggestion = "button__a_b_".toList :=
  ⟨⟨lowLineModifier "button__a_b_c".toList, by decide, by decide⟩,
    ⟨lowLineModifier "button__a_b_".toList, by decide, by decide⟩⟩

end BemLint.Rule
