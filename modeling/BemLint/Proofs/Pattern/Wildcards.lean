import BemLint.Proofs.Pattern.Translation
import Mathlib.Logic.Relation

/-!
# What wildcard patterns match

Matching with backtracking succeeds when one of the places where an expression can end lets what
comes next succeed. `Reaches` says this of a way and its ends, so that the order in which the ends
are tried no longer matters. It holds of the characters of a wildcard pattern and of its stars, and
from them of the whole. A name on one line is therefore matched just when the pieces of the pattern
stand in it one behind the other.
-/
namespace BemLint.Pattern

/-! ## Ways and their ends -/

/-- A way from a place leads to an answer just when what is next does from some end of the way. -/
def Reaches (way : Way) (ends : Place → Place → Prop) : Prop :=
  ∀ p next, (way p next).isSome = true ↔ ∃ q, ends p q ∧ (next q).isSome = true

structure Place.Passes (s : Text) (p q : Place) : Prop where
  rest : p.rest = s ++ q.rest
  before : q.before = s.reverse ++ p.before
  groups : q.groups = p.groups

theorem Place.passes_nil_iff (p q : Place) : Place.Passes [] p q ↔ p = q := by
  constructor
  · intro passes
    cases p
    cases q
    simpa using ⟨passes.before.symm, passes.rest, passes.groups.symm⟩
  · rintro rfl
    exact ⟨rfl, rfl, rfl⟩

theorem Place.passes_append_iff (s t : Text) (p r : Place) :
    Place.Passes (s ++ t) p r ↔ ∃ q, Place.Passes s p q ∧ Place.Passes t q r := by
  constructor
  · intro passes
    refine ⟨⟨s.reverse ++ p.before, t ++ r.rest, p.groups⟩, ⟨?_, rfl, rfl⟩,
      ⟨rfl, ?_, passes.groups⟩⟩
    · simpa using passes.rest
    · simpa using passes.before
  · rintro ⟨q, front, back⟩
    refine ⟨?_, ?_, back.groups.trans front.groups⟩
    · rw [front.rest, back.rest, List.append_assoc]
    · rw [back.before, front.before, List.reverse_append, List.append_assoc]

theorem Reaches.congr {way : Way} {ends others : Place → Place → Prop} (reaches : Reaches way ends)
    (same : ∀ p q, ends p q ↔ others p q) : Reaches way others := by
  intro p next
  simp only [reaches p next, same]

theorem reaches_empty : Reaches Expr.empty.run (Place.Passes []) := by
  intro p next
  simp only [Place.passes_nil_iff, Expr.run, exists_eq_left']

theorem reaches_char (test : CharTest) (modes : Modes) :
    Reaches (Expr.char test modes).run
      fun p q => ∃ c, test.holds modes c = true ∧ Place.Passes [c] p q := by
  rintro ⟨before, rest, groups⟩ next
  rw [Expr.run]
  cases rest with
  | nil =>
    have stuck : ∀ c q, ¬ Place.Passes [c] ⟨before, [], groups⟩ q := fun c q passes => by
      simpa using passes.rest
    simp [Place.advance?, stuck]
  | cons c rest =>
    have passes : Place.Passes [c] ⟨before, c :: rest, groups⟩ ⟨c :: before, rest, groups⟩ :=
      ⟨rfl, rfl, rfl⟩
    have only : ∀ d q, Place.Passes [d] ⟨before, c :: rest, groups⟩ q →
        c = d ∧ q = ⟨c :: before, rest, groups⟩ := by
      rintro d ⟨before', rest', groups'⟩ ⟨ahead, behind, kept⟩
      obtain ⟨rfl, rfl⟩ := List.cons.inj ahead
      simp_all
    simp only [Place.advance?]
    constructor
    · intro found
      split at found
      next holds => exact ⟨_, ⟨c, holds, passes⟩, found⟩
      · cases found
    · rintro ⟨q, ⟨d, holds, passed⟩, found⟩
      obtain ⟨rfl, rfl⟩ := only d q passed
      rwa [if_pos holds]

theorem Reaches.seq {a b : Expr} {ends others : Place → Place → Prop} (first : Reaches a.run ends)
    (second : Reaches b.run others) :
    Reaches (Expr.seq a b).run fun p r => ∃ q, ends p q ∧ others q r := by
  intro p next
  have onwards : ∀ q, (b.run q next).isSome = true ↔ ∃ r, others q r ∧ (next r).isSome = true :=
    fun q => second q next
  simp only [Expr.run, first p, onwards]
  constructor
  · rintro ⟨q, front, r, back, found⟩
    exact ⟨r, ⟨q, front, back⟩, found⟩
  · rintro ⟨r, ⟨q, front, back⟩, found⟩
    exact ⟨q, front, r, back, found⟩

/-- One more round is tried before none. -/
theorem greedily_isSome (body : Way) (fuel : Nat) (p : Place) (next : Next) :
    (greedily body (fuel + 1) none p next).isSome = true ↔
      (body p fun q => if p.meets q then next q else greedily body fuel none q next).isSome = true ∨
        (next p).isSome = true := by
  rw [greedily, if_neg (by simp)]
  dsimp only [lessOne]
  cases body p fun q => if p.meets q then next q else greedily body fuel none q next <;> simp

/-- Rounds that each move on reach whatever some number of them reaches: the longest is tried first,
but every shorter one is tried after it. -/
theorem Reaches.greedily {body : Way} {step : Place → Place → Prop} (round : Reaches body step)
    (shorter : ∀ p q, step p q → q.rest.length < p.rest.length) (fuel : Nat) (p : Place)
    (next : Next) (enough : p.rest.length < fuel) :
    (greedily body fuel none p next).isSome = true ↔
      ∃ q, Relation.ReflTransGen step p q ∧ (next q).isSome = true := by
  induction fuel generalizing p with
  | zero => omega
  | succ fuel ih =>
    rw [greedily_isSome, round p]
    have onwards : ∀ q, step p q →
        ((if p.meets q then next q else Pattern.greedily body fuel none q next).isSome = true ↔
          ∃ r, Relation.ReflTransGen step q r ∧ (next r).isSome = true) := by
      intro q moved
      have fewer := shorter p q moved
      have apart : p.meets q = false := by
        simp only [Place.meets, beq_eq_false_iff_ne]
        omega
      rw [apart]
      exact ih q (by omega)
    constructor
    · rintro (⟨q, moved, found⟩ | found)
      · obtain ⟨r, more, found⟩ := (onwards q moved).mp found
        exact ⟨r, .head moved more, found⟩
      · exact ⟨p, .refl, found⟩
    · rintro ⟨r, run, found⟩
      rcases run.cases_head with rfl | ⟨q, moved, more⟩
      · exact .inr found
      · exact .inl ⟨q, moved, (onwards q moved).mpr ⟨r, more, found⟩⟩

/-- A search finds an end from some place of the text. -/
theorem search_iff {e : Expr} {ends : Place → Place → Prop} (reaches : Reaches e.run ends)
    (s : Text) : e.search s = true ↔
      ∃ before rest q, s = before ++ rest ∧ ends ⟨before.reverse, rest, []⟩ q := by
  have here : ∀ p, (e.run p some).isSome = true ↔ ∃ q, ends p q := by
    intro p
    simp [reaches p]
  have onwards : ∀ front, e.searchFrom front s = true ↔
      ∃ before rest q, s = before ++ rest ∧ ends ⟨before.reverse ++ front, rest, []⟩ q := by
    induction s with
    | nil =>
      intro front
      rw [Expr.searchFrom, here]
      constructor
      · rintro ⟨q, reached⟩
        exact ⟨[], [], q, rfl, reached⟩
      · rintro ⟨before, rest, q, whole, reached⟩
        obtain ⟨rfl, rfl⟩ := List.append_eq_nil_iff.mp whole.symm
        exact ⟨q, reached⟩
    | cons c s ih =>
      intro front
      rw [Expr.searchFrom, Bool.or_eq_true, here, ih]
      constructor
      · rintro (⟨q, reached⟩ | ⟨before, rest, q, rfl, reached⟩)
        · exact ⟨[], c :: s, q, rfl, reached⟩
        · exact ⟨c :: before, rest, q, rfl, by simpa using reached⟩
      · rintro ⟨before, rest, q, whole, reached⟩
        cases before with
        | nil => exact .inl ⟨q, by simpa [whole] using reached⟩
        | cons d before =>
          obtain ⟨rfl, rfl⟩ := List.cons.inj whole
          exact .inr ⟨before, rest, q, rfl, by simpa using reached⟩
  rw [Expr.search, onwards []]
  simp only [List.append_nil]

namespace Wildcard

/-! ## The texts of a wildcard pattern -/

theorem reaches_literal (s : Text) : Reaches (literal s).run (Place.Passes s) := by
  induction s with
  | nil => exact reaches_empty
  | cons c s ih =>
    refine ((reaches_char _ _).seq ih).congr fun p r => ?_
    have same : ∀ d : Char, CharTest.holds .plain d (.literal c.toNat false) = true ↔ d = c := by
      intro d
      simp [CharTest.holds, Modes.same, Modes.plain, Char.toNat_inj]
    simp only [same, exists_eq_left]
    exact (Place.passes_append_iff [c] s p r).symm

theorem reaches_anything :
    Reaches anything.run fun p q => ∃ gap, '\n' ∉ gap ∧ Place.Passes gap p q := by
  have round := reaches_char .any .plain
  have shorter : ∀ p q : Place, (∃ c, CharTest.holds .plain c .any = true ∧ Place.Passes [c] p q) →
      q.rest.length < p.rest.length := by
    rintro p q ⟨c, -, passes⟩
    rw [passes.rest, List.length_append, List.length_singleton]
    omega
  intro p next
  have start : anything.run p next =
      greedily (fun q k => (Expr.char .any .plain).run q k) (p.rest.length + 1) none p next := rfl
  rw [start, Reaches.greedily round shorter _ p next (by omega)]
  clear start
  refine exists_congr fun q => and_congr_left fun _ => ?_
  constructor
  · intro run
    induction run using Relation.ReflTransGen.head_induction_on with
    | refl => exact ⟨[], by simp, (Place.passes_nil_iff q q).mpr rfl⟩
    | head moved _ ih =>
      obtain ⟨c, holds, passes⟩ := moved
      obtain ⟨gap, oneLine, passed⟩ := ih
      have differ : c ≠ '\n' := by simpa [CharTest.holds, Modes.plain] using holds
      refine ⟨[c] ++ gap, ?_, (Place.passes_append_iff [c] gap _ _).mpr ⟨_, passes, passed⟩⟩
      simp [Ne.symm differ, oneLine]
  · rintro ⟨gap, oneLine, passes⟩
    induction gap generalizing p with
    | nil => exact (Place.passes_nil_iff p q).mp passes ▸ .refl
    | cons c gap ih =>
      obtain ⟨between, first, more⟩ := (Place.passes_append_iff [c] gap p q).mp passes
      simp only [List.mem_cons, not_or] at oneLine
      have holds : CharTest.holds .plain c .any = true := by
        simpa [CharTest.holds, Modes.plain] using Ne.symm oneLine.1
      exact .head ⟨c, holds, first⟩ (ih between oneLine.2 more)

/-- The texts that pieces stand for when anything on one line may come between each two. -/
inductive Spelled : List Text → Text → Prop
  | none : Spelled [] []
  | last (piece : Text) : Spelled [piece] piece
  | more (piece : Text) {gap rest other : Text} {pieces : List Text} (oneLine : '\n' ∉ gap)
      (behind : Spelled (other :: pieces) rest) :
      Spelled (piece :: other :: pieces) (piece ++ (gap ++ rest))

theorem reaches_ofPieces (pieces : List Text) :
    Reaches (ofPieces pieces).run fun p q => ∃ s, Spelled pieces s ∧ Place.Passes s p q := by
  induction pieces with
  | nil =>
    refine reaches_empty.congr fun p q => ⟨fun passes => ⟨[], .none, passes⟩, ?_⟩
    rintro ⟨s, spelled, passes⟩
    cases spelled
    exact passes
  | cons piece pieces ih =>
    cases pieces with
    | nil =>
      refine (reaches_literal piece).congr fun p q => ⟨fun passes => ⟨piece, .last _, passes⟩, ?_⟩
      rintro ⟨s, spelled, passes⟩
      cases spelled
      exact passes
    | cons other pieces =>
      rw [ofPieces.eq_3 _ _ (by simp)]
      refine ((reaches_literal piece).seq (reaches_anything.seq ih)).congr fun p r => ?_
      constructor
      · rintro ⟨q, front, q', ⟨gap, oneLine, between⟩, rest, spelled, back⟩
        refine ⟨piece ++ (gap ++ rest), .more piece oneLine spelled, ?_⟩
        exact (Place.passes_append_iff _ _ p r).mpr
          ⟨q, front, (Place.passes_append_iff _ _ q r).mpr ⟨q', between, back⟩⟩
      · rintro ⟨s, spelled, passes⟩
        cases spelled with
        | @more _ gap rest _ _ oneLine behind =>
          obtain ⟨q, front, passed⟩ := (Place.passes_append_iff _ _ p r).mp passes
          obtain ⟨q', between, back⟩ := (Place.passes_append_iff _ _ q r).mp passed
          exact ⟨q, front, q', ⟨gap, oneLine, between⟩, rest, behind, back⟩

theorem search_expr_iff (pattern name : Text) :
    (expr pattern).search name = true ↔ ∃ before s after,
      name = before ++ (s ++ after) ∧ Spelled (Text.splitAt '*' pattern) s := by
  rw [expr, search_iff (reaches_ofPieces _)]
  constructor
  · rintro ⟨before, rest, q, rfl, s, spelled, passes⟩
    exact ⟨before, s, q.rest, congrArg (before ++ ·) passes.rest, spelled⟩
  · rintro ⟨before, s, after, rfl, spelled⟩
    exact ⟨before, s ++ after, ⟨s.reverse ++ before.reverse, after, []⟩, rfl, s, spelled, rfl, rfl,
      rfl⟩

/-! ## Pieces one behind the other -/

/-- Texts stand in a text in their order: each of them behind the end of the one before it, with
anything in front of it and anything behind. -/
inductive InOrder : List Text → Text → Prop
  | none (rest : Text) : InOrder [] rest
  | next (gap piece : Text) {rest : Text} {pieces : List Text} (behind : InOrder pieces rest) :
      InOrder (piece :: pieces) (gap ++ (piece ++ rest))

theorem Spelled.inOrder {pieces : List Text} {s : Text} (spelled : Spelled pieces s)
    (before after : Text) : InOrder pieces (before ++ (s ++ after)) := by
  induction spelled generalizing before with
  | none => exact .none _
  | last piece => exact .next before piece (.none after)
  | @more piece gap rest other pieces oneLine behind ih =>
    have stands := InOrder.next before piece (ih gap)
    simpa only [List.append_assoc] using stands

/-- On one line nothing keeps a star from what lies between two pieces. -/
theorem InOrder.spelled {pieces : List Text} {name : Text} (stands : InOrder pieces name)
    (oneLine : '\n' ∉ name) :
    ∃ before s after, name = before ++ (s ++ after) ∧ Spelled pieces s := by
  induction stands with
  | none rest => exact ⟨rest, [], [], by simp, .none⟩
  | @next gap piece rest pieces behind ih =>
    simp only [List.mem_append, not_or] at oneLine
    cases pieces with
    | nil => exact ⟨gap, piece, rest, rfl, .last piece⟩
    | cons other pieces =>
      obtain ⟨before, s, after, rfl, spelled⟩ := ih oneLine.2.2
      have clear : '\n' ∉ before := fun member => oneLine.2.2 (List.mem_append_left _ member)
      exact ⟨gap, piece ++ (before ++ s), after, by simp, .more piece clear spelled⟩

theorem search_expr_oneLine (pattern name : Text) (oneLine : '\n' ∉ name) :
    (expr pattern).search name = true ↔ InOrder (Text.splitAt '*' pattern) name := by
  rw [search_expr_iff]
  constructor
  · rintro ⟨before, s, after, rfl, spelled⟩
    exact spelled.inOrder before after
  · intro stands
    exact stands.spelled oneLine

end Wildcard
end BemLint.Pattern

namespace BemLint.IgnorePattern
open Pattern.Wildcard (InOrder)

variable {table : CharacterNames}

theorem compile_malformed {pattern : Text}
    (refused : Pattern.parse table pattern = .error .malformed) :
    compile table pattern =
      .ok ⟨Pattern.Wildcard.source pattern, Pattern.Wildcard.expr pattern⟩ := by
  rw [compile, refused]

/-- A text that is no expression is used as a wildcard pattern. Its translation is read as an
expression with the same matches, and a name on one line is matched just when the pieces between the
stars of the text, each as it stands there, are in the name in their order and do not overlap. -/
theorem malformed_matches_in_order (pattern name : Text)
    (refused : Pattern.parse table pattern = .error .malformed) (oneLine : '\n' ∉ name) :
    Text.join ['*'] (Text.splitAt '*' pattern) = pattern ∧
      (∀ piece ∈ Text.splitAt '*' pattern, '*' ∉ piece) ∧
      ∃ p e, compile table pattern = .ok p ∧ p.source = Pattern.Wildcard.source pattern ∧
        Pattern.parse table p.source = .ok e ∧ p.ignores name = e.search name ∧
        (p.ignores name = true ↔ InOrder (Text.splitAt '*' pattern) name) := by
  refine ⟨Text.join_splitAt '*' pattern, Text.splitAt_notMem '*' pattern, _,
    Pattern.Wildcard.readExpr pattern, compile_malformed refused, rfl,
    Pattern.Wildcard.parse_source table pattern, ?_, ?_⟩
  · exact (Pattern.Wildcard.search_readExpr pattern name).symm
  · exact Pattern.Wildcard.search_expr_oneLine pattern name oneLine

/-- An open parenthesis, a blank, a number sign and a letter beyond ASCII stand for themselves; in
the other order the pieces do not match. -/
theorem malformed_matches_in_order_unclosed :
    Pattern.parse .ascii "(u- *#é".toList = .error .malformed ∧
    '\n' ∉ "my(u- x#é".toList ∧ '\n' ∉ "#é(u- ".toList ∧
    (∃ p, compile .ascii "(u- *#é".toList = .ok p ∧ p.ignores "my(u- x#é".toList = true) ∧
    ¬ InOrder ["(u- ".toList, "#é".toList] "#é(u- ".toList := by
  have refused : Pattern.parse .ascii "(u- *#é".toList = .error .malformed := by rfl
  have oneLine : '\n' ∉ "my(u- x#é".toList := by decide
  have oneLine' : '\n' ∉ "#é(u- ".toList := by decide
  have pieces : Text.splitAt '*' "(u- *#é".toList = ["(u- ".toList, "#é".toList] := by decide
  have stands : InOrder ["(u- ".toList, "#é".toList] "my(u- x#é".toList :=
    .next "my".toList "(u- ".toList (.next "x".toList "#é".toList (.none []))
  obtain ⟨-, -, p, -, compiled, -, -, -, matched⟩ := malformed_matches_in_order _ _ refused oneLine
  obtain ⟨-, -, p', -, compiled', -, -, -, matched'⟩ :=
    malformed_matches_in_order _ _ refused oneLine'
  rw [pieces] at matched matched'
  refine ⟨refused, oneLine, oneLine', ⟨p, compiled, matched.mpr stands⟩, ?_⟩
  obtain rfl := Except.ok.inj (compiled'.symm.trans (compile_malformed refused))
  rw [← matched']
  decide +kernel

end BemLint.IgnorePattern
