import BemLint.Ignore
import BemLint.Proofs.Text.Pieces
import Mathlib.Tactic.FinCases

/-!
# Wildcard patterns as expressions

The source text of a wildcard pattern is read as an expression whatever the pattern is: every
character of a piece is one symbol that stands for itself, and a star between two pieces is a dot and
a star that nothing after it can change. The expression that is read matches what the wildcard pattern
matches.
-/
namespace BemLint.Pattern.Wildcard

/-! ## The symbols of the source text -/

def symbolOf (c : Char) : Symbol := if special.contains c then .escape c else .plain c

def symbolsOf : List Text → List Symbol
  | [] => []
  | [piece] => piece.map symbolOf
  | piece :: pieces => piece.map symbolOf ++ .plain '.' :: .plain '*' :: symbolsOf pieces

theorem symbols_plain (c : Char) (rest : Text) (other : c ≠ '\\') :
    symbols (c :: rest) = .plain c :: symbols rest := by
  rw [symbols.eq_4]
  all_goals intros; simp_all

theorem symbols_escape (s rest : Text) :
    symbols (escape s ++ rest) = s.map symbolOf ++ symbols rest := by
  induction s with
  | nil => rfl
  | cons c s ih =>
    by_cases inside : special.contains c = true
    · have front : escape (c :: s) ++ rest = '\\' :: c :: (escape s ++ rest) := by
        simp [escape, List.mem_of_elem_eq_true inside]
      rw [front, symbols.eq_3, ih, List.map_cons, symbolOf, if_pos inside]
      rfl
    · have front : escape (c :: s) ++ rest = c :: (escape s ++ rest) := by
        simp only [escape, List.flatMap_cons, if_neg inside]
        rfl
      have other : c ≠ '\\' := by
        rintro rfl
        exact inside rfl
      rw [front, symbols_plain _ _ other, ih, List.map_cons, symbolOf, if_neg inside]
      rfl

theorem symbols_source (pattern : Text) :
    symbols (source pattern) = symbolsOf (Text.splitAt '*' pattern) := by
  unfold source
  generalize Text.splitAt '*' pattern = pieces
  induction pieces with
  | nil => rfl
  | cons piece pieces ih =>
    cases pieces with
    | nil => simpa [Text.join, symbolsOf, symbols] using symbols_escape piece []
    | cons next pieces =>
      rw [List.map_cons, Text.join_cons _ _ (by simp), symbols_escape,
        symbolsOf.eq_3 _ _ (by simp), ← ih]
      simp only [List.cons_append, List.nil_append]
      rw [symbols_plain _ _ (by decide), symbols_plain _ _ (by decide)]

/-! ## Reading the source text -/

variable {calls : Nat}

theorem pieces_end (fuel calls : Nat) (modes : Modes) (first : Bool) (sofar : List Piece)
    (r : Reader) (ended : r.ahead = []) :
    (pieces (fuel + 1) calls modes first sofar).run r = .ok (sequence sofar, r) := by
  rw [pieces, run_bind_ok (peek_run r), ended]
  rfl

theorem pieces_plain (fuel : Nat) (sofar : List Piece) (r : Reader) (c : Char)
    (rest : List Symbol) (ordinary : special.contains c = false)
    (ahead : r.ahead = .plain c :: rest) :
    (pieces (fuel + 1) calls .plain true sofar).run r =
      (pieces fuel calls .plain true (literalPiece .plain c.toNat :: sofar)).run
        { r with ahead := rest } := by
  have other : ∀ d, special.contains d = true → c ≠ d := by
    rintro d inside rfl
    rw [inside] at ordinary
    cases ordinary
  rw [pieces, run_bind_ok (peek_run r), ahead]
  simp only [List.head?_cons, other '|' (by decide), other ')' (by decide), Modes.plain,
    decide_false, Bool.or_self, Bool.false_eq_true, if_false, Bool.false_and]
  rw [run_bind_ok (skip_run ahead)]
  split
  case h_10 => rfl
  all_goals exact absurd rfl (other _ (by decide))

theorem escapePiece_special (c : Char) (inside : special.contains c = true) (r : Reader) :
    (escapePiece .plain c).run r = .ok (literalPiece .plain c.toNat, r) := by
  have each : ∀ d ∈ special, (escapePiece .plain d).run r = .ok (literalPiece .plain d.toNat, r) := by
    intro d member
    fin_cases member <;> rfl
  exact each c (List.mem_of_elem_eq_true inside)

theorem pieces_escape (fuel : Nat) (sofar : List Piece) (r : Reader) (c : Char)
    (rest : List Symbol) (inside : special.contains c = true)
    (ahead : r.ahead = .escape c :: rest) :
    (pieces (fuel + 1) calls .plain true sofar).run r =
      (pieces fuel calls .plain true (literalPiece .plain c.toNat :: sofar)).run
        { r with ahead := rest } := by
  rw [pieces, run_bind_ok (peek_run r), ahead]
  simp only [List.head?_cons]
  rw [run_bind_ok (skip_run ahead), run_bind_ok (escapePiece_special c inside _)]

/-- The pieces of a literal text, latest first. -/
def literalPieces (s : Text) : List Piece := (s.map fun c => literalPiece .plain c.toNat).reverse

theorem pieces_literal (calls : Nat) (s : Text) (fuel : Nat) (sofar : List Piece) (r : Reader)
    (rest : List Symbol) (ahead : r.ahead = s.map symbolOf ++ rest) :
    (pieces (fuel + s.length) calls .plain true sofar).run r =
      (pieces fuel calls .plain true (literalPieces s ++ sofar)).run { r with ahead := rest } := by
  induction s generalizing sofar r with
  | nil =>
    simp only [List.map_nil, List.nil_append] at ahead
    subst ahead
    rfl
  | cons c s ih =>
    have step : (pieces (fuel + s.length + 1) calls .plain true sofar).run r =
        (pieces (fuel + s.length) calls .plain true (literalPiece .plain c.toNat :: sofar)).run
          { r with ahead := s.map symbolOf ++ rest } := by
      rw [List.map_cons, List.cons_append, symbolOf] at ahead
      split at ahead
      next inside => exact pieces_escape _ _ _ c _ inside ahead
      next outside => exact pieces_plain _ _ _ c _ (Bool.eq_false_iff.mpr outside) ahead
    rw [List.length_cons, ← Nat.add_assoc, step, ih _ _ rfl]
    simp [literalPieces]

/-- What may follow a star: nothing that would change how it takes its rounds. -/
def Settled (rest : List Symbol) : Prop :=
  rest.head? ≠ some (.plain '?') ∧ rest.head? ≠ some (.plain '+')

theorem repetitionGreed_settled (r : Reader) (settled : Settled r.ahead) :
    repetitionGreed.run r = .ok (.greedy, r) := by
  rw [repetitionGreed, run_bind_ok (accept_absent '?' r settled.1)]
  change (accept '+' >>= fun _ => _ : Read Greed).run r = _
  rw [run_bind_ok (accept_absent '+' r settled.2)]
  rfl

theorem pieces_dot (fuel : Nat) (sofar : List Piece) (r : Reader) (rest : List Symbol)
    (ahead : r.ahead = .plain '.' :: rest) :
    (pieces (fuel + 1) calls .plain true sofar).run r =
      (pieces fuel calls .plain true ((.other, .char .any .plain) :: sofar)).run
        { r with ahead := rest } := by
  rw [pieces, run_bind_ok (peek_run r), ahead]
  change (skip >>= fun _ => _ : Read Expr).run r = _
  rw [run_bind_ok (skip_run ahead)]
  rfl

theorem pieces_repeat (fuel : Nat) (e : Expr) (sofar : List Piece) (r : Reader)
    (rest : List Symbol) (settled : Settled rest) (ahead : r.ahead = .plain '*' :: rest) :
    (pieces (fuel + 1) calls .plain true ((.other, e) :: sofar)).run r =
      (pieces fuel calls .plain true ((.repetition, .repeat .greedy 0 none e) :: sofar)).run
        { r with ahead := rest } := by
  rw [pieces, run_bind_ok (peek_run r), ahead]
  change (skip >>= fun _ => _ : Read Expr).run r = _
  rw [run_bind_ok (skip_run ahead)]
  change (repeatLast 0 none ((.other, e) :: sofar) >>= fun _ => _ : Read Expr).run _ = _
  have repeated : (repeatLast 0 none ((.other, e) :: sofar)).run { r with ahead := rest } =
      .ok ((.repetition, .repeat .greedy 0 none e) :: sofar, { r with ahead := rest }) := by
    rw [repeatLast, run_bind_ok (repetitionGreed_settled { r with ahead := rest } settled)]
    rfl
  rw [run_bind_ok repeated]

theorem settled_symbolsOf (pieces : List Text) : Settled (symbolsOf pieces) := by
  have front : ∀ (s : Text) (rest : List Symbol), Settled rest → Settled (s.map symbolOf ++ rest) := by
    intro s rest settled
    cases s with
    | nil => exact settled
    | cons c s =>
      have special : ∀ d, special.contains d = true → symbolOf c ≠ .plain d := by
        intro d inside same
        rw [symbolOf] at same
        split at same
        next => cases same
        next outside =>
          cases same
          exact outside inside
      constructor
      · simpa using special '?' (by decide)
      · simpa using special '+' (by decide)
  cases pieces with
  | nil => exact ⟨nofun, nofun⟩
  | cons piece pieces =>
    cases pieces with
    | nil => simpa [symbolsOf] using front piece [] ⟨nofun, nofun⟩
    | cons next pieces =>
      rw [symbolsOf.eq_3 _ _ (by simp)]
      exact front piece _ ⟨by simp, by simp⟩

/-- The pieces of texts with a star between each two, latest first. -/
def starredPieces : List Text → List Piece
  | [] => []
  | [piece] => literalPieces piece
  | piece :: pieces => starredPieces pieces ++ (.repetition, anything) :: literalPieces piece

theorem pieces_starred (calls : Nat) (parts : List Text) (fuel : Nat) (sofar : List Piece)
    (r : Reader) (ahead : r.ahead = symbolsOf parts) :
    (pieces (fuel + (symbolsOf parts).length + 1) calls .plain true sofar).run r =
      .ok (sequence (starredPieces parts ++ sofar), { r with ahead := [] }) := by
  induction parts generalizing fuel sofar r with
  | nil =>
    have ended : r.ahead = [] := ahead
    rw [pieces_end _ _ _ _ _ r ended, ← ended]
    rfl
  | cons part parts ih =>
    cases parts with
    | nil =>
      rw [symbolsOf] at ahead ⊢
      have read := pieces_literal calls part (fuel + 1) sofar r [] (by rw [ahead, List.append_nil])
      rw [List.length_map, Nat.add_right_comm, read, pieces_end _ _ _ _ _ _ rfl]
      rfl
    | cons next parts =>
      rw [symbolsOf.eq_3 _ _ (by simp)] at ahead ⊢
      have read := pieces_literal calls part (fuel + ((symbolsOf (next :: parts)).length + 1) + 2)
        sofar r _ ahead
      have size : fuel + (part.map symbolOf ++ .plain '.' :: .plain '*' ::
          symbolsOf (next :: parts)).length + 1 =
            fuel + ((symbolsOf (next :: parts)).length + 1) + 2 + part.length := by
        simp only [List.length_append, List.length_map, List.length_cons]
        omega
      rw [size, read, pieces_dot _ _ _ _ rfl, pieces_repeat _ _ _ _ _ (settled_symbolsOf _) rfl,
        ← Nat.add_assoc, ih _ _ _ rfl, starredPieces.eq_3 part (next :: parts) (by simp)]
      simp [anything]

/-! ## What the expression read matches -/

def runAll : List Expr → Way
  | [], p, next => next p
  | e :: es, p, next => e.run p fun q => runAll es q next

theorem runAll_append (es more : List Expr) (p : Place) (next : Next) :
    runAll (es ++ more) p next = runAll es p fun q => runAll more q next := by
  induction es generalizing p with
  | nil => rfl
  | cons e es ih => simp only [List.cons_append, runAll, ih]

theorem run_sequence (found : List Piece) (p : Place) (next : Next) :
    (sequence found).run p next = runAll (found.reverse.map (·.2)) p next := by
  change _ = runAll _ p fun q => Expr.empty.run q next
  unfold sequence
  generalize Expr.empty = rest
  induction found generalizing p rest with
  | nil => rfl
  | cons piece found ih =>
    rw [List.foldl_cons, ih, List.reverse_cons, List.map_append, runAll_append]
    congr 1
    funext q
    cases rest <;> rfl

theorem run_literal (s : Text) (p : Place) (next : Next) :
    (literal s).run p next = runAll ((literalPieces s).reverse.map (·.2)) p next := by
  induction s generalizing p with
  | nil => rfl
  | cons c s ih =>
    simp only [literalPieces, List.reverse_reverse, List.map_cons, runAll] at ih ⊢
    rw [literal, Expr.run]
    simp only [ih]
    rfl

theorem run_ofPieces (parts : List Text) (p : Place) (next : Next) :
    (ofPieces parts).run p next = runAll ((starredPieces parts).reverse.map (·.2)) p next := by
  induction parts generalizing p with
  | nil => rfl
  | cons part parts ih =>
    cases parts with
    | nil => exact run_literal part p next
    | cons other parts =>
      rw [ofPieces.eq_3 _ _ (by simp), starredPieces.eq_3 part (other :: parts) (by simp)]
      simp only [List.reverse_append, List.reverse_cons, List.map_append, List.append_assoc,
        runAll_append, ← run_literal, Expr.run, ih]
      rfl

/-- Neither literal characters nor stars look behind. -/
theorem fixedBehind_sequence (found : List Piece) (each : ∀ piece ∈ found, piece.2.fixedBehind) :
    (sequence found).fixedBehind = true := by
  have fixed : Expr.empty.fixedBehind = true := rfl
  unfold sequence
  generalize Expr.empty = rest at fixed ⊢
  induction found generalizing rest with
  | nil => exact fixed
  | cons piece found ih =>
    refine ih (fun other member => each other (List.mem_cons_of_mem _ member)) _ ?_
    have first := each piece (List.mem_cons_self ..)
    cases rest <;> simp_all [Expr.fixedBehind]

theorem fixedBehind_starred (parts : List Text) :
    ∀ piece ∈ starredPieces parts, piece.2.fixedBehind = true := by
  have letters : ∀ s, ∀ piece ∈ literalPieces s, piece.2.fixedBehind = true := by
    intro s piece member
    rw [literalPieces, List.mem_reverse, List.mem_map] at member
    obtain ⟨c, -, rfl⟩ := member
    rfl
  induction parts with
  | nil => simp [starredPieces]
  | cons part parts ih =>
    cases parts with
    | nil => exact letters part
    | cons next parts =>
      rw [starredPieces.eq_3 part (next :: parts) (by simp)]
      intro piece member
      rcases List.mem_append.mp member with member | member
      · exact ih piece member
      · rcases List.mem_cons.mp member with rfl | member
        · rfl
        · exact letters part piece member

theorem length_symbols_le (s : Text) : (symbols s).length ≤ s.length := by
  fun_induction symbols s <;> simp_all
  omega

def readExpr (pattern : Text) : Expr := sequence (starredPieces (Text.splitAt '*' pattern))

theorem parse_source (table : CharacterNames) (pattern : Text) :
    parse table (source pattern) = .ok (readExpr pattern) := by
  have parts := symbols_source pattern
  have short := length_symbols_le (source pattern)
  obtain ⟨spare, fuel⟩ : ∃ spare, 3 * (source pattern).length + 2 =
      spare + (symbolsOf (Text.splitAt '*' pattern)).length + 1 := by
    rw [parts] at short
    exact ⟨3 * (source pattern).length + 1 - (symbolsOf (Text.splitAt '*' pattern)).length, by omega⟩
  have read := pieces_starred 2 (Text.splitAt '*' pattern) spare []
    (Reader.ofText table (source pattern)) parts
  rw [← fuel, List.append_nil] at read
  have whole : (alternatives (3 * (source pattern).length + 3) 0 .plain true).run
      (Reader.ofText table (source pattern)) =
      .ok (readExpr pattern, { Reader.ofText table (source pattern) with ahead := [] }) := by
    rw [alternatives]
    change (pieces _ 2 .plain true [] >>= fun _ => _ : Read Expr).run _ = _
    rw [run_bind_ok read, run_bind_ok (accept_absent '|' _ (by simp))]
    rfl
  have fixed : (readExpr pattern).fixedBehind = true :=
    fixedBehind_sequence _ (fixedBehind_starred (Text.splitAt '*' pattern))
  rw [parse, whole]
  simp [Reader.ofText, Modes.plain, fixed, bind, Except.bind, pure, Except.pure]

theorem search_congr {e other : Expr} (same : e.run = other.run) (s : Text) :
    e.search s = other.search s := by
  have onwards : ∀ before, e.searchFrom before s = other.searchFrom before s := by
    induction s with
    | nil =>
      intro before
      rw [Expr.searchFrom, Expr.searchFrom, same]
    | cons c rest ih =>
      intro before
      rw [Expr.searchFrom, Expr.searchFrom, same, ih]
  exact onwards []

theorem search_readExpr (pattern name : Text) :
    (readExpr pattern).search name = (expr pattern).search name := by
  refine search_congr ?_ name
  funext p next
  rw [readExpr, run_sequence, expr, run_ofPieces]

end BemLint.Pattern.Wildcard
