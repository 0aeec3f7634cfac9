import BemLint.Pattern.Parser

/-!
# Where refusals come from

A text is refused for another reason than being malformed only where it gives cause: a bound that is
too long stands in the text as that many digits in a row, and the classes of characters can be opposed
only where modes are asked for after an opening parenthesis and a question mark.

The reader never goes back behind where it began. So whatever it has read stands in the text, and
every step of reading keeps that.
-/
namespace BemLint.Pattern

def DigitRun (n : Nat) (s : Text) : Prop :=
  ∃ digits : Text, digits.length = n ∧ (∀ c ∈ digits, Text.isAsciiDigit c = true) ∧ digits <:+: s

def DigitSymbols (digits : Text) (symbols : List Symbol) : Prop :=
  (∀ c ∈ digits, Text.isAsciiDigit c = true) ∧ digits.map .plain <:+: symbols

/-- Where a group asks for something by a question mark. -/
def Extended (symbols : List Symbol) : Prop := [.plain '(', .plain '?'] <:+: symbols

/-- What holds of every reader that comes of another: it has read on, and has other modes for the
whole pattern only where the text can ask for them. -/
structure Within (start r : Reader) : Prop where
  ahead : r.ahead <:+ start.ahead
  modes : Extended start.ahead ∨ r.modes = start.modes ∧ r.unicode = start.unicode

/-- The refusals that the symbols ahead of a reader can give cause for. -/
inductive Caused (start : Reader) : Refusal → Prop where
  | malformed : Caused start .malformed
  | longBound {digits : Text} (long : Decimal.digitLimit < digits.length)
      (there : DigitSymbols digits start.ahead) : Caused start (.longBound digits.length)

/-- What a step of reading comes to: a reader that has read on, or a refusal with its cause. -/
def Ends {α : Type} (start : Reader) (post : α → Prop) : Except Refusal (α × Reader) → Prop
  | .ok (a, r) => Within start r ∧ post a
  | .error refusal => Caused start refusal

/-- A step of reading keeps to the symbols ahead of a reader, and what it finds has a property. -/
def Keeps {α : Type} (start : Reader) (x : Read α) (post : α → Prop) : Prop :=
  ∀ r, Within start r → Ends start post (x.run r)

/-- A step of reading keeps to the symbols ahead of a reader. -/
abbrev Reads {α : Type} (start : Reader) (x : Read α) : Prop := Keeps start x fun _ => True

variable {α β : Type} {start : Reader}

theorem Within.refl (start : Reader) : Within start start :=
  ⟨List.suffix_refl _, .inr ⟨rfl, rfl⟩⟩

/-- Reading on from a reader within keeps within. -/
theorem Within.further {r after : Reader} (within : Within start r)
    (ahead : after.ahead <:+ r.ahead) (modes : after.modes = r.modes)
    (unicode : after.unicode = r.unicode) : Within start after where
  ahead := ahead.trans within.ahead
  modes := within.modes.imp_right fun same => ⟨modes.trans same.1, unicode.trans same.2⟩

theorem Ends.bind {x : Read α} {f : α → Read β} {r : Reader} {mid : α → Prop} {post : β → Prop}
    (first : Ends start mid (x.run r)) (next : ∀ a, mid a → Keeps start (f a) post) :
    Ends start post ((x >>= f).run r) := by
  rw [StateT.run_bind]
  cases ran : x.run r with
  | error refusal =>
    rw [ran] at first
    exact first
  | ok found =>
    rw [ran] at first
    exact next found.1 first.2 found.2 first.1

theorem Keeps.bind {x : Read α} {f : α → Read β} {mid : α → Prop} {post : β → Prop}
    (first : Keeps start x mid) (next : ∀ a, mid a → Keeps start (f a) post) :
    Keeps start (x >>= f) post := fun r within => (first r within).bind next

theorem Reads.bind {x : Read α} {f : α → Read β} {post : β → Prop} (first : Reads start x)
    (next : ∀ a, Keeps start (f a) post) : Keeps start (x >>= f) post :=
  Keeps.bind first fun a _ => next a

theorem Keeps.reads {x : Read α} {post : α → Prop} (keeps : Keeps start x post) :
    Reads start x := by
  intro r within
  have ended := keeps r within
  cases ran : x.run r with
  | error refusal =>
    rw [ran] at ended
    exact ended
  | ok found =>
    rw [ran] at ended
    exact ⟨ended.1, trivial⟩

theorem keeps_pure {a : α} {post : α → Prop} (holds : post a) :
    Keeps start (pure a : Read α) post := fun _ within => ⟨within, holds⟩

theorem reads_pure (a : α) : Reads start (pure a : Read α) := keeps_pure trivial

theorem keeps_malformed {post : α → Prop} : Keeps start (malformed : Read α) post :=
  fun _ _ => .malformed

theorem keeps_malformed_bind {f : α → Read β} {post : β → Prop} :
    Keeps start ((malformed : Read α) >>= f) post := fun _ _ => .malformed

theorem keeps_get : Keeps start (get : Read Reader) (Within start) :=
  fun _ within => ⟨within, within⟩

theorem reads_set {r : Reader} (within : Within start r) : Reads start (set r : Read PUnit) :=
  fun _ _ => ⟨within, trivial⟩

theorem reads_modify {f : Reader → Reader} (kept : ∀ r, Within start r → Within start (f r)) :
    Reads start (modify f : Read PUnit) := fun r within => ⟨kept r within, trivial⟩

theorem reads_ite {condition : Prop} [Decidable condition] {yes no : Read α} {post : α → Prop}
    (first : Keeps start yes post) (second : Keeps start no post) :
    Keeps start (if condition then yes else no) post := by
  split
  · exact first
  · exact second

/-- One of two steps and then the same further ones. -/
theorem keeps_ite_bind {condition : Prop} [Decidable condition] {x y : Read α} {f : α → Read β}
    {mid : α → Prop} {post : β → Prop} (first : Keeps start x mid) (second : Keeps start y mid)
    (next : ∀ a, mid a → Keeps start (f a) post) :
    Keeps start (if condition then x >>= f else y >>= f) post :=
  reads_ite (first.bind next) (second.bind next)

theorem reads_ite_bind {condition : Prop} [Decidable condition] {x y : Read α} {f : α → Read β}
    {post : β → Prop} (first : Reads start x) (second : Reads start y)
    (next : ∀ a, Keeps start (f a) post) :
    Keeps start (if condition then x >>= f else y >>= f) post :=
  keeps_ite_bind first second fun a _ => next a

/-! ## Single symbols -/

theorem reads_peek : Reads start peek := keeps_get.bind fun _ _ => reads_pure _

theorem reads_skip : Reads start skip :=
  reads_modify fun _ within => within.further (List.tail_suffix _) rfl rfl

theorem reads_take : Reads start take :=
  reads_peek.bind fun _ => reads_skip.bind fun _ => reads_pure _

theorem reads_accept (c : Char) : Reads start (accept c) :=
  reads_peek.bind fun _ => reads_ite (reads_skip.bind fun _ => reads_pure _) (reads_pure _)

theorem reads_expect (c : Char) : Reads start (expect c) :=
  (reads_accept c).bind fun _ => reads_ite (reads_pure _) keeps_malformed

theorem plainWhile_front (p : Char → Bool) (count : Nat) (symbols : List Symbol) :
    (plainWhile p count symbols).map .plain <+: symbols ∧
      ∀ c ∈ plainWhile p count symbols, p c = true := by
  fun_induction plainWhile p count symbols with
  | case1 count c rest holds ih =>
    refine ⟨by simpa using ih.1, fun d member => ?_⟩
    rcases List.mem_cons.mp member with rfl | member
    · exact holds
    · exact ih.2 d member
  | case2 | case3 => simp

theorem keeps_takeWhile (p : Char → Bool) (count : Nat) :
    Keeps start (takeWhile p count) fun found =>
      (∀ c ∈ found, p c = true) ∧ found.map .plain <:+: start.ahead := by
  refine keeps_get.bind fun r within => ?_
  obtain ⟨front, each⟩ := plainWhile_front p count r.ahead
  refine Reads.bind (reads_modify fun r' within' => ?_) fun _ => keeps_pure ⟨each, ?_⟩
  · exact within'.further (List.drop_suffix _ _) rfl rfl
  · exact front.isInfix.trans within.ahead.isInfix

/-! ## Escapes and sets -/

theorem reads_hexEscape (count : Nat) : Reads start (hexEscape count) :=
  (keeps_takeWhile _ _).reads.bind fun _ => reads_ite (reads_pure _) keeps_malformed

theorem reads_nameUntil (stop : Char) (fuel : Nat) : Reads start (nameUntil stop fuel) := by
  induction fuel with
  | zero => exact keeps_malformed
  | succ fuel ih =>
    unfold nameUntil
    refine reads_take.bind fun symbol => ?_
    split
    · exact reads_ite (reads_pure _) (ih.bind fun _ => reads_pure _)
    · exact keeps_malformed

theorem reads_name (stop : Char) : Reads start (name stop) :=
  keeps_get.bind fun _ _ => (reads_nameUntil stop _).bind fun _ =>
    reads_ite keeps_malformed (reads_pure _)

theorem reads_namedEscape : Reads start namedEscape := by
  refine (reads_expect '{').bind fun _ => (reads_name '}').bind fun written => ?_
  refine keeps_get.bind fun r _ => ?_
  split
  · exact keeps_malformed
  · exact reads_pure _

theorem reads_codeEscape? (c : Char) : Reads start (codeEscape? c) := by
  unfold codeEscape?
  split
  · exact reads_namedEscape.bind fun _ => reads_pure _
  · exact (reads_hexEscape 2).bind fun _ => reads_pure _
  · exact (reads_hexEscape 4).bind fun _ => reads_pure _
  · exact (reads_hexEscape 8).bind fun _ => reads_ite (reads_pure _) keeps_malformed
  · exact reads_pure _

theorem reads_setEscape (c : Char) : Reads start (setEscape c) := by
  unfold setEscape
  refine reads_ite (reads_pure _) ?_
  split
  · exact reads_pure _
  split
  · exact reads_pure _
  refine (reads_codeEscape? c).bind fun code => ?_
  split
  · exact reads_pure _
  refine reads_ite ((keeps_takeWhile _ _).reads.bind fun _ => ?_) ?_
  · exact reads_ite (reads_pure _) keeps_malformed
  · exact reads_ite keeps_malformed (reads_pure _)

theorem reads_mentionable (index : Nat) : Reads start (mentionable index) := by
  refine keeps_get.bind fun r _ => ?_
  split
  · exact keeps_malformed
  split
  · exact reads_ite keeps_malformed (reads_pure _)
  · exact reads_pure _

theorem reads_digitEscape (modes : Modes) (c : Char) : Reads start (digitEscape modes c) := by
  refine (keeps_takeWhile _ _).reads.bind fun second => ?_
  have rest : ∀ third : Text, Reads start (if third.isEmpty = true then do
      let width ← mentionable (Text.decimalValue (c :: second))
      return Expr.backref (Text.decimalValue (c :: second)) width modes
    else if Text.digitsValue 8 (c :: second ++ third) ≤ 0xFF then
      return .char (.literal (Text.digitsValue 8 (c :: second ++ third)) false) modes
    else malformed) := fun third =>
    reads_ite ((reads_mentionable _).bind fun _ => reads_pure _)
      (reads_ite (reads_pure _) keeps_malformed)
  split
  · exact reads_ite ((keeps_takeWhile _ _).reads.bind rest) ((reads_pure _).bind rest)
  · exact (reads_pure _).bind rest

theorem reads_escapePiece (modes : Modes) (c : Char) : Reads start (escapePiece modes c) := by
  unfold escapePiece
  split
  · exact reads_pure _
  split
  · exact reads_pure _
  split
  · exact reads_pure _
  refine (reads_codeEscape? c).bind fun code => ?_
  split
  · exact reads_pure _
  refine reads_ite ((keeps_takeWhile _ _).reads.bind fun _ => reads_pure _) ?_
  refine reads_ite ((reads_digitEscape modes c).bind fun _ => reads_pure _) ?_
  exact reads_ite keeps_malformed (reads_pure _)

theorem reads_setMember (symbol : Symbol) : Reads start (setMember symbol) := by
  cases symbol with
  | plain c => exact reads_pure _
  | escape c => exact reads_setEscape c
  | dangling => exact keeps_malformed

theorem reads_setItems (fuel : Nat) (items : List SetItem) : Reads start (setItems fuel items) := by
  induction fuel generalizing items with
  | zero => exact keeps_malformed
  | succ fuel ih =>
    unfold setItems
    refine reads_take.bind fun symbol => ?_
    split
    case h_2 => exact keeps_malformed
    refine reads_ite (reads_pure _) ((reads_setMember _).bind fun first => ?_)
    refine (reads_accept '-').bind fun range => reads_ite ?_ (ih _)
    refine reads_take.bind fun other => ?_
    split
    case h_2 => exact keeps_malformed
    refine reads_ite (reads_pure _) ((reads_setMember _).bind fun second => ?_)
    split
    · exact reads_ite keeps_malformed (ih _)
    · exact keeps_malformed

theorem reads_setPiece (modes : Modes) : Reads start (setPiece modes) :=
  (reads_accept '^').bind fun _ => keeps_get.bind fun _ _ =>
    (reads_setItems _ _).bind fun _ => reads_pure _

/-! ## Bounds -/

/-- A bound is refused for its length only when it is that long. -/
theorem reads_bound? (digits : Text) (there : DigitSymbols digits start.ahead) :
    Reads start (bound? digits) := by
  unfold bound?
  refine reads_ite (reads_pure _) ?_
  split
  next long => exact fun r _ => .longBound long there
  next => exact reads_ite (reads_pure _) keeps_malformed

theorem reads_braceBounds? : Reads start braceBounds? := by
  refine keeps_get.bind fun before within => (keeps_takeWhile _ _).bind fun low lowThere => ?_
  refine (reads_accept ',').bind fun comma => ?_
  have same : Keeps start (pure low : Read Text) (DigitSymbols · start.ahead) :=
    keeps_pure lowThere
  refine keeps_ite_bind (keeps_takeWhile _ _) same fun high highThere => ?_
  refine (reads_accept '}').bind fun closed => ?_
  refine reads_ite ((reads_set within).bind fun _ => reads_pure _) ?_
  refine reads_peek.bind fun next => reads_ite keeps_malformed_bind ?_
  refine (reads_bound? low lowThere).bind fun least => ?_
  refine (reads_bound? high highThere).bind fun greatest => ?_
  split
  · exact reads_ite keeps_malformed (reads_pure _)
  · exact reads_pure _

theorem reads_bounds? (c : Char) : Reads start (bounds? c) := by
  unfold bounds?
  split
  · exact reads_pure _
  · exact reads_pure _
  · exact reads_pure _
  · exact reads_braceBounds?

theorem reads_repetitionGreed : Reads start repetitionGreed :=
  (reads_accept '?').bind fun _ => reads_ite (reads_pure _)
    ((reads_accept '+').bind fun _ => reads_ite (reads_pure _) (reads_pure _))

theorem reads_repeatLast (least : Nat) (greatest : Option Nat) (sofar : List Piece) :
    Reads start (repeatLast least greatest sofar) := by
  unfold repeatLast
  split
  · exact reads_repetitionGreed.bind fun _ => reads_pure _
  · exact keeps_malformed

/-! ## Openings of groups -/

theorem reads_modeLetter (symbol : Option Symbol) : Reads start (modeLetter symbol) := by
  unfold modeLetter
  split
  · exact reads_ite (reads_pure _) keeps_malformed
  · exact keeps_malformed

theorem reads_lettersOn (letter : Char) (fuel : Nat) (sofar : List Char) :
    Reads start (lettersOn letter fuel sofar) := by
  induction fuel generalizing letter sofar with
  | zero => exact keeps_malformed
  | succ fuel ih =>
    unfold lettersOn
    refine reads_ite keeps_malformed_bind (reads_ite keeps_malformed_bind ?_)
    refine reads_take.bind fun symbol => ?_
    split
    · exact reads_pure _
    · exact reads_pure _
    · exact reads_pure _
    · exact (reads_modeLetter symbol).bind fun _ => ih _ _

theorem reads_lettersOff (letter : Char) (fuel : Nat) (sofar : List Char) :
    Reads start (lettersOff letter fuel sofar) := by
  induction fuel generalizing letter sofar with
  | zero => exact keeps_malformed
  | succ fuel ih =>
    unfold lettersOff
    refine reads_ite keeps_malformed_bind (reads_take.bind fun symbol => ?_)
    exact reads_ite (reads_pure _) ((reads_modeLetter symbol).bind fun _ => ih _ _)

theorem reads_modeRequest (first : Char) : Reads start (modeRequest first) := by
  refine keeps_get.bind fun r _ => ?_
  refine reads_ite_bind (reads_pure _) (reads_lettersOn _ _ _) fun read => ?_
  refine reads_ite (reads_pure _) (reads_ite keeps_malformed_bind ?_)
  refine reads_ite ?_ ((reads_pure _).bind fun _ => reads_ite keeps_malformed_bind (reads_pure _))
  refine reads_take.bind fun _ => (reads_modeLetter _).bind fun _ => ?_
  exact (reads_lettersOff _ _ _).bind fun _ => reads_ite keeps_malformed_bind (reads_pure _)

theorem reads_conditionGroup : Reads start conditionGroup := by
  refine (reads_name ')').bind fun written => keeps_get.bind fun r _ => ?_
  have rest : ∀ index : Nat, Reads start (do
      if r.behindGroups.isSome then
        let _ ← mentionable index
      return index) := fun index =>
    reads_ite ((reads_mentionable index).bind fun _ => reads_pure _) (reads_pure _)
  refine reads_ite ?_ ?_
  · split
    · exact (reads_pure _).bind rest
    · exact keeps_malformed_bind
  · split
    · exact keeps_malformed_bind
    · exact keeps_malformed_bind
    · refine (reads_modify fun r within => ?_).bind fun _ => (reads_pure _).bind rest
      exact within.further (List.suffix_refl _) rfl rfl

theorem reads_openGroup (label : Option Text) : Reads start (openGroup label) := by
  refine keeps_get.bind fun r within => ?_
  have rest : ∀ names : List (Text × Nat), Reads start (do
      set { r with nextGroup := r.nextGroup + 1, names := names }
      return r.nextGroup) := by
    intro names
    have kept : Within start { r with nextGroup := r.nextGroup + 1, names := names } :=
      within.further (List.suffix_refl _) rfl rfl
    exact (reads_set kept).bind fun _ => reads_pure _
  split
  · exact (reads_pure _).bind rest
  · exact reads_ite keeps_malformed_bind ((reads_pure _).bind rest)

theorem reads_closeGroup (index : Nat) (e : Expr) : Reads start (closeGroup index e) :=
  reads_modify fun _ within => within.further (List.suffix_refl _) rfl rfl

theorem reads_skipComment (fuel : Nat) : Reads start (skipComment fuel) := by
  induction fuel with
  | zero => exact keeps_malformed
  | succ fuel ih =>
    unfold skipComment
    refine reads_take.bind fun symbol => ?_
    split
    · exact keeps_malformed
    · exact reads_ite (reads_pure _) ih

/-- A group with a name, or one that is mentioned by its name. -/
theorem reads_namedOpening (modes : Modes) : Reads start (do
    if ← accept '<' then
      let label ← name '>'
      if Text.isIdentifier label then return .capture (some label) else malformed
    else if ← accept '=' then
      let label ← name ')'
      unless Text.isIdentifier label do malformed
      match (← get).names.find? (·.1 == label) with
      | none => malformed
      | some (_, index) => return .piece (.backref index (← mentionable index) modes)
    else malformed : Read Opening) := by
  refine (reads_accept '<').bind fun _ => reads_ite ?_ ?_
  · exact (reads_name '>').bind fun _ => reads_ite (reads_pure _) keeps_malformed
  refine (reads_accept '=').bind fun _ => reads_ite ?_ keeps_malformed
  refine (reads_name ')').bind fun label => reads_ite ?_ keeps_malformed_bind
  refine keeps_get.bind fun r _ => ?_
  split
  · exact keeps_malformed
  · exact (reads_mentionable _).bind fun _ => reads_pure _

theorem reads_extendedOpening (modes : Modes) : Reads start (extendedOpening modes) := by
  refine keeps_get.bind fun r _ => reads_take.bind fun symbol => ?_
  split
  case h_1 => exact reads_namedOpening modes
  case h_2 | h_4 | h_5 | h_8 => exact reads_pure _
  case h_3 => exact (reads_skipComment _).bind fun _ => reads_pure _
  case h_6 =>
    refine reads_take.bind fun symbol => ?_
    split
    · exact reads_pure _
    · exact reads_pure _
    · exact keeps_malformed
  case h_7 => exact reads_conditionGroup.bind fun _ => reads_pure _
  case h_9 =>
    refine reads_ite ((reads_modeRequest _).bind fun request => ?_) keeps_malformed
    split
    · exact reads_pure _
    · exact reads_pure _
  case h_10 => exact keeps_malformed

theorem reads_opening (modes : Modes) : Reads start (opening modes) :=
  (reads_accept '?').bind fun _ => reads_ite (reads_extendedOpening modes) (reads_pure _)

/-- Modes for the whole pattern are asked for after a question mark. -/
theorem opening_whole {modes : Modes} {r after : Reader} {on : List Char}
    (ran : (opening modes).run r = .ok (.whole on, after)) :
    r.ahead.head? = some (.plain '?') := by
  by_cases mark : r.ahead.head? = some (.plain '?')
  · exact mark
  · rw [opening, run_bind_ok (accept_absent '?' r mark)] at ran
    cases ran

/-- So the parenthesis before it and the question mark stand in the text. -/
theorem opening_ends (modes : Modes) (r : Reader) (rest : List Symbol) (within : Within start r)
    (ahead : r.ahead = .plain '(' :: rest) :
    Ends start (fun found => ∀ on, found = .whole on → Extended start.ahead)
      ((opening modes).run { r with ahead := rest }) := by
  have later : Within start { r with ahead := rest } :=
    within.further ⟨[.plain '('], ahead.symm⟩ rfl rfl
  have ended := reads_opening modes _ later
  cases ran : (opening modes).run { r with ahead := rest } with
  | error refusal =>
    rw [ran] at ended
    exact ended
  | ok found =>
    rw [ran] at ended
    refine ⟨ended.1, fun on whole => ?_⟩
    obtain ⟨found, after⟩ := found
    obtain rfl : found = .whole on := whole
    obtain ⟨more, rfl⟩ := List.head?_eq_some_iff.mp (opening_whole ran)
    have front : [.plain '(', .plain '?'] <+: r.ahead := ⟨more, ahead.symm⟩
    exact front.isInfix.trans within.ahead.isInfix

/-! ## Whole patterns -/

theorem reads_requestWhole (on : List Char) (extended : Extended start.ahead) :
    Reads start (requestWhole on) := by
  refine keeps_get.bind fun r within => ?_
  have kept : Within start { r with
      modes := r.modes.request (on.filter (· != 'u')) []
      unicode := r.unicode || on.contains 'u' } := ⟨within.ahead, .inl extended⟩
  exact (reads_set kept).bind fun _ => reads_pure _

theorem dropLine_suffix (symbols : List Symbol) : dropLine symbols <:+ symbols := by
  induction symbols with
  | nil => exact List.suffix_refl _
  | cons symbol rest ih =>
    rw [dropLine]
    split
    · exact List.suffix_cons _ _
    · exact ih.trans (List.suffix_cons _ _)

/-- All three of the functions that call each other keep to the symbols ahead. -/
structure ReadsAll (start : Reader) (fuel : Nat) : Prop where
  alternatives : ∀ calls modes first, Reads start (alternatives fuel calls modes first)
  pieces : ∀ calls modes first sofar, Reads start (pieces fuel calls modes first sofar)
  group : ∀ calls modes found, Reads start (group fuel calls modes found)

theorem reads_alternatives_succ {fuel : Nat} (ih : ReadsAll start fuel) (calls : Nat)
    (modes : Modes) (first : Bool) : Reads start (alternatives (fuel + 1) calls modes first) := by
  unfold alternatives
  refine reads_ite keeps_malformed_bind ((ih.pieces _ _ _ _).bind fun e => ?_)
  refine (reads_accept '|').bind fun _ => reads_ite ?_ (reads_pure _)
  exact keeps_get.bind fun _ _ => (ih.alternatives _ _ _).bind fun _ => reads_pure _

theorem reads_group_succ {fuel : Nat} (ih : ReadsAll start fuel) (calls : Nat) (modes : Modes)
    (found : Opening) : Reads start (group (fuel + 1) calls modes found) := by
  have closed : ∀ inner (f : Expr → Expr), Reads start (do
      let e ← Pattern.alternatives fuel calls inner false
      expect ')'
      return f e) := fun inner f =>
    (ih.alternatives _ _ _).bind fun _ => (reads_expect ')').bind fun _ => reads_pure _
  cases found with
  | nothing | whole => exact keeps_malformed
  | piece => exact reads_pure _
  | capture label =>
    exact (reads_openGroup label).bind fun _ => (ih.alternatives _ _ _).bind fun _ =>
      (reads_expect ')').bind fun _ => (reads_closeGroup _ _).bind fun _ => reads_pure _
  | plain inner => exact closed inner id
  | atomic => exact closed modes .atomic
  | ahead negated => exact closed modes (.ahead negated)
  | behind negated =>
    have kept : ∀ (f : Reader → Option Nat), Reads start
        (modify fun r => { r with behindGroups := f r } : Read PUnit) := fun f =>
      reads_modify fun _ within => within.further (List.suffix_refl _) rfl rfl
    exact keeps_get.bind fun _ _ => (kept _).bind fun _ => (ih.alternatives _ _ _).bind fun _ =>
      (kept _).bind fun _ => (reads_expect ')').bind fun _ => reads_pure _
  | condition index =>
    have rest : ∀ yes no, Reads start (do
        expect ')'
        return Expr.cond index yes no) := fun _ _ =>
      (reads_expect ')').bind fun _ => reads_pure _
    refine reads_ite keeps_malformed_bind ?_
    refine (ih.pieces _ _ _ _).bind fun yes => (reads_accept '|').bind fun _ => reads_ite ?_ ?_
    · refine (ih.pieces _ _ _ _).bind fun no => reads_peek.bind fun _ => ?_
      exact reads_ite keeps_malformed_bind ((reads_pure _).bind (rest yes))
    · exact (reads_pure _).bind (rest yes)

theorem reads_pieces_succ {fuel : Nat} (ih : ReadsAll start fuel) (calls : Nat) (modes : Modes)
    (first : Bool) (sofar : List Piece) :
    Reads start (pieces (fuel + 1) calls modes first sofar) := by
  intro r within
  have more := fun sofar => ih.pieces calls modes first sofar
  rw [Pattern.pieces, run_bind_ok (peek_run r)]
  cases ahead : r.ahead with
  | nil => exact reads_pure _ r within
  | cons symbol rest =>
    cases symbol with
    | dangling => exact keeps_malformed r within
    | escape c =>
      exact reads_skip.bind (fun _ => (reads_escapePiece modes c).bind fun _ => more _) r within
    | plain c =>
      simp only [List.head?_cons]
      split
      · exact reads_pure _ r within
      rw [run_bind_ok (skip_run ahead)]
      have later : Within start { r with ahead := rest } :=
        within.further ⟨[.plain c], ahead.symm⟩ rfl rfl
      split
      · exact more _ _ later
      split
      · refine (reads_modify fun r within => ?_).bind (fun _ => more _) _ later
        exact within.further (dropLine_suffix _) rfl rfl
      split
      case h_5 =>
        refine (opening_ends modes r rest within ahead).bind fun found whole => ?_
        split
        · exact more _
        · exact reads_ite ((reads_requestWhole _ (whole _ rfl)).bind fun _ => ih.pieces _ _ _ _)
            keeps_malformed
        · exact (ih.group _ _ _).bind fun _ => more _
      case h_4 => exact (reads_setPiece modes).bind (fun _ => more _) _ later
      case h_6 | h_7 | h_8 | h_9 =>
        refine (reads_bounds? _).bind (fun bounds => ?_) _ later
        split
        · exact more _
        · exact (reads_repeatLast _ _ _).bind fun _ => more _
      all_goals exact more _ _ later

theorem readsAll (start : Reader) (fuel : Nat) : ReadsAll start fuel := by
  induction fuel with
  | zero => exact ⟨fun _ _ _ => keeps_malformed, fun _ _ _ _ => keeps_malformed,
      fun _ _ _ => keeps_malformed⟩
  | succ fuel ih =>
    exact ⟨reads_alternatives_succ ih, reads_pieces_succ ih, reads_group_succ ih⟩

/-! ## Refused texts -/

variable {table : CharacterNames}

theorem symbols_text (s : Text) : (symbols s).flatMap Symbol.text = s := by
  fun_induction symbols s <;> simp_all [Symbol.text]

theorem infix_of_symbols {chars s : Text} (among : chars.map .plain <:+: symbols s) :
    chars <:+: s := by
  obtain ⟨before, after, whole⟩ := among
  have texts : (chars.map Symbol.plain).flatMap Symbol.text = chars := by
    simp [List.flatMap_map, Symbol.text]
  refine ⟨before.flatMap Symbol.text, after.flatMap Symbol.text, ?_⟩
  rw [← symbols_text s, ← whole, List.flatMap_append, List.flatMap_append, texts]

/-- Reading a text to its end, before what was read is looked at as a whole. -/
theorem parse_run (s : Text) :
    parse table s =
      ((alternatives (3 * s.length + 3) 0 .plain true).run (Reader.ofText table s)).bind
      fun (e, r) => do
        if r.modes.asciiOnly && r.unicode then throw .opposedClasses
        if !r.ahead.isEmpty then throw .malformed
        if r.conditions.any (r.nextGroup ≤ ·) then throw .malformed
        if !e.fixedBehind || (r.modes.template && e.repeats) then throw .malformed
        return e := rfl

/-- A text is refused while it is read, with its cause, or afterwards. -/
theorem parse_refused {s : Text} {refusal : Refusal} (refused : parse table s = .error refusal) :
    Caused (Reader.ofText table s) refusal ∨ refusal = .opposedClasses ∧ Extended (symbols s) := by
  have ended := (readsAll (Reader.ofText table s) (3 * s.length + 3)).alternatives 0 .plain true _
    (Within.refl _)
  rw [parse_run] at refused
  cases ran : (alternatives (3 * s.length + 3) 0 .plain true).run (Reader.ofText table s) with
  | error found =>
    rw [ran] at ended refused
    cases refused
    exact .inl ended
  | ok found =>
    rw [ran] at ended refused
    obtain ⟨e, r⟩ := found
    by_cases opposed : (r.modes.asciiOnly && r.unicode) = true
    · have extended : Extended (symbols s) := ended.1.modes.resolve_right fun same => by
        rw [same.1, same.2] at opposed
        cases opposed
      simp only [Except.bind, opposed, if_true] at refused
      cases refused
      exact .inr ⟨rfl, extended⟩
    · simp only [Except.bind, if_neg opposed] at refused
      -- whatever else is looked at makes a text malformed
      repeat' split at refused
      all_goals cases refused <;> exact .inl .malformed

/-- A bound that is too long stands in the text. -/
theorem parse_longBound {s : Text} {n : Nat} (refused : parse table s = .error (.longBound n)) :
    Decimal.digitLimit < n ∧ DigitRun n s := by
  obtain (- | ⟨long, digits, there⟩) | ⟨other, -⟩ := parse_refused refused
  · exact ⟨long, _, rfl, digits, infix_of_symbols there⟩
  · cases other

/-- Classes are opposed only where a text asks for modes. -/
theorem parse_opposedClasses {s : Text} (refused : parse table s = .error .opposedClasses) :
    ['(', '?'] <:+: s := by
  rcases parse_refused refused with caused | ⟨-, extended⟩
  · cases caused
  · have among : ['(', '?'].map Symbol.plain <:+: symbols s := extended
    exact infix_of_symbols among

end BemLint.Pattern
