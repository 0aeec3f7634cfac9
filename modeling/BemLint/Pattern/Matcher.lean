import BemLint.Pattern.Expr

/-!
# Matching patterns

Matching with backtracking. An expression is tried at a place together with what is to be done at
each place where it can end; the ends are tried in order, and the first that leads to an answer
decides. The texts are class names, so a repetition may look at the length of the rest.
-/
namespace BemLint.Pattern

/-- What is to be done at a place. -/
abbrev Next := Place → Option Place

/-- An expression as a way from a place to what is to be done next. -/
abbrev Way := Place → Next → Option Place

def Place.advance? (p : Place) : Option (Char × Place) :=
  match p.rest with
  | [] => none
  | c :: rest => some (c, { p with before := c :: p.before, rest := rest })

/-- The place a number of characters earlier. -/
def Place.back? : (count : Nat) → Place → Option Place
  | 0, p => some p
  | count + 1, p =>
    match p.before with
    | [] => none
    | c :: before => Place.back? count { p with before := before, rest := c :: p.rest }

/-- What lies between two places of a text. -/
def Place.between (start stop : Place) : Text :=
  (stop.before.take (stop.before.length - start.before.length)).reverse

/-- The text of a group, if it has taken part. -/
def Place.captured? (p : Place) (index : Nat) : Option Text :=
  (p.groups.find? (·.1 == index)).map (·.2)

def Place.follow? (modes : Modes) : Text → Place → Option Place
  | [], p => some p
  | c :: cs, p =>
    match p.rest with
    | [] => none
    | d :: rest =>
      let same := if modes.ignoreCase then modes.lower c.toNat == modes.lower d.toNat else c == d
      if same then Place.follow? modes cs { p with before := d :: p.before, rest := rest } else none

/-- Whether nothing lies between two places. -/
def Place.meets (p q : Place) : Bool := p.rest.length == q.rest.length

/-- One round fewer. -/
def lessOne : Option Nat → Option Nat
  | none => none
  | some n => some (n - 1)

/-- As many rounds as are demanded. A round that moves nothing stands for all that are left. The
fuel is greater than the length of the rest, which every other round shortens. -/
def demanded (body : Way) : (fuel count : Nat) → Way
  | _, 0, p, next => next p
  | 0, _ + 1, _, _ => none
  | fuel + 1, count + 1, p, next =>
    body p fun q => if p.meets q then next q else demanded body fuel count q next

/-- Further rounds, as many as possible first. A round that moves nothing is the last. -/
def greedily (body : Way) : (fuel : Nat) → (budget : Option Nat) → Way
  | 0, _, p, next => next p
  | fuel + 1, budget, p, next =>
    if budget = some 0 then next p
    else
      let again (q : Place) : Option Place :=
        if p.meets q then next q else greedily body fuel (lessOne budget) q next
      match body p again with
      | some found => some found
      | none => next p

/-- Further rounds, as few as possible first. -/
def lazily (body : Way) : (fuel : Nat) → (budget : Option Nat) → Way
  | 0, _, p, next => next p
  | fuel + 1, budget, p, next =>
    match next p with
    | some found => some found
    | none =>
      if budget = some 0 then none
      else body p fun q => if p.meets q then next q else lazily body fuel (lessOne budget) q next

/-- Further rounds as long as there is one, each as it first succeeds. -/
def exhaust (body : Way) : (fuel : Nat) → (budget : Option Nat) → Place → Place
  | 0, _, p => p
  | fuel + 1, budget, p =>
    if budget = some 0 then p
    else match body p some with
      | none => p
      | some q => if p.meets q then q else exhaust body fuel (lessOne budget) q

/-- As many rounds as are demanded, each as it first succeeds. -/
def demandedFirst (body : Way) : (fuel count : Nat) → Place → Option Place
  | _, 0, p => some p
  | 0, _ + 1, _ => none
  | fuel + 1, count + 1, p =>
    match body p some with
    | none => none
    | some q => if p.meets q then some q else demandedFirst body fuel count q

def rounds (greed : Greed) (least : Nat) (greatest : Option Nat) (body : Way) : Way :=
  fun p next =>
    let budget := greatest.map (· - least)
    let fuel (q : Place) := q.rest.length + 1
    match greed with
    | .greedy => demanded body (fuel p) least p fun q => greedily body (fuel q) budget q next
    | .lazy => demanded body (fuel p) least p fun q => lazily body (fuel q) budget q next
    | .possessive =>
      match demandedFirst body (fuel p) least p with
      | none => none
      | some q => next (exhaust body (fuel q) budget q)

def Expr.run : Expr → Way
  | .empty, p, next => next p
  | .char test modes, p, next =>
    match p.advance? with
    | some (c, q) => if test.holds modes c then next q else none
    | none => none
  | .anchor a modes, p, next => if a.holds modes p then next p else none
  | .seq a b, p, next => a.run p fun q => b.run q next
  | .alt a b, p, next =>
    match a.run p next with
    | some found => some found
    | none => b.run p next
  | .group index e, p, next =>
    e.run p fun q => next { q with groups := (index, p.between q) :: q.groups }
  | .backref index _ modes, p, next =>
    match p.captured? index with
    | none => none
    | some s =>
      match p.follow? modes s with
      | none => none
      | some q => next q
  | .cond index yes no, p, next =>
    if (p.captured? index).isSome then yes.run p next else no.run p next
  | .ahead negated e, p, next =>
    match e.run p some with
    | some q => if negated then none else next { p with groups := q.groups }
    | none => if negated then next p else none
  | .behind negated e, p, next =>
    match (p.back? e.width.least).bind fun start => e.run start some with
    | some q => if negated then none else next { p with groups := q.groups }
    | none => if negated then next p else none
  | .atomic e, p, next =>
    match e.run p some with
    | some q => next q
    | none => none
  | .repeat greed least greatest e, p, next =>
    rounds greed least greatest (fun q k => e.run q k) p next

def Expr.searchFrom (e : Expr) (before : Text) : Text → Bool
  | [] => (e.run ⟨before, [], []⟩ some).isSome
  | c :: rest => (e.run ⟨before, c :: rest, []⟩ some).isSome || e.searchFrom (c :: before) rest

def Expr.search (e : Expr) (s : Text) : Bool := e.searchFrom [] s

end BemLint.Pattern
