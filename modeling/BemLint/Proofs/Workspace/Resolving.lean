import BemLint.Proofs.Workspace.Leads

/-!
# What resolving a path comes to

A path that can be looked up resolves to the place that it leads to, provided that resolving misses
no link on the way because the path to it is too long. A link that is met below itself would have
itself in its own tree of steps, so none is.
-/
namespace BemLint.Workspace

/-! ## The paths that are looked up -/

/-- The paths that are looked up while steps are taken, where `follow` says where a link leads and
`inside` which paths are looked up for that. -/
def lookedUpSteps (w : Workspace) (follow : Path → Text → Trace)
    (inside : Path → Text → List Path) : Path → List Text → List Path
  | _, [] => []
  | p, name :: rest =>
    if name.isEmpty || name = ['.'] then lookedUpSteps w follow inside p rest
    else if name = ['.', '.'] then lookedUpSteps w follow inside p.above rest
    else
      p.child name ::
        match w.linkAt? (p.child name) with
        | none => lookedUpSteps w follow inside (p.child name) rest
        | some target =>
          inside (p.child name) target ++
            match follow (p.child name) target with
            | .reached q => lookedUpSteps w follow inside q rest
            | .stuck _ => []

/-- The paths that are looked up while a link is followed. -/
def lookedUpInside (w : Workspace) :
    (depth : Nat) → (active : List Path) → (link : Path) → (target : Text) → List Path
  | 0, _, _, _ => []
  | depth + 1, active, link, target =>
    if active.contains link then []
    else
      w.lookedUpSteps (w.followLink depth (link :: active))
        (lookedUpInside w depth (link :: active)) (targetOrigin link target) (Text.splitAt '/' target)

def lookedUp (w : Workspace) (p : Path) : List Path :=
  w.lookedUpSteps (w.followLink w.followDepth []) (w.lookedUpInside w.followDepth []) p.origin
    p.parts

/-- A link at a path, if there is one, can be looked up by it. -/
def LinkSeen (w : Workspace) (p : Path) : Prop :=
  ∀ target, w.node? (w.writtenPlace p) = some (.link target) → byteLength p.text < pathLimit

/-- Resolving a path misses no link. -/
def SeesLinks (w : Workspace) (p : Path) : Prop := ∀ q ∈ w.lookedUp p, w.LinkSeen q

instance (w : Workspace) (p : Path) : Decidable (w.LinkSeen p) :=
  decidable_of_iff ((w.node? (w.writtenPlace p)).any Node.isLink = true →
    byteLength p.text < pathLimit) <| by
      rw [LinkSeen]
      rcases w.node? (w.writtenPlace p) with _ | _ | _ | _ <;> simp [Node.isLink]

instance (w : Workspace) (p : Path) : Decidable (w.SeesLinks p) :=
  inferInstanceAs (Decidable (∀ q ∈ w.lookedUp p, w.LinkSeen q))

section Resolving

variable {w : Workspace} {follow : Path → Text → Trace} {inside : Path → Text → List Path}

theorem plainNames_blank {name : Text} (rest : List Text)
    (blank : (name.isEmpty || name = ['.']) = true) :
    plainNames (name :: rest) = plainNames rest := by
  refine List.filter_cons_of_neg ?_
  rw [Bool.or_eq_true] at blank
  rcases blank with empty | dot <;> simp_all

theorem plainNames_kept {name : Text} (rest : List Text)
    (kept : ¬(name.isEmpty || name = ['.']) = true) :
    plainNames (name :: rest) = name :: plainNames rest :=
  List.filter_cons_of_pos (by simp_all)

/-- Names that stand for nothing make no difference to what is looked up. -/
theorem lookedUpSteps_plain (p : Path) (todo : List Text) :
    w.lookedUpSteps follow inside p todo = w.lookedUpSteps follow inside p (plainNames todo) := by
  induction todo generalizing p with
  | nil => rfl
  | cons name rest ih =>
    by_cases blank : (name.isEmpty || name = ['.']) = true
    · rw [lookedUpSteps, if_pos blank, plainNames_blank rest blank, ih]
    · rw [plainNames_kept rest blank, lookedUpSteps, lookedUpSteps, if_neg blank, if_neg blank]
      simp only [ih]

/-- Nor do they to what is reached. -/
theorem traceSteps_plain (p q : Path) (todo : List Text) :
    w.traceSteps follow p todo = .reached q ↔
      w.traceSteps follow p (plainNames todo) = .reached q := by
  induction todo generalizing p with
  | nil => exact Iff.rfl
  | cons name rest ih =>
    by_cases blank : (name.isEmpty || name = ['.']) = true
    · rw [traceSteps, if_pos blank, plainNames_blank rest blank, ih]
    · rw [plainNames_kept rest blank, traceSteps, traceSteps, if_neg blank, if_neg blank]
      split
      next => exact ih p.above
      next =>
        split
        next => exact ih _
        next =>
          split
          next r _ => exact ih r
          next => exact ⟨nofun, nofun⟩

/-! ## One step -/

theorem IsName.notBlank {name : Text} (isName : IsName name) :
    ¬(name.isEmpty || name = ['.']) = true := by
  simp [isName.nonempty, isName.notDot]

theorem traceSteps_up (p : Path) (rest : List Text) :
    w.traceSteps follow p (['.', '.'] :: rest) = w.traceSteps follow p.above rest := rfl

theorem lookedUpSteps_up (p : Path) (rest : List Text) :
    w.lookedUpSteps follow inside p (['.', '.'] :: rest) =
      w.lookedUpSteps follow inside p.above rest := rfl

theorem traceSteps_name {name : Text} (isName : IsName name) (p : Path) (rest : List Text)
    (plain : w.linkAt? (p.child name) = none) :
    w.traceSteps follow p (name :: rest) = w.traceSteps follow (p.child name) rest := by
  rw [traceSteps, if_neg isName.notBlank, if_neg isName.notDots]
  simp only [plain]

theorem lookedUpSteps_name {name : Text} (isName : IsName name) (p : Path) (rest : List Text)
    (plain : w.linkAt? (p.child name) = none) :
    w.lookedUpSteps follow inside p (name :: rest) =
      p.child name :: w.lookedUpSteps follow inside (p.child name) rest := by
  rw [lookedUpSteps, if_neg isName.notBlank, if_neg isName.notDots]
  simp only [plain]

theorem traceSteps_link {name target : Text} (isName : IsName name) (p q : Path)
    (rest : List Text) (link : w.linkAt? (p.child name) = some target)
    (reached : follow (p.child name) target = .reached q) :
    w.traceSteps follow p (name :: rest) = w.traceSteps follow q rest := by
  rw [traceSteps, if_neg isName.notBlank, if_neg isName.notDots]
  simp only [link, reached]

theorem mem_lookedUp_child {name : Text} (isName : IsName name) (p : Path) (rest : List Text) :
    p.child name ∈ w.lookedUpSteps follow inside p (name :: rest) := by
  rw [lookedUpSteps, if_neg isName.notBlank, if_neg isName.notDots]
  exact List.mem_cons_self ..

theorem mem_lookedUp_inside {name target : Text} (isName : IsName name) {p r : Path}
    {rest : List Text} (link : w.linkAt? (p.child name) = some target)
    (member : r ∈ inside (p.child name) target) :
    r ∈ w.lookedUpSteps follow inside p (name :: rest) := by
  rw [lookedUpSteps, if_neg isName.notBlank, if_neg isName.notDots]
  simp [link, member]

theorem mem_lookedUp_behind {name target : Text} (isName : IsName name) {p q r : Path}
    {rest : List Text} (link : w.linkAt? (p.child name) = some target)
    (reached : follow (p.child name) target = .reached q)
    (member : r ∈ w.lookedUpSteps follow inside q rest) :
    r ∈ w.lookedUpSteps follow inside p (name :: rest) := by
  rw [lookedUpSteps, if_neg isName.notBlank, if_neg isName.notDots]
  simp [link, reached, member]

/-! ## Links below themselves -/

/-- Each link that is being followed has at least so many links below it. -/
def Below (w : Workspace) (active : List Path) (n : Nat) : Prop :=
  ∀ link ∈ active, ∃ q at_ name target m place node, link = Path.child q name ∧ Straight w q at_ ∧
    w.node? (at_ ++ [name]) = some (.link target) ∧
    Leads w m (targetPlace at_ target) (Path.names target) place node ∧ n ≤ m

theorem Below.less {active : List Path} {n k : Nat} (below : Below w active n) (less : k ≤ n) :
    Below w active k := by
  intro link member
  obtain ⟨q, at_, name, target, m, place, node, same, straight, there, leads, enough⟩ :=
    below link member
  exact ⟨q, at_, name, target, m, place, node, same, straight, there, leads, by omega⟩

variable {n m : Nat} {at_ middle place : Location} {name target : Text} {rest : List Text}
  {node : Node} {p : Path}

/-- A link with fewer links below it than those that are being followed is none of them. -/
theorem Below.contains (tree : w.IsTree) (rooted : w.IsRooted) {active : List Path}
    (below : Below w active n) (straight : Straight w p at_)
    (there : w.node? (at_ ++ [name]) = some (.link target))
    (leads : Leads w m (targetPlace at_ target) (Path.names target) place node) (fewer : m < n) :
    active.contains (p.child name) = false := by
  rw [← Bool.not_eq_true]
  intro member
  obtain ⟨q, other, name', target', m', place', node', same, straight', there', leads', enough⟩ :=
    below _ (List.contains_iff_mem.mp member)
  obtain ⟨rfl, rfl⟩ := Path.child_injective same
  obtain rfl := straight.unique straight' tree rooted
  rw [there] at there'
  cases there'
  have equal := (leads.unique leads').1
  omega

/-- Following a link starts in the directory in which its target is looked up. -/
theorem Straight.targetOrigin (straight : Straight w p at_) (name target : Text) :
    Straight w (targetOrigin (p.child name) target) (targetPlace at_ target) := by
  rw [Workspace.targetOrigin, targetPlace]
  split
  next =>
    rw [Path.child_parent]
    exact straight
  next => exact .root

/-! ## Resolving -/

/-- Steps that lead to something are traced from a path to one without links, at the same place, as
long as they have fewer links below them than those that are being followed. -/
def Traced (w : Workspace) (n : Nat) (at_ : Location) (names : List Text) (place : Location)
    (node : Node) : Prop :=
  ∀ depth active p, Straight w p at_ → n ≤ depth → Below w active n →
    (∀ q ∈ w.lookedUpSteps (w.followLink depth active) (w.lookedUpInside depth active) p names,
      w.LinkSeen q) →
    ∃ real, w.traceSteps (w.followLink depth active) p names = .reached real ∧
      Ends w real place node

/-- A link whose target is traced is found and followed. -/
theorem Traced.followLink (tree : w.IsTree) (rooted : w.IsRooted) (isName : IsName name)
    (there : w.node? (at_ ++ [name]) = some (.link target))
    (leads : Leads w m (targetPlace at_ target) (Path.names target) middle node)
    (traced : Traced w m (targetPlace at_ target) (Path.names target) middle node)
    {depth : Nat} {active : List Path} (straight : Straight w p at_) (deep : m < depth)
    (below : Below w active n) (fewer : m < n)
    (seen : ∀ q ∈ w.lookedUpSteps (w.followLink depth active) (w.lookedUpInside depth active) p
      (name :: rest), w.LinkSeen q) :
    w.linkAt? (p.child name) = some target ∧
      ∃ real, w.followLink depth active (p.child name) target = .reached real ∧
        Ends w real middle node := by
  obtain ⟨depth, rfl⟩ : ∃ d, depth = d + 1 := ⟨depth - 1, by omega⟩
  have written := straight.written_child isName tree rooted
  have short : byteLength (p.child name).text < pathLimit :=
    seen _ (mem_lookedUp_child isName p rest) target (written ▸ there)
  have link := (straight.linkAt?_child isName short target).mpr there
  have fresh := below.contains tree rooted straight there leads fewer
  have followed : Below w (p.child name :: active) m := by
    intro other member
    rcases List.mem_cons.mp member with rfl | member
    · exact ⟨p, at_, name, target, m, middle, node, rfl, straight, there, leads, Nat.le_refl _⟩
    · exact below.less (by omega) other member
  obtain ⟨real, reached, ends⟩ := traced depth (p.child name :: active)
    (Workspace.targetOrigin (p.child name) target) (straight.targetOrigin name target) (by omega)
    followed fun q member => seen q <| by
      refine mem_lookedUp_inside isName link ?_
      rw [lookedUpInside, fresh, lookedUpSteps_plain]
      exact member
  refine ⟨link, real, ?_, ends⟩
  rw [Workspace.followLink, fresh]
  exact (traceSteps_plain _ _ _).mpr reached

-- The induction is on the tree of steps; the path and the links that are being followed change when
-- it goes into a link.
theorem Leads.traced (tree : w.IsTree) (rooted : w.IsRooted) {names : List Text}
    (leads : Leads w n at_ names place node) : Traced w n at_ names place node := by
  induction leads with
  | done =>
    intro depth active p straight _ _ _
    exact ⟨p, rfl, .directory straight⟩
  | up onwards ih =>
    intro depth active p straight deep below seen
    rw [lookedUpSteps_up] at seen
    rw [traceSteps_up]
    exact ih depth active p.above straight.above deep below seen
  | enter isName there onwards ih =>
    intro depth active p straight deep below seen
    have plain := straight.linkAt?_none isName (by simp [there])
    rw [lookedUpSteps_name isName p _ plain] at seen
    rw [traceSteps_name isName p _ plain]
    exact ih depth active _ (.down straight isName there) deep below
      fun q member => seen q (List.mem_cons_of_mem _ member)
  | file isName there =>
    intro depth active p straight _ _ _
    rw [traceSteps_name isName p _ (straight.linkAt?_none isName (by simp [there]))]
    exact ⟨_, rfl, .file straight isName there⟩
  | link isName there inside onwards inner outer =>
    intro depth active p straight deep below seen
    obtain ⟨link, real, reached, ends⟩ :=
      inner.followLink tree rooted isName there inside straight (by omega) below (by omega) seen
    cases ends with
    | directory straight' =>
      rw [traceSteps_link isName p real _ link reached]
      exact outer depth active real straight' (by omega) (below.less (by omega))
        fun q member => seen q (mem_lookedUp_behind isName link reached member)
  | last isName there inside inner =>
    intro depth active p straight deep below seen
    obtain ⟨link, real, reached, ends⟩ :=
      inner.followLink tree rooted isName there inside straight (by omega) below (by omega) seen
    rw [traceSteps_link isName p real [] link reached]
    exact ⟨real, rfl, ends⟩

/-- No look-up goes through more links than can be followed at the same time. -/
theorem Leads.deep {names : List Text} (leads : Leads w n at_ names place node)
    (few : n ≤ linkLimit) : n ≤ w.followDepth := by
  have entry : ∀ {place : Location} {name : Text} {node : Node},
      w.node? (place ++ [name]) = some node → w.entries ≠ [] := by
    intro place name node there none
    have member := exists_entry (by simp) there
    simp [none] at member
  have filled : n = 0 ∨ w.entries ≠ [] := by
    clear few
    induction leads with
    | done | file => exact .inl rfl
    | enter _ there | link _ there | last _ there => exact .inr (entry there)
    | up _ ih => exact ih
  rcases filled with rfl | filled
  · exact Nat.zero_le _
  · have one := List.length_pos_iff.mpr filled
    have enough : linkLimit ≤ 1 * pathLimit := by decide
    exact Nat.le_trans few (Nat.le_trans enough (Nat.mul_le_mul_right _ one))

theorem Straight.origin (p : Path) : Straight w p.origin (w.rootPlace p.root) := by
  obtain ⟨start, parts⟩ := p
  cases start with
  | none => exact .home
  | slash | doubleSlash => exact .root

/-- A path that leads somewhere has the real path of that place. -/
theorem IsTree.realPath_eq (tree : w.IsTree) (rooted : w.IsRooted) (readable : p.Readable)
    (seen : w.SeesLinks p) (located : w.locate true p.text = .ok (place, some node)) :
    w.realPath p = ⟨.slash, place⟩ := by
  obtain ⟨-, -, walked⟩ := locate_readable_ok readable located
  have start : w.node? (w.rootPlace p.root) = some .directory :=
    (Straight.origin p).directory rooted
  obtain ⟨n, few, leads⟩ := tree.leads rooted linkLimit start walked
  have same : plainNames p.parts = p.parts := by
    rw [plainNames, List.filter_eq_self]
    intro name member
    obtain ⟨filled, notDot, -⟩ := readable name member
    simp [filled, notDot]
  rw [same] at leads
  obtain ⟨real, reached, ends⟩ := leads.traced tree rooted w.followDepth [] p.origin
    (Straight.origin p) (leads.deep few) (by simp [Below]) seen
  obtain ⟨root, names⟩ := ends.written tree rooted
  rw [writtenPlace] at names
  rw [realPath, reached]
  simp only [root, names]

/-- The path of what is at a place leads there, unless it is too long. -/
theorem IsTree.locate_place (tree : w.IsTree) (rooted : w.IsRooted)
    (there : w.node? place = some node) (plain : ∀ target, node ≠ .link target) :
    w.locate true (Path.mk .slash place).text =
      if pathLimit ≤ byteLength (Path.mk .slash place).text then .error .nameTooLong
      else .ok (place, some node) := by
  have named : ∀ name ∈ (Path.mk .slash place).parts, IsName name ∨ name = ['.', '.'] :=
    fun name member => .inl (tree.named_place there name member)
  have clean := notNull_of_named named
  split
  next long => rw [locate, if_neg (by simpa using clean), if_pos long]
  next short =>
    have short := Nat.not_le.mp short
    rw [locate_readable (readable_of_named named) clean short]
    rcases List.eq_nil_or_concat place with rfl | ⟨front, name, rfl⟩
    · rw [node?_root] at there
      cases there
      rfl
    · rw [List.concat_eq_append] at there ⊢
      have parent := rooted.front front [name] there (by simp)
      have begun := (straight_place tree rooted front parent).advance true [name]
      rw [walk_of_advance begun linkLimit]
      exact walk_name w linkLimit front name node (tree.isName there) there plain

/-- A path that leads somewhere else than to a link resolves to that place. -/
theorem IsTree.resolve_eq (tree : w.IsTree) (rooted : w.IsRooted) (readable : p.Readable)
    (seen : w.SeesLinks p) (located : w.locate true p.text = .ok (place, some node)) :
    w.resolve p = .ok ⟨.slash, place⟩ := by
  have clean := (locate_readable_ok readable located).1
  have there := (rooted.locate_arrived located).1
  have plain : ∀ target, node ≠ .link target := by
    rintro target rfl
    exact w.walk_notLink _ _ _ _ _ (locate_readable_ok readable located).2.2
  have real := tree.locate_place rooted there plain
  rw [resolve, if_neg (by simpa using clean), tree.realPath_eq rooted readable seen located]
  simp only [stat, real]
  by_cases long : pathLimit ≤ byteLength (Path.mk .slash place).text
  · rw [if_pos long]
    rfl
  · rw [if_neg long]
    rfl

end Resolving

end BemLint.Workspace
