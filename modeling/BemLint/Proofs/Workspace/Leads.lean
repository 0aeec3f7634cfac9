import BemLint.Proofs.Workspace.Straight

/-!
# Where a look-up leads

A look-up that finds something as a tree of steps: each link has the steps of its target below it,
and the steps behind it go on from where the target leads. There is one such tree at most, so a
link never comes up again below itself.
-/
namespace BemLint.Workspace

/-- Names without those that stand for nothing. -/
def plainNames (names : List Text) : List Text :=
  names.filter fun name => !name.isEmpty && name ≠ ['.']

/-- From where the target of a link in a directory is looked up. -/
def targetPlace (at_ : Location) (target : Text) : Location :=
  if PathRoot.ofText target = .none then at_ else []

/-- Names lead from a directory to something, through a number of links. -/
inductive Leads (w : Workspace) :
    (links : Nat) → Location → List Text → Location → Node → Prop where
  | done {at_ : Location} : Leads w 0 at_ [] at_ .directory
  | up {n : Nat} {at_ place : Location} {rest : List Text} {node : Node}
      (onwards : Leads w n at_.dropLast rest place node) :
      Leads w n at_ (['.', '.'] :: rest) place node
  | enter {n : Nat} {at_ place : Location} {name : Text} {rest : List Text} {node : Node}
      (isName : IsName name) (there : w.node? (at_ ++ [name]) = some .directory)
      (onwards : Leads w n (at_ ++ [name]) rest place node) :
      Leads w n at_ (name :: rest) place node
  | file {at_ : Location} {name : Text} {bytes : List UInt8} (isName : IsName name)
      (there : w.node? (at_ ++ [name]) = some (.file bytes)) :
      Leads w 0 at_ [name] (at_ ++ [name]) (.file bytes)
  | link {m n : Nat} {at_ middle place : Location} {name target : Text} {rest : List Text}
      {node : Node} (isName : IsName name)
      (there : w.node? (at_ ++ [name]) = some (.link target))
      (inside : Leads w m (targetPlace at_ target) (Path.names target) middle .directory)
      (onwards : Leads w n middle rest place node) :
      Leads w (m + n + 1) at_ (name :: rest) place node
  | last {m : Nat} {at_ place : Location} {name target : Text} {bytes : List UInt8}
      (isName : IsName name) (there : w.node? (at_ ++ [name]) = some (.link target))
      (inside : Leads w m (targetPlace at_ target) (Path.names target) place (.file bytes)) :
      Leads w (m + 1) at_ [name] place (.file bytes)

/-- Names lead to one thing, through one number of links. -/
theorem Leads.unique {w : Workspace} {n n' : Nat} {at_ place place' : Location}
    {names : List Text} {node node' : Node} (first : Leads w n at_ names place node)
    (second : Leads w n' at_ names place' node') : n = n' ∧ place = place' ∧ node = node' := by
  induction first generalizing n' place' node' with
  | done =>
    cases second
    exact ⟨rfl, rfl, rfl⟩
  | up onwards ih =>
    cases second with
    | up onwards' => exact ih onwards'
    | enter isName | file isName | link isName | last isName => exact absurd rfl isName.notDots
  | enter isName there onwards ih =>
    cases second with
    | up => exact absurd rfl isName.notDots
    | enter _ _ onwards' => exact ih onwards'
    | file _ there' | link _ there' | last _ there' => simp [there] at there'
  | file isName there =>
    cases second with
    | up => exact absurd rfl isName.notDots
    | enter _ there' | link _ there' | last _ there' => simp [there] at there'
    | file _ there' =>
      rw [there] at there'
      cases there'
      exact ⟨rfl, rfl, rfl⟩
  | link isName there inside onwards inner outer =>
    cases second with
    | up => exact absurd rfl isName.notDots
    | enter _ there' | file _ there' => simp [there] at there'
    | link _ there' inside' onwards' =>
      rw [there] at there'
      cases there'
      obtain ⟨rfl, rfl, -⟩ := inner inside'
      obtain ⟨rfl, rfl, rfl⟩ := outer onwards'
      exact ⟨rfl, rfl, rfl⟩
    | last _ there' inside' =>
      rw [there] at there'
      cases there'
      cases (inner inside').2.2
  | last isName there inside inner =>
    cases second with
    | up => exact absurd rfl isName.notDots
    | enter _ there' | file _ there' => simp [there] at there'
    | link _ there' inside' =>
      rw [there] at there'
      cases there'
      cases (inner inside').2.2
    | last _ there' inside' =>
      rw [there] at there'
      cases there'
      obtain ⟨rfl, rfl, same⟩ := inner inside'
      exact ⟨rfl, rfl, same⟩

/-! ## From a look-up -/

/-- What the first step of a look-up that finds something does. -/
inductive FirstStep (w : Workspace) (links : Nat) (at_ : Location) (name : Text)
    (rest : List Text) (place : Location) (node : Node) : Prop where
  | dot (same : name = ['.']) (onwards : w.walk true links at_ rest = .ok (place, some node))
  | up (same : name = ['.', '.'])
      (onwards : w.walk true links at_.dropLast rest = .ok (place, some node))
  | enter (isName : IsName name) (there : w.node? (at_ ++ [name]) = some .directory)
      (onwards : w.walk true links (at_ ++ [name]) rest = .ok (place, some node))
  | file {bytes : List UInt8} (isName : IsName name)
      (there : w.node? (at_ ++ [name]) = some (.file bytes)) (last : rest = [])
      (found : place = at_ ++ [name] ∧ node = .file bytes)
  | link {target : Text} {fewer : Nat} (isName : IsName name)
      (there : w.node? (at_ ++ [name]) = some (.link target)) (used : links = fewer + 1)
      (onwards : w.walk true fewer (targetPlace at_ target) (steps target ++ rest) =
        .ok (place, some node))

section Walk

variable {w : Workspace}

theorem IsTree.firstStep (tree : w.IsTree) (rooted : w.IsRooted) {links : Nat}
    {at_ place : Location} {name : Text} {rest : List Text} {node : Node}
    (walked : w.walk true links at_ (name :: rest) = .ok (place, some node)) :
    FirstStep w links at_ name rest place node := by
  by_cases dot : name = ['.']
  · refine .dot dot ?_
    rw [← walked]
    exact walk_of_advance (by simp [advance, dot]) links
  by_cases dots : name = ['.', '.']
  · refine .up dots ?_
    rw [← walked]
    exact walk_of_advance (by simp [advance, dots]) links
  by_cases long : nameLimit < byteLength name
  · rw [walk] at walked
    simp [advance, dot, dots, long] at walked
  cases there : w.node? (at_ ++ [name]) with
  | none =>
    have below := rooted.isAboveHome there
    rw [walk] at walked
    by_cases last : rest = []
    · simp [advance, dot, dots, long, there, last] at walked
    · simp [advance, dot, dots, long, there, last, below] at walked
  | some found =>
    have isName := tree.isName there
    cases found with
    | directory =>
      refine .enter isName there ?_
      rw [← walked]
      exact walk_of_advance (by simp [advance, dot, dots, long, there]) links
    | file bytes =>
      rw [walk] at walked
      by_cases last : rest = []
      · refine .file isName there last ?_
        simp only [advance, dot, dots, long, there, last, List.isEmpty_nil, if_false,
          if_true] at walked
        cases walked
        exact ⟨rfl, rfl⟩
      · simp [advance, dot, dots, long, there, last] at walked
    | link target =>
      have met : w.advance true at_ (name :: rest) = .link at_ target rest := by
        simp [advance, dot, dots, long, there]
      rw [walk] at walked
      simp only [met] at walked
      cases links with
      | zero => cases walked
      | succ fewer => exact .link isName there rfl walked

theorem plainNames_steps (target : Text) : plainNames (steps target) = Path.names target := by
  have pieces : plainNames ((Text.splitAt '/' target).filter fun name => !name.isEmpty) =
      Path.names target := by
    rw [plainNames, List.filter_filter]
    refine List.filter_congr fun name _ => ?_
    cases name.isEmpty <;> simp
  rw [steps]
  split
  · rw [plainNames, List.filter_append]
    simpa [plainNames] using pieces
  · exact pieces

theorem plainNames_cons {name : Text} (isName : IsName name) (rest : List Text) :
    plainNames (name :: rest) = name :: plainNames rest :=
  List.filter_cons_of_pos (by simp [isName.nonempty, isName.notDot])

-- The links that are left pay for the tree, so the induction is on them, and on the steps up to the
-- next link.
/-- The first steps of a look-up lead to a directory, from which it goes on with fewer links. -/
theorem IsTree.leads_front (tree : w.IsTree) (rooted : w.IsRooted) (links : Nat)
    {at_ place : Location} {todo more : List Text} {node : Node} (filled : more ≠ [])
    (directory : w.node? at_ = some .directory)
    (walked : w.walk true links at_ (todo ++ more) = .ok (place, some node)) :
    ∃ n left middle, Leads w n at_ (plainNames todo) middle .directory ∧ n + left ≤ links ∧
      w.node? middle = some .directory ∧
      w.walk true left middle more = .ok (place, some node) := by
  induction links using Nat.strongRecOn generalizing at_ todo more with
  | ind links less =>
    induction todo generalizing at_ with
    | nil => exact ⟨0, links, at_, .done, by omega, directory, walked⟩
    | cons name rest ih =>
      cases tree.firstStep rooted walked with
      | dot same onwards =>
        obtain ⟨n, left, middle, leads, enough, inside, later⟩ := ih directory onwards
        refine ⟨n, left, middle, ?_, enough, inside, later⟩
        rw [same]
        exact leads
      | up same onwards =>
        obtain ⟨n, left, middle, leads, enough, inside, later⟩ :=
          ih (rooted.parent directory) onwards
        refine ⟨n, left, middle, ?_, enough, inside, later⟩
        rw [same]
        exact .up leads
      | enter isName there onwards =>
        obtain ⟨n, left, middle, leads, enough, inside, later⟩ := ih there onwards
        refine ⟨n, left, middle, ?_, enough, inside, later⟩
        rw [plainNames_cons isName]
        exact .enter isName there leads
      | file _ _ last => simp [filled] at last
      | @link target fewer isName there used onwards =>
        have start : w.node? (targetPlace at_ target) = some .directory :=
          target_start target directory
        obtain ⟨m, left, middle, inner, enough, inside, later⟩ :=
          less fewer (by omega) (by simp [filled]) start onwards
        obtain ⟨n, left', middle', outer, enough', inside', later'⟩ :=
          less left (by omega) filled inside later
        rw [plainNames_steps] at inner
        refine ⟨m + n + 1, left', middle', ?_, by omega, inside', later'⟩
        rw [plainNames_cons isName]
        exact .link isName there inner outer

/-- A look-up that finds something goes through no more links than it may. -/
theorem IsTree.leads (tree : w.IsTree) (rooted : w.IsRooted) (links : Nat)
    {at_ place : Location} {todo : List Text} {node : Node}
    (directory : w.node? at_ = some .directory)
    (walked : w.walk true links at_ todo = .ok (place, some node)) :
    ∃ n ≤ links, Leads w n at_ (plainNames todo) place node := by
  induction links using Nat.strongRecOn generalizing at_ todo with
  | ind links less =>
    induction todo generalizing at_ with
    | nil =>
      rw [walk] at walked
      cases walked
      exact ⟨0, Nat.zero_le _, .done⟩
    | cons name rest ih =>
      cases tree.firstStep rooted walked with
      | dot same onwards =>
        obtain ⟨n, enough, leads⟩ := ih directory onwards
        refine ⟨n, enough, ?_⟩
        rw [same]
        exact leads
      | up same onwards =>
        obtain ⟨n, enough, leads⟩ := ih (rooted.parent directory) onwards
        refine ⟨n, enough, ?_⟩
        rw [same]
        exact .up leads
      | enter isName there onwards =>
        obtain ⟨n, enough, leads⟩ := ih there onwards
        refine ⟨n, enough, ?_⟩
        rw [plainNames_cons isName]
        exact .enter isName there leads
      | file isName there last found =>
        obtain ⟨rfl, rfl⟩ := found
        refine ⟨0, Nat.zero_le _, ?_⟩
        rw [last, plainNames_cons isName]
        exact .file isName there
      | @link target fewer isName there used onwards =>
        have start : w.node? (targetPlace at_ target) = some .directory :=
          target_start target directory
        rw [plainNames_cons isName]
        by_cases last : rest = []
        · rw [last, List.append_nil] at onwards
          obtain ⟨m, enough, inner⟩ := less fewer (by omega) start onwards
          rw [plainNames_steps] at inner
          refine ⟨m + 1, by omega, ?_⟩
          rw [last]
          cases node with
          | directory => exact .link isName there inner .done
          | file bytes => exact .last isName there inner
          | link target => exact absurd onwards (w.walk_notLink _ _ _ _ _)
        · obtain ⟨m, left, middle, inner, enough, inside, later⟩ :=
            tree.leads_front rooted fewer last start onwards
          obtain ⟨n, enough', outer⟩ := less left (by omega) inside later
          rw [plainNames_steps] at inner
          exact ⟨m + n + 1, by omega, .link isName there inner outer⟩

end Walk

end BemLint.Workspace
