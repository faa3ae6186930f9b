/-
  Paths that lead where their text says.

  Said from the root, a path has its `..` components taken out of the text.  An operating system
  goes up from where the name before has led, which is somewhere else if that was a link.

  1. **Absolute forms** — a path said from the root leads, by its text, to the names that its
     components lead to from where it starts (`absolute_leads`).
  2. **Arrivals** — where a walk arrives is one place only, and it can be stopped on the way
     (`Arrives.split`).
  3. **Retracing** — each `..` goes back out of a directory that the name before it has entered
     (`Retraces`).  A name that is not gone back out of stays in the text (`Retraces.kept`).
  4. **Straight paths** — a path that retraces its steps leads where its text does
     (`Retraces.walk`), so what is written to its absolute form is stored at the path
     (`Straight.stored`).
-/
import GoWorkbench.Proofs.FileSystem.Links

namespace GoWorkbench

open Entry

namespace FileSystem

variable {fs : FileSystem} {path : String}

/-! ## Absolute forms -/

/-- The text of the working directory leads to it. -/
theorem components_workingDirectory {here : String} (names : ∀ n ∈ fs.current.names, IsName n)
    (h : fs.workingDirectory = .ok here) :
    Path.isAbsolute here = true ∧ components here = fs.current.names := by
  rw [← (workingDirectory_eq_ok.mp h).2]
  exact ⟨(leadsTo_slashed names).absolute, (leadsTo_slashed names).components⟩

/-- The working directory is a directory, if it has a path. -/
theorem Orderly.working {here : String} (orderly : fs.Orderly)
    (working : fs.workingDirectory = .ok here) :
    ∃ inner, Entry.at? fs.current.names fs.entries = some (.directory inner) :=
  orderly.stands.dirAt (workingDirectory_eq_ok.mp working).1

/-- A relative path seen from the working directory. -/
theorem join_workingDirectory {here : String} (names : ∀ n ∈ fs.current.names, IsName n)
    (h : fs.workingDirectory = .ok here) (relative : Path.isAbsolute path = false)
    (no_nul : '\x00' ∉ path.toList) :
    Path.isAbsolute (Path.join here path) = true ∧ '\x00' ∉ (Path.join here path).toList ∧
      components (Path.join here path) = fs.current.names ++ components path := by
  obtain ⟨absolute, is⟩ := components_workingDirectory names h
  have some_here : here ≠ "" := by
    rintro rfl
    cases absolute
  have no_nul_base : '\x00' ∉ (Path.base here).toList := by
    unfold Path.base
    split
    · exact no_nul_of_workingDirectory names h
    · rw [String.toList_append, List.mem_append, not_or]
      exact ⟨no_nul_of_workingDirectory names h, by decide⟩
  rw [Path.join_of_relative relative]
  refine ⟨(isAbsolute_base some_here path).trans absolute, ?_, ?_⟩
  · rw [String.toList_append, List.mem_append, not_or]
    exact ⟨no_nul_base, no_nul⟩
  · rw [components_base some_here, is]

/-- **Absolute forms**: by its text the path said from the root leads where the components of the
    path lead. -/
theorem absolute_leads (names : ∀ n ∈ fs.current.names, IsName n) (no_nul : '\x00' ∉ path.toList)
    (anchored : fs.Anchored path) :
    ∃ file, fs.absolute path = .ok file ∧ LeadsTo file (fs.spot path) := by
  unfold FileSystem.absolute
  by_cases absolute : Path.isAbsolute path = true
  · rw [if_pos absolute]
    exact ⟨_, rfl, leadsTo_normalize absolute no_nul⟩
  · obtain ⟨here, is_here⟩ : ∃ here, fs.workingDirectory = .ok here :=
      ⟨_, workingDirectory_eq_ok.mpr ⟨anchored.resolve_left absolute, rfl⟩⟩
    obtain ⟨from_root, no_nul_full, full⟩ :=
      join_workingDirectory names is_here (Bool.eq_false_iff.mpr absolute) no_nul
    rw [if_neg absolute, is_here]
    refine ⟨_, rfl, ?_⟩
    have leads : LeadsTo (Path.normalize (Path.join here path)) (fs.spot (Path.join here path)) :=
      leadsTo_normalize from_root no_nul_full
    rw [spot_of_absolute from_root, lead_root, full] at leads
    have same : fs.spot path = steps [] (fs.current.names ++ components path) := by
      have start : steps [] fs.current.names = fs.current.names := steps_names names
      unfold FileSystem.spot
      rw [if_neg absolute]
      unfold steps at start ⊢
      rw [List.foldl_append, start]
    rw [same]
    exact leads

/-- The path can be said from the root, and what is said there has no NUL. -/
def Nameable (fs : FileSystem) (path : String) : Prop :=
  ∃ file, fs.absolute path = .ok file ∧ '\x00' ∉ file.toList

theorem nameable_of_anchored (names : ∀ n ∈ fs.current.names, IsName n)
    (no_nul : '\x00' ∉ path.toList) (anchored : fs.Anchored path) : fs.Nameable path := by
  obtain ⟨file, absolute, leads⟩ := absolute_leads names no_nul anchored
  exact ⟨file, absolute, leads.no_nul⟩

/-! ## Arrivals -/

variable {fs' : FileSystem} {links left most : Nat} {here there place : Place} {name : String}
  {names before after todo : List String}

/-- What a walk that arrives has done with its first component. -/
theorem Arrives.first (h : Arrives fs links here (name :: todo) left there) :
    name = "." ∧ Arrives fs links here todo left there ∨
      name = ".." ∧ Arrives fs links here.parent todo left there ∨
      Naming name ∧ ((∃ inner, Entry.child? name (fs.entriesAt here) = some (.directory inner) ∧
          Arrives fs links (here.child name) todo left there) ∨
        ∃ fewer target, links = fewer + 1 ∧
          Entry.child? name (fs.entriesAt here) = some (.link target) ∧
          Arrives fs fewer (if Path.isAbsolute target then .root else here)
            (components target ++ todo) left there) := by
  generalize is : name :: todo = components at h
  cases h with
  | done => cases is
  | stays on =>
    obtain ⟨rfl, rfl⟩ := List.cons.inj is
    exact Or.inl ⟨rfl, on⟩
  | rises on =>
    obtain ⟨rfl, rfl⟩ := List.cons.inj is
    exact Or.inr (Or.inl ⟨rfl, on⟩)
  | enters naming found on =>
    obtain ⟨rfl, rfl⟩ := List.cons.inj is
    exact Or.inr (Or.inr ⟨naming, Or.inl ⟨_, found, on⟩⟩)
  | follows naming found on =>
    obtain ⟨rfl, rfl⟩ := List.cons.inj is
    exact Or.inr (Or.inr ⟨naming, Or.inr ⟨_, _, rfl, found, on⟩⟩)

/-- A walk arrives at one place only, in one way. -/
theorem Arrives.unique (h : Arrives fs links here todo left there)
    (h' : Arrives fs links here todo most place) : left = most ∧ there = place := by
  induction h with
  | done =>
    cases h'
    exact ⟨rfl, rfl⟩
  | stays _ ih =>
    obtain ⟨-, on⟩ | ⟨is, -⟩ | ⟨naming, -⟩ := h'.first
    · exact ih on
    · exact absurd is (by decide)
    · exact absurd rfl naming.not_dot
  | rises _ ih =>
    obtain ⟨is, -⟩ | ⟨-, on⟩ | ⟨naming, -⟩ := h'.first
    · exact absurd is (by decide)
    · exact ih on
    · exact absurd rfl naming.not_dots
  | enters naming found _ ih =>
    obtain ⟨is, -⟩ | ⟨is, -⟩ | ⟨-, ⟨inner, -, on⟩ | ⟨fewer, target, -, found', -⟩⟩ := h'.first
    · exact absurd is naming.not_dot
    · exact absurd is naming.not_dots
    · exact ih on
    · rw [found] at found'
      cases found'
  | follows naming found _ ih =>
    obtain ⟨is, -⟩ | ⟨is, -⟩ | ⟨-, ⟨inner, found', -⟩ | ⟨fewer, target, less, found', on⟩⟩ :=
      h'.first
    · exact absurd is naming.not_dot
    · exact absurd is naming.not_dots
    · rw [found] at found'
      cases found'
    · obtain rfl := Nat.succ.inj less
      obtain rfl := Entry.link.inj (Option.some.inj (found.symm.trans found'))
      exact ih on

/-- A walk that arrives comes through a place in between. -/
theorem Arrives.split (h : Arrives fs links here (before ++ after) left there) :
    ∃ less between, Arrives fs links here before less between ∧
      Arrives fs less between after left there := by
  generalize is : before ++ after = todo at h
  induction h generalizing before with
  | done =>
    obtain ⟨rfl, rfl⟩ := List.append_eq_nil_iff.mp is
    exact ⟨_, _, .done, .done⟩
  | stays on ih =>
    cases before with
    | nil =>
      obtain rfl : after = _ := is
      exact ⟨_, _, .done, .stays on⟩
    | cons first before =>
      obtain ⟨rfl, rest_is⟩ := List.cons.inj is
      obtain ⟨less, between, front, back⟩ := ih rest_is
      exact ⟨less, between, .stays front, back⟩
  | rises on ih =>
    cases before with
    | nil =>
      obtain rfl : after = _ := is
      exact ⟨_, _, .done, .rises on⟩
    | cons first before =>
      obtain ⟨rfl, rest_is⟩ := List.cons.inj is
      obtain ⟨less, between, front, back⟩ := ih rest_is
      exact ⟨less, between, .rises front, back⟩
  | enters naming found on ih =>
    cases before with
    | nil =>
      obtain rfl : after = _ := is
      exact ⟨_, _, .done, .enters naming found on⟩
    | cons first before =>
      obtain ⟨rfl, rest_is⟩ := List.cons.inj is
      obtain ⟨less, between, front, back⟩ := ih rest_is
      exact ⟨less, between, .enters naming found front, back⟩
  | @follows _ _ _ _ _ target rest naming found on ih =>
    cases before with
    | nil =>
      obtain rfl : after = _ := is
      exact ⟨_, _, .done, .follows naming found on⟩
    | cons first before =>
      obtain ⟨rfl, rest_is⟩ := List.cons.inj is
      replace rest_is : rest = before ++ after := rest_is.symm
      obtain ⟨less, between, front, back⟩ := ih
        (show components target ++ before ++ after = _ by rw [rest_is, List.append_assoc])
      exact ⟨less, between, .follows naming found front, back⟩

/-- Two walks after each other are one. -/
theorem Arrives.append (h : Arrives fs links here before left there)
    (h' : Arrives fs left there after most place) :
    Arrives fs links here (before ++ after) most place := by
  induction h with
  | done => exact h'
  | stays _ ih => exact .stays (ih h')
  | rises _ ih => exact .rises (ih h')
  | enters naming found _ ih => exact .enters naming found (ih h')
  | @follows _ _ _ _ _ target rest naming found _ ih =>
    refine .follows naming found ?_
    show Arrives _ _ _ (components target ++ (rest ++ after)) _ _
    rw [← List.append_assoc]
    exact ih h'

/-- Along the names of directories a walk arrives without a link. -/
theorem arrives_names (there : dirAt (before ++ todo) fs.entries) (valid : ∀ n ∈ todo, IsName n)
    (short : ∀ n ∈ todo, n.utf8ByteSize ≤ maxName) :
    Arrives fs links ⟨before, 0⟩ todo links ⟨before ++ todo, 0⟩ := by
  induction todo generalizing before with
  | nil =>
    rw [List.append_nil]
    exact .done
  | cons name rest ih =>
    obtain ⟨isName, valid_rest⟩ := List.forall_mem_cons.mp valid
    obtain ⟨hshort, short_rest⟩ := List.forall_mem_cons.mp short
    rw [show before ++ name :: rest = before ++ [name] ++ rest by simp] at there ⊢
    obtain ⟨inner, hinner⟩ := there.of_append
    have found : Entry.child? name (fs.entriesAt ⟨before, 0⟩) = some (.directory inner) := by
      rw [child?_entriesAt]
      exact hinner
    exact .enters ⟨isName.2.1, isName.2.2.1, hshort⟩ found (ih there valid_rest short_rest)

/-! ## Retracing -/

/-- The last of the names, which are given backwards, is that of a directory, and not of a link to
    one. -/
def Entered (fs : FileSystem) : List String → Prop
  | [] => False
  | name :: before => Naming name ∧ ∃ left here inner,
      Arrives fs maxLinks .root before.reverse left here ∧
        Entry.child? name (fs.entriesAt here) = some (.directory inner)

/-- Each `..` goes back out of a directory that the name before it has entered.  The names before
    the components are given backwards, from the root. -/
inductive Retraces (fs : FileSystem) : List String → List String → Prop
  | done {names : List String} : Retraces fs names []
  | stays {names rest : List String} (on : Retraces fs names rest) :
      Retraces fs names ("." :: rest)
  | onward {names rest : List String} {name : String} (solid : Solid name)
      (on : Retraces fs (name :: names) rest) : Retraces fs names (name :: rest)
  | back {names rest : List String} {name : String} (entered : Entered fs (name :: names))
      (on : Retraces fs names rest) : Retraces fs (name :: names) (".." :: rest)
  | root {rest : List String} (on : Retraces fs [] rest) : Retraces fs [] (".." :: rest)

/-- The names that are left when `..` has been taken out, backwards. -/
def leftOver (names todo : List String) : List String := todo.foldl (Path.push true) names

theorem leftOver_name (solid : Solid name) (names todo : List String) :
    leftOver names (name :: todo) = leftOver (name :: names) todo := by
  show todo.foldl _ (Path.push true names name) = _
  rw [push_solid solid]
  rfl

theorem leftOver_back (solid : Solid name) (names todo : List String) :
    leftOver (name :: names) (".." :: todo) = leftOver names todo := by
  show todo.foldl _ (Path.push true (name :: names) "..") = _
  rw [push_up solid.2.2]
  rfl

/-- The directory has been arrived at. -/
def ArrivedAt (fs : FileSystem) (names : List String) : Prop :=
  ∃ left here, Arrives fs maxLinks .root names.reverse left here

theorem Entered.arrived (h : Entered fs names) : ArrivedAt fs names := by
  cases names with
  | nil => exact h.elim
  | cons name before =>
    obtain ⟨naming, left, here, inner, on, found⟩ := h
    refine ⟨left, here.child name, ?_⟩
    rw [List.reverse_cons]
    exact on.append (.enters naming found .done)

theorem ArrivedAt.earlier (h : ArrivedAt fs (todo ++ names)) : ArrivedAt fs names := by
  obtain ⟨left, here, on⟩ := h
  rw [List.reverse_append] at on
  obtain ⟨less, between, front, -⟩ := on.split
  exact ⟨less, between, front⟩

theorem Entered.solid (proper : Proper fs.entries) (h : Entered fs (name :: names)) :
    Solid name := by
  obtain ⟨-, left, here, inner, -, found⟩ := h
  exact solid_of_isName ((proper_entriesAt proper here).isName (mem_of_child? found))

/-- **Kept names**: a name that is gone back out of has been arrived at, and any other is left,
    with more after it. -/
theorem Retraces.kept {more : List String} (proper : Proper fs.entries)
    (h : Retraces fs (more ++ name :: names) todo)
    (last : more ≠ [] ∧ todo = [] ∨ ∃ m, todo.getLast? = some m ∧ m ≠ ".") :
    ArrivedAt fs (name :: names) ∨
      ∃ later, later ≠ [] ∧ leftOver (more ++ name :: names) todo = later ++ name :: names := by
  generalize is : more ++ name :: names = stack at h
  induction h generalizing more with
  | done =>
    rcases last with ⟨some_more, -⟩ | ⟨m, h, -⟩
    · exact Or.inr ⟨more, some_more, is.symm⟩
    · cases h
  | @stays stack rest on ih =>
    rcases last with ⟨-, h⟩ | ⟨m, h, not_dot⟩
    · cases h
    · have some_rest : rest ≠ [] := by
        rintro rfl
        exact not_dot (Option.some.inj h).symm
      rw [List.getLast?_cons_of_ne_nil some_rest] at h
      exact ih (Or.inr ⟨m, h, not_dot⟩) is
  | @onward stack rest first solid on ih =>
    rw [leftOver_name solid]
    have stacked : first :: more ++ name :: names = first :: stack := by rw [← is]; rfl
    refine ih ?_ stacked
    by_cases none : rest = []
    · exact Or.inl ⟨List.cons_ne_nil _ _, none⟩
    · rcases last with ⟨-, h⟩ | ⟨m, h, not_dot⟩
      · cases h
      · rw [List.getLast?_cons_of_ne_nil none] at h
        exact Or.inr ⟨m, h, not_dot⟩
  | @back stack rest first entered on ih =>
    cases more with
    | nil =>
      obtain ⟨rfl, rfl⟩ := List.cons.inj is
      exact Or.inl entered.arrived
    | cons head more =>
      obtain ⟨rfl, rest_is⟩ := List.cons.inj is
      rw [leftOver_back (entered.solid proper)]
      by_cases none : rest = []
      · -- the walk ends where the last name has been gone back out of
        have arrived : ArrivedAt fs (head :: more ++ name :: names) := by
          rw [List.cons_append, show more ++ name :: names = stack from rest_is]
          exact entered.arrived
        exact Or.inl arrived.earlier
      · refine ih ?_ rest_is
        rcases last with ⟨-, h⟩ | ⟨m, h, not_dot⟩
        · cases h
        · rw [List.getLast?_cons_of_ne_nil none] at h
          exact Or.inr ⟨m, h, not_dot⟩
  | root => exact absurd is (List.append_ne_nil_of_right_ne_nil _ (List.cons_ne_nil _ _))

/-! ## Straight paths -/

/-- Going back out of a directory that has been entered. -/
theorem Entered.back (entered : Entered fs (name :: names))
    (on : Arrives fs maxLinks .root (name :: names).reverse left here) :
    Arrives fs maxLinks .root names.reverse left here.parent := by
  obtain ⟨naming, most, place, inner, before, found⟩ := entered
  rw [List.reverse_cons] at on
  obtain ⟨less, between, front, last⟩ := on.split
  obtain ⟨rfl, rfl⟩ := front.unique before
  -- the last step entered the directory, since what has the name is no link
  obtain ⟨is, -⟩ | ⟨is, -⟩ | ⟨-, ⟨below, -, done⟩ | ⟨fewer, target, -, found', -⟩⟩ := last.first
  · exact absurd is naming.not_dot
  · exact absurd is naming.not_dots
  · cases done
    have same : (between.child name).parent = between := by
      obtain ⟨route, gone⟩ := between
      obtain rfl : gone = 0 := (at?_child found).1
      show Place.mk (route ++ [name]).dropLast 0 = ⟨route, 0⟩
      rw [List.dropLast_concat]
    rw [same]
    exact before
  · rw [found] at found'
    cases found'

/-- **Straight walks**: what the names that are left lead to is what the components lead to. -/
theorem Retraces.walk {target : Target} (proper : Proper fs.entries)
    (h : Retraces fs names todo) (on : Arrives fs maxLinks .root names.reverse left here)
    (last : ∀ m, todo.getLast? = some m → m ≠ ".")
    (walked : fs.walk .look false maxLinks .root (leftOver names todo).reverse = .ok target) :
    fs.walk .look false left here todo = .ok target := by
  have last_rest : ∀ {first : String} {rest : List String},
      (∀ m, (first :: rest).getLast? = some m → m ≠ ".") →
      ∀ m, rest.getLast? = some m → m ≠ "." := by
    intro first rest last m hm
    refine last m ?_
    rw [List.getLast?_cons_of_ne_nil, hm]
    rintro rfl
    cases hm
  induction h generalizing left here with
  | done =>
    rw [FileSystem.walk]
    have found := (on.walk false).symm.trans walked
    rwa [Except.ok.injEq] at found ⊢
  | stays _ ih =>
    rw [FileSystem.walk, if_pos rfl]
    exact ih on (last_rest last) walked
  | @onward names rest name solid back ih =>
    rw [leftOver_name solid] at walked
    by_cases none : rest = []
    · rw [none] at walked ⊢
      rw [← on.walk_append (List.cons_ne_nil _ _)]
      rw [← List.reverse_cons]
      exact walked
    · obtain ⟨m, hm⟩ : ∃ m, rest.getLast? = some m := ⟨_, List.getLast?_eq_some_getLast none⟩
      -- the name is gone back out of, or the names that are left go on through it
      have arrived : ArrivedAt fs (name :: names) := by
        have onward : Retraces fs ([] ++ name :: names) rest := back
        rcases onward.kept proper (Or.inr ⟨m, hm, last_rest last m hm⟩) with h | h
        · exact h
        · obtain ⟨later, some_later, is⟩ := h
          rw [List.nil_append] at is
          rw [is, List.reverse_append] at walked
          obtain ⟨less, there, front, -⟩ := walk_split (by simpa using some_later) walked
          exact ⟨less, there, front⟩
      obtain ⟨less, there, front⟩ := arrived
      have halves := front
      rw [List.reverse_cons] at halves
      obtain ⟨most, between, before, through⟩ := halves.split
      obtain ⟨rfl, rfl⟩ := before.unique on
      rw [← List.singleton_append, through.walk_append none]
      exact ih front (last_rest last) walked
  | back entered _ ih =>
    rw [leftOver_back (entered.solid proper)] at walked
    rw [FileSystem.walk, if_neg (by decide), if_pos rfl]
    exact ih (entered.back on) (last_rest last) walked
  | root _ ih =>
    cases on
    rw [FileSystem.walk, if_neg (by decide), if_pos rfl]
    exact ih .done (last_rest last) walked

/-- What has been entered has been entered where only a file differs. -/
theorem Entered.alike {spot : List String} (same : SameBut spot fs fs')
    (h : Entered fs names) : Entered fs' names := by
  cases names with
  | nil => exact h.elim
  | cons name before =>
    obtain ⟨naming, left, here, inner, on, found⟩ := h
    obtain ⟨inner', found'⟩ := same.child_directory found
    exact ⟨naming, left, here, inner', on.alike same, found'⟩

theorem Retraces.alike {spot : List String} (same : SameBut spot fs fs')
    (h : Retraces fs names todo) : Retraces fs' names todo := by
  induction h with
  | done => exact .done
  | stays _ ih => exact .stays ih
  | onward solid _ ih => exact .onward solid ih
  | back entered _ ih => exact .back (entered.alike same) ih
  | root _ ih => exact .root ih

/-- An operating system takes the path, it ends in a name, and each of its `..` goes back out of a
    directory that the name before it has entered. -/
structure Straight (fs : FileSystem) (path : String) : Prop where
  nonempty : path ≠ ""
  no_nul : '\x00' ∉ path.toList
  short : path.utf8ByteSize ≤ maxPath
  no_slash : endsInSlash path = false
  no_dot : (components path).getLast? ≠ some "."
  retraces : Retraces fs
    (if Path.isAbsolute path then [] else fs.current.names.reverse) (components path)
  /-- Nor are the names of the working directory too long. -/
  working : ∀ n ∈ fs.current.names, n.utf8ByteSize ≤ maxName

theorem Straight.start_arrives (orderly : fs.Orderly) (straight : fs.Straight path)
    (anchored : fs.Anchored path) :
    Arrives fs maxLinks .root
      (if Path.isAbsolute path then [] else fs.current.names.reverse).reverse maxLinks
      (if Path.isAbsolute path then .root else fs.current) := by
  by_cases absolute : Path.isAbsolute path = true
  · rw [if_pos absolute, if_pos absolute]
    exact .done
  · rw [if_neg absolute, if_neg absolute, List.reverse_reverse]
    have whole := anchored.resolve_left absolute
    have there := orderly.stands.dirAt whole
    have names := orderly.names
    have short := straight.working
    generalize fs.current = place at whole there names short
    obtain ⟨route, gone⟩ := place
    obtain rfl : gone = 0 := whole
    show Arrives fs maxLinks ⟨[], 0⟩ route maxLinks ⟨[] ++ route, 0⟩
    exact arrives_names there names short

/-- The names that a path said from the root is left with. -/
theorem spot_eq_leftOver (names : ∀ n ∈ fs.current.names, IsName n) (path : String) :
    fs.spot path = (leftOver (if Path.isAbsolute path then [] else fs.current.names.reverse)
      (components path)).reverse := by
  have kept : (components path).filter (fun c => !c.isEmpty) = components path := by
    rw [List.filter_eq_self]
    intro n hn
    simp [(of_mem_components hn).2.1]
  have solid : ∀ n ∈ (if Path.isAbsolute path then [] else fs.current.names.reverse), Solid n := by
    split
    · exact fun n hn => absurd hn List.not_mem_nil
    · exact fun n hn => solid_of_isName (names n (List.mem_reverse.mp hn))
  unfold leftOver FileSystem.spot
  rw [(foldl_push_rooted (components path) solid).1, kept]
  split
  · rfl
  · rw [List.reverse_reverse]

theorem anchored_of_absolute {file : String} (is_file : fs.absolute path = .ok file) :
    fs.Anchored path := by
  unfold FileSystem.absolute at is_file
  split at is_file
  · rename_i absolute
    exact Or.inl absolute
  · split at is_file
    · cases is_file
    · rename_i here working
      exact Or.inr (workingDirectory_eq_ok.mp working).1

/-- **Straight paths**: what is written to the absolute form of such a path is stored at the
    path. -/
theorem Straight.stored {file : String} {data : List UInt8} (orderly : fs.Orderly)
    (straight : fs.Straight path) (is_file : fs.absolute path = .ok file)
    (written : fs.write file data = .ok fs') : Stored path data fs fs' := by
  have anchored := anchored_of_absolute is_file
  obtain ⟨file', is_file', leads⟩ := absolute_leads orderly.names straight.no_nul anchored
  obtain rfl : file' = file := Except.ok.inj (is_file'.symm.trans is_file)
  obtain ⟨orderly', spot, executable, found, same⟩ := stored_of_write orderly written
  -- the file is where its names lead
  have reaches : fs'.reach .look file' = .ok (.object ⟨spot, 0⟩ (.file data executable)) := by
    unfold FileSystem.find at found
    split at found
    · cases found
    · cases found
    · rename_i location entry reaches
      cases found
      exact reaches
  obtain ⟨-, walks⟩ := reach_eq_walk reaches
  have walked := (walks .look).symm.trans reaches
  rw [no_slash_of_write written, if_pos leads.absolute, leads.components,
    spot_eq_leftOver orderly.names] at walked
  -- the components of the path lead there too
  have start := (straight.start_arrives orderly anchored).alike same
  have retraced := (straight.retraces.alike same).walk orderly'.proper start
    (fun m hm is_dot => straight.no_dot (by rw [hm, is_dot])) walked
  have reaches_path : fs'.reach .look path = .ok (.object ⟨spot, 0⟩ (.file data executable)) := by
    rw [reach_of_passable straight.no_nul straight.nonempty straight.short, straight.no_slash,
      same.current]
    exact retraced
  refine ⟨orderly', spot, executable, ?_, same⟩
  unfold FileSystem.find
  rw [reaches_path]

end FileSystem

end GoWorkbench
