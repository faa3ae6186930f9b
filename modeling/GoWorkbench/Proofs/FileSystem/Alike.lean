/-
  Walks in two file systems that differ in one file.

  Links are allowed here, so components alone do not tell where a walk ends.

  1. **Sameness** — `SameBut spot fs fs'`: the file systems differ at most in the file at `spot`,
     where neither has a link or a directory.
  2. **Walks** — a walk ends alike in both, or it comes to the spot in both (`walk_alike`).
  3. **Arriving** — a walk that ends at a directory can be gone on with: what follows its components
     is walked from there (`Arrives.walk_append`).
  4. **Last names** — the last component of a walk is the name of the file it ends at, unless that
     component is a link.
  5. **Ends** — a walk ends at what is there, or at a free name in a directory (`walk_sits`).
  6. **Changes** — a file that is put somewhere or taken away is the only difference (`sameBut_put`,
     `sameBut_erase`).
  7. **New files** — a file that is made where nothing was has the last name of its path
     (`created`).
-/
import GoWorkbench.Proofs.FileSystem.Writing

namespace GoWorkbench.FileSystem

open Entry

variable {fs fs' : FileSystem} {purpose : Purpose} {here : Place} {name : String}
  {spot todo : List String}

/-! ## Sameness -/

/-- The file systems differ at most in the file at the spot. -/
structure SameBut (spot : List String) (fs fs' : FileSystem) : Prop where
  current : fs'.current = fs.current
  dirs : ∀ route, dirAt route fs'.entries ↔ dirAt route fs.entries
  leaves : ∀ route, route ≠ spot → leafAt route fs'.entries = leafAt route fs.entries
  no_link : ∀ target, leafAt spot fs.entries ≠ some (.link target)
  no_link' : ∀ target, leafAt spot fs'.entries ≠ some (.link target)

theorem SameBut.symm (same : SameBut spot fs fs') : SameBut spot fs' fs where
  current := same.current.symm
  dirs := fun route => (same.dirs route).symm
  leaves := fun route h => (same.leaves route h).symm
  no_link := same.no_link'
  no_link' := same.no_link

theorem SameBut.refl (no_link : ∀ target, leafAt spot fs.entries ≠ some (.link target)) :
    SameBut spot fs fs :=
  ⟨rfl, fun _ => Iff.rfl, fun _ _ => rfl, no_link, no_link⟩

/-- What two lookups of one name find, one in each file system. -/
inductive SameEntry (here : Place) (name : String) (spot : List String) :
    Option Entry → Option Entry → Prop
  | same (found : Option Entry) : SameEntry here name spot found found
  | directory (inner inner' : List (String × Entry)) :
      SameEntry here name spot (some (.directory inner)) (some (.directory inner'))
  | spot {found found' : Option Entry} (there : here.gone = 0) (is : here.names ++ [name] = spot)
      (file : ∀ entry, found = some entry → ∃ data executable, entry = .file data executable)
      (file' : ∀ entry, found' = some entry → ∃ data executable, entry = .file data executable) :
      SameEntry here name spot found found'

/-- What is no directory is what the leaf is. -/
theorem at?_eq_leafAt {route : List String} {entries : List (String × Entry)}
    (h : ¬ dirAt route entries) : Entry.at? route entries = leafAt route entries := by
  unfold leafAt
  split
  · rename_i inner hinner
    exact absurd ⟨inner, hinner⟩ h
  · rfl

/-- A leaf that is no link is a file. -/
theorem file_of_leaf {route : List String} {entries : List (String × Entry)}
    (no_dir : ¬ dirAt route entries)
    (no_link : ∀ target, leafAt route entries ≠ some (.link target)) (entry : Entry)
    (h : Entry.at? route entries = some entry) :
    ∃ data executable, entry = .file data executable := by
  cases entry with
  | file data executable => exact ⟨data, executable, rfl⟩
  | link target =>
    rw [at?_eq_leafAt no_dir] at h
    exact absurd h (no_link target)
  | directory inner => exact absurd ⟨inner, h⟩ no_dir

theorem SameBut.child (same : SameBut spot fs fs') (here : Place) (name : String) :
    SameEntry here name spot (Entry.child? name (fs.entriesAt here))
      (Entry.child? name (fs'.entriesAt here)) := by
  obtain ⟨names, gone⟩ := here
  by_cases hgone : gone = 0
  · subst hgone
    rw [child?_entriesAt, child?_entriesAt]
    by_cases hdir : dirAt (names ++ [name]) fs.entries
    · obtain ⟨inner, hinner⟩ := hdir
      obtain ⟨inner', hinner'⟩ := (same.dirs _).mpr ⟨inner, hinner⟩
      rw [hinner, hinner']
      exact .directory inner inner'
    · have hdir' : ¬ dirAt (names ++ [name]) fs'.entries := fun h => hdir ((same.dirs _).mp h)
      by_cases hspot : names ++ [name] = spot
      · subst hspot
        exact .spot rfl rfl (file_of_leaf hdir same.no_link) (file_of_leaf hdir' same.no_link')
      · rw [at?_eq_leafAt hdir, at?_eq_leafAt hdir', same.leaves _ hspot]
        exact .same _
  · -- nothing is in a place that has been removed
    have nothing : ∀ fs : FileSystem, fs.entriesAt ⟨names, gone⟩ = [] := fun fs =>
      if_pos (Nat.pos_of_ne_zero hgone)
    rw [nothing, nothing]
    exact .same _

theorem SameBut.child_directory (same : SameBut spot fs fs') {inner : List (String × Entry)}
    (found : Entry.child? name (fs.entriesAt here) = some (.directory inner)) :
    ∃ inner', Entry.child? name (fs'.entriesAt here) = some (.directory inner') := by
  have child := same.child here name
  rw [found] at child
  generalize Entry.child? name (fs'.entriesAt here) = found' at child ⊢
  cases child with
  | same => exact ⟨inner, rfl⟩
  | directory _ inner' => exact ⟨inner', rfl⟩
  | spot _ _ file _ =>
    obtain ⟨data, executable, h⟩ := file _ rfl
    cases h

theorem SameBut.child_link (same : SameBut spot fs fs') {target : String}
    (found : Entry.child? name (fs.entriesAt here) = some (.link target)) :
    Entry.child? name (fs'.entriesAt here) = some (.link target) := by
  have child := same.child here name
  rw [found] at child
  generalize Entry.child? name (fs'.entriesAt here) = found' at child ⊢
  cases child with
  | same => rfl
  | spot _ _ file _ =>
    obtain ⟨data, executable, h⟩ := file _ rfl
    cases h

/-! ## Walks -/

/-- A walk has come to the spot and ended there, at a file or a free name, or been refused. -/
inductive AtSpot (spot : List String) : Except Trouble Target → Prop
  | file {location : Place} {data : List UInt8} {executable : Bool}
      (is : location.names = spot) : AtSpot spot (.ok (.object location (.file data executable)))
  | vacant {parent : Place} {name : String} (is : parent.names ++ [name] = spot) :
      AtSpot spot (.ok (.vacant parent name))
  | missing : AtSpot spot (.error .missing)
  | blocked : AtSpot spot (.error .notDirectory)

/-- How one walk ends in two file systems. -/
inductive Alike (spot : List String) : Except Trouble Target → Except Trouble Target → Prop
  | same (ending : Except Trouble Target) : Alike spot ending ending
  | directory (location : Place) (inner inner' : List (String × Entry)) :
      Alike spot (.ok (.object location (.directory inner)))
        (.ok (.object location (.directory inner')))
  | atSpot {ending ending' : Except Trouble Target} (h : AtSpot spot ending)
      (h' : AtSpot spot ending') : Alike spot ending ending'

/-- What a walk does with a name under which nothing or a file is. -/
def settled (here : Place) (slash : Bool) (name : String) (rest : List String) :
    Option Entry → Except Trouble Target
  | some (.file data executable) =>
    if rest.isEmpty && !slash then .ok (.object (here.child name) (.file data executable))
    else .error .notDirectory
  | _ => if rest.isEmpty && here.gone = 0 then .ok (.vacant here name) else .error .missing

theorem atSpot_settled (slash : Bool) (rest : List String) (is : here.names ++ [name] = spot)
    (found : Option Entry) : AtSpot spot (settled here slash name rest found) := by
  have vacant : AtSpot spot (if rest.isEmpty && here.gone = 0 then
      (.ok (.vacant here name) : Except Trouble Target) else .error .missing) := by
    split
    · exact .vacant is
    · exact .missing
  rcases found with _ | ⟨data, executable⟩ | target | inner
  · exact vacant
  · show AtSpot spot (if rest.isEmpty && !slash then _ else _)
    split
    · exact .file is
    · exact .blocked
  · exact vacant
  · exact vacant

/-- The component is walked along by its name. -/
structure ByName (purpose : Purpose) (slash : Bool) (name : String) (rest : List String) : Prop
    extends Naming name where
  plain : ¬ (rest.isEmpty && slash && purpose = .create) = true

variable {slash : Bool} {links : Nat} {rest : List String}

/-- A walk that makes no file goes along every name that is short. -/
theorem ByName.of_looks (looks : purpose ≠ .create) (not_dot : name ≠ ".") (not_dots : name ≠ "..")
    (short : ¬ maxName < name.utf8ByteSize) : ByName purpose slash name rest :=
  ⟨⟨not_dot, not_dots, Nat.le_of_not_lt short⟩, by simp [looks]⟩

theorem ByName.walk_directory (h : ByName purpose slash name rest)
    {inner : List (String × Entry)}
    (found : Entry.child? name (fs.entriesAt here) = some (.directory inner)) :
    fs.walk purpose slash links here (name :: rest) =
      fs.walk purpose slash links (here.child name) rest := by
  rw [walk, if_neg h.not_dot, if_neg h.not_dots, if_neg h.plain,
    if_neg (Nat.not_lt.mpr h.short), found]

theorem ByName.walk_link (h : ByName purpose slash name rest) {target : String}
    (found : Entry.child? name (fs.entriesAt here) = some (.link target))
    (followed : ¬ (rest.isEmpty && !slash && purpose = .lookAtLink) = true) :
    fs.walk purpose slash (links + 1) here (name :: rest) =
      fs.walk purpose (slash || (rest.isEmpty && endsInSlash target)) links
        (if Path.isAbsolute target then .root else here) (components target ++ rest) := by
  rw [walk, if_neg h.not_dot, if_neg h.not_dots, if_neg h.plain,
    if_neg (Nat.not_lt.mpr h.short), found]
  dsimp only
  rw [if_neg followed]

/-- Where nothing or a file is, the walk is over. -/
theorem ByName.walk_settled (h : ByName purpose slash name rest)
    (file : ∀ entry, Entry.child? name (fs.entriesAt here) = some entry →
      ∃ data executable, entry = .file data executable) :
    fs.walk purpose slash links here (name :: rest) =
      settled here slash name rest (Entry.child? name (fs.entriesAt here)) := by
  rw [walk, if_neg h.not_dot, if_neg h.not_dots, if_neg h.plain,
    if_neg (Nat.not_lt.mpr h.short)]
  rcases hfound : Entry.child? name (fs.entriesAt here) with _ | entry
  · rfl
  · obtain ⟨data, executable, rfl⟩ := file entry hfound
    rfl

/-- A file ends a walk if its name is the last one, without a slash after it. -/
theorem ByName.walk_file (h : ByName purpose slash name rest) {data : List UInt8}
    {executable : Bool}
    (found : Entry.child? name (fs.entriesAt here) = some (.file data executable)) :
    fs.walk purpose slash links here (name :: rest) =
      if rest.isEmpty && !slash then .ok (.object (here.child name) (.file data executable))
      else .error .notDirectory := by
  rw [h.walk_settled (by rw [found]; exact fun _ h => ⟨_, _, (Option.some.inj h).symm⟩), found]
  rfl

/-- A name under which nothing is ends a walk if it is the last one, in a directory that is there. -/
theorem ByName.walk_free (h : ByName purpose slash name rest)
    (free : Entry.child? name (fs.entriesAt here) = none) :
    fs.walk purpose slash links here (name :: rest) =
      if rest.isEmpty && here.gone = 0 then .ok (.vacant here name) else .error .missing := by
  rw [h.walk_settled (by rw [free]; exact fun _ h => nomatch h), free]
  rfl

/-- Where one walk is over at nothing or at a file, the other is over alike: a name under which the
    file systems have different things is the last of the spot. -/
theorem SameBut.settled_alike (same : SameBut spot fs fs') (links : Nat) {found : Option Entry}
    (byName : ByName purpose slash name rest)
    (hfound : Entry.child? name (fs.entriesAt here) = found)
    (file : ∀ entry, found = some entry → ∃ data executable, entry = .file data executable) :
    Alike spot (settled here slash name rest found)
      (fs'.walk purpose slash links here (name :: rest)) := by
  have child := same.child here name
  rw [hfound] at child
  generalize hfound' : Entry.child? name (fs'.entriesAt here) = found' at child
  cases child with
  | same =>
    rw [byName.walk_settled (by rw [hfound']; exact file), hfound']
    exact .same _
  | directory inner inner' =>
    obtain ⟨data, executable, h⟩ := file _ rfl
    cases h
  | spot there is _ file' =>
    rw [byName.walk_settled (by rw [hfound']; exact file'), hfound']
    exact .atSpot (atSpot_settled _ _ is _) (atSpot_settled _ _ is _)

/-- **Walks end alike.** -/
theorem walk_alike (same : SameBut spot fs fs') (purpose : Purpose) (slash : Bool) (links : Nat)
    (here : Place) (todo : List String) :
    Alike spot (fs.walk purpose slash links here todo)
      (fs'.walk purpose slash links here todo) := by
  fun_induction FileSystem.walk fs purpose slash links here todo with
  | case1 slash links here =>
    rw [walk]
    exact .directory _ _ _
  | case2 slash links here rest ih =>
    rw [walk, if_pos rfl]
    exact ih
  | case3 slash links here rest not_dot ih =>
    rw [walk, if_neg not_dot, if_pos rfl]
    exact ih
  | case4 slash links here name rest not_dot not_dots refused =>
    rw [walk, if_neg not_dot, if_neg not_dots, if_pos refused]
    exact .same _
  | case5 slash links here name rest not_dot not_dots plain long =>
    rw [walk, if_neg not_dot, if_neg not_dots, if_neg plain, if_pos long]
    exact .same _
  | case6 slash links here name rest not_dot not_dots plain short found last =>
    have settled := same.settled_alike links
      ⟨⟨not_dot, not_dots, Nat.le_of_not_lt short⟩, plain⟩ found fun _ h => by cases h
    unfold FileSystem.settled at settled
    dsimp only at settled
    rwa [if_pos last] at settled
  | case7 slash links here name rest not_dot not_dots plain short found last =>
    have settled := same.settled_alike links
      ⟨⟨not_dot, not_dots, Nat.le_of_not_lt short⟩, plain⟩ found fun _ h => by cases h
    unfold FileSystem.settled at settled
    dsimp only at settled
    rwa [if_neg last] at settled
  | case8 slash links here name rest not_dot not_dots plain short inner found ih =>
    obtain ⟨inner', found'⟩ := same.child_directory found
    rw [ByName.walk_directory ⟨⟨not_dot, not_dots, Nat.le_of_not_lt short⟩, plain⟩ found']
    exact ih
  | case9 slash links here name rest not_dot not_dots plain short data executable found last =>
    have settled := same.settled_alike links
      ⟨⟨not_dot, not_dots, Nat.le_of_not_lt short⟩, plain⟩ found
      fun _ h => ⟨data, executable, (Option.some.inj h).symm⟩
    unfold FileSystem.settled at settled
    dsimp only at settled
    rwa [if_pos last] at settled
  | case10 slash links here name rest not_dot not_dots plain short data executable found last =>
    have settled := same.settled_alike links
      ⟨⟨not_dot, not_dots, Nat.le_of_not_lt short⟩, plain⟩ found
      fun _ h => ⟨data, executable, (Option.some.inj h).symm⟩
    unfold FileSystem.settled at settled
    dsimp only at settled
    rwa [if_neg last] at settled
  | case11 slash links here name rest not_dot not_dots plain short target found looked =>
    rw [walk, if_neg not_dot, if_neg not_dots, if_neg plain, if_neg short, same.child_link found]
    dsimp only
    rw [if_pos looked]
    exact .same _
  | case12 slash here name rest not_dot not_dots plain short target found followed =>
    rw [walk, if_neg not_dot, if_neg not_dots, if_neg plain, if_neg short, same.child_link found]
    dsimp only
    rw [if_neg followed]
    exact .same _
  | case13 slash here name rest not_dot not_dots plain short target found followed links ih =>
    rw [ByName.walk_link ⟨⟨not_dot, not_dots, Nat.le_of_not_lt short⟩, plain⟩
      (same.child_link found) followed]
    exact ih

/-- Paths lead alike. -/
theorem reach_alike (same : SameBut spot fs fs') (purpose : Purpose) (path : String) :
    Alike spot (fs.reach purpose path) (fs'.reach purpose path) := by
  unfold reach
  rw [same.current]
  split
  · exact .same _
  split
  · exact .same _
  split
  · exact .same _
  · exact walk_alike same _ _ _ _ _

/-! ## Arriving -/

/-- A walk comes to an end in a directory, with so many links left to follow. -/
inductive Arrives (fs : FileSystem) : Nat → Place → List String → Nat → Place → Prop
  | done {links : Nat} {here : Place} : Arrives fs links here [] links here
  | stays {links left : Nat} {here there : Place} {rest : List String}
      (on : Arrives fs links here rest left there) : Arrives fs links here ("." :: rest) left there
  | rises {links left : Nat} {here there : Place} {rest : List String}
      (on : Arrives fs links here.parent rest left there) :
      Arrives fs links here (".." :: rest) left there
  | enters {links left : Nat} {here there : Place} {name : String} {rest : List String}
      {inner : List (String × Entry)} (naming : Naming name)
      (found : Entry.child? name (fs.entriesAt here) = some (.directory inner))
      (on : Arrives fs links (here.child name) rest left there) :
      Arrives fs links here (name :: rest) left there
  | follows {links left : Nat} {here there : Place} {name target : String} {rest : List String}
      (naming : Naming name)
      (found : Entry.child? name (fs.entriesAt here) = some (.link target))
      (on : Arrives fs links (if Path.isAbsolute target then .root else here)
        (components target ++ rest) left there) :
      Arrives fs (links + 1) here (name :: rest) left there

/-- A walk that ends at a directory has arrived there. -/
theorem arrives_of_walk {location : Place} {inner : List (String × Entry)}
    (h : fs.walk .look slash links here todo = .ok (.object location (.directory inner))) :
    (∃ left, Arrives fs links here todo left location) ∧ inner = fs.entriesAt location := by
  fun_induction FileSystem.walk fs .look slash links here todo with
  | case1 slash links here =>
    cases h
    exact ⟨⟨links, .done⟩, rfl⟩
  | case2 slash links here rest ih =>
    obtain ⟨⟨left, on⟩, hinner⟩ := ih h
    exact ⟨⟨left, .stays on⟩, hinner⟩
  | case3 slash links here rest not_dot ih =>
    obtain ⟨⟨left, on⟩, hinner⟩ := ih h
    exact ⟨⟨left, .rises on⟩, hinner⟩
  | case8 slash links here name rest not_dot not_dots plain short inner found ih =>
    obtain ⟨⟨left, on⟩, hinner⟩ := ih h
    exact ⟨⟨left, .enters ⟨not_dot, not_dots, Nat.le_of_not_lt short⟩ found on⟩, hinner⟩
  | case13 slash here name rest not_dot not_dots plain short target found followed links ih =>
    obtain ⟨⟨left, on⟩, hinner⟩ := ih h
    exact ⟨⟨left, .follows ⟨not_dot, not_dots, Nat.le_of_not_lt short⟩ found on⟩, hinner⟩
  | case4 | case5 | case6 | case7 | case9 | case10 | case11 | case12 => cases h

variable {left : Nat} {there : Place} {more : List String}

/-- **Going on**: what follows is walked from where a walk has arrived. -/
theorem Arrives.walk_append (h : Arrives fs links here todo left there) (some_more : more ≠ [])
    (purpose : Purpose) (slash : Bool) :
    fs.walk purpose slash links here (todo ++ more) = fs.walk purpose slash left there more := by
  have goes_on : ∀ rest : List String, (rest ++ more).isEmpty = false := fun rest => by
    simp [some_more]
  induction h with
  | done => rfl
  | stays _ ih => rw [List.cons_append, walk, if_pos rfl, ih]
  | rises _ ih => rw [List.cons_append, walk, if_neg (by decide), if_pos rfl, ih]
  | @enters _ _ _ _ _ rest _ naming found _ ih =>
    rw [List.cons_append, ByName.walk_directory ⟨naming, by simp [goes_on]⟩ found, ih]
  | @follows _ _ _ _ _ _ rest naming found _ ih =>
    rw [List.cons_append, ByName.walk_link ⟨naming, by simp [goes_on]⟩ found (by simp [goes_on]),
      goes_on, Bool.false_and, Bool.or_false, ← List.append_assoc, ih]

/-- Walks arrive alike, since directories and links are the same. -/
theorem Arrives.alike (same : SameBut spot fs fs') (h : Arrives fs links here todo left there) :
    Arrives fs' links here todo left there := by
  induction h with
  | done => exact .done
  | stays _ ih => exact .stays ih
  | rises _ ih => exact .rises ih
  | enters naming found _ ih =>
    obtain ⟨inner', found'⟩ := same.child_directory found
    exact .enters naming found' ih
  | follows naming found _ ih => exact .follows naming (same.child_link found) ih

/-- Where a walk arrives is a place that stands, and nothing on the way has been removed. -/
theorem Arrives.stands (h : Arrives fs links here todo left there)
    (stands : Stands fs.entries here) (whole : here.gone = 0) :
    Stands fs.entries there ∧ there.gone = 0 := by
  induction h with
  | done => exact ⟨stands, whole⟩
  | stays _ ih => exact ih stands whole
  | rises _ ih => exact ih stands.parent (by unfold Place.parent; dsimp only; omega)
  | enters _ found _ ih => exact ih (Stands.child found) rfl
  | @follows _ _ _ _ _ target _ _ _ _ ih =>
    by_cases habs : Path.isAbsolute target = true
    · rw [if_pos habs] at ih
      exact ih (stands_root _) rfl
    · rw [if_neg habs] at ih
      exact ih stands whole

/-! ## Last names -/

/-- No component of a walk that ends well is too long. -/
theorem short_of_walk {target : Target}
    (h : fs.walk purpose slash links here todo = .ok target) :
    ∀ n ∈ todo, n.utf8ByteSize ≤ maxName := by
  have alone : ∀ {name : String} {rest : List String}, ¬ maxName < name.utf8ByteSize →
      rest.isEmpty = true → ∀ n ∈ name :: rest, n.utf8ByteSize ≤ maxName := by
    intro name rest short last
    rw [List.isEmpty_iff.mp last]
    exact List.forall_mem_singleton.mpr (Nat.le_of_not_lt short)
  fun_induction FileSystem.walk fs purpose slash links here todo with
  | case1 => intro n hn; cases hn
  | case2 slash links here rest ih => exact List.forall_mem_cons.mpr ⟨by decide, ih h⟩
  | case3 slash links here rest not_dot ih => exact List.forall_mem_cons.mpr ⟨by decide, ih h⟩
  | case4 | case5 | case7 | case10 | case12 => cases h
  | case6 slash links here name rest not_dot not_dots plain short found last =>
    rw [Bool.and_eq_true] at last
    exact alone short last.1
  | case8 slash links here name rest not_dot not_dots plain short inner found ih =>
    exact List.forall_mem_cons.mpr ⟨Nat.le_of_not_lt short, ih h⟩
  | case9 slash links here name rest not_dot not_dots plain short data executable found last =>
    rw [Bool.and_eq_true] at last
    exact alone short last.1
  | case11 slash links here name rest not_dot not_dots plain short target found last =>
    rw [Bool.and_eq_true, Bool.and_eq_true] at last
    exact alone short last.1.1
  | case13 slash here name rest not_dot not_dots plain short target found followed links ih =>
    refine List.forall_mem_cons.mpr ⟨Nat.le_of_not_lt short, fun n hn => ?_⟩
    exact ih h n (List.mem_append_right _ hn)

/-- What is looked for by the last component: a link is not followed there, and a file or a free
    name has that component as its name. -/
inductive EndsIn (fs : FileSystem) (links : Nat) (here : Place) (todo : List String) :
    Target → Prop
  | link {location : Place} {target : String} {ending : Target}
      (looked : fs.walk .lookAtLink false links here todo = .ok (.object location (.link target))) :
      EndsIn fs links here todo ending
  | directory {location : Place} {inner : List (String × Entry)} :
      EndsIn fs links here todo (.object location (.directory inner))
  | file {location : Place} {data : List UInt8} {executable : Bool}
      (name : todo.getLast? = location.names.getLast?)
      (looked : fs.walk .lookAtLink false links here todo =
        .ok (.object location (.file data executable))) :
      EndsIn fs links here todo (.object location (.file data executable))
  | vacant {parent : Place} {name : String} (is : todo.getLast? = some name)
      (looked : fs.walk .lookAtLink false links here todo = .ok (.vacant parent name)) :
      EndsIn fs links here todo (.vacant parent name)

theorem EndsIn.onward {links' : Nat} {here' : Place} {rest : List String} {ending : Target}
    (h : EndsIn fs links' here' rest ending)
    (same : fs.walk .lookAtLink false links here todo =
      fs.walk .lookAtLink false links' here' rest)
    (last : rest ≠ [] → todo.getLast? = rest.getLast?) : EndsIn fs links here todo ending := by
  -- a walk of nothing ends at a directory
  have some_rest : ∀ {ending : Target},
      fs.walk .lookAtLink false links' here' rest = .ok ending →
      (∀ location inner, ending ≠ .object location (.directory inner)) → rest ≠ [] := by
    rintro ending looked leaf rfl
    rw [walk] at looked
    exact leaf _ _ (Except.ok.inj looked).symm
  cases h with
  | link looked => exact .link (same.trans looked)
  | directory => exact .directory
  | file name looked =>
    have hrest := some_rest looked fun _ _ h => by cases h
    exact .file ((last hrest).trans name) (same.trans looked)
  | vacant is looked =>
    have hrest := some_rest looked fun _ _ h => by cases h
    exact .vacant ((last hrest).trans is) (same.trans looked)

theorem walk_to_link {target : String} (naming : Naming name)
    (found : Entry.child? name (fs.entriesAt here) = some (.link target)) :
    fs.walk .lookAtLink false links here [name] =
      .ok (.object (here.child name) (.link target)) := by
  rw [walk, if_neg naming.not_dot, if_neg naming.not_dots, if_neg (by decide),
    if_neg (Nat.not_lt.mpr naming.short), found]
  rfl

/-- **Last names**: a walk ends in the name of its last component, unless that is a link. -/
theorem walk_endsIn {target : Target} (plain : slash = false)
    (h : fs.walk purpose slash links here todo = .ok target) :
    EndsIn fs links here todo target := by
  fun_induction FileSystem.walk fs purpose slash links here todo with
  | case1 slash links here =>
    rw [← Except.ok.inj h]
    exact .directory
  | case2 slash links here rest ih =>
    refine (ih plain h).onward (by rw [walk, if_pos rfl]) fun some_rest => ?_
    rw [List.getLast?_cons_of_ne_nil some_rest]
  | case3 slash links here rest not_dot ih =>
    refine (ih plain h).onward (by rw [walk, if_neg not_dot, if_pos rfl]) fun some_rest => ?_
    rw [List.getLast?_cons_of_ne_nil some_rest]
  | case4 | case5 | case7 | case10 | case12 => cases h
  | case6 slash links here name rest not_dot not_dots _ short found last =>
    have naming : Naming name := ⟨not_dot, not_dots, Nat.le_of_not_lt short⟩
    rw [Bool.and_eq_true] at last
    rw [← Except.ok.inj h, List.isEmpty_iff.mp last.1]
    refine .vacant rfl ?_
    rw [ByName.walk_free ⟨naming, by decide⟩ found]
    exact if_pos last.2
  | case8 slash links here name rest not_dot not_dots _ short inner found ih =>
    have naming : Naming name := ⟨not_dot, not_dots, Nat.le_of_not_lt short⟩
    refine (ih plain h).onward (ByName.walk_directory ⟨naming, by simp⟩ found) fun some_rest => ?_
    rw [List.getLast?_cons_of_ne_nil some_rest]
  | case9 slash links here name rest not_dot not_dots _ short data executable found last =>
    have naming : Naming name := ⟨not_dot, not_dots, Nat.le_of_not_lt short⟩
    rw [Bool.and_eq_true] at last
    rw [← Except.ok.inj h, List.isEmpty_iff.mp last.1]
    refine .file (List.getLast?_concat ..).symm ?_
    rw [ByName.walk_file ⟨naming, by decide⟩ found]
    rfl
  | case11 slash links here name rest not_dot not_dots _ short target found last =>
    rw [Bool.and_eq_true, Bool.and_eq_true] at last
    rw [List.isEmpty_iff.mp last.1.1]
    exact .link (walk_to_link ⟨not_dot, not_dots, Nat.le_of_not_lt short⟩ found)
  | case13 slash here name rest not_dot not_dots _ short target found followed links ih =>
    have naming : Naming name := ⟨not_dot, not_dots, Nat.le_of_not_lt short⟩
    by_cases last : rest = []
    · rw [last]
      exact .link (walk_to_link naming found)
    · have goes_on : rest.isEmpty = false := by simp [last]
      rw [goes_on, Bool.false_and, Bool.or_false] at h ih
      refine (ih plain h).onward ?_ fun _ => ?_
      · rw [ByName.walk_link ⟨naming, by simp⟩ found (by simp [goes_on]), goes_on, Bool.false_and,
          Bool.or_false, dite_eq_ite]
      · rw [List.getLast?_cons_of_ne_nil last, List.getLast?_append,
          List.getLast?_eq_some_getLast last, Option.some_or]

/-! ## Ends -/

/-- A walk ends at what is there, or at a free name in a directory that is there. -/
inductive Sits (fs : FileSystem) : Target → Prop
  | leaf {location : Place} {entry : Entry}
      (found : Entry.at? location.names fs.entries = some entry) :
      Sits fs (.object location entry)
  | directory (location : Place) (inner : List (String × Entry)) :
      Sits fs (.object location (.directory inner))
  | vacant {parent : Place} {name : String} (naming : Naming name)
      (there : dirAt parent.names fs.entries)
      (free : Entry.at? (parent.names ++ [name]) fs.entries = none) :
      Sits fs (.vacant parent name)

theorem walk_sits {target : Target} (h : fs.walk purpose slash links here todo = .ok target)
    (stands : Stands fs.entries here) : Sits fs target := by
  fun_induction FileSystem.walk fs purpose slash links here todo with
  | case1 slash links here =>
    rw [← Except.ok.inj h]
    exact .directory _ _
  | case2 slash links here rest ih => exact ih h stands
  | case3 slash links here rest not_dot ih => exact ih h stands.parent
  | case4 | case5 | case7 | case10 | case12 => cases h
  | case6 slash links here name rest not_dot not_dots plain short found last =>
    rw [Bool.and_eq_true, decide_eq_true_eq] at last
    obtain ⟨names, gone⟩ := here
    obtain ⟨-, rfl⟩ := last
    rw [child?_entriesAt] at found
    rw [← Except.ok.inj h]
    exact .vacant ⟨not_dot, not_dots, Nat.le_of_not_lt short⟩ (stands.dirAt rfl) found
  | case8 slash links here name rest not_dot not_dots plain short inner found ih =>
    exact ih h (Stands.child found)
  | case9 slash links here name rest not_dot not_dots plain short data executable found last =>
    rw [← Except.ok.inj h]
    exact .leaf (at?_child found).2
  | case11 slash links here name rest not_dot not_dots plain short target found looked =>
    rw [← Except.ok.inj h]
    exact .leaf (at?_child found).2
  | case13 slash here name rest not_dot not_dots plain short target found followed links ih =>
    refine ih h ?_
    split
    · exact stands_root _
    · exact stands

/-- What a path leads to depends on what it is walked for only in the walk. -/
theorem reach_eq_walk {path : String} {target : Target}
    (reaches : fs.reach purpose path = .ok target) : '\x00' ∉ path.toList ∧ ∀ purpose,
      fs.reach purpose path = fs.walk purpose (endsInSlash path) maxLinks
        (if Path.isAbsolute path then .root else fs.current) (components path) := by
  unfold FileSystem.reach at reaches
  split at reaches
  · cases reaches
  rename_i no_nul
  split at reaches
  · cases reaches
  rename_i some_path
  split at reaches
  · cases reaches
  rename_i short
  refine ⟨no_nul, fun purpose => reach_of_passable no_nul (fun h => some_path ?_)
    (Nat.le_of_not_lt short)⟩
  rw [h]; rfl

/-! ## Changes -/

/-- What is put at names or taken from there makes no other difference. -/
theorem SameBut.of_replaced {new : Option Entry} {after : List (String × Entry)}
    (change : Replaced new spot fs.entries after)
    (file : ∀ entry, new = some entry → ∃ data executable, entry = .file data executable)
    (no_link : ∀ target, leafAt spot fs.entries ≠ some (.link target)) :
    SameBut spot fs ⟨after, fs.current⟩ := by
  have leaf : ∀ inner, new ≠ some (.directory inner) := by
    intro inner h
    obtain ⟨data, executable, is⟩ := file _ h
    cases is
  refine ⟨rfl, change.dirAt leaf, fun route other => ?_, no_link, fun target h => ?_⟩
  · rw [change.leafAt leaf, if_neg other]
  · rw [change.leafAt leaf, if_pos rfl] at h
    obtain ⟨data, executable, is⟩ := file _ h
    cases is

theorem at?_of_leafAt {route : List String} {entries : List (String × Entry)} {entry : Entry}
    (h : leafAt route entries = some entry) : Entry.at? route entries = some entry := by
  unfold leafAt at h
  split at h
  · cases h
  · exact h

theorem no_link_of_at? {route : List String} {entries : List (String × Entry)}
    (h : ∀ target, Entry.at? route entries ≠ some (.link target)) (target : String) :
    leafAt route entries ≠ some (.link target) := fun is => h target (at?_of_leafAt is)

/-- Putting a file where a file is or nothing. -/
theorem sameBut_put {parent : List String} (there : dirAt parent fs.entries)
    (free : ¬ dirAt (parent ++ [name]) fs.entries)
    (no_link : ∀ target, Entry.at? (parent ++ [name]) fs.entries ≠ some (.link target))
    (data : List UInt8) (executable : Bool) :
    SameBut (parent ++ [name]) fs (fs.put (parent ++ [name]) (.file data executable)) ∧
      Entry.at? (parent ++ [name]) (fs.put (parent ++ [name]) (.file data executable)).entries =
        some (.file data executable) := by
  have change := replaced_put there free (.file data executable)
  refine ⟨.of_replaced change (fun entry h => ⟨data, executable, (Option.some.inj h).symm⟩)
    (no_link_of_at? no_link), at?_of_leafAt ?_⟩
  show leafAt _ (Entry.put _ _ _) = _
  rw [change.leafAt (fun inner h => by cases h), if_pos rfl]

/-- Taking away a file. -/
theorem sameBut_erase {parent : List String} {data : List UInt8} {executable : Bool}
    (stands : Stands fs.entries fs.current)
    (found : Entry.at? (parent ++ [name]) fs.entries = some (.file data executable)) :
    SameBut (parent ++ [name]) fs (fs.erase (parent ++ [name])) ∧
      Entry.at? (parent ++ [name]) (fs.erase (parent ++ [name])).entries = none := by
  have leaf := not_dirAt found fun _ h => Entry.noConfusion h
  have change := replaced_erase (dirAt_of_at?_append (List.cons_ne_nil _ _) found) leaf
  unfold FileSystem.erase
  rw [without_eq stands leaf]
  refine ⟨.of_replaced change (fun _ h => nomatch h) (no_link_of_at? fun target h => ?_), ?_⟩
  · rw [found] at h; cases h
  · rw [at?_eq_leafAt fun h => leaf ((change.dirAt (fun _ h => nomatch h) _).mp h),
      change.leafAt (fun _ h => nomatch h), if_pos rfl]

/-! ## New files -/

/-- No file is made where a slash follows. -/
theorem walk_create_slash {target : Target}
    (h : fs.walk .create true links here todo = .ok target) :
    ∃ location inner, target = .object location (.directory inner) := by
  generalize is : true = slash at h
  generalize wanted : Purpose.create = purpose at h
  fun_induction FileSystem.walk fs purpose slash links here todo with
  | case1 slash links here => exact ⟨_, _, (Except.ok.inj h).symm⟩
  | case2 slash links here rest ih => exact ih is h
  | case3 slash links here rest not_dot ih => exact ih is h
  | case4 | case5 | case7 | case10 | case12 => cases h
  | case6 slash links here name rest not_dot not_dots plain short found last =>
    rw [Bool.and_eq_true] at last
    exact absurd (by simp [last.1, ← is, ← wanted]) plain
  | case8 slash links here name rest not_dot not_dots plain short inner found ih => exact ih is h
  | case9 slash links here name rest not_dot not_dots plain short data executable found last =>
    rw [← is, Bool.and_eq_true] at last
    cases last.2
  | case11 slash links here name rest not_dot not_dots plain short target found looked =>
    rw [← wanted] at looked
    simp at looked
  | case13 slash here name rest not_dot not_dots plain short target found followed links ih =>
    exact ih (by rw [← is]; rfl) h

/-- No file is written where a slash follows. -/
theorem no_slash_of_write {path : String} {data : List UInt8}
    (written : fs.write path data = .ok fs') : endsInSlash path = false := by
  refine Bool.eq_false_iff.mpr fun slash => ?_
  unfold FileSystem.write at written
  rcases reaches : fs.reach .create path with t | target
  · rw [reaches] at written
    cases written
  · obtain ⟨-, walks⟩ := reach_eq_walk reaches
    have walked := (walks .create).symm.trans reaches
    rw [slash] at walked
    obtain ⟨location, inner, rfl⟩ := walk_create_slash walked
    rw [reaches] at written
    cases written

/-- **A new file** that is made where nothing was has the last name of the path, in a directory that
    is there. -/
theorem created {path : String} {bytes : List UInt8} (stands : Stands fs.entries fs.current)
    (free : fs.findLink path = .error .missing) (written : fs.write path bytes = .ok fs') :
    ∃ parent name, (components path).getLast? = some name ∧ IsName name ∧
      dirAt parent fs.entries ∧ Entry.at? (parent ++ [name]) fs.entries = none ∧
      fs' = fs.put (parent ++ [name]) (.file bytes false) := by
  have plain := no_slash_of_write written
  unfold FileSystem.write at written
  rcases hreach : fs.reach .create path with t | target
  · rw [hreach] at written; cases written
  rw [hreach] at written
  obtain ⟨no_nul, walks⟩ := reach_eq_walk hreach
  have walked := (walks .create).symm.trans hreach
  have here : Stands fs.entries (if Path.isAbsolute path then .root else fs.current) := by
    split
    · exact stands_root _
    · exact stands
  have nothing : ∀ {location entry}, fs.walk .lookAtLink false maxLinks
      (if Path.isAbsolute path then .root else fs.current) (components path) ≠
        .ok (.object location entry) := by
    intro location entry looked
    unfold FileSystem.findLink at free
    rw [walks .lookAtLink, plain, looked] at free
    cases free
  cases walk_endsIn plain walked with
  | link looked => exact absurd looked nothing
  | file _ looked => exact absurd looked nothing
  | directory => cases written
  | @vacant parent name is looked =>
    cases walk_sits walked here with
    | vacant naming there free_name =>
      obtain ⟨part, nonempty, no_slash⟩ := of_mem_components (List.mem_of_getLast? is)
      refine ⟨parent.names, name, is, ⟨nonempty, naming.not_dot, naming.not_dots, no_slash,
        fun h => no_nul (Path.mem_of_mem_parts part h).1⟩, there, free_name, ?_⟩
      exact (Except.ok.inj written).symm

end GoWorkbench.FileSystem
