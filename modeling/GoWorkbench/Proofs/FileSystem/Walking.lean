/-
  Walking a path where no symbolic link is.

  1. **Places** — a place stands if what is left of it, once the names of removed directories are
     taken off, is a directory (`Stands`).  All that a walk comes through stands.
  2. **Where a walk ends** — without links the components alone tell the names where it ends
     (`steps`); whether it gets there, and what it finds, the tree tells (`Ends`).
  3. **Names** — a walk along names finds what they lead to, unless one is too long (`walk_names`).
  4. **Paths** — so does a path of names from the root, if it can be passed to an operating system
     (`list_eq_ok`, `read_eq_ok`).
-/
import GoWorkbench.Proofs.FileSystem.Trees

namespace GoWorkbench.FileSystem

open Entry

variable {fs : FileSystem} {purpose : Purpose} {here : Place} {name : String}
  {names todo : List String} {inner : List (String × Entry)}

/-! ## Places -/

/-- What is left of the place is a directory. -/
structure Stands (entries : List (String × Entry)) (p : Place) : Prop where
  le : p.gone ≤ p.names.length
  left : dirAt (p.names.take (p.names.length - p.gone)) entries

theorem stands_root (entries : List (String × Entry)) : Stands entries .root :=
  ⟨Nat.le_refl 0, dirAt_nil⟩

/-- A place of which nothing has been removed is a directory. -/
theorem Stands.dirAt {entries : List (String × Entry)} (h : Stands entries here)
    (there : here.gone = 0) : dirAt here.names entries := by
  have hleft := h.left
  rw [there, Nat.sub_zero, List.take_length] at hleft
  exact hleft

theorem stands_of_dirAt {entries : List (String × Entry)} (h : Entry.dirAt names entries) :
    Stands entries ⟨names, 0⟩ := by
  refine ⟨Nat.zero_le _, ?_⟩
  rw [Nat.sub_zero, List.take_length]; exact h

theorem Stands.parent {entries : List (String × Entry)} (h : Stands entries here) :
    Stands entries here.parent := by
  obtain ⟨hle, hleft⟩ := h
  unfold Place.parent
  refine ⟨?_, ?_⟩
  · show here.gone - 1 ≤ here.names.dropLast.length
    rw [List.length_dropLast]; omega
  · show Entry.dirAt (here.names.dropLast.take (here.names.dropLast.length - (here.gone - 1)))
      entries
    rw [List.length_dropLast, List.dropLast_eq_take, List.take_take]
    by_cases hgone : here.gone = 0
    · rw [hgone, Nat.sub_zero, List.take_length] at hleft
      rw [← List.take_append_drop
        (min (here.names.length - 1 - (here.gone - 1)) (here.names.length - 1)) here.names] at hleft
      exact hleft.of_append
    · have hmin : min (here.names.length - 1 - (here.gone - 1)) (here.names.length - 1) =
          here.names.length - here.gone := by omega
      rw [hmin]; exact hleft

/-- What is in a place that has not been removed. -/
theorem at?_child (h : Entry.child? name (fs.entriesAt here) = some entry) :
    here.gone = 0 ∧ Entry.at? (here.names ++ [name]) fs.entries = some entry := by
  unfold entriesAt at h
  by_cases hgone : here.gone > 0
  · rw [if_pos hgone] at h; cases h
  · rw [if_neg hgone] at h
    refine ⟨by omega, ?_⟩
    rw [at?_append _ (List.cons_ne_nil _ _)]
    generalize Entry.at? here.names fs.entries = found at h ⊢
    rcases found with _ | ⟨data, executable⟩ | target | inner
    · cases h
    · cases h
    · cases h
    · exact h

theorem no_link_in (free : LinkFree fs.entries) {target : String} :
    Entry.child? name (fs.entriesAt here) ≠ some (.link target) := by
  intro hchild
  refine absurd ?_ (free (here.names ++ [name]) target)
  unfold leafAt
  rw [(at?_child hchild).2]

theorem entriesAt_of_at? (h : Entry.at? names fs.entries = some (.directory inner)) :
    fs.entriesAt ⟨names, 0⟩ = inner := by
  unfold entriesAt
  rw [if_neg (Nat.lt_irrefl 0), h]

/-- What is found below a directory is found farther along. -/
theorem at?_entriesAt (some_todo : todo ≠ []) :
    Entry.at? todo (fs.entriesAt ⟨names, 0⟩) = Entry.at? (names ++ todo) fs.entries := by
  rw [at?_append _ some_todo]
  unfold entriesAt
  rw [if_neg (Nat.lt_irrefl 0)]
  dsimp only
  rcases Entry.at? names fs.entries with _ | ⟨data, executable⟩ | target | inner
  · exact at?_of_empty some_todo
  · exact at?_of_empty some_todo
  · exact at?_of_empty some_todo
  · rfl

theorem child?_entriesAt (names : List String) (name : String) :
    Entry.child? name (fs.entriesAt ⟨names, 0⟩) = Entry.at? (names ++ [name]) fs.entries := by
  rw [← at?_entriesAt (List.cons_ne_nil name []), at?_singleton]

theorem proper_entriesAt (proper : Proper fs.entries) (here : Place) :
    Proper (fs.entriesAt here) := by
  unfold entriesAt
  split
  · exact proper_nil
  · split
    · rename_i inner hinner
      exact proper.at? hinner
    · exact proper_nil

theorem Stands.child (h : Entry.child? name (fs.entriesAt here) = some (.directory inner)) :
    Stands fs.entries (here.child name) :=
  stands_of_dirAt ⟨inner, (at?_child h).2⟩

/-- A file system without links, where every entry has a name of its own and relative paths start
    at a place that stands. -/
structure Sound (fs : FileSystem) : Prop where
  proper : Proper fs.entries
  free : LinkFree fs.entries
  stands : Stands fs.entries fs.current
  names : ∀ n ∈ fs.current.names, IsName n

/-! ## Where a walk ends -/

/-- The names that one more component leads to. -/
def step (names : List String) (component : String) : List String :=
  if component = "." then names
  else if component = ".." then names.dropLast
  else names ++ [component]

/-- The names that components lead to. -/
def steps (names : List String) (components : List String) : List String :=
  components.foldl step names

theorem step_name (h : IsName name) : step names name = names ++ [name] := by
  unfold step
  rw [if_neg h.2.1, if_neg h.2.2.1]

theorem steps_names (h : ∀ n ∈ todo, IsName n) : steps names todo = names ++ todo := by
  unfold steps
  induction todo generalizing names with
  | nil => rw [List.append_nil]; rfl
  | cons first rest ih =>
    rw [List.foldl_cons, step_name (h first List.mem_cons_self),
      ih fun n hn => h n (List.mem_cons_of_mem _ hn), List.append_assoc]
    rfl

/-- What a walk that ends well has found at the names that it leads to, if it started where `most`
    of the last names had been removed. -/
inductive Ends (fs : FileSystem) (most : Nat) (names : List String) : Target → Prop
  | object (entry : Entry) (found : Entry.at? names fs.entries = some entry) :
      Ends fs most names (.object ⟨names, 0⟩ entry)
  /-- A directory that has been removed. -/
  | removed (gone : Nat) (le : gone + 1 ≤ most) :
      Ends fs most names (.object ⟨names, gone + 1⟩ (.directory []))
  | vacant (parent : List String) (name : String) (is : names = parent ++ [name])
      (there : dirAt parent fs.entries) (free : Entry.at? names fs.entries = none) :
      Ends fs most names (.vacant ⟨parent, 0⟩ name)

theorem Ends.mono {most more : Nat} {target : Target} (h : Ends fs most names target)
    (le : most ≤ more) : Ends fs more names target := by
  cases h with
  | object entry found => exact .object entry found
  | removed gone hgone => exact .removed gone (Nat.le_trans hgone le)
  | vacant parent name is there free => exact .vacant parent name is there free

theorem steps_cons (names : List String) (component : String) (todo : List String) :
    steps names (component :: todo) = steps (step names component) todo := rfl

/-- A walk that is over is at a directory, or at what is left of one. -/
theorem Stands.ends (stands : Stands fs.entries here) :
    Ends fs here.gone here.names (.object here (.directory (fs.entriesAt here))) := by
  obtain ⟨names, gone⟩ := here
  cases gone with
  | zero =>
    obtain ⟨inner, hinner⟩ := stands.dirAt rfl
    rw [entriesAt_of_at? hinner]
    exact .object _ hinner
  | succ gone =>
    have empty : fs.entriesAt ⟨names, gone + 1⟩ = [] := by
      unfold entriesAt
      exact if_pos (Nat.succ_pos gone)
    rw [empty]
    exact .removed gone (Nat.le_refl _)

/-- The component names an entry, and is not too long. -/
structure Naming (component : String) : Prop where
  not_dot : component ≠ "."
  not_dots : component ≠ ".."
  short : component.utf8ByteSize ≤ maxName

theorem Naming.step {component : String} (h : Naming component) :
    step names component = names ++ [component] := by
  unfold FileSystem.step
  rw [if_neg h.not_dot, if_neg h.not_dots]

/-- What a walk that ends well does with its first component. -/
inductive Onward (fs : FileSystem) (purpose : Purpose) (slash : Bool) (links : Nat) (here : Place)
    (component : String) (rest : List String) (target : Target) : Prop
  | stays (is : component = ".") (on : fs.walk purpose slash links here rest = .ok target)
  | rises (is : component = "..") (on : fs.walk purpose slash links here.parent rest = .ok target)
  | enters (naming : Naming component) (inner : List (String × Entry))
      (child : Entry.child? component (fs.entriesAt here) = some (.directory inner))
      (on : fs.walk purpose slash links (here.child component) rest = .ok target)
  | file (naming : Naming component) (last : rest = []) (data : List UInt8) (executable : Bool)
      (plain : slash = false)
      (child : Entry.child? component (fs.entriesAt here) = some (.file data executable))
      (is : target = .object (here.child component) (.file data executable))
  /-- A free name is the last one. -/
  | vacant (naming : Naming component) (last : rest = []) (there : here.gone = 0)
      (plain : purpose = .create → slash = false)
      (free : Entry.child? component (fs.entriesAt here) = none)
      (is : target = .vacant here component)

/-- Without links these are all the ways on. -/
theorem walk_onward (free : LinkFree fs.entries) {slash : Bool} {links : Nat} {component : String}
    {rest : List String} {target : Target}
    (h : fs.walk purpose slash links here (component :: rest) = .ok target) :
    Onward fs purpose slash links here component rest target := by
  rw [walk] at h
  split at h
  · rename_i is
    exact .stays is h
  rename_i not_dot
  split at h
  · rename_i is
    exact .rises is h
  rename_i not_dots
  split at h
  · cases h
  rename_i hslash
  split at h
  · cases h
  rename_i hlong
  have naming : Naming component := ⟨not_dot, not_dots, Nat.le_of_not_lt hlong⟩
  split at h
  · rename_i hnone
    split at h
    · rename_i hlast
      rw [Bool.and_eq_true, List.isEmpty_iff, decide_eq_true_eq] at hlast
      obtain ⟨last, there⟩ := hlast
      refine .vacant naming last there (fun create => ?_) hnone (Except.ok.inj h).symm
      simpa [last, create] using hslash
    · cases h
  · rename_i inner hchild
    exact .enters naming inner hchild h
  · rename_i data executable hchild
    split at h
    · rename_i hlast
      rw [Bool.and_eq_true, List.isEmpty_iff, Bool.not_eq_true'] at hlast
      exact .file naming hlast.1 data executable hlast.2 hchild (Except.ok.inj h).symm
    · cases h
  · rename_i hchild
    exact absurd hchild (no_link_in free)

/-- A free name in a place that stands is free in the tree. -/
theorem Stands.ends_vacant (stands : Stands fs.entries here) (there : here.gone = 0)
    (free : Entry.child? name (fs.entriesAt here) = none) :
    Ends fs 0 (here.names ++ [name]) (.vacant here name) := by
  have hdir := stands.dirAt there
  obtain ⟨parent, gone⟩ := here
  obtain rfl : gone = 0 := there
  refine .vacant parent name rfl hdir ?_
  rw [← child?_entriesAt]
  exact free

/-- **Where a walk ends**, if no link is met.  No name on the way is too long. -/
theorem walk_ends (free : LinkFree fs.entries) {slash : Bool} {links : Nat}
    (stands : Stands fs.entries here) {target : Target}
    (h : fs.walk purpose slash links here todo = .ok target) :
    Ends fs here.gone (steps here.names todo) target ∧ ∀ n ∈ todo, n.utf8ByteSize ≤ maxName := by
  induction todo generalizing here with
  | nil =>
    rw [walk] at h
    rw [← Except.ok.inj h]
    exact ⟨stands.ends, fun n hn => absurd hn List.not_mem_nil⟩
  | cons component rest ih =>
    rw [steps_cons, List.forall_mem_cons]
    cases walk_onward free h with
    | stays is on =>
      obtain ⟨ends, short⟩ := ih stands on
      rw [is]
      exact ⟨ends, by decide, short⟩
    | rises is on =>
      obtain ⟨ends, short⟩ := ih stands.parent on
      rw [is]
      exact ⟨ends.mono (Nat.sub_le _ _), by decide, short⟩
    | enters naming inner child on =>
      obtain ⟨ends, short⟩ := ih (Stands.child child) on
      rw [naming.step]
      exact ⟨ends.mono (Nat.zero_le _), naming.short, short⟩
    | file naming last data executable plain child is =>
      rw [naming.step, last, is]
      exact ⟨.object _ (at?_child child).2, naming.short, fun n hn => absurd hn List.not_mem_nil⟩
    | vacant naming last there plain free is =>
      rw [naming.step, last, is]
      exact ⟨(stands.ends_vacant there free).mono (Nat.zero_le _), naming.short,
        fun n hn => absurd hn List.not_mem_nil⟩

/-- Without links a walk does not go round in circles. -/
theorem walk_ne_loop (free : LinkFree fs.entries) (slash : Bool) (links : Nat) (here : Place)
    (todo : List String) : fs.walk purpose slash links here todo ≠ .error .loop := by
  fun_induction walk fs purpose slash links here todo <;>
    first
    | assumption
    | exact (no_link_in free (by assumption)).elim
    | exact fun h => nomatch h

/-- A walk meets no name with a NUL in it, because such a path is refused before. -/
theorem walk_ne_nul (slash : Bool) (links : Nat) (here : Place) (todo : List String) :
    fs.walk purpose slash links here todo ≠ .error .nul := by
  fun_induction walk fs purpose slash links here todo <;>
    first
    | assumption
    | exact fun h => nomatch h

/-! ## Names -/

/-- What is found is what was looked for: no link, and no file where a slash follows. -/
structure Fits (slash : Bool) (entry : Entry) : Prop where
  no_link : ∀ target, entry ≠ .link target
  slash : slash = false ∨ ∃ inner, entry = .directory inner

theorem fits_file (data : List UInt8) (executable : Bool) : Fits false (.file data executable) :=
  ⟨fun _ h => Entry.noConfusion h, Or.inl rfl⟩

theorem fits_directory (slash : Bool) (inner : List (String × Entry)) :
    Fits slash (.directory inner) :=
  ⟨fun _ h => Entry.noConfusion h, Or.inr ⟨inner, rfl⟩⟩

/-- **Names are found**: a walk along names gets to what they lead to, whether there are links
    elsewhere or not. -/
theorem walk_names {slash : Bool} (plain : purpose = .create → slash = false) {links : Nat}
    {before : List String} (there : dirAt before fs.entries) (valid : ∀ n ∈ todo, IsName n)
    (short : ∀ n ∈ todo, n.utf8ByteSize ≤ maxName)
    (found : Entry.at? (before ++ todo) fs.entries = some entry) (fits : Fits slash entry) :
    fs.walk purpose slash links ⟨before, 0⟩ todo = .ok (.object ⟨before ++ todo, 0⟩ entry) := by
  induction todo generalizing before with
  | nil =>
    obtain ⟨inner, hinner⟩ := there
    rw [List.append_nil] at found ⊢
    rw [hinner] at found
    rw [walk, entriesAt_of_at? hinner, ← Option.some.inj found]
  | cons name rest ih =>
    obtain ⟨isName, valid_rest⟩ := List.forall_mem_cons.mp valid
    obtain ⟨hshort, short_rest⟩ := List.forall_mem_cons.mp short
    have go_on : ¬ (rest.isEmpty && slash && purpose = .create) = true := by
      intro stop
      simp only [Bool.and_eq_true, decide_eq_true_eq] at stop
      exact Bool.noConfusion (stop.1.2.symm.trans (plain stop.2))
    rw [walk, if_neg isName.2.1, if_neg isName.2.2.1, if_neg go_on, if_neg (by omega),
      child?_entriesAt]
    by_cases last : rest = []
    · -- the last name is that of what is found
      rw [last] at found ⊢
      rw [found]
      cases entry with
      | file data executable =>
        have plain : slash = false := by
          refine fits.slash.resolve_right ?_
          rintro ⟨inner, is⟩
          cases is
        rw [plain]; rfl
      | link target => exact absurd rfl (fits.no_link target)
      | directory inner =>
        show fs.walk purpose slash links ⟨before ++ [name], 0⟩ [] = _
        rw [walk, entriesAt_of_at? found]
    · -- the names before it are those of directories
      have joined : before ++ name :: rest = before ++ [name] ++ rest := by
        rw [List.append_assoc]; rfl
      rw [joined] at found ⊢
      obtain ⟨inner, hinner⟩ := dirAt_of_at?_append last found
      rw [hinner]
      exact ih ⟨inner, hinner⟩ valid_rest short_rest found

/-! ## Paths -/

/-- The names that a path leads to. -/
def spot (fs : FileSystem) (path : String) : List String :=
  steps (if Path.isAbsolute path then [] else fs.current.names) (components path)

/-- The names that a path leads to where relative paths start at a place. -/
def lead (place : Place) (path : String) : List String :=
  steps (if Path.isAbsolute path then [] else place.names) (components path)

theorem spot_eq_lead (fs : FileSystem) (path : String) : fs.spot path = lead fs.current path := rfl

/-- A path from the root leads to the same names from everywhere. -/
theorem lead_of_absolute {path : String} (h : Path.isAbsolute path = true) (place : Place) :
    lead place path = lead .root path := by
  unfold lead
  rw [if_pos h, if_pos h]

theorem spot_of_absolute {path : String} (h : Path.isAbsolute path = true) (fs : FileSystem) :
    fs.spot path = lead .root path := lead_of_absolute h fs.current

theorem lead_root (path : String) : lead .root path = steps [] (components path) := by
  unfold lead Place.root
  rw [ite_self]

/-- An operating system takes the path. -/
structure Passable (path : String) : Prop where
  no_nul : '\x00' ∉ path.toList
  short : path.utf8ByteSize ≤ maxPath
  names : ∀ n ∈ components path, n.utf8ByteSize ≤ maxName

theorem reach_of_passable {path : String} (no_nul : '\x00' ∉ path.toList) (some_path : path ≠ "")
    (short : path.utf8ByteSize ≤ maxPath) :
    fs.reach purpose path = fs.walk purpose (endsInSlash path) maxLinks
      (if Path.isAbsolute path then .root else fs.current) (components path) := by
  have nonempty : ¬ path.isEmpty = true := fun h => some_path (String.isEmpty_iff.mp h)
  unfold reach
  rw [if_neg no_nul, if_neg nonempty, if_neg (by omega)]

/-- A path that leads anywhere can be passed, and leads to its spot. -/
theorem reach_ends (free : LinkFree fs.entries) {path : String}
    (stands : Path.isAbsolute path = false → Stands fs.entries fs.current) {target : Target}
    (h : fs.reach purpose path = .ok target) :
    Ends fs (if Path.isAbsolute path then 0 else fs.current.gone) (fs.spot path) target ∧
      Passable path := by
  unfold reach at h
  split at h
  · cases h
  split at h
  · cases h
  split at h
  · cases h
  rename_i no_nul _ hlong
  unfold spot
  by_cases habs : Path.isAbsolute path = true
  · rw [if_pos habs] at h ⊢
    rw [if_pos habs]
    obtain ⟨hends, hnames⟩ := walk_ends free (stands_root fs.entries) h
    exact ⟨hends, no_nul, Nat.le_of_not_lt hlong, hnames⟩
  · rw [if_neg habs] at h ⊢
    rw [if_neg habs]
    obtain ⟨hends, hnames⟩ := walk_ends free (stands (Bool.eq_false_iff.mpr habs)) h
    exact ⟨hends, no_nul, Nat.le_of_not_lt hlong, hnames⟩

/-- A path with a NUL is refused before it is walked. -/
theorem reach_of_nul {path : String} (nul : '\x00' ∈ path.toList) :
    fs.reach purpose path = .error .nul := by
  unfold reach
  rw [if_pos nul]

theorem read_of_nul {path : String} (nul : '\x00' ∈ path.toList) :
    fs.read path = .error .nul := by
  unfold read find
  rw [reach_of_nul nul]

theorem reach_ne_nul {path : String} (no_nul : '\x00' ∉ path.toList) :
    fs.reach purpose path ≠ .error .nul := by
  unfold reach
  rw [if_neg no_nul]
  split
  · intro h; cases h
  split
  · intro h; cases h
  · exact walk_ne_nul _ _ _ _

/-- A path without a NUL is not refused for one. -/
theorem find_ne_nul {path : String} (no_nul : '\x00' ∉ path.toList) :
    fs.find path ≠ .error .nul := by
  unfold find
  have hreach : fs.reach .look path ≠ .error .nul := reach_ne_nul no_nul
  split
  · rename_i t ht
    intro h
    rw [ht, Except.error.inj h] at hreach
    exact hreach rfl
  · intro h; cases h
  · intro h; cases h

theorem list_ne_nul {path : String} (no_nul : '\x00' ∉ path.toList) :
    fs.list path ≠ .error .nul := by
  unfold list
  have hfind : fs.find path ≠ .error .nul := find_ne_nul no_nul
  split
  · rename_i t ht
    intro h
    rw [ht, Except.error.inj h] at hfind
    exact hfind rfl
  · intro h; cases h
  · intro h; cases h

theorem read_ne_nul {path : String} (no_nul : '\x00' ∉ path.toList) :
    fs.read path ≠ .error .nul := by
  unfold read
  have hfind : fs.find path ≠ .error .nul := find_ne_nul no_nul
  split
  · rename_i t ht
    intro h
    rw [ht, Except.error.inj h] at hfind
    exact hfind rfl
  · intro h; cases h
  · intro h; cases h

/-- What is found has no NUL in its path. -/
theorem no_nul_of_find {path : String} {location : Place}
    (h : fs.find path = .ok (location, entry)) : '\x00' ∉ path.toList := by
  intro hnul
  unfold find reach at h
  rw [if_pos hnul] at h
  cases h

/-- A path from the root leads to names. -/
structure LeadsTo (path : String) (names : List String) : Prop where
  absolute : Path.isAbsolute path = true
  components : components path = names
  valid : ∀ n ∈ names, IsName n

theorem LeadsTo.spot {path : String} (h : LeadsTo path names) : fs.spot path = names := by
  unfold FileSystem.spot
  rw [if_pos h.absolute, h.components, steps_names h.valid, List.nil_append]

theorem LeadsTo.ne_empty {path : String} (h : LeadsTo path names) : path ≠ "" := by
  intro hempty
  have habs := h.absolute
  rw [hempty] at habs
  cases habs

/-- What names lead to is reached by a path of them. -/
theorem LeadsTo.reach {path : String} (leads : LeadsTo path names) (looks : purpose ≠ .create)
    (passable : Passable path) (found : Entry.at? names fs.entries = some entry)
    (fits : Fits (endsInSlash path) entry) :
    fs.reach purpose path = .ok (.object ⟨names, 0⟩ entry) := by
  have hshort := passable.names
  rw [leads.components] at hshort
  rw [reach_of_passable passable.no_nul leads.ne_empty passable.short, if_pos leads.absolute,
    leads.components]
  exact walk_names (fun create => absurd create looks) dirAt_nil leads.valid hshort found fits

theorem LeadsTo.find {path : String} (leads : LeadsTo path names) (passable : Passable path)
    (found : Entry.at? names fs.entries = some entry) (fits : Fits (endsInSlash path) entry) :
    fs.find path = .ok (⟨names, 0⟩, entry) := by
  unfold FileSystem.find
  rw [leads.reach (by decide) passable found fits]

theorem LeadsTo.findLink {path : String} (leads : LeadsTo path names) (passable : Passable path)
    (found : Entry.at? names fs.entries = some entry) (fits : Fits (endsInSlash path) entry) :
    fs.findLink path = .ok entry := by
  unfold FileSystem.findLink
  rw [leads.reach (by decide) passable found fits]

theorem LeadsTo.list {path : String} (leads : LeadsTo path names) (passable : Passable path)
    (found : Entry.at? names fs.entries = some (.directory inner)) :
    fs.list path = .ok inner := by
  unfold FileSystem.list
  rw [leads.find passable found (fits_directory _ _)]

theorem LeadsTo.read {path : String} (leads : LeadsTo path names) (passable : Passable path)
    {data : List UInt8} (found : fileAt names fs.entries = some data)
    (plain : endsInSlash path = false) : fs.read path = .ok data := by
  obtain ⟨executable, hat⟩ := fileAt_eq_some.mp found
  unfold FileSystem.read
  rw [leads.find passable hat (by rw [plain]; exact fits_file _ _)]

/-- Where no link is, a path of names finds nothing else. -/
theorem LeadsTo.of_find {path : String} (leads : LeadsTo path names) (free : LinkFree fs.entries)
    {location : Place} (h : fs.find path = .ok (location, entry)) :
    Entry.at? names fs.entries = some entry ∧ Passable path := by
  unfold FileSystem.find at h
  split at h
  · cases h
  · cases h
  · rename_i reached found hreach
    obtain ⟨rfl, rfl⟩ := Prod.mk.inj (Except.ok.inj h)
    obtain ⟨hends, hpass⟩ := reach_ends free
      (fun hrel => absurd hrel (by rw [leads.absolute]; exact Bool.noConfusion)) hreach
    rw [if_pos leads.absolute, leads.spot] at hends
    cases hends with
    | object entry found => exact ⟨found, hpass⟩
    | removed gone le => exact absurd le (Nat.not_succ_le_zero gone)

/-- **A path of names lists the directory that the names lead to.** -/
theorem list_eq_ok (free : LinkFree fs.entries) {path : String} (leads : LeadsTo path names) :
    fs.list path = .ok inner ↔
      Entry.at? names fs.entries = some (.directory inner) ∧ Passable path := by
  refine ⟨fun h => ?_, fun ⟨hat, hpass⟩ => leads.list hpass hat⟩
  unfold list at h
  split at h
  · cases h
  · rename_i location found hfind
    rw [Except.ok.inj h] at hfind
    exact leads.of_find free hfind
  · cases h

/-- **A path of names reads the file that the names lead to.** -/
theorem read_eq_ok (free : LinkFree fs.entries) {path : String} (leads : LeadsTo path names)
    (plain : endsInSlash path = false) {data : List UInt8} :
    fs.read path = .ok data ↔ fileAt names fs.entries = some data ∧ Passable path := by
  refine ⟨fun h => ?_, fun ⟨hat, hpass⟩ => leads.read hpass hat plain⟩
  unfold read at h
  split at h
  · cases h
  · rename_i location found executable hfind
    rw [Except.ok.inj h] at hfind
    obtain ⟨hat, hpass⟩ := leads.of_find free hfind
    exact ⟨fileAt_eq_some.mpr ⟨executable, hat⟩, hpass⟩
  · cases h

end GoWorkbench.FileSystem
