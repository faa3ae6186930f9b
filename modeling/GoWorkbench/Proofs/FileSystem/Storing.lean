/-
  Files that are written, made and removed on paths that may go along links.

  1. **Orderly file systems** — what is true of a file system whether it has links or none.
  2. **Coming back** — a walk that has led to a free name or a file leads to the file that is put
     there (`walk_comes_back`).
  3. **Writing** — what has been written to a path is read from it, and no other file is another
     one (`stored_of_write`).
  4. **Making and removing** — a new file that is removed leaves the file system as it was
     (`remove_of_createNew`).
  5. **After a removal** nothing is at the path, whatever links it goes along
     (`findLink_of_remove`).
-/
import GoWorkbench.Proofs.FileSystem.Alike

namespace GoWorkbench

open Entry

namespace FileSystem

variable {fs fs' : FileSystem} {purpose : Purpose} {here : Place} {name path : String}
  {spot todo parent : List String} {data : List UInt8} {executable : Bool}

/-! ## Orderly file systems -/

/-- Every entry has a name of its own, relative paths start at a place that stands, and no name
    that a link leads along has a NUL. -/
structure Orderly (fs : FileSystem) : Prop where
  proper : Proper fs.entries
  stands : Stands fs.entries fs.current
  names : ∀ n ∈ fs.current.names, IsName n
  targets : ∀ route target, leafAt route fs.entries = some (.link target) →
    '\x00' ∉ target.toList

theorem Sound.orderly (sound : fs.Sound) : fs.Orderly where
  proper := sound.proper
  stands := sound.stands
  names := sound.names
  targets := fun route target h => absurd h (sound.free route target)

/-- An orderly file system stays so when a file is put into one of its directories. -/
theorem Orderly.put (orderly : fs.Orderly) (there : dirAt parent fs.entries)
    (free : ¬ dirAt (parent ++ [name]) fs.entries) (isName : IsName name) (data : List UInt8)
    (executable : Bool) :
    (fs.put (parent ++ [name]) (.file data executable)).Orderly := by
  obtain ⟨inner, hinner⟩ := there
  have change := replaced_put ⟨inner, hinner⟩ free (.file data executable)
  have leaf : ∀ inner, some (Entry.file data executable) ≠ some (.directory inner) := by
    intro inner h
    cases h
  have names : ∀ n ∈ parent ++ [name], IsName n := by
    intro n hn
    rcases List.mem_append.mp hn with hn | hn
    · exact orderly.proper.isName_of_at? hinner n hn
    · rw [List.mem_singleton.mp hn]
      exact isName
  refine ⟨orderly.proper.put names fun _ h => Entry.noConfusion h,
    orderly.stands.of_dirAt_iff (change.dirAt leaf), orderly.names, fun route target h => ?_⟩
  have was := change.leafAt leaf route
  rw [show leafAt route (Entry.put _ _ _) = _ from h] at was
  by_cases same : route = parent ++ [name]
  · rw [if_pos same] at was
    cases was
  · rw [if_neg same] at was
    exact orderly.targets route target was.symm

/-! ## Coming back -/

/-- A walk to make a file, or to a link without a slash after it, has no slash after its last name. -/
theorem no_slash_after {slash : Bool} {rest : List String} (some_purpose : purpose ≠ .look)
    (plain : purpose = .lookAtLink → slash = false)
    (refused : ¬ (rest.isEmpty && slash && purpose = .create) = true) (last : rest = []) :
    slash = false := by
  cases purpose with
  | look => exact absurd rfl some_purpose
  | lookAtLink => exact plain rfl
  | create => simpa [last] using refused

/-- Without a slash after its last name, a walk goes along every name. -/
theorem ByName.of_no_slash {slash : Bool} {rest : List String} (naming : Naming name)
    (bare : rest = [] → slash = false) : ByName purpose slash name rest := by
  refine ⟨naming, fun h => ?_⟩
  simp only [Bool.and_eq_true, List.isEmpty_iff] at h
  rw [bare h.1.1] at h
  exact Bool.noConfusion h.1.2

/-- The last name of a walk ends it at the file that is there. -/
theorem ByName.walk_last {slash : Bool} {links : Nat} {rest : List String}
    (byName : ByName purpose slash name rest) (bare : rest = [] → slash = false)
    (found : Entry.at? spot fs.entries = some (.file data executable)) (last : rest = [])
    (whole : here.gone = 0) (is : here.names ++ [name] = spot) :
    fs.walk purpose slash links here (name :: rest) =
      .ok (.object ⟨spot, 0⟩ (.file data executable)) := by
  obtain ⟨names, gone⟩ := here
  obtain rfl : gone = 0 := whole
  subst last is
  have child : Entry.child? name (fs.entriesAt ⟨names, 0⟩) = some (.file data executable) := by
    rw [child?_entriesAt]
    exact found
  rw [byName.walk_file child, bare rfl]
  rfl

/-- **Coming back**: where a walk has ended at a free name or a file, it ends at the file that is
    there now. -/
theorem walk_comes_back {slash : Bool} {links : Nat} {target : Target} {wanted : Purpose}
    (same : SameBut spot fs fs')
    (found : Entry.at? spot fs'.entries = some (.file data executable))
    (some_purpose : purpose ≠ .look) (plain : purpose = .lookAtLink → slash = false)
    (follows : wanted = .lookAtLink → purpose = .lookAtLink)
    (h : fs.walk purpose slash links here todo = .ok target)
    (ends : AtSpot spot (.ok target)) :
    fs'.walk wanted slash links here todo = .ok (.object ⟨spot, 0⟩ (.file data executable)) := by
  -- The induction is on the old walk: the new one takes the same steps, as only what is at the
  -- spot differs, and at the spot they part.
  fun_induction FileSystem.walk fs purpose slash links here todo with
  | case1 slash links here =>
    cases h
    cases ends
  | case2 slash links here rest ih =>
    rw [walk, if_pos rfl]
    exact ih plain h
  | case3 slash links here rest not_dot ih =>
    rw [walk, if_neg not_dot, if_pos rfl]
    exact ih plain h
  | case4 | case5 | case7 | case10 | case12 => cases h
  | case6 slash links here name rest not_dot not_dots refused short free last =>
    cases h
    have bare := no_slash_after some_purpose plain refused
    rw [Bool.and_eq_true, decide_eq_true_eq, List.isEmpty_iff] at last
    cases ends with
    | vacant is =>
      exact (ByName.of_no_slash ⟨not_dot, not_dots, Nat.le_of_not_lt short⟩ bare).walk_last bare
        found last.1 last.2 is
  | case8 slash links here name rest not_dot not_dots refused short inner child ih =>
    have bare := no_slash_after some_purpose plain refused
    obtain ⟨inner', child'⟩ := same.child_directory child
    rw [(ByName.of_no_slash ⟨not_dot, not_dots, Nat.le_of_not_lt short⟩ bare).walk_directory child']
    exact ih plain h
  | case9 slash links here name rest not_dot not_dots refused short before executable child last =>
    cases h
    have bare := no_slash_after some_purpose plain refused
    rw [Bool.and_eq_true, List.isEmpty_iff] at last
    cases ends with
    | file is =>
      exact (ByName.of_no_slash ⟨not_dot, not_dots, Nat.le_of_not_lt short⟩ bare).walk_last bare
        found last.1 (at?_child child).1 is
  | case11 slash links here name rest not_dot not_dots refused short target child looked =>
    cases h
    cases ends
  | case13 slash here name rest not_dot not_dots refused short target child followed links ih =>
    have bare := no_slash_after some_purpose plain refused
    have goes_on : purpose = .lookAtLink → rest.isEmpty = false := by
      intro looks
      simpa [looks, plain looks] using followed
    have followed' : ¬ (rest.isEmpty && !slash && wanted = .lookAtLink) = true := by
      intro h
      simp only [Bool.and_eq_true, decide_eq_true_eq] at h
      rw [goes_on (follows h.2)] at h
      exact Bool.noConfusion h.1.1
    rw [(ByName.of_no_slash ⟨not_dot, not_dots, Nat.le_of_not_lt short⟩ bare).walk_link
      (same.child_link child) followed']
    refine ih (fun looks => ?_) h
    rw [plain looks, goes_on looks]
    rfl

/-- A name that a walk ends at is a part of the path, or of what a link leads along. -/
theorem part_of_walk {P : String → Prop} {slash : Bool} {links : Nat} {place : Place}
    (h : fs.walk purpose slash links here todo = .ok (.vacant place name))
    (own : ∀ n ∈ todo, P n)
    (linked : ∀ route target, leafAt route fs.entries = some (.link target) →
      ∀ n ∈ components target, P n) : P name := by
  fun_induction FileSystem.walk fs purpose slash links here todo with
  | case1 => cases h
  | case2 slash links here rest ih => exact ih h fun n hn => own n (List.mem_cons_of_mem _ hn)
  | case3 slash links here rest not_dot ih =>
    exact ih h fun n hn => own n (List.mem_cons_of_mem _ hn)
  | case4 | case5 | case7 | case9 | case10 | case11 | case12 => cases h
  | case6 slash links here name rest not_dot not_dots refused short found last =>
    cases h
    exact own name List.mem_cons_self
  | case8 slash links here name rest not_dot not_dots refused short inner found ih =>
    exact ih h fun n hn => own n (List.mem_cons_of_mem _ hn)
  | case13 slash here name rest not_dot not_dots refused short target found followed links ih =>
    have leaf : leafAt (here.names ++ [name]) fs.entries = some (.link target) := by
      unfold leafAt
      rw [(at?_child found).2]
    refine ih h fun n hn => ?_
    rcases List.mem_append.mp hn with hn | hn
    · exact linked _ target leaf n hn
    · exact own n (List.mem_cons_of_mem _ hn)

/-! ## Writing -/

/-- A path that can be passed to an operating system is walked in every file system. -/
theorem reach_elsewhere {target : Target} (reaches : fs.reach purpose path = .ok target)
    (fs' : FileSystem) (wanted : Purpose) :
    fs'.reach wanted path = fs'.walk wanted (endsInSlash path) maxLinks
      (if Path.isAbsolute path then .root else fs'.current) (components path) := by
  unfold FileSystem.reach at reaches ⊢
  split at reaches
  · cases reaches
  split at reaches
  · cases reaches
  split at reaches
  · cases reaches
  rename_i no_nul nonempty short
  rw [if_neg no_nul, if_neg nonempty, if_neg short]

/-- Where a walk starts is a place that stands. -/
theorem Orderly.start (orderly : fs.Orderly) (path : String) :
    Stands fs.entries (if Path.isAbsolute path then .root else fs.current) := by
  split
  · exact stands_root _
  · exact orderly.stands

/-- The free name that a path leads to can be a name. -/
theorem Orderly.isName_of_vacant (orderly : fs.Orderly) {place : Place}
    (h : fs.reach purpose path = .ok (.vacant place name)) : IsName name := by
  obtain ⟨no_nul, walks⟩ := reach_eq_walk h
  have walked := (walks purpose).symm.trans h
  have plain : name ≠ "" ∧ '/' ∉ name.toList ∧ '\x00' ∉ name.toList := by
    refine part_of_walk (P := fun n => n ≠ "" ∧ '/' ∉ n.toList ∧ '\x00' ∉ n.toList) walked
      (fun n hn => ?_) fun route target link n hn => ?_
    · obtain ⟨part, nonempty, no_slash⟩ := of_mem_components hn
      exact ⟨nonempty, no_slash, fun h => no_nul (Path.mem_of_mem_parts part h).1⟩
    · obtain ⟨part, nonempty, no_slash⟩ := of_mem_components hn
      exact ⟨nonempty, no_slash,
        fun h => orderly.targets route target link (Path.mem_of_mem_parts part h).1⟩
  cases walk_sits walked (orderly.start path) with
  | vacant naming _ _ => exact ⟨plain.1, naming.not_dot, naming.not_dots, plain.2⟩

/-- The bytes are in the file of the path, and in no other file is there a difference. -/
structure Stored (path : String) (data : List UInt8) (fs fs' : FileSystem) : Prop where
  orderly : fs'.Orderly
  found : ∃ spot executable, fs'.find path = .ok (⟨spot, 0⟩, .file data executable) ∧
    SameBut spot fs fs'

theorem Stored.read (stored : Stored path data fs fs') : fs'.read path = .ok data := by
  obtain ⟨spot, executable, found, -⟩ := stored.found
  unfold FileSystem.read
  rw [found]

/-- What is put at the end of a path that leads to a free name or a file. -/
theorem stored_of_put {target : Target} (orderly : fs.Orderly) (isName : IsName name)
    (reaches : fs.reach .create path = .ok target)
    (ends : AtSpot (parent ++ [name]) (.ok target)) (there : dirAt parent fs.entries)
    (free : ¬ dirAt (parent ++ [name]) fs.entries)
    (no_link : ∀ target, Entry.at? (parent ++ [name]) fs.entries ≠ some (.link target)) :
    Stored path data fs (fs.put (parent ++ [name]) (.file data executable)) := by
  obtain ⟨same, found⟩ := sameBut_put there free no_link data executable
  obtain ⟨-, walks⟩ := reach_eq_walk reaches
  have walked := (walks .create).symm.trans reaches
  refine ⟨orderly.put there free isName data executable, parent ++ [name], executable, ?_, same⟩
  have comes := walk_comes_back same found (Purpose.noConfusion : Purpose.create ≠ .look)
    (fun h => Purpose.noConfusion h) (fun h : Purpose.look = .lookAtLink => Purpose.noConfusion h)
    walked ends
  have looked : (fs.put (parent ++ [name]) (.file data executable)).reach .look path =
      .ok (.object ⟨parent ++ [name], 0⟩ (.file data executable)) :=
    (reach_elsewhere reaches _ .look).trans comes
  unfold FileSystem.find
  rw [looked]

/-- **Writing**: what has been written to a path is there, and no other file is another one. -/
theorem stored_of_write (orderly : fs.Orderly) (h : fs.write path data = .ok fs') :
    Stored path data fs fs' := by
  unfold FileSystem.write at h
  split at h
  · cases h
  · rename_i place name reaches
    rw [← Except.ok.inj h]
    obtain ⟨-, walks⟩ := reach_eq_walk reaches
    have sits := walk_sits ((walks .create).symm.trans reaches) (orderly.start path)
    cases sits with
    | vacant naming there free =>
      refine stored_of_put orderly (orderly.isName_of_vacant reaches) reaches (.vacant rfl) there ?_
        fun target h => ?_
      · rintro ⟨inner, hinner⟩
        rw [free] at hinner
        cases hinner
      · rw [free] at h
        cases h
  · rename_i place before executable reaches
    rw [← Except.ok.inj h]
    obtain ⟨-, walks⟩ := reach_eq_walk reaches
    have sits := walk_sits ((walks .create).symm.trans reaches) (orderly.start path)
    cases sits with
    | leaf found =>
      have leaf : ∀ inner, Entry.file before executable ≠ .directory inner :=
        fun _ h => Entry.noConfusion h
      obtain ⟨parent, name, is, there⟩ := exists_parent found leaf
      have isName : IsName name := orderly.proper.isName_of_at? found name
        (by rw [is]; exact List.mem_append_right _ (List.mem_singleton_self name))
      have free := not_dirAt found leaf
      rw [is] at found free ⊢
      refine stored_of_put orderly isName reaches (.file is) there free fun target h => ?_
      rw [found] at h
      cases h
  · cases h

/-- A file can be written at the path. -/
def Writable (fs : FileSystem) (path : String) : Prop := ∃ data fs', fs.write path data = .ok fs'

/-- Where one file can be written, every other can. -/
theorem Writable.write (writable : fs.Writable path) (data : List UInt8) :
    ∃ fs', fs.write path data = .ok fs' := by
  obtain ⟨before, fs', written⟩ := writable
  unfold FileSystem.write at written ⊢
  split at written
  · cases written
  · exact ⟨_, rfl⟩
  · exact ⟨_, rfl⟩
  · cases written

/-- A path without a NUL is not refused for one. -/
theorem write_ne_nul (no_nul : '\x00' ∉ path.toList) : fs.write path data ≠ .error .nul := by
  have reaches : fs.reach .create path ≠ .error .nul := reach_ne_nul no_nul
  unfold FileSystem.write
  split
  · rename_i t refused
    rw [refused] at reaches
    exact fun h => reaches (congrArg Except.error (Except.error.inj h))
  · exact fun h => nomatch h
  · exact fun h => nomatch h
  · exact fun h => nomatch h

/-- A path with a NUL always is. -/
theorem write_of_nul (nul : '\x00' ∈ path.toList) : fs.write path data = .error .nul := by
  unfold FileSystem.write
  rw [reach_of_nul nul]

/-! ## Making and removing -/

theorem filter_place {entries : List (String × Entry)} (free : child? name entries = none)
    (entry : Entry) : (place name entry entries).filter (·.1 != name) = entries := by
  induction entries with
  | nil => simp [place]
  | cons head rest ih =>
    obtain ⟨other, e⟩ := head
    rw [child?_cons] at free
    by_cases ho : other = name
    · rw [if_pos ho] at free
      cases free
    · rw [if_neg ho] at free
      rw [place, if_neg ho, List.filter_cons_of_pos (by simp [ho]), ih free]

theorem place_place (entry before : Entry) (entries : List (String × Entry)) :
    place name entry (place name before entries) = place name entry entries := by
  induction entries with
  | nil => simp [place]
  | cons head rest ih =>
    obtain ⟨other, e⟩ := head
    by_cases ho : other = name
    · simp [place, ho]
    · simp [place, ho, ih]

theorem place_of_child? {entries : List (String × Entry)} {entry : Entry}
    (h : child? name entries = some entry) : place name entry entries = entries := by
  induction entries with
  | nil => cases h
  | cons head rest ih =>
    obtain ⟨other, e⟩ := head
    rw [child?_cons] at h
    rw [place]
    by_cases ho : other = name
    · rw [if_pos ho] at h ⊢
      rw [ho, Option.some.inj h]
    · rw [if_neg ho] at h ⊢
      rw [ih h]

/-- Erasing what has been put where nothing was. -/
theorem erase_put {entries : List (String × Entry)} (there : dirAt parent entries)
    (free : Entry.at? (parent ++ [name]) entries = none) (entry : Entry) :
    Entry.erase (parent ++ [name]) (Entry.put (parent ++ [name]) entry entries) = entries := by
  induction parent generalizing entries with
  | nil => exact filter_place free entry
  | cons first parent ih =>
    obtain ⟨inner, hchild, hrest⟩ := dirAt_cons.mp there
    have some_more : parent ++ [name] ≠ [] := List.append_ne_nil_of_right_ne_nil _ (by simp)
    have hfree : Entry.at? (parent ++ [name]) inner = none := by
      rw [List.cons_append, at?_cons, hchild] at free
      exact free
    have put_eq : Entry.put (first :: (parent ++ [name])) entry entries =
        place first (.directory (Entry.put (parent ++ [name]) entry inner)) entries := by
      rw [Entry.put, hchild]
      exact some_more
    rw [List.cons_append, put_eq, Entry.erase, child?_place, if_pos rfl]
    · show place first (.directory (Entry.erase _ (Entry.put _ _ _))) _ = _
      rw [ih hrest hfree, place_place, place_of_child? hchild]
    · exact some_more

/-- **Making and removing**: a new file that is removed leaves the file system as it was. -/
theorem remove_of_createNew (stands : Stands fs.entries fs.current)
    (plain : endsInSlash path = false) (h : fs.createNew path data = .ok fs') :
    ∃ spot, Entry.at? spot fs.entries = none ∧ SameBut spot fs fs' ∧
      fs'.reach .lookAtLink path = .ok (.object ⟨spot, 0⟩ (.file data false)) ∧
      fs'.remove path = .ok fs := by
  unfold createNew at h
  split at h
  · cases h
  · rename_i place name reaches
    obtain rfl := Except.ok.inj h
    obtain ⟨-, walks⟩ := reach_eq_walk reaches
    have walked := (walks .lookAtLink).symm.trans reaches
    have start : Stands fs.entries (if Path.isAbsolute path then .root else fs.current) := by
      split
      · exact stands_root _
      · exact stands
    cases walk_sits walked start with
    | vacant naming there free =>
      have no_dir : ¬ dirAt (place.names ++ [name]) fs.entries := by
        rintro ⟨inner, hinner⟩
        rw [free] at hinner
        cases hinner
      obtain ⟨same, found⟩ := sameBut_put there no_dir
        (fun target h => by rw [free] at h; cases h) data false
      have comes := walk_comes_back same found Purpose.noConfusion (fun _ => plain)
        (fun _ : Purpose.lookAtLink = .lookAtLink => rfl) walked (.vacant rfl)
      have looked := (reach_elsewhere reaches
        (fs.put (place.names ++ [name]) (.file data false)) .lookAtLink).trans comes
      refine ⟨place.names ++ [name], free, same, looked, ?_⟩
      unfold remove
      rw [looked]
      show Except.ok (FileSystem.mk (Entry.erase _ (Entry.put _ _ _))
        (Place.without fs.current _)) = _
      rw [erase_put there free, without_eq stands no_dir]
  · cases h

/-! ## After a removal -/

/-- What the second file system holds is in the first. -/
structure Reduced (fs fs' : FileSystem) : Prop where
  dirs : ∀ route, dirAt route fs'.entries → dirAt route fs.entries
  leaves : ∀ route entry, leafAt route fs'.entries = some entry →
    leafAt route fs.entries = some entry

/-- Something is found in the first file system as it is in the second. -/
inductive Kept (found : Option Entry) : Entry → Prop
  | same {entry : Entry} (is : found = some entry) : Kept found entry
  | directory {inner inner' : List (String × Entry)} (is : found = some (.directory inner)) :
      Kept found (.directory inner')

theorem Reduced.child (reduced : Reduced fs fs') {entry : Entry}
    (h : Entry.child? name (fs'.entriesAt here) = some entry) :
    Kept (Entry.child? name (fs.entriesAt here)) entry := by
  obtain ⟨names, gone⟩ := here
  obtain ⟨rfl, found⟩ := at?_child h
  rw [child?_entriesAt]
  by_cases hdir : dirAt (names ++ [name]) fs'.entries
  · obtain ⟨inner', hinner'⟩ := hdir
    obtain ⟨inner, hinner⟩ := reduced.dirs _ ⟨inner', hinner'⟩
    rw [show entry = _ from Option.some.inj (found.symm.trans hinner')]
    exact .directory hinner
  · have leaf := (at?_eq_leafAt hdir).symm.trans found
    exact .same (at?_of_leafAt (reduced.leaves _ _ leaf))

/-- What is looked at after something has been taken away was there before. -/
theorem walk_reduced (reduced : Reduced fs fs') {slash : Bool} {links : Nat} {location : Place}
    {entry : Entry} (looks : purpose ≠ .create)
    (h : fs'.walk purpose slash links here todo = .ok (.object location entry)) :
    ∃ before, fs.walk purpose slash links here todo = .ok (.object location before) ∧
      Kept (some before) entry := by
  fun_induction FileSystem.walk fs' purpose slash links here todo with
  | case1 slash links here =>
    cases h
    rw [walk]
    exact ⟨_, rfl, .directory rfl⟩
  | case2 slash links here rest ih =>
    rw [walk, if_pos rfl]
    exact ih h
  | case3 slash links here rest not_dot ih =>
    rw [walk, if_neg not_dot, if_pos rfl]
    exact ih h
  | case4 | case5 | case6 | case7 | case10 | case12 => cases h
  | case8 slash links here name rest not_dot not_dots refused short inner found ih =>
    obtain ⟨below, hbelow⟩ :
        ∃ below, Entry.child? name (fs.entriesAt here) = some (.directory below) := by
      cases reduced.child found with
      | same is => exact ⟨inner, is⟩
      | directory is => exact ⟨_, is⟩
    rw [(ByName.of_looks looks not_dot not_dots short).walk_directory hbelow]
    exact ih h
  | case9 slash links here name rest not_dot not_dots refused short data executable found last =>
    cases h
    cases reduced.child found with
    | same is =>
      rw [(ByName.of_looks looks not_dot not_dots short).walk_file is]
      exact ⟨_, if_pos last, .same rfl⟩
  | case11 slash links here name rest not_dot not_dots refused short target found looked =>
    cases h
    cases reduced.child found with
    | same is =>
      rw [walk, if_neg not_dot, if_neg not_dots, if_neg refused, if_neg short, is]
      exact ⟨_, if_pos looked, .same rfl⟩
  | case13 slash here name rest not_dot not_dots refused short target found followed links ih =>
    cases reduced.child found with
    | same is =>
      rw [(ByName.of_looks looks not_dot not_dots short).walk_link is followed]
      exact ih h

/-- The leaf at the spot has gone, and nothing else has. -/
structure Removed (spot : List String) (fs fs' : FileSystem) : Prop where
  dirs : ∀ route, dirAt route fs'.entries ↔ dirAt route fs.entries
  leaves : ∀ route, leafAt route fs'.entries =
    if route = spot then none else leafAt route fs.entries

theorem Removed.reduced (removed : Removed spot fs fs') : Reduced fs fs' := by
  refine ⟨fun route => (removed.dirs route).mp, fun route entry h => ?_⟩
  rw [removed.leaves] at h
  split at h
  · cases h
  · exact h

/-- Removing what a path from the root leads to. -/
theorem removed_of_remove (absolute : Path.isAbsolute path = true)
    (h : fs.remove path = .ok fs') :
    ∃ location entry, fs.reach .lookAtLink path = .ok (.object location entry) ∧
      (∀ inner, entry ≠ .directory inner) ∧ Removed location.names fs fs' := by
  unfold remove at h
  split at h
  · cases h
  · cases h
  · cases h
  · rename_i location entry leaf reaches
    obtain rfl := Except.ok.inj h
    obtain ⟨-, walks⟩ := reach_eq_walk reaches
    have walked := (walks .lookAtLink).symm.trans reaches
    rw [if_pos absolute] at walked
    refine ⟨location, entry, reaches, leaf, ?_⟩
    cases walk_sits walked (stands_root _) with
    | directory location inner => exact absurd rfl (leaf inner)
    | leaf found =>
      obtain ⟨parent, name, is, there⟩ := exists_parent found leaf
      have no_dir := not_dirAt found leaf
      rw [is] at no_dir ⊢
      have change := replaced_erase there no_dir
      have none_is_leaf : ∀ inner, (none : Option Entry) ≠ some (.directory inner) := by
        intro inner h
        cases h
      exact ⟨change.dirAt none_is_leaf, change.leafAt none_is_leaf⟩

/-- What could be removed stays if the system refuses that. -/
theorem remove_refused (h : fs.remove path = .ok fs') (t : Trouble) :
    fs.remove path (some t) = .error t := by
  unfold FileSystem.remove at h ⊢
  split at h
  · cases h
  · cases h
  · cases h
  · rfl

/-- **After a removal** nothing is at the path. -/
theorem findLink_of_remove (absolute : Path.isAbsolute path = true)
    (h : fs.remove path = .ok fs') (entry : Entry) : fs'.findLink path ≠ .ok entry := by
  obtain ⟨location, before, reaches, leaf, removed⟩ := removed_of_remove absolute h
  intro found
  unfold findLink at found
  split at found
  · cases found
  · cases found
  · rename_i location' entry' reaches'
    have walked' := (reach_elsewhere reaches' fs' .lookAtLink).symm.trans reaches'
    rw [if_pos absolute] at walked'
    -- the same walk has led to what has been removed
    obtain ⟨was, walked, kept⟩ := walk_reduced removed.reduced (by decide) walked'
    have same := (reach_elsewhere reaches' fs .lookAtLink).symm.trans reaches
    rw [if_pos absolute, walked] at same
    obtain ⟨rfl, rfl⟩ := Target.object.inj (Except.ok.inj same)
    cases kept with
    | directory is => exact leaf _ (Option.some.inj is)
    | same is =>
      obtain rfl := Option.some.inj is
      cases walk_sits walked' (stands_root _) with
      | directory location inner => exact leaf inner rfl
      | leaf found =>
        have gone := removed.leaves location'.names
        rw [if_pos rfl] at gone
        rw [at?_eq_leafAt (not_dirAt found leaf), gone] at found
        cases found

end FileSystem

end GoWorkbench
