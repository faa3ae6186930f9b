/-
  What writing and removing a file change.

  1. **Last names** — a walk that ends at a file, or where one can be made, has gone along a name
     last (`walk_last`).  So a path that is written to ends in the name of the file
     (`isGoSource_of_components`).
  2. **Changes** — `Changed names fs fs'`: the file systems differ in the file at the names at most,
     and the second is as sound as the first.
  3. **Operations** — writing, making and removing a file change what is at the spot of the path and
     nothing else.
  4. **Paths of names** — a path of names leads to a free name in a directory that is there
     (`LeadsTo.reach_vacant`), and what is written to it is put there (`LeadsTo.write`); of other
     paths it must be known where their walk ends (`write_of_walk`).
-/
import GoWorkbench.Proofs.FileSystem.Spots

namespace GoWorkbench.FileSystem

open Entry

variable {fs fs' : FileSystem} {purpose : Purpose} {path name : String} {names parent : List String}
  {data : List UInt8}

/-! ## Last names -/

/-- A walk that does not end at a directory goes along a name last, and a file is not made where a
    slash follows. -/
theorem walk_last (free : LinkFree fs.entries) {slash : Bool} {links : Nat} {here : Place}
    {todo : List String} {target : Target}
    (h : fs.walk purpose slash links here todo = .ok target)
    (leaf : ∀ location inner, target ≠ .object location (.directory inner)) :
    ∃ before name, todo = before ++ [name] ∧ name ≠ "." ∧ name ≠ ".." ∧
      (purpose = .create → slash = false) := by
  induction todo generalizing here with
  | nil =>
    rw [walk] at h
    exact absurd (Except.ok.inj h).symm (leaf _ _)
  | cons component rest ih =>
    have more : ∀ {next : Place}, fs.walk purpose slash links next rest = .ok target →
        ∃ before name, component :: rest = before ++ [name] ∧ name ≠ "." ∧ name ≠ ".." ∧
          (purpose = .create → slash = false) := by
      intro next on
      obtain ⟨before, name, is, hname⟩ := ih on
      exact ⟨component :: before, name, by rw [is]; rfl, hname⟩
    cases walk_onward free h with
    | stays is on => exact more on
    | rises is on => exact more on
    | enters naming inner child on => exact more on
    | file naming last data executable plain child is =>
      exact ⟨[], component, by rw [last]; rfl, naming.not_dot, naming.not_dots, fun _ => plain⟩
    | vacant naming last there plain free is =>
      exact ⟨[], component, by rw [last]; rfl, naming.not_dot, naming.not_dots, plain⟩

/-- So a path that does not lead to a directory ends in a name. -/
theorem reach_last (free : LinkFree fs.entries) {target : Target}
    (h : fs.reach purpose path = .ok target)
    (leaf : ∀ location inner, target ≠ .object location (.directory inner)) :
    ∃ before name, components path = before ++ [name] ∧ IsName name ∧
      (purpose = .create → endsInSlash path = false) := by
  unfold reach at h
  split at h
  · cases h
  rename_i no_nul
  split at h
  · cases h
  split at h
  · cases h
  obtain ⟨before, name, hcomponents, hdot, hup, hslash⟩ := walk_last free h leaf
  refine ⟨before, name, hcomponents, ?_, hslash⟩
  have hname : name ∈ components path := by
    rw [hcomponents]; exact List.mem_append_right _ (List.mem_singleton_self name)
  obtain ⟨hpart, nonempty, no_slash⟩ := of_mem_components hname
  exact ⟨nonempty, hdot, hup, no_slash, fun hmem => no_nul (Path.mem_of_mem_parts hpart hmem).1⟩

/-- A path without a slash at its end is a source exactly if its last component is. -/
theorem isGoSource_of_components {before : List String} (h : components path = before ++ [name])
    (plain : endsInSlash path = false) : Path.isGoSource path = Path.isGoSource name :=
  Path.isGoSource_of_parts (Path.getLast?_parts h (of_decide_eq_false plain))

/-- The spot of a path that ends in a name ends in it too. -/
theorem spot_of_components (fs : FileSystem) {before : List String}
    (h : components path = before ++ [name]) (isName : IsName name) :
    ∃ front, fs.spot path = front ++ [name] := by
  unfold spot steps
  rw [h, List.foldl_append, List.foldl_cons, List.foldl_nil, step_name isName]
  exact ⟨_, rfl⟩

/-! ## Changes -/

/-- The file systems differ in the file at the names at most. -/
structure Changed (names : List String) (fs fs' : FileSystem) : Prop where
  sound : fs'.Sound
  current : fs'.current = fs.current
  others : ∀ other, other ≠ names → fileAt other fs'.entries = fileAt other fs.entries

/-- What is left of a place stays if no directory goes. -/
theorem Stands.of_dirAt_iff {entries after : List (String × Entry)} {p : Place}
    (h : Stands entries p) (same : ∀ route, Entry.dirAt route after ↔ Entry.dirAt route entries) :
    Stands after p := ⟨h.le, (same _).mpr h.left⟩

theorem Changed.of_replaced {new : Option Entry} {after : List (String × Entry)} (sound : fs.Sound)
    (proper : Proper after) (h : Replaced new names fs.entries after)
    (leaf : ∀ inner, new ≠ some (.directory inner))
    (no_link : ∀ target, new ≠ some (.link target)) : Changed names fs ⟨after, fs.current⟩ where
  sound := {
    proper := proper
    free := sound.free.replaced h leaf no_link
    stands := sound.stands.of_dirAt_iff (h.dirAt leaf)
    names := sound.names }
  current := rfl
  others := by
    intro other hother
    unfold fileAt
    rw [h.leafAt leaf, if_neg hother]

/-- The names that lead to something other than the root are those of a directory and one more. -/
theorem exists_parent {entry : Entry} (found : Entry.at? names fs.entries = some entry)
    (leaf : ∀ inner, entry ≠ .directory inner) :
    ∃ parent name, names = parent ++ [name] ∧ dirAt parent fs.entries := by
  rcases List.eq_nil_or_concat names with rfl | ⟨parent, name, rfl⟩
  · rw [at?_nil] at found
    exact absurd (Option.some.inj found).symm (leaf _)
  · rw [List.concat_eq_append] at found ⊢
    exact ⟨parent, name, rfl, dirAt_of_at?_append (List.cons_ne_nil _ _) found⟩

theorem not_dirAt {entry : Entry} (found : Entry.at? names fs.entries = some entry)
    (leaf : ∀ inner, entry ≠ .directory inner) : ¬ dirAt names fs.entries := by
  rintro ⟨inner, hinner⟩
  rw [found] at hinner
  exact leaf inner (Option.some.inj hinner)

theorem Changed.put (sound : fs.Sound) (there : dirAt parent fs.entries)
    (free : ¬ dirAt (parent ++ [name]) fs.entries) (isName : IsName name) (executable : Bool) :
    Changed (parent ++ [name]) fs (fs.put (parent ++ [name]) (.file data executable)) := by
  obtain ⟨inner, hinner⟩ := there
  have names : ∀ n ∈ parent ++ [name], IsName n := fun n hn =>
    (List.mem_append.mp hn).elim (sound.proper.isName_of_at? hinner n) fun h => by
      rw [List.mem_singleton.mp h]; exact isName
  refine .of_replaced sound (sound.proper.put names fun _ h => Entry.noConfusion h)
    (replaced_put ⟨inner, hinner⟩ free _) ?_ ?_
  · intro inner h; cases h
  · intro target h; cases h

/-- What is no directory holds no place that stands. -/
theorem without_eq {entries : List (String × Entry)} {p : Place} (stands : Stands entries p)
    (leaf : ¬ dirAt names entries) : Place.without p names = p := by
  obtain ⟨pnames, gone⟩ := p
  unfold Place.without
  split
  · rename_i hprefix
    obtain ⟨rest, rfl⟩ := List.isPrefixOf_iff_prefix.mp hprefix
    have hgone : (names ++ rest).length - names.length + 1 ≤ gone := by
      refine Nat.not_lt.mp fun hlt => leaf ?_
      have hleft : dirAt ((names ++ rest).take ((names ++ rest).length - gone)) entries :=
        stands.left
      rw [List.take_append, List.take_of_length_le (by rw [List.length_append] at hlt ⊢; omega)]
        at hleft
      exact hleft.of_append
    show Place.mk _ (max gone _) = _
    rw [Nat.max_eq_left hgone]
  · rfl

theorem Changed.erase (sound : fs.Sound) (there : dirAt parent fs.entries)
    (leaf : ¬ dirAt (parent ++ [name]) fs.entries) :
    Changed (parent ++ [name]) fs (fs.erase (parent ++ [name])) := by
  unfold FileSystem.erase
  rw [without_eq sound.stands leaf]
  refine .of_replaced sound sound.proper.erase (replaced_erase there leaf) ?_ ?_
  · intro inner h; cases h
  · intro target h; cases h

/-! ## Operations -/

/-- Where a path leads from a file system that is sound. -/
theorem Sound.reach_ends (sound : fs.Sound) {target : Target}
    (h : fs.reach purpose path = .ok target) :
    (∃ most, Ends fs most (fs.spot path) target) ∧ Passable path := by
  obtain ⟨ends, passable⟩ := FileSystem.reach_ends sound.free (fun _ => sound.stands) h
  exact ⟨⟨_, ends⟩, passable⟩

/-- Making a file where a path leads to a free name. -/
theorem changed_vacant (sound : fs.Sound) {place : Place} (data : List UInt8)
    (h : fs.reach purpose path = .ok (.vacant place name)) :
    Changed (fs.spot path) fs (fs.put (place.names ++ [name]) (.file data false)) := by
  obtain ⟨⟨most, ends⟩, -⟩ := sound.reach_ends h
  obtain ⟨before, last, hcomponents, isName, -⟩ :=
    reach_last sound.free h fun _ _ h => Target.noConfusion h
  obtain ⟨front, hfront⟩ := spot_of_components fs hcomponents isName
  cases ends with
  | vacant parent name is there free =>
    rw [is] at hfront free ⊢
    obtain ⟨-, hlast⟩ := List.append_inj' hfront rfl
    obtain rfl : name = last := (List.cons.inj hlast).1
    refine .put sound there (fun ⟨inner, hinner⟩ => ?_) isName _
    rw [free] at hinner; cases hinner

/-- Writing over the file that a path leads to. -/
theorem changed_file (sound : fs.Sound) {location : Place} {before : List UInt8}
    {executable : Bool} (data : List UInt8)
    (h : fs.reach purpose path = .ok (.object location (.file before executable))) :
    Changed (fs.spot path) fs (fs.put location.names (.file data executable)) := by
  obtain ⟨⟨most, ends⟩, -⟩ := sound.reach_ends h
  cases ends with
  | object entry found =>
    have leaf : ∀ inner, Entry.file before executable ≠ .directory inner :=
      fun _ h => Entry.noConfusion h
    obtain ⟨parent, name, is, there⟩ := exists_parent found leaf
    have free := not_dirAt found leaf
    have isName : IsName name := sound.proper.isName_of_at? found name
      (by rw [is]; exact List.mem_append_right _ (List.mem_singleton_self name))
    rw [is] at free ⊢
    exact .put sound there free isName _

/-- The file of a path has been written: it is what has changed, and the path is a source exactly if
    the file is. -/
structure Written (path : String) (fs fs' : FileSystem) : Prop where
  changed : Changed (fs.spot path) fs fs'
  no_nul : '\x00' ∉ path.toList
  last : ∃ front name, fs.spot path = front ++ [name] ∧
    Path.isGoSource path = Path.isGoSource name

/-- **Writing** a file changes what is at the spot of the path. -/
theorem written_of_write (sound : fs.Sound) (h : fs.write path data = .ok fs') :
    Written path fs fs' := by
  have ending : ∀ {target : Target}, fs.reach .create path = .ok target →
      (∀ location inner, target ≠ .object location (.directory inner)) →
      '\x00' ∉ path.toList ∧ ∃ front name, fs.spot path = front ++ [name] ∧
        Path.isGoSource path = Path.isGoSource name := by
    intro target hreach leaf
    obtain ⟨before, name, hcomponents, isName, plain⟩ := reach_last sound.free hreach leaf
    obtain ⟨front, hfront⟩ := spot_of_components fs hcomponents isName
    exact ⟨(sound.reach_ends hreach).2.no_nul, front, name, hfront,
      isGoSource_of_components hcomponents (plain rfl)⟩
  unfold FileSystem.write at h
  split at h
  · cases h
  · rename_i place name hreach
    rw [← Except.ok.inj h]
    obtain ⟨no_nul, last⟩ := ending hreach fun _ _ h => Target.noConfusion h
    exact ⟨changed_vacant sound data hreach, no_nul, last⟩
  · rename_i location before executable hreach
    rw [← Except.ok.inj h]
    obtain ⟨no_nul, last⟩ := ending hreach fun _ _ h => by cases h
    exact ⟨changed_file sound data hreach, no_nul, last⟩
  · cases h

/-- **Making** a file changes what is at the spot of the path. -/
theorem changed_createNew (sound : fs.Sound) (h : fs.createNew path data = .ok fs') :
    Changed (fs.spot path) fs fs' ∧ '\x00' ∉ path.toList := by
  unfold createNew at h
  split at h
  · cases h
  · rename_i place name hreach
    rw [← Except.ok.inj h]
    exact ⟨changed_vacant sound data hreach, (sound.reach_ends hreach).2.no_nul⟩
  · cases h

/-- What has been removed was not kept by the system. -/
theorem not_refused {refusal : Option Trouble} (h : fs.remove path refusal = .ok fs') :
    refusal = none := by
  cases refusal with
  | none => rfl
  | some t =>
    unfold remove at h
    split at h <;> cases h

/-- **Removing** a file changes what is at the spot of the path. -/
theorem changed_remove (sound : fs.Sound) (h : fs.remove path = .ok fs') :
    Changed (fs.spot path) fs fs' := by
  unfold remove at h
  split at h
  · cases h
  · cases h
  · cases h
  · rename_i location entry hnot hreach
    obtain ⟨⟨most, ends⟩, -⟩ := sound.reach_ends hreach
    rw [← Except.ok.inj h]
    cases ends with
    | object entry found =>
      obtain ⟨parent, name, is, there⟩ := exists_parent found hnot
      have leaf := not_dirAt found hnot
      rw [is] at leaf ⊢
      exact .erase sound there leaf
    | removed gone le => exact absurd rfl (hnot [])

/-! ## Paths of names -/

/-- A walk along names of directories and then to a free name gets there. -/
theorem walk_vacant {links : Nat} {before todo : List String} {last : String}
    (there : dirAt (before ++ todo) fs.entries) (valid : ∀ n ∈ todo ++ [last], IsName n)
    (short : ∀ n ∈ todo ++ [last], n.utf8ByteSize ≤ maxName)
    (free : Entry.at? (before ++ todo ++ [last]) fs.entries = none) :
    fs.walk purpose false links ⟨before, 0⟩ (todo ++ [last]) =
      .ok (.vacant ⟨before ++ todo, 0⟩ last) := by
  induction todo generalizing before with
  | nil =>
    rw [List.append_nil] at free ⊢
    have isName := valid last (List.mem_singleton_self last)
    have hshort := short last (List.mem_singleton_self last)
    rw [List.nil_append, walk, if_neg isName.2.1, if_neg isName.2.2.1, if_neg (by simp),
      if_neg (by omega), child?_entriesAt, free]
    rfl
  | cons first rest ih =>
    obtain ⟨isName, valid_rest⟩ := List.forall_mem_cons.mp valid
    obtain ⟨hshort, short_rest⟩ := List.forall_mem_cons.mp short
    have joined : before ++ first :: rest = before ++ [first] ++ rest := by
      rw [List.append_assoc]; rfl
    rw [joined] at there free ⊢
    obtain ⟨inner, hinner⟩ := there.of_append
    rw [List.cons_append, walk, if_neg isName.2.1, if_neg isName.2.2.1, if_neg (by simp),
      if_neg (by omega), child?_entriesAt, hinner]
    exact ih there valid_rest short_rest free

/-- A free name in a directory is reached by its path. -/
theorem LeadsTo.reach_vacant (leads : LeadsTo path (parent ++ [name])) (passable : Passable path)
    (plain : endsInSlash path = false) (there : dirAt parent fs.entries)
    (free : Entry.at? (parent ++ [name]) fs.entries = none) :
    fs.reach purpose path = .ok (.vacant ⟨parent, 0⟩ name) := by
  have short := passable.names
  rw [leads.components] at short
  have walks : fs.walk purpose false maxLinks ⟨[], 0⟩ (parent ++ [name]) =
      .ok (.vacant ⟨[] ++ parent, 0⟩ name) := walk_vacant there leads.valid short free
  rw [reach_of_passable passable.no_nul leads.ne_empty passable.short, if_pos leads.absolute,
    leads.components, plain]
  exact walks

/-- Writing to a free name in a directory makes a file there. -/
theorem LeadsTo.write_vacant (leads : LeadsTo path (parent ++ [name])) (passable : Passable path)
    (plain : endsInSlash path = false) (there : dirAt parent fs.entries)
    (free : Entry.at? (parent ++ [name]) fs.entries = none) (data : List UInt8) :
    fs.write path data = .ok (fs.put (parent ++ [name]) (.file data false)) := by
  unfold FileSystem.write
  rw [leads.reach_vacant passable plain there free]

/-- Writing to the name of a file puts the bytes in that file. -/
theorem LeadsTo.write (leads : LeadsTo path names) (passable : Passable path)
    (plain : endsInSlash path = false) {before : List UInt8} {executable : Bool}
    (found : Entry.at? names fs.entries = some (.file before executable)) (data : List UInt8) :
    fs.write path data = .ok (fs.put names (.file data executable)) := by
  have short := passable.names
  rw [leads.components] at short
  have walks : fs.walk .create false maxLinks ⟨[], 0⟩ names =
      .ok (.object ⟨[] ++ names, 0⟩ (.file before executable)) :=
    walk_names (fun _ => rfl) dirAt_nil leads.valid short found (fits_file _ _)
  have reaches : fs.reach .create path = .ok (.object ⟨names, 0⟩ (.file before executable)) := by
    rw [reach_of_passable passable.no_nul leads.ne_empty passable.short, if_pos leads.absolute,
      leads.components, plain]
    exact walks
  unfold FileSystem.write
  rw [reaches]

/-- The file that the walk of a write ends at is written over. -/
theorem write_of_walk {here location : Place} {todo : List String} {before : List UInt8}
    {executable : Bool} (no_nul : '\x00' ∉ path.toList) (some_path : path ≠ "")
    (short : path.utf8ByteSize ≤ maxPath) (plain : endsInSlash path = false)
    (start : (if Path.isAbsolute path then .root else fs.current) = here)
    (parts : components path = todo)
    (walked : fs.walk .create false maxLinks here todo =
      .ok (.object location (.file before executable)))
    (after : fs.put location.names (.file data executable) = fs') :
    fs.write path data = .ok fs' := by
  unfold FileSystem.write
  rw [reach_of_passable no_nul some_path short, plain, start, parts, walked, ← after]

end GoWorkbench.FileSystem
