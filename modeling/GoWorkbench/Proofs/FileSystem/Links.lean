/-
  The places that a walk comes through, and the links that there are.

  1. **Arrivals** — to arrive is to find a directory (`Arrives.walk`), and what is called by its
     name there is found next (`Arrives.walk_file`).
  2. **Halfway** — a walk that goes on after its beginning takes one step after the other
     (`walk_past`), so it arrives in between (`walk_split`), and the last name is looked up there
     (`walk_last_name`).
  3. **All links** — the links of a file system have as many routes as are counted
     (`length_linkRoutes`), so links apart from each other are not more than that
     (`length_le_countLinks`).
-/
import GoWorkbench.Proofs.FileSystem.Storing
import Mathlib.Data.List.Nodup
import Mathlib.Data.List.Perm.Subperm

namespace GoWorkbench

open Entry

namespace FileSystem

variable {fs : FileSystem} {purpose : Purpose} {slash : Bool} {links left : Nat}
  {here there : Place} {name : String} {todo : List String} {entry : Entry}

/-! ## Arrivals -/

/-- To arrive is to find a directory. -/
theorem Arrives.walk (h : Arrives fs links here todo left there) (slash : Bool) :
    fs.walk .look slash links here todo =
      .ok (.object there (.directory (fs.entriesAt there))) := by
  induction h generalizing slash with
  | done => rw [FileSystem.walk]
  | stays _ ih =>
    rw [FileSystem.walk, if_pos rfl]
    exact ih slash
  | rises _ ih =>
    rw [FileSystem.walk, if_neg (by decide), if_pos rfl]
    exact ih slash
  | enters naming found _ ih =>
    rw [ByName.walk_directory ⟨naming, by simp⟩ found]
    exact ih slash
  | follows naming found _ ih =>
    rw [ByName.walk_link ⟨naming, by simp⟩ found (by simp)]
    exact ih _

/-- A file that is called by its name is found where a walk has arrived before. -/
theorem Arrives.walk_file (h : Arrives fs links here todo left there) (naming : Naming name)
    {data : List UInt8} {executable : Bool}
    (found : Entry.child? name (fs.entriesAt there) = some (.file data executable))
    (purpose : Purpose) : fs.walk purpose false links here (todo ++ [name]) =
      .ok (.object (there.child name) (.file data executable)) := by
  have byName : ByName purpose false name [] := ⟨naming, by simp⟩
  rw [h.walk_append (List.cons_ne_nil _ _), byName.walk_file found]
  rfl

/-- Where a walk arrives is a place that stands. -/
theorem Arrives.standing (h : Arrives fs links here todo left there)
    (stands : Stands fs.entries here) : Stands fs.entries there := by
  induction h with
  | done => exact stands
  | stays _ ih => exact ih stands
  | rises _ ih => exact ih stands.parent
  | enters _ found _ ih => exact ih (Stands.child found)
  | follows _ _ _ ih =>
    apply ih
    split
    · exact stands_root _
    · exact stands

/-! ## Halfway -/

/-- **One step** of a walk that goes past a name: it stays, rises, enters a directory or follows
    a link. -/
theorem walk_past {target : Target} {rest : List String} (some_rest : rest ≠ [])
    (h : fs.walk purpose slash links here (name :: rest) = .ok target) :
    (name = "." ∧ fs.walk purpose slash links here rest = .ok target) ∨
      (name = ".." ∧ fs.walk purpose slash links here.parent rest = .ok target) ∨
      (Naming name ∧ ∃ inner, Entry.child? name (fs.entriesAt here) = some (.directory inner) ∧
        fs.walk purpose slash links (here.child name) rest = .ok target) ∨
      Naming name ∧ ∃ link fewer, Entry.child? name (fs.entriesAt here) = some (.link link) ∧
        links = fewer + 1 ∧ fs.walk purpose slash fewer
          (if Path.isAbsolute link then .root else here) (components link ++ rest) = .ok target := by
  have goes_on : rest.isEmpty = false := by simp [some_rest]
  by_cases dot : name = "."
  · rw [walk, if_pos dot] at h
    exact .inl ⟨dot, h⟩
  by_cases dots : name = ".."
  · rw [walk, if_neg dot, if_pos dots] at h
    exact .inr (.inl ⟨dots, h⟩)
  have plain : ¬ (rest.isEmpty && slash && purpose = .create) = true := by simp [goes_on]
  by_cases long : maxName < name.utf8ByteSize
  · rw [walk, if_neg dot, if_neg dots, if_neg plain, if_pos long] at h
    cases h
  have naming : Naming name := ⟨dot, dots, Nat.le_of_not_lt long⟩
  rw [walk, if_neg dot, if_neg dots, if_neg plain, if_neg long] at h
  split at h
  · simp [goes_on] at h
  · rename_i inner found
    exact .inr (.inr (.inl ⟨naming, inner, found, h⟩))
  · simp [goes_on] at h
  · rename_i link found
    rw [goes_on, if_neg (by simp)] at h
    cases links with
    | zero => cases h
    | succ fewer =>
      dsimp only at h
      rw [Bool.false_and, Bool.or_false] at h
      exact .inr (.inr (.inr ⟨naming, link, fewer, found, rfl, h⟩))

/-- **Halfway**: a walk that goes on after its beginning arrives in between. -/
theorem walk_split {links : Nat} {here : Place} {todo after : List String} {target : Target}
    (some_after : after ≠ [])
    (h : fs.walk purpose slash links here (todo ++ after) = .ok target) :
    ∃ left there, Arrives fs links here todo left there ∧
      fs.walk purpose slash left there after = .ok target := by
  cases todo with
  | nil => exact ⟨links, here, .done, h⟩
  | cons name rest =>
    have some_rest : rest ++ after ≠ [] := by simp [some_after]
    obtain ⟨rfl, on⟩ | ⟨rfl, on⟩ | ⟨naming, inner, found, on⟩ |
      ⟨naming, link, fewer, found, rfl, on⟩ := walk_past some_rest h
    · obtain ⟨left, there, arrives, walked⟩ := walk_split some_after on
      exact ⟨left, there, .stays arrives, walked⟩
    · obtain ⟨left, there, arrives, walked⟩ := walk_split some_after on
      exact ⟨left, there, .rises arrives, walked⟩
    · obtain ⟨left, there, arrives, walked⟩ := walk_split some_after on
      exact ⟨left, there, .enters naming found arrives, walked⟩
    · rw [← List.append_assoc] at on
      obtain ⟨left, there, arrives, walked⟩ := walk_split some_after on
      exact ⟨left, there, .follows naming found arrives, walked⟩
termination_by (links, todo.length)

/-- The last name of a walk that looks at links. -/
theorem walk_last_name (naming : Naming name) :
    fs.walk .lookAtLink false links here [name] = match Entry.child? name (fs.entriesAt here) with
      | none => if here.gone = 0 then .ok (.vacant here name) else .error .missing
      | some entry => .ok (.object (here.child name) entry) := by
  have byName : ByName .lookAtLink false name [] := ⟨naming, by decide⟩
  rcases found : Entry.child? name (fs.entriesAt here) with _ | ⟨data, executable⟩ | target | inner
  · rw [byName.walk_free found]
    simp
  · rw [byName.walk_file found]
    rfl
  · exact walk_to_link naming found
  · rw [byName.walk_directory found, walk]
    unfold Place.child
    rw [entriesAt_of_at? (at?_child found).2]

/-- A name that is walked along is short. -/
theorem naming_of_walk {target : Target} (isName : IsName name)
    (h : fs.walk purpose slash links here [name] = .ok target) : Naming name := by
  refine ⟨isName.2.1, isName.2.2.1, Nat.le_of_not_lt fun long => ?_⟩
  rw [walk, if_neg isName.2.1, if_neg isName.2.2.1, if_pos long] at h
  split at h <;> cases h

theorem short_of_reach {path : String} {target : Target}
    (reaches : fs.reach purpose path = .ok target) : path.utf8ByteSize ≤ maxPath := by
  refine Nat.le_of_not_lt fun long => ?_
  unfold FileSystem.reach at reaches
  rw [if_pos long] at reaches
  split at reaches
  · cases reaches
  · split at reaches <;> cases reaches

/-- A path that leads to a directory arrives there. -/
theorem arrives_of_find {path : String} {inner : List (String × Entry)}
    (absolute : Path.isAbsolute path = true)
    (opens : fs.find path = .ok (there, .directory inner)) :
    ∃ left, Arrives fs maxLinks .root (components path) left there := by
  unfold FileSystem.find at opens
  split at opens
  · cases opens
  · cases opens
  · rename_i reaches
    cases opens
    have walked := (reach_elsewhere reaches fs .look).symm.trans reaches
    rw [if_pos absolute] at walked
    exact (arrives_of_walk walked).1

/-! ## All links -/

variable {entries : List (String × Entry)} {route : List String} {target : String}

/-- The routes to the links in some entries. -/
def linkRoutes : List (String × Entry) → List (List String)
  | [] => []
  | (name, .link _) :: rest => [name] :: linkRoutes rest
  | (name, .directory inner) :: rest => (linkRoutes inner).map (name :: ·) ++ linkRoutes rest
  | (_, .file _ _) :: rest => linkRoutes rest

theorem length_linkRoutes (entries : List (String × Entry)) :
    (linkRoutes entries).length = countLinks entries := by
  induction entries using linkRoutes.induct with
  | case1 => simp [linkRoutes, countLinks]
  | case2 name target rest ih =>
    rw [linkRoutes, countLinks, List.length_cons, ih]
    omega
  | case3 name inner rest ih_inner ih_rest =>
    rw [linkRoutes, countLinks, List.length_append, List.length_map, ih_inner, ih_rest]
  | case4 name data executable rest ih => rw [linkRoutes, countLinks, ih]

/-- What is found along a route is found in the first entry, or in the others. -/
theorem at?_entry_cons (name first : String) (entry : Entry) (rest : List (String × Entry))
    (route : List String) :
    Entry.at? (first :: route) ((name, entry) :: rest) =
      if name = first then Entry.at? (first :: route) [(name, entry)]
      else Entry.at? (first :: route) rest := by
  rw [at?_cons, at?_cons, at?_cons, child?_cons, child?_cons]
  by_cases h : name = first
  · rw [if_pos h, if_pos h, if_pos h]
  · rw [if_neg h, if_neg h]

theorem mem_linkRoutes_of_at? (h : Entry.at? route entries = some (.link target)) :
    route ∈ linkRoutes entries := by
  cases route with
  | nil =>
    rw [at?_nil] at h
    cases h
  | cons first route =>
    induction entries using linkRoutes.induct generalizing first route with
    | case1 =>
      rw [at?_of_empty (List.cons_ne_nil _ _)] at h
      cases h
    | case2 name other rest ih =>
      rw [at?_entry_cons] at h
      rw [linkRoutes]
      split at h
      · rename_i is
        rw [at?_cons, child?_cons, if_pos is] at h
        dsimp only at h
        split at h
        · rename_i last
          rw [last, is]
          exact List.mem_cons_self
        · cases h
      · exact List.mem_cons_of_mem _ (ih first route h)
    | case3 name inner rest ih_inner ih_rest =>
      rw [at?_entry_cons] at h
      rw [linkRoutes]
      split at h
      · rename_i is
        rw [at?_cons, child?_cons, if_pos is] at h
        replace h : Entry.at? route inner = some (.link target) := h
        cases route with
        | nil =>
          rw [at?_nil] at h
          cases h
        | cons next route =>
          rw [is]
          exact List.mem_append_left _ (List.mem_map.mpr ⟨_, ih_inner next route h, rfl⟩)
      · exact List.mem_append_right _ (ih_rest first route h)
    | case4 name data executable rest ih =>
      rw [at?_entry_cons] at h
      rw [linkRoutes]
      split at h
      · rename_i is
        rw [at?_cons, child?_cons, if_pos is] at h
        dsimp only at h
        split at h <;> cases h
      · exact ih first route h

/-- Links apart from each other are no more than are counted. -/
theorem length_le_countLinks {routes : List (List String)} (nodup : routes.Nodup)
    (linked : ∀ route ∈ routes, route ∈ linkRoutes entries) :
    routes.length ≤ countLinks entries := by
  rw [← length_linkRoutes]
  exact (nodup.subperm linked).length_le

/-- The route to a link starts with the name of an entry. -/
theorem head_of_mem_linkRoutes (h : route ∈ linkRoutes entries) :
    ∃ first more, route = first :: more ∧ first ∈ entries.map (·.1) := by
  induction entries using linkRoutes.induct generalizing route with
  | case1 =>
    rw [linkRoutes] at h
    cases h
  | case2 name target rest ih =>
    rw [linkRoutes] at h
    rcases List.mem_cons.mp h with is | h
    · exact ⟨name, [], is, List.mem_cons_self⟩
    · obtain ⟨first, more, is, hmem⟩ := ih h
      exact ⟨first, more, is, List.mem_cons_of_mem _ hmem⟩
  | case3 name inner rest ih_inner ih_rest =>
    rw [linkRoutes] at h
    rcases List.mem_append.mp h with h | h
    · obtain ⟨more, -, is⟩ := List.mem_map.mp h
      exact ⟨name, more, is.symm, List.mem_cons_self⟩
    · obtain ⟨first, more, is, hmem⟩ := ih_rest h
      exact ⟨first, more, is, List.mem_cons_of_mem _ hmem⟩
  | case4 name data executable rest ih =>
    rw [linkRoutes] at h
    obtain ⟨first, more, is, hmem⟩ := ih h
    exact ⟨first, more, is, List.mem_cons_of_mem _ hmem⟩

/-- In a proper tree every route of a link is one way only. -/
theorem nodup_linkRoutes (proper : Proper entries) : (linkRoutes entries).Nodup := by
  induction entries using linkRoutes.induct with
  | case1 =>
    rw [linkRoutes]
    exact List.nodup_nil
  | case2 name target rest ih =>
    obtain ⟨-, alone, -, proper_rest⟩ := proper_cons.mp proper
    rw [linkRoutes]
    refine List.nodup_cons.mpr ⟨fun h => ?_, ih proper_rest⟩
    obtain ⟨first, more, is, hmem⟩ := head_of_mem_linkRoutes h
    rw [← (List.cons.inj is).1] at hmem
    exact alone hmem
  | case3 name inner rest ih_inner ih_rest =>
    obtain ⟨-, alone, inside, proper_rest⟩ := proper_cons.mp proper
    have injective : Function.Injective (fun route : List String => name :: route) :=
      fun _ _ h => (List.cons.inj h).2
    rw [linkRoutes]
    refine List.nodup_append.mpr
      ⟨(ih_inner (inside inner rfl)).map injective, ih_rest proper_rest, ?_⟩
    rintro route below _ beside rfl
    obtain ⟨more, -, rfl⟩ := List.mem_map.mp below
    obtain ⟨first, more', is, hmem⟩ := head_of_mem_linkRoutes beside
    rw [← (List.cons.inj is).1] at hmem
    exact alone hmem
  | case4 name data executable rest ih =>
    obtain ⟨-, -, -, proper_rest⟩ := proper_cons.mp proper
    rw [linkRoutes]
    exact ih proper_rest

/-- In a proper tree the routes to links are those that links are found along. -/
theorem mem_linkRoutes (proper : Proper entries) :
    route ∈ linkRoutes entries ↔ ∃ target, Entry.at? route entries = some (.link target) := by
  refine ⟨fun h => ?_, fun ⟨target, h⟩ => mem_linkRoutes_of_at? h⟩
  -- what is in the other entries is not in the first
  have beside : ∀ {name : String} {entry : Entry} {rest : List (String × Entry)}
      {route : List String}, name ∉ rest.map (·.1) → route ∈ linkRoutes rest →
      Entry.at? route ((name, entry) :: rest) = Entry.at? route rest := by
    intro name entry rest route alone h
    obtain ⟨first, more, rfl, hmem⟩ := head_of_mem_linkRoutes h
    rw [at?_entry_cons, if_neg]
    rintro rfl
    exact alone hmem
  induction entries using linkRoutes.induct generalizing route with
  | case1 =>
    rw [linkRoutes] at h
    cases h
  | case2 name target rest ih =>
    obtain ⟨-, alone, -, proper_rest⟩ := proper_cons.mp proper
    rw [linkRoutes] at h
    rcases List.mem_cons.mp h with rfl | h
    · refine ⟨target, ?_⟩
      rw [at?_singleton, child?_cons, if_pos rfl]
    · rw [beside alone h]
      exact ih proper_rest h
  | case3 name inner rest ih_inner ih_rest =>
    obtain ⟨-, alone, inside, proper_rest⟩ := proper_cons.mp proper
    rw [linkRoutes] at h
    rcases List.mem_append.mp h with h | h
    · obtain ⟨more, hmore, rfl⟩ := List.mem_map.mp h
      rw [at?_cons, child?_cons, if_pos rfl]
      exact ih_inner (inside inner rfl) hmore
    · rw [beside alone h]
      exact ih_rest proper_rest h
  | case4 name data executable rest ih =>
    obtain ⟨-, alone, -, proper_rest⟩ := proper_cons.mp proper
    rw [linkRoutes] at h
    rw [beside alone h]
    exact ih proper_rest h

end FileSystem

end GoWorkbench
