/-
  The link-free form of a path.

  1. **Ends** — what a walk ends at is at its location (`at?_of_look`).
  2. **Forms** — a path whose links all have an end and can be looked at has a link-free form, made
     of the names that it leads to (`canonicalNames_of_traced`).
  3. **Other files** — what is in a file makes no difference to a link-free form
     (`canonicalNames_alike`).
  4. **Containment** — whether one path lies in another can be told where neither leads around in a
     circle (`isWithin_of_resolvable`).
-/
import GoWorkbench.Proofs.FileSystem.Settling

namespace GoWorkbench

open Entry

namespace FileSystem

variable {fs fs' : FileSystem} {slash : Bool} {links : Nat} {here location : Place}
  {path target : String} {spot todo : List String} {entry : Entry} {r : Reached}

/-! ## Ends -/

/-- What a walk ends at is at its location, if that has not been removed. -/
theorem at?_of_look (stands : Stands fs.entries here)
    (h : fs.walk .look slash links here todo = .ok (.object location entry))
    (whole : location.gone = 0) : Entry.at? location.names fs.entries = some entry := by
  cases entry with
  | directory inner =>
    obtain ⟨⟨left, on⟩, is⟩ := arrives_of_walk h
    obtain ⟨below, there⟩ := (on.standing stands).dirAt whole
    obtain ⟨names, gone⟩ := location
    obtain rfl : gone = 0 := whole
    rw [is, entriesAt_of_at? there]
    exact there
  | file data executable =>
    cases walk_sits h stands with
    | leaf found => exact found
  | link target =>
    cases walk_sits h stands with
    | leaf found => exact found

/-! ## Forms -/

/-- The names that what has been settled starts at. -/
def startNames (fs : FileSystem) (r : Reached) : List String :=
  if r.rooted then [] else fs.current.names

/-- From a place that has not been removed only such places are reached. -/
theorem gone_placeOf (whole : r.rooted = true ∨ fs.current.gone = 0) : (fs.placeOf r).gone = 0 := by
  obtain ⟨rooted, names⟩ := r
  induction names with
  | nil =>
    show (if rooted = true then Place.root else fs.current).gone = 0
    split
    · rfl
    · rename_i relative
      exact whole.resolve_left relative
  | cons name names ih =>
    show (Place.step (fs.placeOf ⟨rooted, names⟩) name).gone = 0
    have before := ih whole
    unfold Place.step
    rw [before]
    split
    · show (fs.placeOf ⟨rooted, names⟩).gone - 1 = 0
      omega
    · rfl

/-- The names of a place that has been reached are those that its components lead to. -/
theorem names_placeOf (clean : Clean r) :
    (fs.placeOf r).names = steps (fs.startNames r) r.names.reverse := by
  obtain ⟨rooted, names⟩ := r
  induction names with
  | nil => cases rooted <;> rfl
  | cons name names ih =>
    obtain ⟨⟨-, no_dot⟩, clean_names⟩ := List.forall_mem_cons.mp clean
    have before : (fs.placeOf ⟨rooted, names⟩).names =
        steps (fs.startNames ⟨rooted, name :: names⟩) names.reverse := ih clean_names
    show (Place.step (fs.placeOf ⟨rooted, names⟩) name).names = steps _ (name :: names).reverse
    unfold steps at before ⊢
    rw [List.reverse_cons, List.foldl_append, List.foldl_cons, List.foldl_nil, ← before]
    unfold Place.step step
    rw [if_neg no_dot]
    split <;> rfl

/-- What has been settled collapses to the names of its place. -/
theorem collapse_settled (names : ∀ n ∈ fs.current.names, IsName n) (clean : Clean r) :
    Path.collapse true (fs.startNames r ++ r.names.reverse) = (fs.placeOf r).names := by
  have start_names : ∀ n ∈ fs.startNames r, IsName n := by
    unfold startNames
    split
    · exact fun n hn => absurd hn List.not_mem_nil
    · exact names
  have nonempty : ∀ n ∈ fs.startNames r ++ r.names.reverse, (!n.isEmpty) = true := by
    intro n hn
    have some_name : n ≠ "" := by
      rcases List.mem_append.mp hn with hn | hn
      · exact (start_names n hn).1
      · exact (clean n (List.mem_reverse.mp hn)).1
    simp [some_name]
  have from_root : steps [] (fs.startNames r) = fs.startNames r := steps_names start_names
  rw [(collapse_rooted _).1, List.filter_eq_self.mpr nonempty, names_placeOf clean]
  unfold steps at from_root ⊢
  rw [List.foldl_append, from_root]

/-- **The link-free form** of a path whose links have an end is made of the names that it leads to.
    It has none if it starts in a working directory that is gone. -/
theorem canonicalNames_of_traced (orderly : fs.Orderly) (no_nul : '\x00' ∉ path.toList)
    (leads : fs.TracedTo path location) :
    location.gone = 0 ∧ fs.canonicalNames path = .ok location.names ∨
      ¬ fs.Anchored path ∧ fs.canonicalNames path = .error (.trouble .missing) := by
  have valid := leads.followedTo.valid orderly no_nul
  obtain ⟨depth, r, traces, rfl⟩ := leads
  obtain ⟨follows, is⟩ := traces.follows (clean_nil _)
  unfold canonicalNames
  rw [if_neg no_nul, settle_of_traces (clean_nil _) waits_nil traces]
  dsimp only
  split
  · rename_i adrift
    rw [Bool.and_eq_true, Bool.not_eq_true', decide_eq_true_eq] at adrift
    refine Or.inr ⟨?_, rfl⟩
    rintro (absolute | whole)
    · rw [is.rooted absolute] at adrift
      cases adrift.1
    · omega
  · rename_i anchored
    have whole : (fs.placeOf r).gone = 0 := by
      refine gone_placeOf ?_
      rw [Bool.and_eq_true, Bool.not_eq_true', decide_eq_true_eq] at anchored
      by_cases rooted : r.rooted = true
      · exact Or.inl rooted
      · exact Or.inr (Nat.eq_zero_of_not_pos fun gone =>
          anchored ⟨Bool.eq_false_iff.mpr rooted, gone⟩)
    have names : Path.collapse true ((if r.rooted then [] else fs.current.names) ++
        r.names.reverse) = (fs.placeOf r).names :=
      collapse_settled orderly.names is.clean
    rw [names]
    -- No link is left on the way to the place, so looking its form up again cannot loop.
    have unlinked := follows.unlinked (orderly.start path).unlinked
    rw [show fs.placeOf r = ⟨(fs.placeOf r).names, 0⟩ by rw [← whole]] at unlinked
    refine Or.inl ⟨whole, ?_⟩
    split
    · rename_i looped
      exact absurd looped (find_slashed_ne_loop valid unlinked)
    · rfl

/-- So is that of a path that leads somewhere. -/
theorem canonicalNames_of_find (orderly : fs.Orderly) (sighted : fs.Sighted path)
    (found : fs.find path = .ok (location, entry)) :
    fs.canonicalNames (Path.plain path) = .ok location.names ∨
      ¬ fs.Anchored path ∧ fs.canonicalNames (Path.plain path) = .error (.trouble .missing) := by
  rw [← anchored_plain]
  exact (canonicalNames_of_traced orderly (nul_not_mem_plain (no_nul_of_find found))
    (tracedTo_plain.mpr (sighted.traced (followedTo_of_find found)))).imp And.right id

/-! ## Other files -/

/-- Where only a file differs, there are as many links. -/
theorem SameBut.countLinks_eq (same : SameBut spot fs fs') (proper : Proper fs.entries)
    (proper' : Proper fs'.entries) : countLinks fs'.entries = countLinks fs.entries := by
  have leaf_link : ∀ {entries : List (String × Entry)} {route : List String} {target : String},
      Entry.at? route entries = some (.link target) ↔
        leafAt route entries = some (.link target) := by
    intro entries route target
    refine ⟨fun h => ?_, at?_of_leafAt⟩
    unfold leafAt
    rw [h]
  rw [← length_linkRoutes, ← length_linkRoutes]
  refine ((List.perm_ext_iff_of_nodup (nodup_linkRoutes proper') (nodup_linkRoutes proper)).mpr
    fun route => ?_).length_eq
  rw [mem_linkRoutes proper', mem_linkRoutes proper]
  refine exists_congr fun target => ?_
  rw [leaf_link, leaf_link]
  by_cases at_spot : route = spot
  · rw [at_spot]
    exact iff_of_false (same.no_link' target) (same.no_link target)
  · rw [same.leaves route at_spot]

/-- Links are traced alike. -/
theorem Traces.alike {depth : Nat} {between : Reached} (h : Traces fs depth r todo between)
    (same : SameBut spot fs fs') : Traces fs' depth r todo between := by
  have place : ∀ r, fs'.placeOf r = fs.placeOf r := fun r => by
    unfold placeOf
    rw [same.current]
  induction h with
  | done => exact .done
  | stays _ ih => exact .stays ih
  | rises _ ih => exact .rises ih
  | onward solid no_link _ ih =>
    refine .onward solid (fun target is => ?_) ih
    rw [place] at is
    exact no_link target (same.symm.child_link is)
  | through solid found short _ _ ih_link ih =>
    refine .through solid ?_ short ih_link ih
    rw [place]
    exact same.child_link found

theorem Sighted.alike (h : fs.Sighted path) (same : SameBut spot fs fs') : fs'.Sighted path := by
  obtain ⟨place, depth, r, traces, -⟩ := h
  exact ⟨_, depth, r, traces.alike same, rfl⟩

theorem SameBut.entryOf_link (same : SameBut spot fs fs') (r : Reached) (target : String) :
    fs'.entryOf r = some (.link target) ↔ fs.entryOf r = some (.link target) := by
  unfold entryOf
  split
  · exact Iff.rfl
  split
  · exact Iff.rfl
  · rw [same.current]
    exact ⟨same.symm.child_link, same.child_link⟩

/-- Links are settled alike. -/
theorem SameBut.settle_eq (same : SameBut spot fs fs') (links : Nat) (pending : List Reached)
    (reached : Reached) (todo : List String) :
    fs'.settle links pending reached todo = fs.settle links pending reached todo := by
  fun_induction FileSystem.settle fs links pending reached todo with
  | case1 links pending reached => rw [settle]
  | case2 links pending reached name rest next skipped =>
    rename_i ih
    rw [settle, if_pos skipped]
    exact ih
  | case3 links pending reached name rest next plain target found =>
    rename_i met
    rw [settle, if_neg plain]
    dsimp only
    rw [(same.entryOf_link _ target).mpr found]
    exact if_pos met
  | case4 pending reached name rest next plain target found fresh =>
    rw [settle, if_neg plain]
    dsimp only
    rw [(same.entryOf_link _ target).mpr found]
    exact if_neg fresh
  | case5 pending reached name rest next plain target found fresh fewer start settled inner =>
    rename_i ih_link ih
    subst next start
    rw [dite_eq_ite] at ih_link inner
    rw [settle, if_neg plain]
    dsimp only
    rw [(same.entryOf_link _ target).mpr found]
    dsimp only
    rw [if_neg fresh, ih_link, inner]
    exact ih
  | case6 pending reached name rest next plain target found fresh fewer start stuck inner =>
    rename_i ih_link
    subst next start
    rw [dite_eq_ite] at ih_link inner
    rw [settle, if_neg plain]
    dsimp only
    rw [(same.entryOf_link _ target).mpr found]
    dsimp only
    rw [if_neg fresh, ih_link, inner]
  | case7 links pending reached name rest next plain no_link =>
    rename_i ih
    rw [settle, if_neg plain]
    dsimp only
    split
    · rename_i target found
      exact absurd ((same.entryOf_link _ target).mp found) (no_link target)
    · exact ih

theorem SameBut.find_loop (same : SameBut spot fs fs') (path : String) :
    fs'.find path = .error .loop ↔ fs.find path = .error .loop := by
  have one : ∀ {fs fs' : FileSystem}, SameBut spot fs fs' → fs.find path = .error .loop →
      fs'.find path = .error .loop := by
    intro fs fs' same h
    unfold FileSystem.find at h ⊢
    have alike := reach_alike same .look path
    generalize fs.reach .look path = ending at alike h
    generalize fs'.reach .look path = ending' at alike ⊢
    cases alike with
    | same => exact h
    | directory => cases h
    | atSpot at_spot => cases at_spot <;> cases h
  exact ⟨one same.symm, one same⟩

/-- **Other files**: what is in a file makes no difference to a link-free form. -/
theorem canonicalNames_alike (same : SameBut spot fs fs') (proper : Proper fs.entries)
    (proper' : Proper fs'.entries) (path : String) :
    fs'.canonicalNames path = fs.canonicalNames path := by
  unfold canonicalNames nesting
  rw [same.countLinks_eq proper proper', same.settle_eq, same.current]
  dsimp only
  split
  · rfl
  split
  · rfl
  generalize Path.collapse true _ = names
  have looped := same.find_loop ("/" ++ Path.slashed names)
  split
  · rename_i h
    rw [looped.mp h]
  · rename_i no_loop
    split
    · rename_i h
      exact absurd (looped.mpr h) (fun h => no_loop h)
    · rfl

/-! ## Containment -/

/-- The path has no NUL, and links do not lead it around in a circle. -/
structure Resolvable (fs : FileSystem) (path : String) : Prop where
  no_nul : '\x00' ∉ path.toList
  no_circle : ∀ stuck, fs.canonicalNames (Path.plain path) ≠ .error (.circle stuck)

theorem Resolvable.names (h : Resolvable fs path) :
    (∃ names, fs.canonicalNames (Path.plain path) = .ok names) ∨
      fs.canonicalNames (Path.plain path) = .error (.trouble .missing) := by
  have no_circle := h.no_circle
  unfold canonicalNames at no_circle ⊢
  rw [if_neg (nul_not_mem_plain h.no_nul)] at no_circle ⊢
  dsimp only at no_circle ⊢
  split at no_circle
  · rename_i adrift
    rw [if_pos adrift]
    exact Or.inr rfl
  · rename_i anchored
    rw [if_neg anchored]
    split at no_circle
    · exact absurd rfl (no_circle _)
    · exact Or.inl ⟨_, rfl⟩

/-- A path whose links have an end, and can be looked at, can be resolved. -/
theorem resolvable_of_sighted (orderly : fs.Orderly) (no_nul : '\x00' ∉ path.toList)
    (sighted : fs.Sighted path) : Resolvable fs path := by
  obtain ⟨place, traced⟩ := sighted
  refine ⟨no_nul, fun stuck circle => ?_⟩
  rcases canonicalNames_of_traced orderly (nul_not_mem_plain no_nul)
    (tracedTo_plain.mpr traced) with ⟨-, form⟩ | ⟨-, form⟩
  · rw [form] at circle
    cases circle
  · rw [form] at circle
    cases circle

/-- A path of names to what is no link can be resolved. -/
theorem LeadsTo.resolvable {names : List String} (leads : LeadsTo path names)
    (orderly : fs.Orderly) (found : Entry.at? names fs.entries = some entry)
    (no_link : ∀ target, entry ≠ .link target) : Resolvable fs path :=
  resolvable_of_sighted orderly leads.no_nul (leads.sighted found no_link)

theorem Resolvable.alike (h : Resolvable fs path) (same : SameBut spot fs fs')
    (proper : Proper fs.entries) (proper' : Proper fs'.entries) : Resolvable fs' path := by
  refine ⟨h.no_nul, ?_⟩
  rw [canonicalNames_alike same proper proper']
  exact h.no_circle

/-- A path without a NUL has no link-free form because it starts in a working directory that is gone,
    or because it leads around in a circle. -/
theorem canonicalNames_error {e : Unresolved} (no_nul : '\x00' ∉ path.toList)
    (h : fs.canonicalNames path = .error e) :
    e = .trouble .missing ∨ ∃ stuck, e = .circle stuck := by
  unfold canonicalNames at h
  rw [if_neg no_nul] at h
  dsimp only at h
  split at h
  · exact Or.inl (Except.error.inj h).symm
  · split at h
    · exact Or.inr ⟨_, (Except.error.inj h).symm⟩
    · cases h

/-- Of paths without a NUL it can be told whether one lies in the other, unless one of them leads
    around in a circle. -/
theorem circle_of_isWithin {root : String} {e : Unresolved} (no_nul : '\x00' ∉ path.toList)
    (no_nul_root : '\x00' ∉ root.toList) (h : fs.isWithin path root = .error e) :
    ∃ stuck, e = .circle stuck := by
  have refused : ∀ {e'}, (e' = .trouble .missing ∨ ∃ stuck, e' = .circle stuck) →
      isWithin.refuse e' = .error e → ∃ stuck, e = .circle stuck := by
    rintro _ (rfl | ⟨stuck, rfl⟩) refuses
    · cases refuses
    · exact ⟨stuck, (Except.error.inj refuses).symm⟩
  unfold isWithin at h
  split at h
  · cases h
  · rename_i form
    exact refused (canonicalNames_error (nul_not_mem_plain no_nul_root) form) h
  · rename_i form
    exact refused (canonicalNames_error (nul_not_mem_plain no_nul) form) h

/-- **Containment** can be told of paths that can be resolved. -/
theorem isWithin_of_resolvable {root : String} (h : Resolvable fs path)
    (h' : Resolvable fs root) : ∃ inside, fs.isWithin path root = .ok inside := by
  unfold isWithin
  rcases h'.names with ⟨root_names, form⟩ | form
  · rw [form]
    rcases h.names with ⟨names, form⟩ | form
    · rw [form]
      exact ⟨_, rfl⟩
    · rw [form]
      exact ⟨false, rfl⟩
  · rw [form]
    exact ⟨false, rfl⟩

end FileSystem

end GoWorkbench
