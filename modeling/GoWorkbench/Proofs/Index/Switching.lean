/-
  Switching between workspaces while rebuilds are under way.

  A caller switches from workspace to workspace; each switch starts a thread that rebuilds the
  index for the new one.  A thread takes its number when it comes to run, which may be long after
  it was started, and after threads that were started later.

  1. **Steps** — a switch is `Service.setWorkspace` without its rebuild, and adds a rebuild that
     has been called; the threads take the steps of `Overlap`, with scans that find what
     `Scan.symbols` says.
  2. **Reduction** — forgetting the service, every run is a run of `Overlap`
     (`Switching.Run.rebuilding`), so what holds of the numbers there holds here.
  3. **The invariant** — `Faithful`: what has been scanned is what the scan of its own root finds,
     and the last rebuild called is for the active workspace.
  4. **Once all is quiet**, the index holds the symbols of the workspace whose rebuild took its
     number last.  That is the active one if the thread started last is also the last to take its
     number, and otherwise it need not be.
-/
import GoWorkbench.Proofs.Index.Overlap
import GoWorkbench.Proofs.Scan.Symbols
import GoWorkbench.Proofs.Service.Activation

namespace GoWorkbench

open SymbolIndex

/-! ## Switching -/

/-- A service with the rebuilds that its switches have started. -/
structure Switching where
  service : Service
  rebuilds : List (Rebuild String)

namespace Switching

/-- The index with its rebuilds. -/
def rebuilding (s : Switching) : Rebuilding String := ⟨s.service.index, s.rebuilds⟩

/-- The symbols of a workspace, as they are now. -/
def symbolsOf (s : Service) (root : String) : Except Failure (List Go.Symbol) :=
  Scan.symbols s.host s.index.options root

/-- A scan of a whole workspace in one go. -/
def scanner (s : Service) : Scanner String where
  advances := fun _ _ => False
  ends := fun root outcome => symbolsOf s root = outcome

/-- One step of the caller or of a thread.  The caller may remember the workspace in a file, as
    long as no scan sees it: the file system stands still. -/
inductive Step : Switching → Event → Switching → Prop
  | switch (s : Switching) (path : String) (persist : Bool) (fault : Option Breach)
      (after : Service)
      (returns : s.service.setWorkspace path persist false fault = (.ok path, after))
      (still : ∀ options root,
        Scan.symbols after.host options root = Scan.symbols s.service.host options root) :
      Step s .called ⟨after, s.rebuilds ++ [.called path]⟩
  | thread (s : Switching) (e : Event) (after : Rebuilding String) (ne : e ≠ .called)
      (step : SymbolIndex.Step (scanner s.service) s.rebuilding e after) :
      Step s e ⟨{ s.service with index := after.index }, after.rebuilds⟩

/-- The steps with these events lead from a service without rebuilds to `s`. -/
inductive Run (start : Service) : List Event → Switching → Prop
  | start : Run start [] ⟨start, []⟩
  | step {events : List Event} {s s' : Switching} {e : Event} :
      Run start events s → Step s e s' → Run start (events ++ [e]) s'

variable {first : Service} {events : List Event} {s s' : Switching} {e : Event}

/-! ## Reduction to overlapping rebuilds -/

theorem Step.rebuilding (h : Step s e s') :
    ∃ scanner, SymbolIndex.Step scanner s.rebuilding e s'.rebuilding := by
  cases h with
  | switch path persist fault after returns still =>
    have hindex := (Service.setWorkspace_ok returns).2
    refine ⟨scanner s.service, ?_⟩
    have hs : (Switching.mk after (s.rebuilds ++ [.called path])).rebuilding =
        ⟨s.service.index, s.rebuilds ++ [.called path]⟩ := by
      unfold Switching.rebuilding; rw [hindex]
    rw [hs]
    exact .call s.rebuilding path
  | thread e after ne step => exact ⟨_, step⟩

theorem Run.rebuilding (fresh : first.index = { options := first.index.options })
    (run : Run first events s) : SymbolIndex.Run first.index.options events s.rebuilding := by
  induction run with
  | start =>
    have h : (Switching.mk first []).rebuilding = .fresh first.index.options := by
      unfold Switching.rebuilding Rebuilding.fresh; rw [← fresh]
    rw [h]; exact .start
  | step _ hs ih =>
    obtain ⟨scanner, hstep⟩ := hs.rebuilding
    exact ih.step scanner hstep

/-! ## The invariant -/

/-- What has been scanned is what the scan of its own root finds, and the last rebuild called is
    for the active workspace. -/
structure Faithful (s : Switching) : Prop where
  found : ∀ (i : Nat) (r : Rebuild String) (symbols : List Go.Symbol),
    s.rebuilds[i]? = some r → r.found? = some symbols → symbolsOf s.service r.scan = .ok symbols
  last : ∀ (r : Rebuild String), s.rebuilds[s.rebuilds.length - 1]? = some r →
    s.service.workspace = some r.scan

theorem Faithful.start : Faithful ⟨first, []⟩ where
  found := by intro i r symbols h; cases h
  last := by intro r h; cases h

/-- A thread does not change what a scan is for, because a whole scan has no steps between. -/
theorem scan_of_move {service : Service} {index index' : SymbolIndex} {r r' : Rebuild String}
    (h : Move (scanner service) index r e r' index') : r'.scan = r.scan := by
  cases h with
  | advance n scan after does => exact absurd does id
  | take scan => rfl
  | scan n scan symbols does => rfl
  | fail n scan e does => rfl
  | publish n scan symbols => rfl

/-- A switch calls a rebuild of the workspace that is active after it. -/
theorem Faithful.switch {path : String} {persist : Bool} {after : Service} (h : Faithful s)
    {fault : Option Breach}
    (returns : s.service.setWorkspace path persist false fault = (.ok path, after))
    (still : ∀ options root,
      Scan.symbols after.host options root = Scan.symbols s.service.host options root) :
    Faithful ⟨after, s.rebuilds ++ [.called path]⟩ where
  found := by
    intro i r symbols hr hfound
    have same : symbolsOf after r.scan = symbolsOf s.service r.scan := by
      unfold symbolsOf
      rw [(Service.setWorkspace_ok returns).2, still]
    rw [same]
    rcases getElem?_append_called (s := s.rebuilding) path i with hi | ⟨-, -, hi⟩
    · exact h.found i r symbols (by rw [← hr]; exact hi.symm) hfound
    · have called : r = .called path := Option.some.inj (hr.symm.trans hi)
      rw [called] at hfound
      cases hfound
  last := by
    intro r hr
    have length : (s.rebuilds ++ [Rebuild.called path]).length - 1 = s.rebuilds.length := by
      rw [List.length_append]; rfl
    have hr : (s.rebuilds ++ [Rebuild.called path])[s.rebuilds.length]? = some r := by
      rw [← length]; exact hr
    rw [List.getElem?_concat_length] at hr
    rw [← Option.some.inj hr]
    exact (Service.setWorkspace_ok returns).1

/-- A thread scans for its own root, and changes neither the workspace nor what a scan finds. -/
theorem Faithful.move {i : Nat} {r r' : Rebuild String} {index : SymbolIndex} (h : Faithful s)
    (here : s.rebuilds[i]? = some r)
    (does : Move (scanner s.service) s.service.index r e r' index) :
    Faithful ⟨{ s.service with index }, s.rebuilds.set i r'⟩ where
  found := by
    intro j q symbols hq hfound
    have same : symbolsOf { s.service with index } q.scan = symbolsOf s.service q.scan := by
      show Scan.symbols s.service.host index.options q.scan = _
      rw [does.options_eq]; rfl
    rw [same]
    have hq : (s.rebuilds.set i r')[j]? = some q := hq
    rw [getElem?_set_of_some here] at hq
    by_cases hji : j = i
    · rw [if_pos hji] at hq
      rw [← Option.some.inj hq] at hfound ⊢
      obtain ⟨hscan, hbefore | hends⟩ := does.found hfound
      · rw [hscan]; exact h.found i r symbols here hbefore
      · rw [hscan]; exact hends
    · rw [if_neg hji] at hq
      exact h.found j q symbols hq hfound
  last := by
    intro q hq
    have hq : (s.rebuilds.set i r')[(s.rebuilds.set i r').length - 1]? = some q := hq
    rw [List.length_set, getElem?_set_of_some here] at hq
    show s.service.workspace = some q.scan
    by_cases hji : s.rebuilds.length - 1 = i
    · rw [if_pos hji] at hq
      rw [← Option.some.inj hq, scan_of_move does]
      exact h.last r (by rw [hji]; exact here)
    · rw [if_neg hji] at hq
      exact h.last q hq

theorem Faithful.step (h : Faithful s) (hs : Step s e s') : Faithful s' := by
  cases hs with
  | switch path persist fault after returns still => exact h.switch returns still
  | thread e after ne step =>
    cases step with
    | call scan => exact absurd rfl ne
    | move i here does => exact h.move here does

theorem Run.faithful (run : Run first events s) : Faithful s := by
  induction run with
  | start => exact Faithful.start
  | step _ hs ih => exact ih.step hs

/-! ## Once all is quiet -/

/-- **The index follows the number taken last**: it holds the symbols of the workspace whose rebuild
    took it.  Those are the symbols of the active workspace if the rebuild called last was also the
    last to take its number. -/
theorem snapshot_of_last_number (fresh : first.index = { options := first.index.options })
    (run : Run first events s) (quiet : Quiet s.rebuilding) (switched : s.rebuilds ≠ []) :
    (∃ (i : Nat) (root : String) (published : Bool),
      s.rebuilds[i]? = some (.ended s.service.index.started root s.service.symbols published) ∧
      symbolsOf s.service root = .ok s.service.symbols) ∧
    (s.rebuilding.numberAt (s.rebuilds.length - 1) = some s.service.index.started →
      ∀ active, s.service.workspace = some active →
        symbolsOf s.service active = .ok s.service.symbols) := by
  have below := run.rebuilding fresh
  obtain ⟨i, root, published, hi⟩ := below.quiet_snapshot quiet switched
  have here : s.rebuilds[i]? =
      some (.ended s.service.index.started root s.service.symbols published) := hi
  have found : symbolsOf s.service root = .ok s.service.symbols :=
    run.faithful.found i (.ended s.service.index.started root s.service.symbols published)
      s.service.symbols here rfl
  refine ⟨⟨i, root, published, here, found⟩, fun hlast active hactive => ?_⟩
  -- no two rebuilds have one number, so the one called last is the one whose result is held
  have number : s.rebuilding.numberAt i = some s.service.index.started := numberAt_of_some hi
  have same : s.rebuilds.length - 1 = i :=
    below.numbered.once _ i s.service.index.started hlast number
  have last := run.faithful.last
    (.ended s.service.index.started root s.service.symbols published) (by rw [same]; exact here)
  rw [hactive] at last
  rw [Option.some.inj last]
  exact found

/-! A service that switches to `/a` and then to `/b`, where nothing is.  The thread of the first
    switch is late: it takes its number when the other thread has ended. -/

def sourceOfA : List UInt8 := "package p\nfunc A(){}".toUTF8.toList

def twoTrees : Service where
  config := {}
  platform := .posix
  statePath := "/editor_config.json"
  index := { options := {} }
  host := {
    files := ⟨[("a", .directory [("a.go", .file sourceOfA false)]), ("b", .directory [])], .root⟩
    environment := []
    system := "linux"
    machine := "x86_64"
    temporary := "/tmp" }

def symbolOfA : Go.Symbol := ⟨"A", .function, "/a/a.go", 2, 6⟩

def lateEvents : List Event := [.called, .called, .took 1, .scanned 1, .arrived ⟨1, [], true⟩,
  .took 2, .scanned 2, .arrived ⟨2, [symbolOfA], true⟩]

def late : Switching :=
  ⟨{ twoTrees with
      workspace := some "/b"
      index := { options := {}, started := 2, published := 2, snapshot := [symbolOfA] } },
    [.ended 2 "/a" [symbolOfA] true, .ended 1 "/b" [] true]⟩

theorem sound_twoTrees : twoTrees.host.files.Sound where
  proper := by simp only [twoTrees, Entry.Proper]; decide
  free := FileSystem.linkFree_of_countLinks (by simp [twoTrees, FileSystem.countLinks])
  stands := FileSystem.stands_root _
  names := fun _ h => absurd h List.not_mem_nil

theorem leadsTo_a : FileSystem.LeadsTo "/a" ["a"] := ⟨rfl, rfl, by decide⟩

theorem leadsTo_b : FileSystem.LeadsTo "/b" ["b"] := ⟨rfl, rfl, by decide⟩

/-- Where `/a` has this source and nothing else, a scan without rules finds its symbol. -/
theorem symbols_lone_a {h : Host} {options : Scan.Options} (sound : h.files.Sound)
    (here : Entry.at? ["a"] h.files.entries =
      some (.directory [("a.go", .file sourceOfA false)]))
    (unruled : Scan.hasRules h options (Path.plain "/a") = .ok false) :
    Scan.symbols h options "/a" = .ok [symbolOfA] := by
  have leads : FileSystem.LeadsTo "/a/a.go" ["a", "a.go"] := ⟨rfl, rfl, by decide⟩
  have path : Scan.pathOf "/a" ["a.go"] = "/a/a.go" := rfl
  have passable : FileSystem.Passable (Scan.pathOf "/a" ["a.go"]) := by
    rw [path]; exact leads.passable (by decide) (by decide)
  have outline : Go.outline sourceOfA "/a/a.go" = [symbolOfA] := by decide +kernel
  have absolute : h.absolute (Path.plain "/a") = .ok "/a" := rfl
  rw [Scan.symbols_below_of_unruled unruled absolute leadsTo_a sound,
    Scan.symbolsBelow_of_lone leadsTo_a here (by decide) (by decide) passable, path, outline]

theorem symbols_a : Scan.symbols twoTrees.host {} "/a" = .ok [symbolOfA] :=
  symbols_lone_a sound_twoTrees rfl (Scan.hasRules_of_off _ rfl _)

theorem symbols_b : Scan.symbols twoTrees.host {} "/b" = .ok [] := by
  have here : Entry.at? ["b"] twoTrees.host.files.entries = some (.directory []) := rfl
  have absolute : twoTrees.host.absolute (Path.plain "/b") = .ok "/b" := rfl
  rw [Scan.symbols_eq_below rfl absolute leadsTo_b sound_twoTrees, Scan.symbolsBelow_of_empty here]

/-- A switch to a directory of the top goes well. -/
theorem switch_top {path name : String} {inner : List (String × Entry)} {s : Service}
    (plain : Path.plain path = path) (leads : FileSystem.LeadsTo path [name])
    (passable : FileSystem.Passable path)
    (found : Entry.at? [name] s.host.files.entries = some (.directory inner)) :
    s.setWorkspace path false false = (.ok path, { s with workspace := some path }) := by
  have finds := leads.find passable found (FileSystem.fits_directory _ _)
  exact Service.setWorkspace_of_find leads.ne_empty (by rw [plain]; exact finds)

theorem late_run : Run twoTrees lateEvents late := by
  have passable_a : FileSystem.Passable "/a" := leadsTo_a.passable (by decide) (by decide)
  have passable_b : FileSystem.Passable "/b" := leadsTo_b.passable (by decide) (by decide)
  have to_a : Step ⟨twoTrees, []⟩ .called _ := .switch _ "/a" false none _
    (switch_top rfl leadsTo_a passable_a rfl) fun _ _ => rfl
  have to_b : Step ⟨{ twoTrees with workspace := some "/a" }, [.called "/a"]⟩ .called _ :=
    .switch _ "/b" false none _ (switch_top rfl leadsTo_b passable_b rfl) fun _ _ => rfl
  have switched : Run twoTrees [.called, .called] _ := (Run.start.step to_a).step to_b
  -- the thread of `/b` comes first and has all of its steps
  have took_b := switched.step (.thread _ _ _ Event.noConfusion (.move _ 1 rfl (.take "/b")))
  have scanned_b := took_b.step (.thread _ _ _ Event.noConfusion
    (.move _ 1 rfl (.scan 1 "/b" [] symbols_b)))
  have ended_b := scanned_b.step (.thread _ _ _ Event.noConfusion
    (.move _ 1 rfl (.publish 1 "/b" [])))
  have took_a := ended_b.step (.thread _ _ _ Event.noConfusion (.move _ 0 rfl (.take "/a")))
  have scanned_a := took_a.step (.thread _ _ _ Event.noConfusion
    (.move _ 0 rfl (.scan 2 "/a" [symbolOfA] symbols_a)))
  exact scanned_a.step (.thread _ _ _ Event.noConfusion
    (.move _ 0 rfl (.publish 2 "/a" [symbolOfA])))

theorem late_quiet : Quiet late.rebuilding := by
  intro r hr
  rcases List.mem_cons.mp hr with rfl | hr
  · rfl
  · rw [List.mem_singleton.mp hr]; rfl

theorem snapshot_of_last_number_late : Run twoTrees lateEvents late ∧ Quiet late.rebuilding ∧
    ∃ (i : Nat) (root : String) (published : Bool),
      late.rebuilds[i]? = some (.ended 2 root [symbolOfA] published) ∧
      symbolsOf late.service root = .ok [symbolOfA] := by
  obtain ⟨⟨i, root, published, hi, hroot⟩, -⟩ :=
    snapshot_of_last_number rfl late_run late_quiet (List.cons_ne_nil _ _)
  exact ⟨late_run, late_quiet, i, root, published, hi, hroot⟩

/-- **The index need not follow the active workspace**: a thread that was started before the last
    switch can be the last to take its number. -/
theorem not_symbols_of_active :
    ¬ ∀ (first : Service) (events : List Event) (s : Switching),
      first.index = { options := first.index.options } → Run first events s →
      Quiet s.rebuilding → ∀ active, s.service.workspace = some active →
      symbolsOf s.service active = .ok s.service.symbols := by
  intro always
  have here := always twoTrees lateEvents late rfl late_run late_quiet "/b" rfl
  have there : symbolsOf late.service "/b" = .ok [] := symbols_b
  rw [there] at here
  exact absurd (Except.ok.inj here) (by decide)

end Switching

end GoWorkbench
