/-
  What the operations of a service write, and which rebuilds are due after it.

  1. **Dues** — a rebuild is due after a file has been written exactly if the path is a source and
     leads into the active workspace (`rebuildDue_eq`).  A path from a working directory that is
     gone leads into none (`rebuildDue_adrift`).
  2. **Places that no scan sees** — a change where no route leads is not seen (`Hidden`).  Such are
     all places outside the workspace, all files that are no sources, and all files in directories
     that are not descended into.
  3. **Operations** — what saving, getting ready to run and cleaning up after a run change, and that
     they leave the workspace and the index alone (`Keeps`).
-/
import GoWorkbench.Proofs.Host
import GoWorkbench.Proofs.Scan.Symbols
import GoWorkbench.Service.Run

namespace GoWorkbench

open Entry FileSystem

namespace Service

variable {s after : Service} {root path : String} {skipped names : List String}

/-! ## Dues -/

/-- The path is a source of the root, by the names that both lead to. -/
def isOwn (root : List String) (path : String) (names : List String) : Bool :=
  Path.isGoSource path && root.isPrefixOf names

/-- Only the active workspace can be out of date. -/
theorem eq_of_rebuildDue {due : String} (h : s.rebuildDue path = .ok (some due)) :
    s.workspace = some due := by
  unfold rebuildDue at h
  split at h
  · cases h
  · rename_i root hroot
    split at h
    · cases h
    · rcases hwithin : s.host.isWithin path root with e | inside
      · rw [hwithin] at h; cases h
      · rw [hwithin] at h
        cases inside with
        | false => cases h
        | true => rw [hroot, Option.some.inj (Except.ok.inj h)]

theorem rebuildDue_of_within {inside : Bool} (active : s.workspace = some root)
    (within : s.host.isWithin path root = .ok inside) :
    s.rebuildDue path = .ok (if Path.isGoSource path && inside then some root else none) := by
  unfold rebuildDue
  rw [active]
  dsimp only
  rw [within]
  cases Path.isGoSource path with
  | false => rfl
  | true => cases inside <;> rfl

/-- **What is due**: a rebuild of the active workspace, if the path is a source in it. -/
theorem rebuildDue_eq (active : s.workspace = some root) (sound : s.host.files.Sound)
    (absolute : Path.isAbsolute root = true) (root_no_nul : '\x00' ∉ root.toList)
    (anchored : s.host.files.Anchored path) (path_no_nul : '\x00' ∉ path.toList) :
    s.rebuildDue path =
      .ok (if isOwn (s.host.files.spot root) path (s.host.files.spot path) then some root
        else none) := by
  have within : s.host.isWithin path root =
      .ok ((s.host.files.spot root).isPrefixOf (s.host.files.spot path)) := by
    unfold Host.isWithin
    rw [isWithin_eq sound.free sound.solid path_no_nul root_no_nul anchored (Or.inl absolute)]
  exact rebuildDue_of_within active within

/-- What starts in a working directory that is gone makes no rebuild due. -/
theorem rebuildDue_adrift (active : s.workspace = some root) (sound : s.host.files.Sound)
    (absolute : Path.isAbsolute root = true) (root_no_nul : '\x00' ∉ root.toList)
    (adrift : ¬ s.host.files.Anchored path) (path_no_nul : '\x00' ∉ path.toList) :
    s.rebuildDue path = .ok none := by
  have within : s.host.isWithin path root = .ok false := by
    unfold Host.isWithin
    rw [isWithin_adrift sound.free sound.solid path_no_nul root_no_nul adrift (Or.inl absolute)]
  rw [rebuildDue_of_within active within, Bool.and_false]
  rfl

/-! ## Places that no scan sees -/

/-- No route from the root leads to the names. -/
def Hidden (skipped root names : List String) : Prop :=
  ∀ route, Scan.IsRoute skipped route → names ≠ root ++ route

/-- A change at a hidden place is not seen. -/
theorem sameSources_of_hidden {root : List String} {fs fs' : FileSystem}
    (changed : Changed names fs fs') (hidden : Hidden skipped root names) :
    Scan.SameSources skipped root fs fs' := fun route hroute =>
  changed.others _ fun he => hidden route hroute he.symm

/-- The file of a path is hidden, unless it is a source of the root. -/
theorem hidden_of_not_own {root front : List String} {name : String}
    (last : names = front ++ [name]) (same : Path.isGoSource path = Path.isGoSource name)
    (foreign : isOwn root path names = false) : Hidden skipped root names := by
  rintro route ⟨-, end_, hend, hgo⟩ rfl
  have hlast : (root ++ route).getLast? = some end_ := by
    rw [List.getLast?_append, hend]; rfl
  rw [last, List.getLast?_concat] at hlast
  unfold isOwn at foreign
  rw [same, Option.some.inj hlast, hgo,
    List.isPrefixOf_iff_prefix.mpr (List.prefix_append root route)] at foreign
  cases foreign

/-- The directory is none that a scan of the root descends into. -/
def Apart (skipped root directory : List String) : Prop :=
  ∀ rest, Scan.Entered skipped rest → directory ≠ root ++ rest

/-- What is in a directory apart is hidden. -/
theorem hidden_of_apart {root directory : List String} (apart : Apart skipped root directory)
    (name : String) : Hidden skipped root (directory ++ [name]) := by
  rintro route hroute heq
  rcases List.eq_nil_or_concat route with rfl | ⟨before, last, rfl⟩
  · exact hroute.ne_nil rfl
  · rw [List.concat_eq_append] at heq hroute
    rw [← List.append_assoc] at heq
    refine apart before (fun n hn => hroute.through n ?_) (List.append_inj' heq rfl).1
    rw [List.dropLast_concat]; exact hn

/-- What has been written is hidden, unless the path is a source of the root. -/
theorem sameSources_of_written {root : List String} {fs fs' : FileSystem}
    (written : Written path fs fs') (foreign : isOwn root path (fs.spot path) = false) :
    Scan.SameSources skipped root fs fs' := by
  obtain ⟨front, name, last, same⟩ := written.last
  exact sameSources_of_hidden written.changed (hidden_of_not_own last same foreign)

/-- Nothing but files directly in the directory differs. -/
structure Aside (directory : List String) (fs fs' : FileSystem) : Prop where
  sound : fs'.Sound
  others : ∀ other, (∀ name, other ≠ directory ++ [name]) →
    fileAt other fs'.entries = fileAt other fs.entries

variable {directory : List String} {fs fs' fs'' : FileSystem}

theorem Aside.refl (sound : fs.Sound) : Aside directory fs fs := ⟨sound, fun _ _ => rfl⟩

theorem Aside.trans (h : Aside directory fs fs') (h' : Aside directory fs' fs'') :
    Aside directory fs fs'' :=
  ⟨h'.sound, fun other hother => (h'.others other hother).trans (h.others other hother)⟩

theorem Aside.of_changed {name : String} (changed : Changed (directory ++ [name]) fs fs') :
    Aside directory fs fs' :=
  ⟨changed.sound, fun other hother => changed.others other (hother name)⟩

theorem Aside.sameSources {root : List String} (aside : Aside directory fs fs')
    (apart : Apart skipped root directory) : Scan.SameSources skipped root fs fs' :=
  fun route hroute => aside.others _ fun name he =>
    hidden_of_apart apart name route hroute he.symm

/-! ## Operations -/

/-- The workspace, the index and the directory for scratch files are as before. -/
structure Keeps (s after : Service) : Prop where
  workspace : after.workspace = s.workspace
  index : after.index = s.index
  temporary : after.host.temporary = s.host.temporary

theorem Keeps.refl (s : Service) : Keeps s s := ⟨rfl, rfl, rfl⟩

theorem Keeps.trans {between : Service} (h : Keeps s between) (h' : Keeps between after) :
    Keeps s after :=
  ⟨h'.workspace.trans h.workspace, h'.index.trans h.index, h'.temporary.trans h.temporary⟩

theorem write_keeps (s : Service) (path : String) (data : List UInt8) (fault : Option Breach) :
    Keeps s { s with host := (s.host.write path data fault).2 } := by
  rcases s.host.write_cases path data fault with ⟨t, -, is⟩ | ⟨files, -, is⟩ <;> rw [is]
  · exact .refl s
  · exact ⟨rfl, rfl, rfl⟩

theorem writeText_keeps (s : Service) (path : String) (content : Text.CodePoints)
    (fault : Option Breach) : Keeps s (s.writeText path content fault).2 := by
  unfold writeText
  dsimp only
  split <;> exact write_keeps s path _ fault

/-- Saving a file that goes well writes it. -/
theorem writeText_ok {content : Text.CodePoints} {fault : Option Breach}
    (sound : s.host.files.Sound) (h : s.writeText path content fault = (.ok (), after)) :
    Keeps s after ∧ Written path s.host.files after.host.files := by
  have keeps := writeText_keeps s path content fault
  rw [h] at keeps
  refine ⟨keeps, ?_⟩
  unfold writeText at h
  dsimp only at h
  split at h
  · cases h
  · obtain ⟨opened, rfl⟩ := Prod.mk.inj h
    exact written_of_write sound (Host.write_ok (Prod.ext opened rfl)).2

/-- Nothing but letters, digits, a line and a dot is in the name of a scratch file. -/
theorem isName_scratchName (n : Nat) : IsName (scratchName n) := by
  have text : (scratchName n).toList = "main_s".toList ++ (Nat.toDigits 10 n ++ ".go".toList) := by
    unfold scratchName
    simp [toString, Nat.repr]
  have absent : ∀ c, c ∉ "main_s".toList → c ∉ ".go".toList → c.isDigit = false →
      c ∉ (scratchName n).toList := by
    intro c hfront hback hdigit
    rw [text, List.mem_append, List.mem_append, not_or, not_or]
    refine ⟨hfront, fun hmem => ?_, hback⟩
    rw [Nat.isDigit_of_mem_toDigits (by decide) (by decide) hmem] at hdigit
    cases hdigit
  have differs : ∀ other : String, other.toList.head? ≠ some 'm' → scratchName n ≠ other := by
    rintro other hhead rfl
    rw [text] at hhead
    exact hhead rfl
  exact ⟨differs "" (by decide), differs "." (by decide), differs ".." (by decide),
    absent '/' (by decide) (by decide) (by decide),
    absent '\x00' (by decide) (by decide) (by decide)⟩

/-- The path of a scratch file leads into the directory for them. -/
theorem lead_scratchPath {temporary : String} (absolute : Path.isAbsolute temporary = true)
    (n : Nat) : Path.isAbsolute (scratchPath temporary n) = true ∧
      lead .root (scratchPath temporary n) = lead .root temporary ++ [scratchName n] := by
  have some_temporary : temporary ≠ "" := by rintro rfl; cases absolute
  have isName := isName_scratchName n
  obtain ⟨habs, hcomponents, -⟩ :=
    join_slashed some_temporary (List.cons_ne_nil (scratchName n) []) fun m hm => by
      rw [List.mem_singleton.mp hm]; exact isName
  rw [Path.slashed_singleton] at habs hcomponents
  unfold scratchPath
  refine ⟨habs.trans absolute, ?_⟩
  rw [lead_root, lead_root, hcomponents]
  unfold steps
  rw [List.foldl_append, List.foldl_cons, List.foldl_nil, step_name isName]

/-- Making a scratch file makes one, or changes nothing but the number of names tried. -/
theorem makeScratch_cases (h : Host) (data : List UInt8) (tries : Nat) :
    (makeScratch h data tries).2.temporary = h.temporary ∧
      ((∃ text, (makeScratch h data tries).1 = .error text ∧
          (makeScratch h data tries).2.files = h.files) ∨
        ∃ n, (makeScratch h data tries).1 = .ok (Path.normalize (scratchPath h.temporary n)) ∧
          h.files.createNew (scratchPath h.temporary n) data =
            .ok (makeScratch h data tries).2.files) := by
  induction tries generalizing h with
  | zero =>
    rw [makeScratch]
    exact ⟨rfl, Or.inl ⟨_, rfl, rfl⟩⟩
  | succ tries ih =>
    rw [makeScratch]
    dsimp only
    split
    · rename_i files hfiles
      refine ⟨rfl, Or.inr ⟨h.scratchNames + 1, ?_, hfiles⟩⟩
      rfl
    · exact ih { h with scratchNames := h.scratchNames + 1 }
    · exact ⟨rfl, Or.inl ⟨_, rfl, rfl⟩⟩

theorem removeScratch_keeps (s : Service) (path : String) (refusal : Option Trouble) :
    Keeps s (s.removeScratch path refusal) := by
  unfold removeScratch
  split
  · exact ⟨rfl, rfl, rfl⟩
  · exact .refl s
  · exact ⟨rfl, rfl, rfl⟩

/-- Removing a scratch file changes what is in its directory. -/
theorem removeScratch_aside {name : String} {refusal : Option Trouble}
    (sound : s.host.files.Sound) (leads : LeadsTo path (directory ++ [name])) :
    Aside directory s.host.files (s.removeScratch path refusal).host.files := by
  unfold removeScratch
  split
  · rename_i files hfiles
    obtain rfl := not_refused hfiles
    have changed := changed_remove sound hfiles
    rw [leads.spot] at changed
    exact .of_changed changed
  · exact .refl sound
  · exact .refl sound

/-- The code has no path, so it is run in a scratch file. -/
def needsScratch (job : RunJob) : Prop := (job.path.filter fun p => !p.isEmpty) = none

/-- A path that is not empty is the one the code is written to. -/
theorem path_kept {job : RunJob} {path : String} (given : job.path = some path)
    (some_path : path ≠ "") : (job.path.filter fun p => !p.isEmpty) = some path := by
  rw [given]
  exact Option.filter_eq_some_iff.mpr ⟨rfl, by simp [some_path]⟩

/-- What is known of a run whose child has been launched: the file has been written, and a scratch
    file lies in the directory for them. -/
inductive Launched (job : RunJob) (temporary : String) (run : PendingRun) (fs fs' : FileSystem) :
    Prop
  | file (plain : run.isScratch = false) (absolute : Path.isAbsolute run.file = true)
      (written : Written run.file fs fs')
  | scratch (name : String) (needed : needsScratch job) (scratch : run.isScratch = true)
      (leads : LeadsTo run.file (lead .root temporary ++ [name]))
      (aside : Aside (lead .root temporary) fs fs')

theorem prepareFile_keeps (s : Service) (toolchain path : String) (settings : Settings)
    (data : List UInt8) (fault : Option Breach) :
    Keeps s (s.prepareFile toolchain path settings data fault).2 := by
  unfold prepareFile
  split
  · exact .refl s
  · rename_i file _
    have keeps := write_keeps s file data fault
    dsimp only
    split
    · split <;> exact keeps
    · split
      · exact keeps
      · exact keeps.trans ⟨rfl, rfl, rfl⟩

/-- Getting ready to run a file writes it, or changes nothing unless the writing is broken off. -/
theorem prepareFile_ok {toolchain : String} {settings : Settings} {data : List UInt8}
    {fault : Option Breach} {phase : Phase RunResult PendingRun} (sound : s.host.files.Sound)
    (h : s.prepareFile toolchain path settings data fault = (.ok phase, after)) :
    match phase with
      | .answered _ => fault = none → after.host.files = s.host.files
      | .waiting run => run.isScratch = false ∧ Path.isAbsolute run.file = true ∧
          Written run.file s.host.files after.host.files := by
  unfold prepareFile at h
  split at h
  · cases h
  · rename_i file hfile
    have absolute : Path.isAbsolute file = true := by
      unfold Host.absolute at hfile
      split at hfile
      · rename_i text htext
        rw [← Except.ok.inj hfile]; exact isAbsolute_of_absolute htext
      · cases hfile
    rcases opened : s.host.write file data fault with ⟨e | ⟨⟩, host⟩
    · rw [opened] at h
      dsimp only at h
      split at h
      · cases h
        rintro rfl
        exact congrArg Host.files (Host.write_error opened)
      · cases h
    · rw [opened] at h
      dsimp only at h
      split at h
      · cases h
      · cases h
        exact ⟨rfl, absolute, written_of_write sound (Host.write_ok opened).2⟩

theorem prepareScratch_keeps (s : Service) (toolchain : String) (settings : Settings)
    (data : List UInt8) (fault : Option Breach) (refusal : Option Trouble) :
    Keeps s (s.prepareScratch toolchain settings data fault refusal).2 := by
  have temporary := (makeScratch_cases s.host (Breach.kept fault data) maxScratchNames).1
  unfold prepareScratch
  generalize makeScratch s.host (Breach.kept fault data) maxScratchNames = made at temporary ⊢
  obtain ⟨made, host⟩ := made
  have keeps : Keeps s { s with host } := ⟨rfl, rfl, temporary⟩
  dsimp only
  split
  · exact keeps
  · exact keeps.trans (removeScratch_keeps _ _ _)
  · exact keeps.trans (removeScratch_keeps _ _ _)
  · exact ⟨rfl, rfl, temporary⟩

/-- Getting ready to run code without a file changes what is in the directory for scratch files. -/
theorem prepareScratch_ok {toolchain : String} {settings : Settings} {data : List UInt8}
    {fault : Option Breach} {refusal : Option Trouble} {phase : Phase RunResult PendingRun}
    (sound : s.host.files.Sound) (absolute : Path.isAbsolute s.host.temporary = true)
    (h : s.prepareScratch toolchain settings data fault refusal = (.ok phase, after)) :
    Aside (lead .root s.host.temporary) s.host.files after.host.files ∧
      ∀ run, phase = .waiting run → run.isScratch = true ∧
        ∃ name, LeadsTo run.file (lead .root s.host.temporary ++ [name]) := by
  obtain ⟨-, hmade⟩ := makeScratch_cases s.host (Breach.kept fault data) maxScratchNames
  unfold prepareScratch at h
  generalize makeScratch s.host (Breach.kept fault data) maxScratchNames = made at h hmade
  obtain ⟨made, host⟩ := made
  dsimp only at h hmade
  rcases hmade with ⟨text, rfl, hfiles⟩ | ⟨n, rfl, hcreate⟩
  · cases h
    refine ⟨?_, by rintro run ⟨⟩⟩
    show Aside _ _ host.files
    rw [hfiles]; exact .refl sound
  · obtain ⟨changed, no_nul⟩ := changed_createNew sound hcreate
    obtain ⟨habs, hlead⟩ := lead_scratchPath absolute n
    rw [spot_of_absolute habs, hlead] at changed
    have leads : LeadsTo (Path.normalize (scratchPath s.host.temporary n))
        (lead .root s.host.temporary ++ [scratchName n]) := by
      rw [← hlead, ← spot_of_absolute habs s.host.files]
      exact leadsTo_normalize habs no_nul
    have made : Aside (lead .root s.host.temporary) s.host.files host.files :=
      .of_changed changed
    rcases fault with _ | ⟨text | text | text, written⟩
    · -- the child has been launched
      cases h
      refine ⟨made, ?_⟩
      rintro run ⟨⟩
      exact ⟨rfl, scratchName n, leads⟩
    · -- it cannot be launched, so the file that has been made goes at once
      cases h
      have removed := @removeScratch_aside { s with host } _ _ _ refusal changed.sound leads
      exact ⟨made.trans removed, by rintro run ⟨⟩⟩
    · cases h
    · cases h

/-- Code with a path is written to its file. -/
theorem prepareRun_of_path {job : RunJob} {fault : Option Breach} {refusal : Option Trouble}
    {toolchain path : String} {data : List UInt8}
    (located : s.locate job.settings = .ok toolchain) (encodes : job.code.encode = .ok data)
    (given : job.path = some path) (some_path : path ≠ "") :
    s.prepareRun job fault refusal =
      s.prepareFile toolchain path (s.withRoot job.settings) data fault := by
  unfold prepareRun
  dsimp only
  rw [located, encodes, path_kept given some_path]

theorem prepareRun_keeps (s : Service) (job : RunJob) (fault : Option Breach)
    (refusal : Option Trouble) : Keeps s (s.prepareRun job fault refusal).2 := by
  unfold prepareRun
  dsimp only
  split
  · exact .refl s
  · split
    · exact .refl s
    · exact .refl s
    · exact prepareFile_keeps s _ _ _ _ _
    · exact prepareScratch_keeps s _ _ _ _ _

/-- **Getting ready to run** changes the file that is run, or what is in the directory for scratch
    files if the code has no path.  Nothing breaks off the writing of code with a path here. -/
theorem prepareRun_ok {job : RunJob} {fault : Option Breach} {refusal : Option Trouble}
    {phase : Phase RunResult PendingRun} (sound : s.host.files.Sound)
    (absolute : needsScratch job → Path.isAbsolute s.host.temporary = true)
    (unbroken : needsScratch job ∨ fault = none)
    (h : s.prepareRun job fault refusal = (.ok phase, after)) :
    Keeps s after ∧ match phase with
      | .answered _ => after.host.files = s.host.files ∨
        needsScratch job ∧ Aside (lead .root s.host.temporary) s.host.files after.host.files
      | .waiting run => Launched job s.host.temporary run s.host.files after.host.files := by
  have keeps := prepareRun_keeps s job fault refusal
  rw [h] at keeps
  refine ⟨keeps, ?_⟩
  unfold prepareRun at h
  dsimp only at h
  split at h
  · cases h
  · split at h
    · cases h; exact Or.inl rfl
    · cases h; exact Or.inl rfl
    · rename_i given
      have whole : fault = none := by
        refine unbroken.resolve_left fun needed => ?_
        cases (show _ = none from needed).symm.trans given
      have hphase := prepareFile_ok sound h
      cases phase with
      | answered r => exact Or.inl (hphase whole)
      | waiting run => exact .file hphase.1 hphase.2.1 hphase.2.2
    · rename_i needed
      obtain ⟨aside, hphase⟩ := prepareScratch_ok sound (absolute needed) h
      cases phase with
      | answered r => exact Or.inr ⟨needed, aside⟩
      | waiting run =>
        obtain ⟨scratch, name, leads⟩ := hphase run rfl
        exact .scratch name needed scratch leads aside

theorem reportEnding_files (s : Service) (program : String) (ending : Ending) :
    Keeps s (s.reportEnding program ending) ∧
      (s.reportEnding program ending).host.files = s.host.files := by
  unfold reportEnding
  split
  · exact ⟨⟨rfl, rfl, rfl⟩, rfl⟩
  · exact ⟨.refl s, rfl⟩

theorem settleRun_keeps (s : Service) (run : PendingRun) (ending : Ending)
    (refusal : Option Trouble) : Keeps s (s.settleRun run ending refusal) := by
  obtain ⟨keeps, -⟩ := reportEnding_files s run.launch.program ending
  unfold settleRun
  dsimp only
  split
  · exact keeps.trans (removeScratch_keeps _ _ _)
  · exact keeps

/-- After a run of a file with a path nothing is cleaned up. -/
theorem settleRun_files {run : PendingRun} (plain : run.isScratch = false) (ending : Ending)
    (refusal : Option Trouble) :
    (s.settleRun run ending refusal).host.files = s.host.files := by
  unfold settleRun
  dsimp only
  rw [plain]
  exact (reportEnding_files s run.launch.program ending).2

/-- **Cleaning up** after a run removes a scratch file, and changes nothing after other runs. -/
theorem settleRun_ok {run : PendingRun} (directory : List String) (ending : Ending)
    (refusal : Option Trouble) (sound : s.host.files.Sound) :
    Keeps s (s.settleRun run ending refusal) ∧
      (run.isScratch = false → (s.settleRun run ending refusal).host.files = s.host.files) ∧
      ∀ name, LeadsTo run.file (directory ++ [name]) →
        Aside directory s.host.files (s.settleRun run ending refusal).host.files := by
  refine ⟨settleRun_keeps s run ending refusal, fun plain => settleRun_files plain ending refusal,
    fun name leads => ?_⟩
  obtain ⟨-, same⟩ := reportEnding_files s run.launch.program ending
  unfold settleRun
  dsimp only
  generalize s.reportEnding run.launch.program ending = reported at same ⊢
  rw [← same] at sound ⊢
  split
  · exact removeScratch_aside sound leads
  · exact .refl sound

/-- Commands and reports write nothing. -/
theorem prepareCommand_keeps (s : Service) (job : CommandJob) :
    Keeps s (s.prepareCommand job).2 := by
  unfold prepareCommand
  split
  · exact .refl s
  · dsimp only
    split
    · exact .refl s
    · exact ⟨rfl, rfl, rfl⟩

theorem finishCommand_keeps (s : Service) (launch : Launch) (ending : Ending) :
    Keeps s (s.finishCommand launch ending).2 := by
  obtain ⟨keeps, -⟩ := reportEnding_files s launch.program ending
  unfold finishCommand
  dsimp only
  split <;> exact keeps

theorem prepareReport_keeps (s : Service) (root : Option String) :
    Keeps s (s.prepareReport root).2 := by
  unfold prepareReport
  dsimp only
  split
  · exact .refl s
  · exact ⟨rfl, rfl, rfl⟩

theorem finishReport_keeps (s : Service) (launch : Launch) (ending : Ending) :
    Keeps s (s.finishReport launch ending).2 := by
  obtain ⟨keeps, -⟩ := reportEnding_files s launch.program ending
  unfold finishReport
  dsimp only
  split <;> exact keeps

end Service

end GoWorkbench
