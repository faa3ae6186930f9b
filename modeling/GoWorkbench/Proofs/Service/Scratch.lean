/-
  Scratch files leave no trace.

  Code without a path is run in a scratch file, made where nothing was.  The file goes when the
  child has ended, whatever has happened meanwhile, as long as it is still found by its path and the
  system lets it go.

  1. **Names** — the path of a scratch file in a directory that is given in its normal form is the
     path that the file is removed by (`normalize_scratchPath`).
  2. **Making** — a scratch file is made where nothing was, in the directory for them, and removing
     it at once restores the file system (`made_of_createNew`).
  3. **Removing** — a child that leaves the directory in its place leaves the file system so that
     nothing is at the path once the scratch file has been removed (`Made.removed`).
  4. **Traces** — a run in a scratch file leaves none, and if it does not come to a launch it leaves
     every file as it was (`run_leaves_no_trace`).
-/
import GoWorkbench.Proofs.Path.Normal
import GoWorkbench.Proofs.Service.Answers

namespace GoWorkbench

open Entry FileSystem

/-! ## Names -/

namespace Path

theorem isAbsolute_slashed_names {names : List String} (valid : ∀ n ∈ names, IsName n) :
    isAbsolute (slashed names) = false := by
  cases names with
  | nil => rfl
  | cons first rest =>
    obtain ⟨nonempty, -, -, no_slash, -⟩ := valid first List.mem_cons_self
    exact isAbsolute_slashed nonempty no_slash rest

/-- A path of names from the root is in its normal form. -/
theorem normalize_slashed {root : String} (is_root : root = "/" ∨ root = "//")
    {names : List String} (valid : ∀ n ∈ names, IsName n) :
    normalize (root ++ slashed names) = root ++ slashed names := by
  have formed : Formed root names := {
    slashes := .inr is_root
    kept := .of_solid fun n hn => solid_of_isName (valid n (List.mem_reverse.mp hn))
    no_slash := fun n hn => (valid n hn).2.2.2.1 }
  refine formed.normal fun none => ?_
  rcases is_root with rfl | rfl
  · exact absurd (String.append_eq_empty_iff.mp none).1 (by decide)
  · exact absurd (String.append_eq_empty_iff.mp none).1 (by decide)

/-- A path from the root that is in its normal form is one of names from the root. -/
theorem slashed_of_normal {path : String} (absolute : isAbsolute path = true)
    (normal : normalize path = path) (no_nul : '\x00' ∉ path.toList) :
    ∃ root names, (root = "/" ∨ root = "//") ∧ (∀ n ∈ names, IsName n) ∧
      path = root ++ slashed names := by
  obtain ⟨is_root, is⟩ := normalize_rooted absolute
  exact ⟨rootOf path, collapse true (parts path), is_root,
    fun n hn => isName_of_mem_collapse no_nul hn, normal.symm.trans is⟩

theorem isAbsolute_name {name : String} (isName : IsName name) : isAbsolute name = false := by
  rw [← slashed_singleton name]
  exact isAbsolute_slashed isName.1 isName.2.2.2.1 []

/-- One name more. -/
theorem join_rooted {root name : String} (is_root : root = "/" ∨ root = "//") {names : List String}
    (valid : ∀ n ∈ names, IsName n) (isName : IsName name) :
    join (root ++ slashed names) name = root ++ slashed (names ++ [name]) := by
  have base_root : base root = root := by rcases is_root with rfl | rfl <;> rfl
  rw [join_of_relative (isAbsolute_name isName)]
  by_cases none : names = []
  · rw [none, show slashed [] = "" from rfl, String.append_empty, List.nil_append,
      slashed_singleton, base_root]
  · have some_root : root ≠ "" := by rcases is_root with rfl | rfl <;> decide
    obtain ⟨-, -, plain⟩ := join_slashed some_root none valid
    rw [join_of_relative (isAbsolute_slashed_names valid), base_root] at plain
    have base_text : base (root ++ slashed names) = root ++ slashed names ++ "/" := by
      unfold base
      rw [if_neg ?_]
      simp only [Bool.or_eq_true, decide_eq_true_eq, String.isEmpty_iff, not_or]
      exact ⟨by simp [some_root], of_decide_eq_false plain⟩
    rw [base_text, slashed_append none (List.cons_ne_nil _ _), slashed_singleton]
    simp only [String.append_assoc]

end Path

namespace Service

variable {s after : Service} {job : RunJob} {fault : Option Breach} {temporary path : String}
  {data : List UInt8} {fs fs' : FileSystem} {n : Nat} {location : Place}
  {child : Launch → Service → Ending × Service}

/-- The path of a scratch file is in its normal form, if that of its directory is. -/
theorem normalize_scratchPath (absolute : Path.isAbsolute temporary = true)
    (normal : Path.normalize temporary = temporary) (no_nul : '\x00' ∉ temporary.toList) (n : Nat) :
    Path.normalize (scratchPath temporary n) = scratchPath temporary n := by
  obtain ⟨root, names, is_root, valid, text⟩ := Path.slashed_of_normal absolute normal no_nul
  have isName := isName_scratchName n
  unfold scratchPath
  rw [text, Path.join_rooted is_root valid isName]
  refine Path.normalize_slashed is_root fun m hm => ?_
  rcases List.mem_append.mp hm with hm | hm
  · exact valid m hm
  · rw [List.mem_singleton.mp hm]
    exact isName

/-- The path is that of a directory and goes on with a name. -/
structure InDirectory (directory path name : String) : Prop where
  absolute : Path.isAbsolute path = true
  components : components path = components directory ++ [name]
  plain : endsInSlash path = false
  size : directory.utf8ByteSize ≤ path.utf8ByteSize
  text : ∀ c ∈ directory.toList, c ∈ path.toList

theorem inDirectory_scratchPath (absolute : Path.isAbsolute temporary = true) (n : Nat) :
    InDirectory temporary (scratchPath temporary n) (scratchName n) := by
  have some_temporary : temporary ≠ "" := by rintro rfl; cases absolute
  have isName := isName_scratchName n
  obtain ⟨isAbsolute, components, plain⟩ :=
    join_slashed some_temporary (List.cons_ne_nil (scratchName n) []) fun m hm => by
      rw [List.mem_singleton.mp hm]; exact isName
  have relative := Path.isAbsolute_name isName
  rw [Path.slashed_singleton] at isAbsolute components plain
  unfold scratchPath
  refine ⟨isAbsolute.trans absolute, components, plain, ?_, fun c hc => ?_⟩
  · rw [Path.join_of_relative relative, String.utf8ByteSize_append]
    unfold Path.base
    split
    · omega
    · rw [String.utf8ByteSize_append]; omega
  · rw [Path.join_of_relative relative, String.toList_append]
    unfold Path.base
    split
    · exact List.mem_append_left _ hc
    · rw [String.toList_append]
      exact List.mem_append_left _ (List.mem_append_left _ hc)

/-! ## Making -/

/-- A scratch file has been made at a free name of the directory for them. -/
structure Made (temporary : String) (n : Nat) (location : Place) (fs fs' : FileSystem) : Prop where
  opens : ∃ inner, fs'.find temporary = .ok (location, .directory inner)
  naming : Naming (scratchName n)
  normal : Path.normalize (scratchPath temporary n) = scratchPath temporary n
  free : Entry.at? (location.names ++ [scratchName n]) fs.entries = none
  same : SameBut (location.names ++ [scratchName n]) fs fs'
  removes : fs'.remove (scratchPath temporary n) = .ok fs

/-- **Making**: a scratch file lies in the directory for them, and can be removed again. -/
theorem made_of_createNew (stands : Stands fs.entries fs.current)
    (absolute : Path.isAbsolute temporary = true) (normal : Path.normalize temporary = temporary)
    (h : fs.createNew (scratchPath temporary n) data = .ok fs') :
    ∃ location, Made temporary n location fs fs' := by
  have inDirectory := inDirectory_scratchPath absolute n
  have some_temporary : temporary ≠ "" := by rintro rfl; cases absolute
  obtain ⟨spot, free, same, looked, removes⟩ := remove_of_createNew stands inDirectory.plain h
  obtain ⟨no_nul, -⟩ := reach_eq_walk looked
  have no_nul' : '\x00' ∉ temporary.toList := fun hc => no_nul (inDirectory.text _ hc)
  have walked := (reach_elsewhere looked fs' .lookAtLink).symm.trans looked
  rw [if_pos inDirectory.absolute, inDirectory.components, inDirectory.plain] at walked
  -- the way to the file comes through its directory
  obtain ⟨left, there, arrives, last⟩ := walk_split (List.cons_ne_nil _ _) walked
  have naming := naming_of_walk (isName_scratchName n) last
  have is : there.names ++ [scratchName n] = spot := by
    rw [walk_last_name naming] at last
    split at last
    · split at last <;> cases last
    · obtain ⟨is, -⟩ := Target.object.inj (Except.ok.inj last)
      exact congrArg Place.names is
  have opens : fs'.find temporary = .ok (there, .directory (fs'.entriesAt there)) := by
    unfold FileSystem.find
    rw [reach_of_passable no_nul' some_temporary (inDirectory.size.trans (short_of_reach looked)),
      if_pos absolute, arrives.walk]
  subst is
  exact ⟨there, ⟨_, opens⟩, naming, normalize_scratchPath absolute normal no_nul' n, free, same,
    removes⟩

/-! ## Removing -/

/-- No directory is put in the place of the scratch file, and the directory for scratch files stays
    where it is. -/
structure Spares (temporary file : String) (launched ended : FileSystem) : Prop where
  no_directory : ∀ inner, ended.findLink file ≠ .ok (.directory inner)
  way : ∀ location inner, launched.find temporary = .ok (location, .directory inner) →
    ∃ inner', ended.find temporary = .ok (location, .directory inner')

/-- The path of the scratch file leads to what has its name in the directory. -/
theorem Made.reach {inner : List (String × Entry)} {launched : FileSystem}
    (made : Made temporary n location fs launched) (absolute : Path.isAbsolute temporary = true)
    (opens : fs'.find temporary = .ok (location, .directory inner)) :
    fs'.reach .lookAtLink (scratchPath temporary n) =
      match Entry.at? (location.names ++ [scratchName n]) fs'.entries with
      | none => .ok (.vacant location (scratchName n))
      | some entry => .ok (.object ⟨location.names ++ [scratchName n], 0⟩ entry) := by
  have inDirectory := inDirectory_scratchPath absolute n
  obtain ⟨_, _, passes, -⟩ := removed_of_remove inDirectory.absolute made.removes
  obtain ⟨left, arrives⟩ := arrives_of_find absolute opens
  have whole := (arrives.stands (stands_root _) rfl).2
  rw [reach_elsewhere passes fs' .lookAtLink, if_pos inDirectory.absolute, inDirectory.components,
    inDirectory.plain, arrives.walk_append (List.cons_ne_nil _ _), walk_last_name made.naming]
  obtain ⟨names, gone⟩ := location
  obtain rfl : gone = 0 := whole
  rw [child?_entriesAt]
  rfl

theorem removeScratch_ok {files : FileSystem} (h : s.host.files.remove path = .ok files) :
    (s.removeScratch path).host.files = files := by
  unfold removeScratch
  rw [h]

/-- A scratch file that cannot be removed stays, and so does all else. -/
theorem removeScratch_error {t : Trouble} {refusal : Option Trouble}
    (h : s.host.files.remove path refusal = .error t) :
    (s.removeScratch path refusal).host.files = s.host.files := by
  unfold removeScratch
  rw [h]
  cases t <;> rfl

theorem removeScratch_missing (h : s.host.files.remove path = .error .missing) :
    s.removeScratch path = s := by
  unfold removeScratch
  rw [h]

/-- **Removing**: nothing is at the path of a scratch file that has been removed, and nothing else
    has gone. -/
theorem Made.removed {launched : FileSystem} (made : Made temporary n location fs launched)
    (absolute : Path.isAbsolute temporary = true)
    (spares : Spares temporary (scratchPath temporary n) launched s.host.files) :
    Removed (location.names ++ [scratchName n]) s.host.files
        (s.removeScratch (scratchPath temporary n)).host.files ∧
      ∀ entry, (s.removeScratch (scratchPath temporary n)).host.files.findLink
        (scratchPath temporary n) ≠ .ok entry := by
  have inDirectory := inDirectory_scratchPath absolute n
  obtain ⟨_, opened⟩ := made.opens
  obtain ⟨_, opens⟩ := spares.way _ _ opened
  have reaches := made.reach absolute opens
  rcases found : Entry.at? (location.names ++ [scratchName n]) s.host.files.entries with _ | entry
  · -- the child has removed it
    rw [found] at reaches
    have missing : s.host.files.remove (scratchPath temporary n) = .error .missing := by
      unfold FileSystem.remove
      rw [reaches]
    have nothing : leafAt (location.names ++ [scratchName n]) s.host.files.entries = none := by
      unfold leafAt
      rw [found]
    rw [removeScratch_missing missing]
    refine ⟨⟨fun _ => Iff.rfl, fun route => ?_⟩, fun entry h => ?_⟩
    · split
      · rename_i is
        rw [is]
        exact nothing
      · rfl
    · unfold FileSystem.findLink at h
      rw [reaches] at h
      cases h
  · rw [found] at reaches
    have leaf : ∀ inner, entry ≠ .directory inner := by
      rintro inner rfl
      refine spares.no_directory inner ?_
      unfold FileSystem.findLink
      rw [reaches]
    have removes : ∃ files, s.host.files.remove (scratchPath temporary n) = .ok files := by
      unfold FileSystem.remove
      rw [reaches]
      cases entry with
      | file data executable => exact ⟨_, rfl⟩
      | link target => exact ⟨_, rfl⟩
      | directory inner => exact absurd rfl (leaf inner)
    obtain ⟨files, removes⟩ := removes
    rw [removeScratch_ok removes]
    refine ⟨?_, findLink_of_remove inDirectory.absolute removes⟩
    obtain ⟨_, _, same, -, removed⟩ := removed_of_remove inDirectory.absolute removes
    obtain ⟨rfl, -⟩ := Target.object.inj (Except.ok.inj (reaches.symm.trans same))
    exact removed

/-- A child that changes one file spares the place of the scratch file, even where it is that file
    that it changes. -/
theorem Made.spares {launched ended : FileSystem} {spot : List String}
    (made : Made temporary n location fs launched) (absolute : Path.isAbsolute temporary = true)
    (same : SameBut spot launched ended) :
    Spares temporary (scratchPath temporary n) launched ended where
  no_directory := by
    intro inner found
    obtain ⟨_, entry, looked, leaf, -⟩ :=
      removed_of_remove (inDirectory_scratchPath absolute n).absolute made.removes
    have alike := reach_alike same .lookAtLink (scratchPath temporary n)
    unfold FileSystem.findLink at found
    generalize ended.reach .lookAtLink (scratchPath temporary n) = ending at alike found
    rw [looked] at alike
    cases alike with
    | same => exact leaf inner (Except.ok.inj found)
    | directory => exact leaf _ rfl
    | atSpot _ at_spot => cases at_spot <;> cases found
  way := by
    intro location inner opens
    have alike := reach_alike same .look temporary
    unfold FileSystem.find at opens ⊢
    generalize launched.reach .look temporary = ending at alike opens
    generalize ended.reach .look temporary = ending' at alike ⊢
    cases alike with
    | same => exact ⟨inner, opens⟩
    | directory location inner inner' =>
      cases opens
      exact ⟨inner', rfl⟩
    | atSpot at_spot _ => cases at_spot <;> cases opens

/-! ## Traces -/

/-- The service after a run in a scratch file, its child having made of the files `launched` what is
    in `ended`. -/
structure Traceless (file : String) (s launched ended after : Service) : Prop where
  /-- The scratch file has been made where nothing was, and is the only difference. -/
  fresh : ∃ spot, Entry.at? spot s.host.files.entries = none ∧
    SameBut spot s.host.files launched.host.files
  gone : ∀ entry, after.host.files.findLink file ≠ .ok entry
  /-- What the child has not changed is as it was before the run. -/
  untouched : ∀ names,
    leafAt names ended.host.files.entries = leafAt names launched.host.files.entries →
      leafAt names after.host.files.entries = leafAt names s.host.files.entries
  directories : ∀ names, dirAt names after.host.files.entries ↔ dirAt names ended.host.files.entries
  quiet : Keeps s launched ∧ Keeps ended after

theorem Made.traceless {launched ended : Service} {run : PendingRun} {ending : Ending}
    (made : Made temporary n location s.host.files launched.host.files)
    (absolute : Path.isAbsolute temporary = true) (keeps : Keeps s launched)
    (scratch : run.isScratch = true) (file : run.file = scratchPath temporary n)
    (spares : Spares temporary run.file launched.host.files ended.host.files) :
    Traceless run.file s launched ended (ended.settleRun run ending) := by
  obtain ⟨-, same⟩ := reportEnding_files ended run.launch.program ending
  rw [file, ← same] at spares
  obtain ⟨removed, gone⟩ := made.removed absolute spares
  have settles : ended.settleRun run ending =
      (ended.reportEnding run.launch.program ending).removeScratch (scratchPath temporary n) := by
    unfold settleRun
    dsimp only
    rw [if_pos scratch, file]
  rw [same] at removed
  refine ⟨⟨_, made.free, made.same⟩, ?_, fun names kept => ?_, fun names => ?_,
    keeps, settleRun_keeps ended run ending none⟩
  · rw [settles, file]
    exact gone
  · -- at the place of the scratch file nothing was before, and nothing is now
    rw [settles, removed.leaves]
    split
    · rename_i is
      rw [is]
      unfold leafAt
      rw [made.free]
    · rename_i other
      rw [kept, made.same.leaves names other]
  · rw [settles]
    exact removed.dirs names

/-- Getting ready to run in a scratch file ends in a launch, or with the files as they were. -/
inductive Prepared (s : Service) : Answer (Phase RunResult PendingRun) → Prop
  | waiting {run : PendingRun} {launched : Service} {n : Nat} {location : Place}
      (made : Made s.host.temporary n location s.host.files launched.host.files)
      (scratch : run.isScratch = true) (file : run.file = scratchPath s.host.temporary n)
      (keeps : Keeps s launched) : Prepared s (.ok (.waiting run), launched)
  | answered {result : RunResult} {after : Service} (same : after.host.files = s.host.files)
      (keeps : Keeps s after) : Prepared s (.ok (.answered result), after)
  | failed {e : Failure} {after : Service} (same : after.host.files = s.host.files)
      (keeps : Keeps s after) : Prepared s (.error e, after)

theorem prepareScratch_prepared {toolchain : String} {settings : Settings}
    (stands : Stands s.host.files.entries s.host.files.current)
    (absolute : Path.isAbsolute s.host.temporary = true)
    (normal : Path.normalize s.host.temporary = s.host.temporary) :
    Prepared s (s.prepareScratch toolchain settings data fault) := by
  obtain ⟨htemporary, hmade⟩ := makeScratch_cases s.host (Breach.kept fault data) maxScratchNames
  unfold prepareScratch
  generalize makeScratch s.host _ maxScratchNames = made at htemporary hmade ⊢
  obtain ⟨made, host⟩ := made
  dsimp only at htemporary hmade ⊢
  have keeps : Keeps s { s with host } := ⟨rfl, rfl, htemporary⟩
  rcases hmade with ⟨text, rfl, same⟩ | ⟨n, rfl, creates⟩
  · exact .answered same keeps
  · obtain ⟨location, made⟩ := made_of_createNew stands absolute normal creates
    rw [made.normal]
    -- whatever breaks off the writing, the file that has been made goes at once
    let file := scratchPath s.host.temporary n
    have restored : (removeScratch { s with host } file).host.files = s.host.files :=
      removeScratch_ok made.removes
    have keeps' := keeps.trans (removeScratch_keeps { s with host } file none)
    rcases fault with _ | ⟨text | text | text, written⟩
    · exact .waiting made rfl rfl ⟨rfl, rfl, htemporary⟩
    · exact .answered restored keeps'
    · exact .failed restored keeps'
    · exact .failed restored keeps'

theorem prepareRun_prepared (needed : needsScratch job)
    (stands : Stands s.host.files.entries s.host.files.current)
    (absolute : Path.isAbsolute s.host.temporary = true)
    (normal : Path.normalize s.host.temporary = s.host.temporary) :
    Prepared s (s.prepareRun job fault) := by
  unfold needsScratch at needed
  unfold prepareRun
  dsimp only
  rw [needed]
  split
  · exact .failed rfl (.refl s)
  · split
    · rename_i given
      cases given
    · exact .answered rfl (.refl s)
    · rename_i given
      cases given
    · exact prepareScratch_prepared stands absolute normal

/-- After a run in a scratch file nothing is noted. -/
theorem finishRun_scratch {run : PendingRun} (scratch : run.isScratch = true) (ending : Ending)
    (refusal : Option Trouble) :
    (s.finishRun run ending refusal).2 = s.settleRun run ending refusal := by
  unfold finishRun
  dsimp only
  split
  · rfl
  · rw [if_pos scratch]

/-- **Traces**: a run in a scratch file leaves none, whatever the child does and however it ends, as
    long as the child spares the place of the file and the system lets the file be removed.  Without a
    launch all files are as before.  The directory for scratch files is given from the root and in its
    normal form, as a system gives it. -/
theorem run_leaves_no_trace (needed : needsScratch job)
    (stands : Stands s.host.files.entries s.host.files.current)
    (absolute : Path.isAbsolute s.host.temporary = true)
    (normal : Path.normalize s.host.temporary = s.host.temporary)
    (spares : ∀ run launched, s.prepareRun job fault = (.ok (.waiting run), launched) →
      Spares s.host.temporary run.file launched.host.files
        (child run.launch launched).2.host.files) :
    match s.prepareRun job fault with
    | (.ok (.waiting run), launched) =>
      Traceless run.file s launched (child run.launch launched).2 (s.run job fault child).2
    | _ => (s.run job fault child).2.host.files = s.host.files ∧
        Keeps s (s.run job fault child).2 := by
  have prepared : Prepared s (s.prepareRun job fault) :=
    prepareRun_prepared needed stands absolute normal
  unfold run
  generalize s.prepareRun job fault = answer at prepared spares ⊢
  cases prepared with
  | @waiting run launched n location made scratch file keeps =>
    show Traceless run.file s launched (child run.launch launched).2
      ((child run.launch launched).2.finishRun run (child run.launch launched).1).2
    rw [finishRun_scratch scratch]
    exact made.traceless absolute keeps scratch file (spares run launched rfl)
  | answered same keeps => exact ⟨same, keeps⟩
  | failed same keeps => exact ⟨same, keeps⟩

/-- A directory for scratch files where the first name is taken. -/
def takenFiles : FileSystem :=
  ⟨[("tmp", .directory [("main_s1.go", .file [112] false)])], .root⟩

/-- A program that is broken off. -/
def brokenOff (_ : Launch) (s : Service) : Ending × Service := (.broken (.other "stop"), s)

/-- With its scratch file made, a run comes to a launch. -/
theorem prepareRun_made {files : FileSystem} {file : String} {host : Host}
    (makes : makeScratch (serving files).host [120] maxScratchNames = (.ok file, host))
    (refusal : Option Trouble) : ∃ run launched,
      (serving files).prepareRun (jobAt none) none refusal = (.ok (.waiting run), launched) ∧
        run.file = file ∧ run.isScratch = true ∧ launched.host.files = host.files := by
  have prepares : (serving files).prepareRun (jobAt none) none refusal =
      (serving files).prepareScratch "/go/bin/go"
        ((serving files).withRoot (jobAt none).settings) [120] none refusal := by
    unfold prepareRun
    dsimp only
    rw [show (serving files).locate (jobAt none).settings = _ from locate_over files,
      show (jobAt none).code.encode = _ from encode_x]
    rfl
  unfold prepareScratch at prepares
  rw [show Breach.kept none [120] = [120] from rfl, makes] at prepares
  exact ⟨_, _, prepares, rfl, rfl, rfl⟩

/-- The scratch file gets the second name. -/
theorem makeScratch_taken (data : List UInt8) :
    ∃ host, makeScratch (serving takenFiles).host data maxScratchNames =
      (.ok "/tmp/main_s2.go", host) := by
  have first : scratchPath "/tmp" 1 = "/tmp/main_s1.go" := by unfold scratchPath; rfl
  have second : scratchPath "/tmp" 2 = "/tmp/main_s2.go" := by unfold scratchPath; rfl
  have leads_first : LeadsTo "/tmp/main_s1.go" (["tmp"] ++ ["main_s1.go"]) := ⟨rfl, rfl, by decide⟩
  have leads_second : LeadsTo "/tmp/main_s2.go" (["tmp"] ++ ["main_s2.go"]) := ⟨rfl, rfl, by decide⟩
  have there : Entry.at? (["tmp"] ++ ["main_s1.go"]) takenFiles.entries =
      some (.file [112] false) := rfl
  have taken : takenFiles.createNew "/tmp/main_s1.go" data = .error .exists := by
    unfold createNew
    rw [leads_first.reach (by decide) (leads_first.passable (by decide) (by decide)) there
      (fits_file _ _)]
  have creates : ∃ files, takenFiles.createNew "/tmp/main_s2.go" data = .ok files := by
    unfold createNew
    rw [leads_second.reach_vacant (leads_second.passable (by decide) (by decide)) (by decide)
      ⟨_, rfl⟩ rfl]
    exact ⟨_, rfl⟩
  obtain ⟨files, creates⟩ := creates
  have normal : Path.normalize "/tmp/main_s2.go" = "/tmp/main_s2.go" := rfl
  unfold maxScratchNames serving
  rw [makeScratch]
  dsimp only
  rw [first, taken]
  dsimp only
  rw [makeScratch]
  dsimp only
  rw [second, creates, normal]
  exact ⟨_, rfl⟩

theorem prepareRun_taken : ∃ run launched,
    (serving takenFiles).prepareRun (jobAt none) none = (.ok (.waiting run), launched) ∧
      run.file = "/tmp/main_s2.go" := by
  obtain ⟨host, makes⟩ := makeScratch_taken [120]
  obtain ⟨run, launched, prepares, file, -⟩ := prepareRun_made makes none
  exact ⟨run, launched, prepares, file⟩

theorem run_leaves_no_trace_in_tmp : needsScratch (jobAt none) ∧
    Stands takenFiles.entries takenFiles.current ∧ Path.isAbsolute "/tmp" = true ∧
    Path.normalize "/tmp" = "/tmp" ∧
    ∃ run launched, (serving takenFiles).prepareRun (jobAt none) none =
        (.ok (.waiting run), launched) ∧
      run.file = "/tmp/main_s2.go" ∧
      Spares "/tmp" run.file launched.host.files (brokenOff run.launch launched).2.host.files ∧
      Traceless run.file (serving takenFiles) launched launched
        ((serving takenFiles).run (jobAt none) none brokenOff).2 := by
  have stands : Stands takenFiles.entries takenFiles.current := stands_root _
  have normal : Path.normalize "/tmp" = "/tmp" := rfl
  have idle : ∀ run launched,
      (serving takenFiles).prepareRun (jobAt none) none = (.ok (.waiting run), launched) →
        Spares "/tmp" run.file launched.host.files
          (brokenOff run.launch launched).2.host.files := by
    intro run launched h
    have prepared : Prepared (serving takenFiles) (.ok (.waiting run), launched) :=
      h ▸ prepareRun_prepared rfl stands rfl normal
    cases prepared with
    | waiting made scratch file keeps =>
      rw [file]
      exact made.spares rfl (.refl made.same.no_link')
  obtain ⟨run, launched, launches, file⟩ := prepareRun_taken
  have traceless :=
    @run_leaves_no_trace (serving takenFiles) (jobAt none) none brokenOff rfl stands rfl normal idle
  rw [launches] at traceless
  exact ⟨rfl, stands, rfl, normal, run, launched, launches, file, idle run launched launches,
    traceless⟩

/-- The directory for scratch files is a link to one of two others, which have these entries. -/
def detour (target : String) (first second : List (String × Entry)) : FileSystem :=
  ⟨[("d1", .directory first), ("d2", .directory second), ("tmp", .link target)], .root⟩

/-- The path of a scratch file leads along the link. -/
theorem reach_detour {target : String} {first second inner : List (String × Entry)}
    (is : components target = [target]) (relative : Path.isAbsolute target = false)
    (naming : Naming target)
    (there : Entry.child? target (detour target first second).entries = some (.directory inner)) :
    (detour target first second).reach .lookAtLink "/tmp/main_s1.go" =
      match Entry.child? "main_s1.go" inner with
      | none => .ok (.vacant ⟨[target], 0⟩ "main_s1.go")
      | some entry => .ok (.object ⟨[target, "main_s1.go"], 0⟩ entry) := by
  have arrives : Arrives (detour target first second) maxLinks .root ["tmp"] 39 ⟨[target], 0⟩ := by
    have linked : Entry.child? "tmp" ((detour target first second).entriesAt .root) =
      some (.link target) := rfl
    refine .follows ⟨by decide, by decide, by decide⟩ linked ?_
    rw [relative, is]
    exact .enters naming there .done
  rw [reach_of_passable (by decide) (by decide) (by decide), if_pos (by decide),
    show components "/tmp/main_s1.go" = ["tmp"] ++ ["main_s1.go"] from rfl,
    show endsInSlash "/tmp/main_s1.go" = false from rfl,
    arrives.walk_append (List.cons_ne_nil _ _),
    walk_last_name ⟨by decide, by decide, by decide⟩,
    show (detour target first second).entriesAt ⟨[target], 0⟩ = inner from
      entriesAt_of_at? there]
  cases Entry.child? "main_s1.go" inner <;> rfl

/-- A program that leads the link to the other directory. -/
def redirecting (_ : Launch) (s : Service) : Ending × Service :=
  (.exited 0 [], { s with host := { s.host with files := s.host.files.put ["tmp"] (.link "d2") } })

/-- A run makes its scratch file in the first directory. -/
theorem prepareRun_detour (second : List (String × Entry)) (refusal : Option Trouble) :
    ∃ run launched, (serving (detour "d1" [] second)).prepareRun (jobAt none) none refusal =
        (.ok (.waiting run), launched) ∧
      run.file = "/tmp/main_s1.go" ∧ run.isScratch = true ∧
        launched.host.files = detour "d1" [("main_s1.go", .file [120] false)] second := by
  have name : scratchPath "/tmp" 1 = "/tmp/main_s1.go" := by unfold scratchPath; rfl
  have free : (detour "d1" [] second).reach .lookAtLink "/tmp/main_s1.go" =
      .ok (.vacant ⟨["d1"], 0⟩ "main_s1.go") :=
    @reach_detour "d1" [] second [] rfl rfl ⟨by decide, by decide, by decide⟩ rfl
  have created : (detour "d1" [] second).createNew "/tmp/main_s1.go" [120] =
      .ok (detour "d1" [("main_s1.go", .file [120] false)] second) := by
    unfold createNew
    rw [free]
    rfl
  have makes : ∃ host, makeScratch (serving (detour "d1" [] second)).host [120] maxScratchNames =
      (.ok "/tmp/main_s1.go", host) ∧
        host.files = detour "d1" [("main_s1.go", .file [120] false)] second := by
    unfold maxScratchNames serving
    rw [makeScratch]
    dsimp only
    rw [name, created]
    exact ⟨_, rfl, rfl⟩
  obtain ⟨host, makes, files⟩ := makes
  obtain ⟨run, launched, prepares, file, scratch, same⟩ := prepareRun_made makes refusal
  exact ⟨run, launched, prepares, file, scratch, same.trans files⟩

/-- What a run in a scratch file leaves, once its child has ended. -/
theorem run_of_scratch {refusal : Option Trouble} {run : PendingRun} {launched : Service}
    (prepares : s.prepareRun job fault refusal = (.ok (.waiting run), launched))
    (scratch : run.isScratch = true) :
    (s.run job fault child refusal).2 =
      (child run.launch launched).2.settleRun run (child run.launch launched).1 refusal := by
  unfold Service.run
  rw [prepares]
  exact finishRun_scratch scratch _ refusal

/-- A scratch file stays if its child leads the link on its path elsewhere, and then another file
    goes; and it stays if the system refuses to remove it. -/
theorem run_leaves_scratch : needsScratch (jobAt none) ∧
    ((serving (detour "d1" [] [("main_s1.go", .file [112] false)])).run (jobAt none) none
        redirecting).2.host.files =
      detour "d2" [("main_s1.go", .file [120] false)] [] ∧
    ((serving (detour "d1" [] [])).run (jobAt none) none (fun _ launched => (.exited 0 [], launched))
        (some .denied)).2.host.files =
      detour "d1" [("main_s1.go", .file [120] false)] [] := by
  refine ⟨rfl, ?_, ?_⟩
  · obtain ⟨run, launched, prepares, file, scratch, files⟩ :=
      prepareRun_detour [("main_s1.go", .file [112] false)] none
    have led : (redirecting run.launch launched).2.host.files =
        detour "d2" [("main_s1.go", .file [120] false)] [("main_s1.go", .file [112] false)] := by
      unfold redirecting
      dsimp only
      rw [files]
      rfl
    have removes : (redirecting run.launch launched).2.host.files.remove "/tmp/main_s1.go" =
        .ok (detour "d2" [("main_s1.go", .file [120] false)] []) := by
      unfold FileSystem.remove
      rw [led, reach_detour rfl rfl ⟨by decide, by decide, by decide⟩ rfl]
      rfl
    rw [run_of_scratch prepares scratch]
    unfold settleRun
    dsimp only
    rw [if_pos scratch, file]
    exact removeScratch_ok removes
  · obtain ⟨run, launched, prepares, file, scratch, files⟩ := prepareRun_detour [] (some .denied)
    have denied : launched.host.files.remove "/tmp/main_s1.go" (some .denied) =
        .error .denied := by
      unfold FileSystem.remove
      rw [files, reach_detour rfl rfl ⟨by decide, by decide, by decide⟩ rfl]
      rfl
    rw [run_of_scratch prepares scratch]
    unfold settleRun
    dsimp only
    rw [if_pos scratch, file]
    exact (removeScratch_error denied).trans files

end Service

end GoWorkbench
