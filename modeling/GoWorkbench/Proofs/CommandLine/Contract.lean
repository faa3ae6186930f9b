/-
  What a status says, and what a request needs.

  The program has three statuses.  Failures that are not shown to the user break it off without one.

  1. **The contract** — what a status says of a program that has ended (`Contract`).
  2. **Valid requests** — what a request needs to be carried out, what it means that it misses what
     it was made for, and what hinders it all the same: an answer that is no text, or links that lead
     around in a circle (`Hinders`).
  3. **Activation** — a workspace is activated just if one can be (`activate_cases`).
  4. **Jobs** — code and settings make a job, or are refused (`runJob_cases`).
-/
import GoWorkbench.Proofs.CommandLine.Settings
import GoWorkbench.Proofs.Service.Rooting

namespace GoWorkbench.CommandLine

open FileSystem GoWorkbench.Text

variable {s active after : Service} {h host : Host} {f : Failure} {input line : String}
  {file codeFile root : Option String} {settings : List String} {ending : Ending}
  {progress : Progress} {request : Request}

/-! ## The contract -/

/-- What the status says of a program that has ended. -/
structure Contract (progress : Progress) (ending : Ending) (hindered : Failure → Prop)
    (missed declined : Prop) : Prop where
  /-- A failure breaks the program off just where it is hindered. -/
  breaks : ∀ f, (progress.finish ending).status = .error f ↔ hindered f
  /-- Otherwise there is a status, one of three. -/
  within : ∀ n, (progress.finish ending).status = .ok n → n = 0 ∨ n = 1 ∨ n = 2
  one : (progress.finish ending).status = .ok 1 ↔ missed
  two : (progress.finish ending).status = .ok 2 ↔ declined
  /-- What is declined writes nothing and launches nothing. -/
  quiet : (progress.finish ending).status = .ok 2 →
    (progress.finish ending).output = "" ∧ progress.launch? = none

namespace Contract

variable {hindered hindered' : Failure → Prop} {missed missed' declined declined' : Prop}

theorem of_status {n : Nat} (status : (progress.finish ending).status = .ok n)
    (carried_out : n = 0 ∨ n = 1) (free : ∀ f, ¬ hindered f) (misses : missed ↔ n = 1)
    (accepted : ¬ declined) : Contract progress ending hindered missed declined where
  breaks := fun f => iff_of_false (by rw [status]; nofun) (free f)
  within := fun m is => by
    obtain rfl := Except.ok.inj (status.symm.trans is)
    omega
  one := by
    rw [status, Except.ok.injEq]
    exact misses.symm
  two := by
    rw [status, Except.ok.injEq]
    exact iff_of_false (by omega) accepted
  quiet := fun is => by
    rw [status, Except.ok.injEq] at is
    omega

theorem of_done (status : (progress.finish ending).status = .ok 0) (free : ∀ f, ¬ hindered f)
    (no_miss : ¬ missed) (accepted : ¬ declined) :
    Contract progress ending hindered missed declined :=
  of_status status (Or.inl rfl) free (iff_of_false no_miss (by omega)) accepted

theorem of_missed (status : (progress.finish ending).status = .ok 1) (free : ∀ f, ¬ hindered f)
    (misses : missed) (accepted : ¬ declined) :
    Contract progress ending hindered missed declined :=
  of_status status (Or.inr rfl) free (iff_of_true misses rfl) accepted

theorem of_refused (message : String) (free : ∀ f, ¬ hindered f) (no_miss : ¬ missed)
    (declines : declined) :
    Contract (.ended (refuse host message)) ending hindered missed declined where
  breaks := fun f => iff_of_false nofun (free f)
  within := fun _ is => Or.inr (Or.inr (Except.ok.inj is).symm)
  one := iff_of_false nofun no_miss
  two := iff_of_true rfl declines
  quiet := fun _ => ⟨rfl, rfl⟩

theorem of_broken (status : (progress.finish ending).status = .error f)
    (hinders : ∀ g, hindered g ↔ f = g) (no_miss : ¬ missed) (accepted : ¬ declined) :
    Contract progress ending hindered missed declined := by
  refine ⟨fun g => ?_, ?_, iff_of_false ?_ no_miss, iff_of_false ?_ accepted, ?_⟩
  all_goals rw [status]
  · rw [hinders g, Except.error.injEq]
  all_goals nofun

/-- The contract is about what its parts mean. -/
theorem of_iff (contract : Contract progress ending hindered missed declined)
    (hinders : ∀ f, hindered' f ↔ hindered f) (misses : missed' ↔ missed)
    (declines : declined' ↔ declined) :
    Contract progress ending hindered' missed' declined' where
  breaks := fun f => (contract.breaks f).trans (hinders f).symm
  within := contract.within
  one := contract.one.trans misses.symm
  two := contract.two.trans declines.symm
  quiet := contract.quiet

end Contract

/-! ## Valid requests -/

/-- A workspace can be activated: a root names a directory, and without one there is a path to look
    for what is remembered. -/
def Openable (s : Service) : Option String → Prop
  | some root => root ≠ "" ∧ s.host.files.isDirectory (Path.plain root) = true
  | none => '\x00' ∉ s.statePath.toList

/-- If the code to run comes from a file, that is a text. -/
def Legible (files : FileSystem) (file codeFile : Option String) : Prop :=
  ∀ source, (codeFile.filter fun f => !f.isEmpty).or file = some source →
    ∃ text, files.read (Path.plain source) = .ok (Utf8.encode text)

/-- What the service needs to carry a request out. -/
def Valid (s : Service) : Request → Prop
  | .symbols _ | .locate _ | .report _ => True
  | .resolve _ _ root => Openable s root
  | .run file codeFile settings root =>
    Openable s root ∧ Legible s.host.files file codeFile ∧
      (∀ argument ∈ settings, ¬ Faulty argument) ∧
      ∀ path, file = some path → path ≠ "" → s.host.files.Nameable path
  | .command line settings root =>
    Openable s root ∧ (∀ argument ∈ settings, ¬ Faulty argument) ∧
      (words line ≠ [] → ∃ place, (activate s root).2.commandDirectory = .ok place)
  | .workspace path =>
    Openable s (some path) ∧ (s.host.isText path = true → '\x00' ∉ s.statePath.toList)

/-- A child that ends so and changes nothing. -/
def idle (ending : Ending) (_ : Launch) (s : Service) : Ending × Service := (ending, s)

/-- The request misses what it was made for: no file is found, or what was run has an error. -/
inductive Misses (s : Service) (input : String) (ending : Ending) : Request → Prop
  | nothing {base specifier : String} {root : Option String} {active : Service}
      (activates : activate s root = (.ok (), active))
      (unresolved : active.resolve base specifier = none) :
      Misses s input ending (.resolve base specifier root)
  | run {file codeFile root : Option String} {settings : List String} {active after : Service}
      {job : RunJob} {r : RunResult} (activates : activate s root = (.ok (), active))
      (made : runJob active.host file codeFile settings input = .ok job)
      (answers : active.run job none (idle ending) = (.ok r, after)) (wrong : r.error ≠ none) :
      Misses s input ending (.run file codeFile settings root)
  | command {line : String} {settings : List String} {root : Option String}
      {active after : Service} {job : CommandJob} {r : RunResult}
      (activates : activate s root = (.ok (), active))
      (made : (settingsOf [] settings).bind (CommandJob.make line) = .ok job)
      (answers : active.runCommand job (idle ending) = (.ok r, after)) (wrong : r.error ≠ none) :
      Misses s input ending (.command line settings root)

/-- What breaks off a request that has reached its service: the path in its answer is no text, or it
    cannot be told whether the file to run is in the workspace. -/
inductive Hinders (s : Service) (input : String) : Request → Failure → Prop
  | found {base specifier path : String} {root : Option String} {active : Service}
      (activates : activate s root = (.ok (), active))
      (found : active.resolve base specifier = some path)
      (garbled : active.host.isText path = false) :
      Hinders s input (.resolve base specifier root) .halfCharacter
  | located {goroot : Option String} {toolchain : String}
      (located : s.locate [(Toolchain.rootVariable, goroot.getD "")] = .ok toolchain)
      (garbled : s.host.isText toolchain = false) : Hinders s input (.locate goroot) .halfCharacter
  | asked {goroot : Option String} {toolchain : String}
      (located : s.locate (Service.rootSettings goroot) = .ok toolchain)
      (garbled : s.host.isText toolchain = false) : Hinders s input (.report goroot) .halfCharacter
  | workspace {path : String} (openable : Openable s (some path))
      (garbled : s.host.isText path = false) : Hinders s input (.workspace path) .halfCharacter
  | run {path stuck : String} {codeFile root : Option String} {settings : List String}
      {active : Service} {job : RunJob} {data : List UInt8}
      (activates : activate s root = (.ok (), active))
      (made : runJob active.host (some path) codeFile settings input = .ok job)
      (encodes : job.code.encode = .ok data) (some_path : path ≠ "")
      (circles : active.Circles path data stuck) :
      Hinders s input (.run (some path) codeFile settings root) (.circle stuck)

/-! ## Activation -/

/-- What comes of activating a workspace. -/
inductive Activates (s : Service) (root : Option String) : Answer Unit → Prop
  | opened {active : Service} (openable : Openable s root)
      (plain : ∀ top, active.workspace = some top → '\x00' ∉ top.toList)
      (files : active.host.files = s.host.files) : Activates s root (.ok (), active)
  | refused {f : Failure} {active : Service} (closed : ¬ Openable s root)
      (shown : isShown f = true) : Activates s root (.error f, active)

/-- **Activation**: a workspace is activated just if one can be, and then its path has no NUL. -/
theorem activate_cases (orderly : s.host.files.Orderly) (fresh : s.workspace = none)
    (root : Option String) : Activates s root (activate s root) := by
  cases root with
  | some root =>
    unfold activate
    dsimp only
    cases checked : Service.checkWorkspace s.host root with
    | error fault =>
      rw [Service.setWorkspace_of_refused checked]
      refine .refused (fun openable => ?_) rfl
      rw [Service.checkWorkspace_ok_iff.mpr openable] at checked
      cases checked
    | ok =>
      have switches := Service.setWorkspace_of_checked orderly checked false false none
      generalize s.setWorkspace root false false none = answer at switches ⊢
      cases switches with
      | through chosen =>
        refine .opened (Service.checkWorkspace_ok_iff.mp checked) (fun top active => ?_)
          (chosen.forgotten rfl)
        obtain rfl := Option.some.inj (chosen.active.symm.trans active)
        exact chosen.no_nul
      | garbled wanted _ => cases wanted
      | nul wanted _ => cases wanted
  | none =>
    -- a state that cannot be read is as good as none; only its path can be at fault
    unfold activate
    obtain ⟨nul, after, restored⟩ | ⟨no_nul, top, after, restored, files, none_active, some_active⟩ :=
      Service.restore_cases orderly
    · dsimp only
      rw [restored]
      exact .refused (fun openable => openable nul) rfl
    · dsimp only
      rw [restored]
      refine .opened no_nul ?_ files
      intro root active
      cases top with
      | none =>
        rw [none_active rfl, fresh] at active
        cases active
      | some top =>
        obtain ⟨is, plain⟩ := some_active top rfl
        obtain rfl := Option.some.inj (is.symm.trans active)
        exact plain

/-- Only a workspace that can be activated is. -/
theorem openable_of_activates (orderly : s.host.files.Orderly) (fresh : s.workspace = none)
    (activates : activate s root = (.ok (), active)) : Openable s root := by
  have cases := activate_cases orderly fresh root
  rw [activates] at cases
  cases cases with
  | opened openable => exact openable

/-! ## Jobs -/

/-- Settings make a job just if no argument is at fault. -/
theorem Makes.cases {α : Type} {make : Settings → Except Failure α} {made : Settings → α}
    (makes : Makes make made) (settings : List String) :
    (∃ result, (settingsOf [] settings).bind make = .ok (made result) ∧
      ∀ argument ∈ settings, ¬ Faulty argument) ∨
    ∃ f, (settingsOf [] settings).bind make = .error f ∧ isShown f = true ∧
      ¬ ∀ argument ∈ settings, ¬ Faulty argument := by
  by_cases fine : ∀ argument ∈ settings, ¬ Faulty argument
  · obtain ⟨result, is, accepted, -⟩ := settings_accepted fine
    refine Or.inl ⟨result, ?_, fine⟩
    rw [is]
    exact makes.ok result accepted
  · obtain ⟨argument, listed, fault⟩ : ∃ argument ∈ settings, Faulty argument := by
      simpa only [not_forall, not_not, exists_prop] using fine
    obtain ⟨f, is, shown⟩ := makes.refuses listed fault
    exact Or.inr ⟨f, is, shown, fine⟩

/-- Code is read just if it can be, and then it can be written. -/
theorem codeFrom_cases (h : Host) (file codeFile : Option String) (input : String) :
    (∃ code data, codeFrom h file codeFile input = .ok code ∧ code.encode = .ok data ∧
      Legible h.files file codeFile) ∨
    ∃ f, codeFrom h file codeFile input = .error f ∧ isShown f = true ∧
      ¬ Legible h.files file codeFile := by
  have encodes := fun text : String => encode_ofString text.toList
  simp only [String.ofList_toList] at encodes
  unfold codeFrom Legible
  cases (codeFile.filter fun f => !f.isEmpty).or file with
  | none => exact Or.inl ⟨_, _, rfl, encodes input, nofun⟩
  | some source =>
    dsimp only
    unfold Host.read
    cases found : h.files.read (Path.plain source) with
    | error t =>
      refine Or.inr ⟨_, rfl, rfl, fun legible => ?_⟩
      obtain ⟨text, reads⟩ := legible source rfl
      rw [found] at reads
      cases reads
    | ok data =>
      dsimp only
      cases decoded : Utf8.decode data with
      | error fault =>
        -- a text would have been decoded
        refine Or.inr ⟨_, rfl, rfl, fun legible => ?_⟩
        obtain ⟨text, reads⟩ := legible source rfl
        rw [found, Except.ok.injEq] at reads
        rw [reads, Utf8.decode_encode] at decoded
        cases decoded
      | ok text =>
        refine Or.inl ⟨_, _, rfl, encodes _, ?_⟩
        rintro _ ⟨⟩
        rw [← Utf8.encode_of_decode decoded] at found
        exact ⟨text, found⟩

/-- **Jobs**: code and settings make a job that can be written just if both are in order. -/
theorem runJob_cases (h : Host) (file codeFile : Option String) (settings : List String)
    (input : String) :
    (∃ job data, runJob h file codeFile settings input = .ok job ∧ job.path = file ∧
      job.code.encode = .ok data ∧ Legible h.files file codeFile ∧
      ∀ argument ∈ settings, ¬ Faulty argument) ∨
    ∃ f, runJob h file codeFile settings input = .error f ∧ isShown f = true ∧
      ¬ (Legible h.files file codeFile ∧ ∀ argument ∈ settings, ¬ Faulty argument) := by
  have parts : runJob h file codeFile settings input =
    (codeFrom h file codeFile input).bind fun code =>
      (settingsOf [] settings).bind (RunJob.make code file) := rfl
  rw [parts]
  obtain ⟨code, data, read, encodes, legible⟩ | ⟨f, read, shown, illegible⟩ :=
    codeFrom_cases h file codeFile input
  · rw [read]
    obtain ⟨result, made, fine⟩ | ⟨f, unmade, shown, faulty⟩ :=
      (makes_runJob code file).cases settings
    · exact Or.inl ⟨_, data, made, rfl, encodes, legible, fine⟩
    · exact Or.inr ⟨f, unmade, shown, fun valid => faulty valid.2⟩
  · rw [read]
    exact Or.inr ⟨f, rfl, shown, fun valid => illegible valid.1⟩

end GoWorkbench.CommandLine
