/-
  The toolchain that is launched.

  A toolchain is located from where the process is, and a child starts in a directory of its own:
  the workspace, or that of the file that is run.  A path from the root means the same in both.

  1. **From the root** — the places near a directory that is given from the root of the files are
     given from there as well (`isAbsolute_candidate`).
  2. **Where it lies** — a search gives a path from the root, the bare name, or a path that begins
     with a relative directory of the search path (`find_cases`); so what is located is a path from
     the root or the bare name, unless a root or the search path says otherwise (`Fixed.located`).
  3. **Launches** — whatever launches the toolchain launches the one that is located
     (`Launches.located`).
  4. **Where it starts** — what a child is started as is, from its own directory, what has been
     located (`launches_denote`); but a relative root leads elsewhere from there
     (`launch_goes_astray`).
-/
import GoWorkbench.Proofs.CommandLine.Returning
import GoWorkbench.Proofs.Path.Below
import GoWorkbench.Proofs.Service.Variables

namespace GoWorkbench

open FileSystem

/-! ## From the root -/

namespace Toolchain

variable {h : Host} {directory here file : String} {platform : Platform}
  {entries : List (String × Entry)}

theorem isAbsolute_under (absolute : Path.isAbsolute directory = true) (names : List String) :
    Path.isAbsolute (under directory names) = true := by
  induction names generalizing directory with
  | nil => exact absolute
  | cons name rest ih => exact ih (Path.isAbsolute_join absolute name)

/-- **From the root**: the places near a directory that is given from the root. -/
theorem isAbsolute_candidate (absolute : Path.isAbsolute here = true)
    (listed : file ∈ (candidates here entries).map platform.executable) :
    Path.isAbsolute file = true := by
  obtain ⟨place, mem, rfl⟩ := List.mem_map.mp listed
  have rooted : Path.isAbsolute place = true := by
    unfold candidates at mem
    rcases List.mem_cons.mp mem with rfl | mem
    · exact isAbsolute_under absolute _
    · obtain ⟨name, -, mem⟩ := List.mem_flatMap.mp mem
      simp only [List.mem_cons, List.not_mem_nil, or_false] at mem
      rcases mem with rfl | rfl <;> exact isAbsolute_under absolute _
  unfold Platform.executable
  rw [isAbsolute_append (Path.ne_empty_of_isAbsolute rooted)]
  exact rooted

/-! ## Where it lies -/

/-- The directories of a search path, among which an empty one stands for the working directory. -/
def elements (path : String) : List String := (Text.splitAt ':' path.toList).map String.ofList

theorem mem_of_onSearchPath {fs : FileSystem} {path : String}
    (found : onSearchPath fs path = some file) :
    ∃ element ∈ elements path, file = Path.join element program := by
  unfold onSearchPath at found
  split at found
  · cases found
  · obtain ⟨element, listed, is⟩ := List.mem_map.mp (List.mem_of_find?_eq_some found)
    exact ⟨element, listed, is.symm⟩

/-- **Where it lies**: what a search from the working directory gives. -/
theorem find_cases (found : find h none platform = .ok file) :
    Path.isAbsolute file = true ∨ file = program ∨
      ∃ element ∈ elements (searchPath h), file = Path.join element program := by
  unfold find at found
  dsimp only [Option.elim] at found
  split at found
  · exact Or.inr (Or.inl (Except.ok.inj found).symm)
  · rename_i here is_here
    have rooted : Path.isAbsolute here = true := by
      obtain ⟨-, rfl⟩ := workingDirectory_eq_ok.mp is_here
      rw [isAbsolute_append (by decide)]
      decide
    split at found
    · cases found
    · rename_i entries _
      split at found
      · rename_i nearby is
        obtain rfl := Except.ok.inj found
        exact Or.inl (isAbsolute_candidate rooted (List.mem_of_find?_eq_some is))
      · obtain rfl := Except.ok.inj found
        cases on_path : onSearchPath h.files (searchPath h) with
        | none => exact Or.inr (Or.inl rfl)
        | some file => exact Or.inr (Or.inr (mem_of_onSearchPath on_path))

end Toolchain

namespace Service

variable {s launched : Service} {settings : Settings} {launch : Launch} {toolchain : String}

/-- Nothing that a toolchain is located from depends on where the process is: the root in use is
    given from the root of the files and, without one, so is every directory of the search path but
    empty ones. -/
def Fixed (s : Service) (settings : Settings) : Prop :=
  match s.rootInUse settings with
  | some root => Path.isAbsolute root = true
  | none => ∀ element ∈ Toolchain.elements (Toolchain.searchPath s.host),
      element = "" ∨ Path.isAbsolute element = true

theorem Fixed.located (fixed : s.Fixed settings) (located : s.locate settings = .ok toolchain) :
    toolchain = Toolchain.program ∨ Path.isAbsolute toolchain = true := by
  rw [locate_eq] at located
  unfold Fixed at fixed
  cases used : s.rootInUse settings with
  | some root =>
    rw [used] at located fixed
    obtain rfl := Except.ok.inj located
    exact Or.inr (Toolchain.isAbsolute_under fixed _)
  | none =>
    rw [used] at located fixed
    rcases Toolchain.find_cases located with rooted | bare | ⟨element, listed, rfl⟩
    · exact Or.inr rooted
    · exact Or.inl bare
    · rcases fixed element listed with rfl | rooted
      · exact Or.inl rfl
      · exact Or.inr (Path.isAbsolute_join rooted _)

/-! ## Launches -/

/-- The toolchain is launched: for code, for a command line that begins with its name, or to ask for
    its variables. -/
inductive Launches (s : Service) : Settings → Launch → Service → Prop
  | code {job : RunJob} {fault : Option Breach} {run : PendingRun} {launched : Service}
      (prepared : s.prepareRun job fault = (.ok (.waiting run), launched)) :
      Launches s job.settings run.launch launched
  | command {job : CommandJob} {rest : List String} {launch : Launch} {launched : Service}
      (leads : Text.words job.command = Toolchain.program :: rest)
      (prepared : s.prepareCommand job = (.ok (.waiting launch), launched)) :
      Launches s job.settings launch launched
  | report {root : Option String} {launch : Launch} {launched : Service}
      (prepared : s.prepareReport root = (.ok launch, launched)) :
      Launches s (rootSettings root) launch launched

/-- **Launches**: the program of a launch is the toolchain that is located. -/
theorem Launches.located (launches : s.Launches settings launch launched) :
    s.locate settings = .ok launch.program := by
  cases launches with
  | code prepared =>
    obtain ⟨located, words, -, -⟩ := prepareRun_launch prepared
    unfold Launch.program
    rw [words]
    exact located
  | command leads prepared =>
    obtain ⟨toolchain, words, directory, located, is_words, rfl⟩ := prepareCommand_launch prepared
    rw [commandWords_program s.platform leads] at is_words
    obtain rfl := Except.ok.inj is_words
    exact located
  | report prepared =>
    unfold prepareReport at prepared
    dsimp only at prepared
    split at prepared
    · cases prepared
    · rename_i toolchain located
      cases prepared
      exact located

/-! ## Where it starts -/

/-- The files as a child has them that starts in a directory, or else where the process is. -/
def startedIn (fs : FileSystem) : Option String → Except Trouble FileSystem
  | none => .ok fs
  | some directory => fs.enter directory

theorem entries_of_startedIn {fs started : FileSystem} {directory : Option String}
    (starts : startedIn fs directory = .ok started) : started.entries = fs.entries := by
  cases directory with
  | none =>
    obtain rfl := Except.ok.inj starts
    rfl
  | some directory => exact entries_of_enter starts

/-- **Where it starts**: a launch is one of the toolchain that is located, and its child finds there
    what the process finds, or has only the bare name.  Either nothing that the toolchain is located
    from depends on where the process is, or the child starts there. -/
theorem launches_denote (launches : s.Launches settings launch launched) :
    s.locate settings = .ok launch.program ∧
      ∀ started, startedIn launched.host.files launch.directory = .ok started →
        s.Fixed settings ∨ launch.directory = none ∨
          started.current = launched.host.files.current →
        launch.program = Toolchain.program ∨
          started.find launch.program = launched.host.files.find launch.program := by
  refine ⟨launches.located, fun started starts settled => ?_⟩
  have same := entries_of_startedIn starts
  have stays : started.current = launched.host.files.current →
      started.find launch.program = launched.host.files.find launch.program := by
    intro current
    obtain ⟨entries, place⟩ := started
    dsimp only at same current
    rw [same, current]
  rcases settled with fixed | nowhere | current
  · exact (fixed.located launches.located).imp_right fun rooted => find_moved same rooted
  · rw [nowhere] at starts
    obtain rfl := Except.ok.inj starts
    exact Or.inr rfl
  · exact Or.inr (stays current)

/-- Two directories, each with a toolchain in it, and a process in one of them. -/
def twoToolchains (top : String) : FileSystem where
  entries := [
    ("h", .directory [("go", .directory [("bin", .directory [("go", .file [1] true)])])]),
    ("w", .directory [("go", .directory [("bin", .directory [("go", .file [2] true)])])])]
  current := ⟨[top], 0⟩

/-- A service whose configured root is the given one. -/
def rooted (root : String) : Service :=
  { serving (twoToolchains "h") with config := { toolchain := { root := some root } } }

theorem leads_version : Text.words "go version" = Toolchain.program :: ["version"] := by decide

/-- A command line is launched in the workspace, with the toolchain of the configured root. -/
theorem prepareCommand_rooted (root : String) (some_root : root.isEmpty = false) :
    ∃ launch launched,
      (rooted root).prepareCommand ⟨"go version", []⟩ = (.ok (.waiting launch), launched) ∧
      launch.program = Toolchain.ofRoot root ∧ launch.directory = some "/w" ∧
      launched.host.files = twoToolchains "h" := by
  have used : (rooted root).rootInUse [] = some root := by
    show (none : Option String).or ((some root).filter fun root => !root.isEmpty) = some root
    rw [Option.none_or, Option.filter_some, some_root]
    rfl
  have located : (rooted root).locate [] = .ok (Toolchain.ofRoot root) := by
    rw [locate_eq, used]
  have some_word : ¬ (Text.words "go version").isEmpty = true := by decide
  rw [prepareCommand_eq, if_neg some_word, located]
  dsimp only
  rw [commandWords_program _ leads_version]
  exact ⟨_, _, rfl, rfl, rfl, rfl⟩

theorem startedIn_twoToolchains :
    startedIn (twoToolchains "h") (some "/w") = .ok (twoToolchains "w") := by
  have leads : LeadsTo "/w" ["w"] := ⟨rfl, rfl, by decide⟩
  show (twoToolchains "h").enter "/w" = _
  unfold enter
  rw [leads.find (leads.passable (by decide) (by decide))
    (rfl : Entry.at? ["w"] (twoToolchains "h").entries = some (.directory _)) (fits_directory _ _)]
  rfl

/-- A relative path leads to the toolchain of the directory that the process is in. -/
theorem arrives_twoToolchains {top : String} (is : top = "h" ∨ top = "w") :
    Arrives (twoToolchains top) maxLinks ⟨[top], 0⟩ ["go", "bin"] maxLinks
      ⟨[top, "go", "bin"], 0⟩ := by
  rcases is with rfl | rfl
  · exact .enters ⟨by decide, by decide, by decide⟩ rfl
      (.enters ⟨by decide, by decide, by decide⟩ rfl .done)
  · exact .enters ⟨by decide, by decide, by decide⟩ rfl
      (.enters ⟨by decide, by decide, by decide⟩ rfl .done)

theorem launches_denote_rooted : ∃ launch launched started,
    (rooted "/h/go").Launches [] launch launched ∧ (rooted "/h/go").Fixed [] ∧
      startedIn launched.host.files launch.directory = .ok started ∧
      started.find launch.program = launched.host.files.find launch.program := by
  obtain ⟨launch, launched, prepared, program, directory, files⟩ :=
    prepareCommand_rooted "/h/go" (by decide)
  have launches : (rooted "/h/go").Launches [] launch launched := .command leads_version prepared
  have fixed : (rooted "/h/go").Fixed [] := rfl
  have starts : startedIn launched.host.files launch.directory =
      .ok (twoToolchains "w") := by
    rw [files, directory]
    exact startedIn_twoToolchains
  refine ⟨launch, launched, _, launches, fixed, starts, ?_⟩
  rcases (launches_denote launches).2 _ starts (Or.inl fixed) with bare | found
  · rw [program] at bare
    exact absurd bare (by decide)
  · exact found

/-- With a relative root, the process has located the toolchain beside it, and the child is the one
    in the workspace. -/
theorem launch_goes_astray : ∃ launch launched started,
    (rooted "go").Launches [] launch launched ∧
      (rooted "go").locate [] = .ok "go/bin/go" ∧ launch.program = "go/bin/go" ∧
      launched.host.files.find "go/bin/go" =
        .ok (⟨["h", "go", "bin", "go"], 0⟩, .file [1] true) ∧
      startedIn launched.host.files launch.directory = .ok started ∧
      started.find "go/bin/go" = .ok (⟨["w", "go", "bin", "go"], 0⟩, .file [2] true) := by
  obtain ⟨launch, launched, prepared, program, directory, files⟩ :=
    prepareCommand_rooted "go" (by decide)
  have launches : (rooted "go").Launches [] launch launched := .command leads_version prepared
  have program : launch.program = "go/bin/go" := program
  have located := launches.located
  rw [program] at located
  have naming : Naming "go" := ⟨by decide, by decide, by decide⟩
  refine ⟨launch, launched, twoToolchains "w", launches, located, program, ?_, ?_, ?_⟩
  · rw [files]
    exact find_of_walk (by decide) (by decide) (by decide) rfl rfl rfl
      ((arrives_twoToolchains (Or.inl rfl)).walk_file naming rfl .look)
  · rw [files, directory]
    exact startedIn_twoToolchains
  · exact find_of_walk (by decide) (by decide) (by decide) rfl rfl rfl
      ((arrives_twoToolchains (Or.inr rfl)).walk_file naming rfl .look)

end Service

end GoWorkbench
