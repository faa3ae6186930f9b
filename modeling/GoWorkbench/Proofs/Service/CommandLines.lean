/-
  What becomes of a command line.

  1. **Words** — a command line is launched as its words, with the toolchain for a leading `go`
     (`commandWords_direct`); on platforms that need it, a line that begins with another bare command
     goes to the shell as it stands (`commandWords_shell`).
  2. **Launches** — a blank line is answered without a child (`runCommand_blank`).  Any other line is
     split into words, and a child with these is started if there is a directory for it
     (`runCommand_spaced`).  `command_lines_split` is both together.
-/
import GoWorkbench.Proofs.Service.Variables
import GoWorkbench.Proofs.Text.Words

namespace GoWorkbench

open GoWorkbench.Text

/-! ## Words -/

/-- The line is launched as its words: no shell is needed, or the first word is the toolchain or a
    path. -/
def GoesDirectly (platform : Platform) (first : String) : Prop :=
  platform.wrapsBareCommands = false ∨ first = "go" ∨ '/' ∈ first.toList ∨ '\\' ∈ first.toList

/-- **Words**: a line that goes directly is its words, with the toolchain in place of a leading
    `go`. -/
theorem commandWords_direct {line first : String} {rest : List String} {platform : Platform}
    (leads : Text.words line = first :: rest) (direct : GoesDirectly platform first)
    (toolchain : String) : commandWords line toolchain platform =
      .ok ((if first = "go" then toolchain else first) :: rest) := by
  by_cases go : first = "go"
  · rw [Service.commandWords_program platform (go ▸ leads), if_pos go]
  have no_shell :
      ¬ (platform.wrapsBareCommands && '/' ∉ first.toList && '\\' ∉ first.toList) = true := by
    rcases direct with unwrapped | is_go | slash | backslash
    · simp [unwrapped]
    · exact absurd is_go go
    · simp [slash]
    · simp [backslash]
  unfold commandWords Toolchain.program
  rw [leads]
  dsimp only
  rw [if_neg go, if_neg no_shell, if_neg go]

/-- Any other line is handed to the shell as it stands. -/
theorem commandWords_shell {line first : String} {rest : List String} {platform : Platform}
    (leads : Text.words line = first :: rest) (handed_on : ¬ GoesDirectly platform first)
    (toolchain : String) : commandWords line toolchain platform = .ok ["cmd", "/C", line] := by
  unfold GoesDirectly at handed_on
  simp only [not_or, Bool.not_eq_false] at handed_on
  obtain ⟨wrapped, not_go, no_slash, no_backslash⟩ := handed_on
  have shell : (platform.wrapsBareCommands && '/' ∉ first.toList && '\\' ∉ first.toList) = true := by
    simp [wrapped, no_slash, no_backslash]
  unfold commandWords Toolchain.program
  rw [leads]
  dsimp only
  rw [if_neg not_go, if_pos shell]
  rfl

namespace Service

variable {s : Service} {job : CommandJob}

/-! ## Launches -/

/-- A blank line is answered, whatever a child would do, and changes nothing. -/
theorem runCommand_blank (blank : IsBlank job.command)
    (child : Launch → Service → Ending × Service) :
    s.runCommand job child = (.ok { error := some "no command given" }, s) := by
  unfold runCommand
  rw [prepareCommand_eq, if_pos (List.isEmpty_iff.mpr (words_eq_nil_iff.mpr blank))]

/-- What a command line with words comes to: a child is started with these words, and how it ends is
    the answer; or there is no directory to start it in. -/
def Comes (s : Service) (job : CommandJob) (child : Launch → Service → Ending × Service)
    (words : List String) : Prop :=
  (∃ directory, s.commandDirectory = .ok directory ∧
    let launch := ⟨words, some directory, childVariables s.host (s.withRoot job.settings)⟩
    let (ending, ended) := child launch (s.announce launch)
    s.runCommand job child = ended.finishCommand launch ending) ∨
  ∃ e, s.commandDirectory = .error e ∧ s.runCommand job child = (.error e, s)

theorem runCommand_spaced (orderly : s.host.files.Orderly) (some_word : Text.words job.command ≠ [])
    (child : Launch → Service → Ending × Service) :
    ∃ toolchain words, s.locate job.settings = .ok toolchain ∧
      commandWords job.command toolchain s.platform = .ok words ∧ s.Comes job child words := by
  have some_word : ¬ (Text.words job.command).isEmpty = true := fun none =>
    some_word (List.isEmpty_iff.mp none)
  obtain ⟨toolchain, located⟩ := locate_ok orderly job.settings
  obtain ⟨words, is_words⟩ := commandWords_ok some_word toolchain s.platform
  refine ⟨toolchain, words, located, is_words, ?_⟩
  unfold Comes runCommand
  rw [prepareCommand_eq, if_neg some_word, located]
  dsimp only
  rw [is_words]
  cases placed : s.commandDirectory with
  | ok directory => exact .inl ⟨directory, rfl, rfl⟩
  | error e => exact .inr ⟨e, rfl, rfl⟩

/-- **Command lines**: of a line that is put together from words and white space, the words are
    launched, or the shell gets the line as it stands.  Every line that is not blank is such a line,
    and running it starts a child with what has become of it; a blank line starts none. -/
theorem command_lines_split :
    (∀ (row : Spaced) (toolchain : String) (platform : Platform),
      (GoesDirectly platform row.first → commandWords row.line toolchain platform =
        .ok ((if row.first = "go" then toolchain else row.first) :: row.more.map (·.2))) ∧
      (¬ GoesDirectly platform row.first →
        commandWords row.line toolchain platform = .ok ["cmd", "/C", row.line])) ∧
    ∀ (s : Service) (job : CommandJob) (child : Launch → Service → Ending × Service),
      (IsBlank job.command →
        s.runCommand job child = (.ok { error := some "no command given" }, s)) ∧
      (¬ IsBlank job.command → (∃ row : Spaced, row.line = job.command) ∧
        (s.host.files.Orderly → ∃ toolchain words, s.locate job.settings = .ok toolchain ∧
          commandWords job.command toolchain s.platform = .ok words ∧ s.Comes job child words)) := by
  refine ⟨fun row toolchain platform => ?_, fun s job child => ?_⟩
  · have leads : Text.words row.line = row.first :: row.more.map (·.2) := words_line row
    exact ⟨fun direct => commandWords_direct leads direct toolchain,
      fun handed_on => commandWords_shell leads handed_on toolchain⟩
  · refine ⟨fun blank => runCommand_blank blank child, fun not_blank => ?_⟩
    have some_word : Text.words job.command ≠ [] := mt words_eq_nil_iff.mp not_blank
    exact ⟨(blank_or_spaced job.command).resolve_left not_blank,
      fun orderly => runCommand_spaced orderly some_word child⟩

/-- A bare command with white space of three kinds. -/
def directoryListing : Spaced where
  before := " "
  first := "dir"
  more := [("\u3000", "/b")]
  after := "\n"
  blank_before := by decide
  word_first := by decide
  gaps := by decide
  words_more := by decide
  blank_after := by decide

theorem command_lines_split_listing :
    ¬ GoesDirectly .windows "dir" ∧ GoesDirectly .posix "dir" ∧ oneFile.Orderly ∧
    commandWords " dir\u3000/b\n" "/go" .windows = .ok ["cmd", "/C", " dir\u3000/b\n"] ∧
    commandWords " dir\u3000/b\n" "/go" .posix = .ok ["dir", "/b"] ∧
    (serving oneFile).Comes ⟨" dir\u3000/b\n", []⟩ failing ["dir", "/b"] := by
  have handed_on : ¬ GoesDirectly .windows "dir" := by
    unfold GoesDirectly
    decide
  have direct : GoesDirectly .posix "dir" := .inl rfl
  obtain ⟨split, runs⟩ := command_lines_split
  have words_posix := (split directoryListing "/go" .posix).1 direct
  refine ⟨handed_on, direct, orderly_oneFile, (split directoryListing "/go" .windows).2 handed_on,
    words_posix, ?_⟩
  have not_blank : ¬ IsBlank " dir\u3000/b\n" := by decide
  obtain ⟨-, starts⟩ := (runs (serving oneFile) ⟨" dir\u3000/b\n", []⟩ failing).2 not_blank
  obtain ⟨toolchain, words, -, is, comes⟩ := starts orderly_oneFile
  have launched := ((split directoryListing toolchain .posix).1 direct).symm.trans is
  rwa [← Except.ok.inj launched] at comes

end Service

end GoWorkbench
