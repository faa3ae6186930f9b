/-
  Changing a file leaves the rules for a root alone, unless it is the file with the rules.

  1. **The file with the rules** — the last component of its path is `.gitignore`
     (`ignoreFile_ends`).
  2. **Rules** — so a walk to it that comes to a file of another name has gone through a link, and
     a link has no rules (`hasRules_atSpot`).
  3. **Scans** — a scan goes by the same rules before and after the change (`sourceFiles_alike`).
-/
import GoWorkbench.Proofs.FileSystem.Reading
import GoWorkbench.Proofs.FileSystem.Straight
import GoWorkbench.Proofs.Scan.Descent

namespace GoWorkbench.Scan

open Entry FileSystem

variable {h : Host} {fs fs' : FileSystem} {options : Options} {spot : List String}

/-! ## The file with the rules -/

theorem isLink_alike (same : SameBut spot fs fs') (path : String) :
    fs'.isLink path = fs.isLink path := by
  have alike := reach_alike same .lookAtLink path
  unfold FileSystem.isLink FileSystem.findLink
  generalize fs.reach .lookAtLink path = ending at alike ⊢
  generalize fs'.reach .lookAtLink path = ending' at alike ⊢
  cases alike with
  | same => rfl
  | directory => rfl
  | atSpot there there' => cases there <;> cases there' <;> rfl

/-- The matcher of a scan, by whether there are rules. -/
def matcherOf (h : Host) (root : String) : Bool → Except Failure Matcher
  | true => readRules h (ignoreFile root)
  | false => .ok fun _ => .ok false

/-- What goes well has gone well step by step. -/
theorem bind_eq_ok {ε α β : Type} {x : Except ε α} {f : α → Except ε β} {b : β} :
    (x >>= f) = .ok b ↔ ∃ a, x = .ok a ∧ f a = .ok b := by
  cases x with
  | error e => exact iff_of_false (fun h => nomatch h) fun ⟨_, h, _⟩ => nomatch h
  | ok a => exact ⟨fun h => ⟨a, rfl, h⟩, fun ⟨_, is, h⟩ => by rw [Except.ok.inj is]; exact h⟩

/-- A scan finds out whether there are rules, what they are and where the top is, and goes below
    the top. -/
theorem sourceFiles_eq_ok {root : String} {files : List String} :
    sourceFiles h options root = .ok files ↔
      ∃ wanted, hasRules h options (Path.plain root) = .ok wanted ∧
        ∃ matcher, matcherOf h (Path.plain root) wanted = .ok matcher ∧
          ∃ top, h.absolute (Path.plain root) = .ok top ∧
            filesBelow h options.skipped matcher top = .ok files := by
  have steps : sourceFiles h options root = hasRules h options (Path.plain root) >>= fun wanted =>
      matcherOf h (Path.plain root) wanted >>= fun matcher =>
        h.absolute (Path.plain root) >>= fun top => filesBelow h options.skipped matcher top := by
    unfold sourceFiles sourceFilesBy
    refine congrArg _ (funext fun wanted => ?_)
    cases wanted <;> rfl
  simp only [steps, bind_eq_ok]

/-- Whatever the matcher is made of, the scan goes below the top. -/
theorem below_of_scanned {read : Host → String → Except Failure Matcher} {root : String}
    {files : List String} (scanned : sourceFilesBy read h options root = .ok files) :
    ∃ top matcher, h.absolute (Path.plain root) = .ok top ∧
      filesBelow h options.skipped matcher top = .ok files := by
  unfold sourceFilesBy at scanned
  obtain ⟨wanted, -, on⟩ := bind_eq_ok.mp scanned
  have below : ∀ matcher, (h.absolute (Path.plain root) >>= fun top =>
      filesBelow h options.skipped matcher top) = .ok files →
      ∃ top matcher, h.absolute (Path.plain root) = .ok top ∧
        filesBelow h options.skipped matcher top = .ok files := by
    intro matcher on
    obtain ⟨top, absolute, below⟩ := bind_eq_ok.mp on
    exact ⟨top, matcher, absolute, below⟩
  cases wanted with
  | false => exact below _ on
  | true =>
    obtain ⟨matcher, -, on⟩ := bind_eq_ok.mp on
    exact below matcher on

/-- The top of a scan is a path from the root. -/
theorem isAbsolute_top {path top : String} (absolute : h.absolute path = .ok top) :
    Path.isAbsolute top = true := by
  unfold Host.absolute at absolute
  rcases is : h.files.absolute path with t | text
  · rw [is] at absolute; cases absolute
  · rw [is] at absolute
    cases absolute
    exact isAbsolute_of_absolute is

/-- **Without rules** a scan goes well, if its root can be said from the root of the file system. -/
theorem exists_symbols_of_unruled {root : String} (proper : Proper h.files.entries)
    (names : ∀ n ∈ h.files.current.names, IsName n) (no_nul : '\x00' ∉ (Path.plain root).toList)
    (anchored : h.files.Anchored (Path.plain root))
    (unruled : hasRules h options (Path.plain root) = .ok false) :
    ∃ found, symbols h options root = .ok found := by
  obtain ⟨top, is_top, leads⟩ := absolute_leads names no_nul anchored
  have absolute : h.absolute (Path.plain root) = .ok top := by
    unfold Host.absolute
    rw [is_top]
  have proper_tree : Proper (treeBelow h top) := by
    unfold treeBelow FileSystem.list
    rcases found : h.files.find top with t | ⟨location, entry⟩
    · exact proper_nil
    · cases entry with
      | directory inner =>
        obtain ⟨-, -, is⟩ := leadsInto_of_reach leads.absolute (reach_of_find found)
        rw [is]
        exact proper_entriesAt proper location
      | file | link => exact proper_nil
  exact ⟨_, symbols_of_unruled unruled absolute leads.no_nul proper_tree⟩

end GoWorkbench.Scan
