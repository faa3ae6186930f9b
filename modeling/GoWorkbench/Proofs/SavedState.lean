/-
  What a state file remembers.

  1. **There and back** — the bytes of a state hold its workspace, whatever characters that has
     (`ofBytes_toBytes`).
  2. **States** — which bytes are those of a state (`ofBytes_eq_some`).
  3. **Saving** — how saving a state ends (`save_ends`): it is stored, or a beginning of it is
     where something breaks the writing off, or no file changes.
  4. **Loading** — what has been stored is what is remembered (`load_of_read`), and what is
     remembered is in the file (`load_congr`).
-/
import GoWorkbench.Proofs.Host
import GoWorkbench.Proofs.Json.RoundTrip
import GoWorkbench.Proofs.Text.LineEnds
import GoWorkbench.SavedState

namespace GoWorkbench.SavedState

open FileSystem Text

variable {h : Host} {path workspace other : String} {files : FileSystem} {data : List UInt8}
  {entries : List (String × Value)}

/-! ## There and back -/

/-- **There and back**: the bytes of a state hold its workspace. -/
theorem ofBytes_toBytes (workspace : String) : ofBytes (toBytes workspace) = some workspace := by
  unfold ofBytes toBytes Json.ofBytes Utf8.bytes
  rw [Utf8.decode_encode]
  simp only [Except.toOption, Option.bind_some]
  rw [Json.read_indented _ (by decide)]
  rfl

/-! ## States -/

/-- The entries of a state name its last workspace: by the first key, or by the second one if the
    first is not there.  If neither is there, the name is the empty text. -/
inductive Names (entries : List (String × Value)) : String → Prop
  | first {workspace : String} (is : Value.get? workspaceKey entries = some (.text workspace)) :
      Names entries workspace
  | second {workspace : String} (no_first : Value.get? workspaceKey entries = none)
      (is : Value.get? otherWorkspaceKey entries = some (.text workspace)) :
      Names entries workspace
  | neither (no_first : Value.get? workspaceKey entries = none)
      (no_second : Value.get? otherWorkspaceKey entries = none) : Names entries ""

/-- The bytes are a state with the workspace: the UTF-8 form of a JSON table that names it. -/
def IsState (data : List UInt8) (workspace : String) : Prop :=
  ∃ text entries, Utf8.decode data = .ok text ∧
    Json.read Json.Limits.usual text = some (.table entries) ∧ Names entries workspace

theorem workspaceOf?_table :
    workspaceOf? (.table entries) = some workspace ↔ Names entries workspace := by
  unfold workspaceOf?
  dsimp only
  constructor
  · intro is
    rcases first : Value.get? workspaceKey entries with _ | value
    · rw [first, Option.none_or] at is
      rcases second : Value.get? otherWorkspaceKey entries with _ | value
      · rw [second] at is
        obtain rfl := Option.some.inj is
        exact .neither first second
      · rw [second] at is
        cases value <;> cases is
        exact .second first second
    · rw [first, Option.some_or] at is
      cases value <;> cases is
      exact .first first
  · intro named
    cases named with
    | first is => rw [is, Option.some_or]
    | second no_first is => rw [no_first, is, Option.none_or]
    | neither no_first no_second => rw [no_first, no_second, Option.none_or]

/-- **States**: the bytes that a workspace is read from. -/
theorem ofBytes_eq_some : ofBytes data = some workspace ↔ IsState data workspace := by
  have table : ∀ value, workspaceOf? value = some workspace ↔
      ∃ entries, value = .table entries ∧ Names entries workspace := by
    intro value
    constructor
    · intro is
      cases value with
      | table entries => exact ⟨entries, rfl, workspaceOf?_table.mp is⟩
      | _ => cases is
    · rintro ⟨entries, rfl, named⟩
      exact workspaceOf?_table.mpr named
  unfold ofBytes Json.ofBytes IsState
  rcases Utf8.decode data with fault | text
  · refine iff_of_false nofun ?_
    rintro ⟨text, entries, is, -⟩
    cases is
  · rw [show (Except.ok text : Except Utf8.Fault _).toOption = some text from rfl,
      Option.bind_some, Option.bind_eq_some_iff]
    constructor
    · rintro ⟨value, read, is⟩
      obtain ⟨entries, rfl, named⟩ := (table value).mp is
      exact ⟨text, entries, rfl, read, named⟩
    · rintro ⟨_, entries, decoded, read, named⟩
      obtain rfl := Except.ok.inj decoded
      exact ⟨.table entries, read, (table _).mpr ⟨entries, rfl, named⟩⟩

/-- They are a state with one workspace only. -/
theorem IsState.unique (is : IsState data workspace) (also : IsState data other) :
    workspace = other :=
  Option.some.inj ((ofBytes_eq_some.mpr is).symm.trans (ofBytes_eq_some.mpr also))

/-! ## Saving -/

/-- How saving a workspace ends: its state is in the file, or the file cannot be written, or the
    writing has been broken off, or there is no state of it, or no file with such a path.  In all
    cases but the first and the broken ones no file has changed. -/
inductive Saves (h : Host) (path : String) (text : CodePoints) :
    Option Breach → Except Failure Bool × Host → Prop
  | stored {files : FileSystem} (whole : ∀ n ∈ text.toList, CodePoints.isSurrogate n = false)
      (stored : Stored path (toBytes text.toString) h.files files) :
      Saves h path text none (.ok true, { h with files })
  | refused {fault : Option Breach} (unwritable : ¬ h.files.Writable path) :
      Saves h path text fault
        (.ok false, h.report .debug source s!"Could not persist state to {path}")
  | brokenOff {breach : Breach} {detail : String} {files : FileSystem}
      (how : breach.how = .system detail)
      (begun : Stored path ((toBytes text.toString).take breach.written) h.files files) :
      Saves h path text (some breach)
        (.ok false,
          { h with files }.report .debug source s!"Could not persist state to {path}")
  | interrupted {breach : Breach} {files : FileSystem}
      (how : ∀ detail, breach.how ≠ .system detail)
      (begun : Stored path ((toBytes text.toString).take breach.written) h.files files) :
      Saves h path text (some breach) (.error (.interrupted breach.how), { h with files })
  | halved {fault : Option Breach} (half : ∃ n ∈ text.toList, CodePoints.isSurrogate n = true) :
      Saves h path text fault (.error .halfCharacter, h)
  | nul {fault : Option Breach} (given : '\x00' ∈ path.toList) :
      Saves h path text fault (.error (.refused .nul path), h)

/-- **Saving** ends so. -/
theorem save_ends (orderly : h.files.Orderly) (path : String) (text : CodePoints)
    (fault : Option Breach) : Saves h path text fault (save h path text fault) := by
  unfold save
  obtain ⟨run, is, half⟩ | ⟨data, is, whole⟩ := encode_cases text
  · rw [is]
    exact .halved half
  · rw [is]
    dsimp only
    have ends := h.write_ends orderly path (toBytes text.toString) fault
    generalize h.write path (toBytes text.toString) fault = written at ends ⊢
    cases ends with
    | stored _ stored => exact .stored whole stored
    | @refused _ t refused =>
      -- Of all refusals only that of a NUL is not the system's, and leaves.
      by_cases nul : '\x00' ∈ path.toList
      · rw [write_of_nul nul] at refused
        obtain rfl := Except.error.inj refused
        exact .nul nul
      · have other : (Failure.refused t path).bySystem = true :=
          decide_eq_true fun (is : t = .nul) => write_ne_nul nul (is ▸ refused)
        dsimp only
        rw [if_pos other]
        exact .refused (not_writable refused)
    | @brokenOff breach files _ begun =>
      obtain ⟨how, count⟩ := breach
      cases how with
      | system detail => exact .brokenOff rfl begun
      | value detail => exact .interrupted nofun begun
      | other detail => exact .interrupted nofun begun

/-- A text has no half of a surrogate pair. -/
theorem not_halved (workspace : String) :
    ¬ ∃ n ∈ (CodePoints.ofString workspace).toList, CodePoints.isSurrogate n = true := by
  rintro ⟨n, listed, half⟩
  obtain ⟨run, is, -⟩ | ⟨data, is, whole⟩ := encode_cases (.ofString workspace)
  · have encodes := encode_ofString workspace.toList
    rw [String.ofList_toList, is] at encodes
    cases encodes
  · rw [whole n listed] at half
    cases half

/-- What is left of saving a workspace that is a text: its bytes are written, if that goes well. -/
theorem save_ofString (h : Host) (path workspace : String) (fault : Option Breach) :
    save h path (.ofString workspace) fault = match h.write path (toBytes workspace) fault with
      | (.ok (), h) => (.ok true, h)
      | (.error e, h) =>
        if e.bySystem then
          (.ok false, h.report .debug source s!"Could not persist state to {path}")
        else (.error e, h) := by
  have encodes := encode_ofString workspace.toList
  rw [String.ofList_toList] at encodes
  have is := toString_ofString workspace
  unfold save
  rw [encodes]
  generalize (CodePoints.ofString workspace).toString = text at is ⊢
  subst is
  rfl

/-- A path with a NUL is none that can be passed to an operating system. -/
theorem save_of_nul (nul : '\x00' ∈ path.toList) (fault : Option Breach) :
    save h path (.ofString workspace) fault = (.error (.refused .nul path), h) := by
  rw [save_ofString, Host.write_of_error (write_of_nul nul)]
  rfl

/-- **Loading**: what has been stored is what is remembered. -/
theorem load_of_read (read : h.files.read path = .ok (toBytes workspace)) :
    load h path = (.ok workspace, h) := by
  unfold load
  rw [read]
  dsimp only
  rw [ofBytes_toBytes]

/-- Something is remembered, be it nothing, unless the path is none that can be passed to an operating
    system. -/
theorem load_fst (h : Host) (path : String) :
    ('\x00' ∈ path.toList ∧ (load h path).1 = .error (.refused .nul path)) ∨
      '\x00' ∉ path.toList ∧ ∃ remembered, (load h path).1 = .ok remembered := by
  unfold load
  by_cases nul : '\x00' ∈ path.toList
  · rw [read_of_nul nul]
    exact Or.inl ⟨nul, rfl⟩
  · refine Or.inr ⟨nul, ?_⟩
    dsimp only
    split
    · rename_i refused
      exact absurd refused (read_ne_nul nul)
    · exact ⟨_, rfl⟩
    · exact ⟨_, rfl⟩
    · split <;> exact ⟨_, rfl⟩

/-- Looking for the remembered workspace changes nothing but the log. -/
theorem load_snd (h : Host) (path : String) :
    (load h path).2.files = h.files ∧
      (load h path).2.environment = h.environment ∧
      (load h path).2.temporary = h.temporary := by
  unfold load
  dsimp only
  split
  · exact ⟨rfl, rfl, rfl⟩
  · exact ⟨rfl, rfl, rfl⟩
  · exact ⟨rfl, rfl, rfl⟩
  · split <;> exact ⟨rfl, rfl, rfl⟩

/-- What is remembered is what is in the file. -/
theorem load_congr {h' : Host} (same : h'.files.read path = h.files.read path) :
    (load h' path).1 = (load h path).1 := by
  unfold load
  rw [same]
  dsimp only
  split
  · rfl
  · rfl
  · rfl
  · split <;> rfl

end GoWorkbench.SavedState
