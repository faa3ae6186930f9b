/-
  What comes of the bytes of a configuration file.

  The bytes go through a decoder, a reader of TOML and a check, each with faults of its own.

  1. **The file** — if there is one, its bytes are all that counts (`load_of_read`).
  2. **Outcomes** — bytes that are no text break the loading off, and so does a decimal integer with
     too many digits; every other text gives a configuration or a fault of the configuration, and
     that names the file (`load_cases`).
-/
import GoWorkbench.Config
import GoWorkbench.Proofs.FileSystem.Spots
import GoWorkbench.Proofs.Text.LineEnds
import GoWorkbench.Proofs.Toml.Reading

namespace GoWorkbench

open Text

/-- The file that a fault is about. -/
def ConfigFault.path : ConfigFault → String
  | .malformed path => path
  | .invalid path _ _ => path

namespace Config

variable {h : Host} {directory : String} {data : List UInt8}

/-! ## The file -/

theorem probe_of_read {path : String} (there : h.files.read path = .ok data) :
    h.probe path Entry.isFile = .ok true := by
  unfold FileSystem.read at there
  unfold Host.probe
  split at there
  · cases there
  · rename_i location data executable found
    rw [found]
    rfl
  · cases there

/-- **The file**: if there is one, its bytes are all that counts. -/
theorem load_of_read (there : h.files.read (file directory) = .ok data) :
    load h directory = ofBytes (file directory) data := by
  have reads : h.read (file directory) = .ok data := by
    unfold Host.read
    rw [there]
  unfold load
  dsimp only
  rw [probe_of_read there, reads]
  rfl

/-! ## Outcomes -/

/-- What a document stands for. -/
def ofEntries (path : String) (entries : Toml.Entries) : Except Failure Config :=
  match check (.table entries) with
  | .ok config => .ok config
  | .error complaints => .error (.config (.invalid path "EditorConfig" complaints))

/-- What a text stands for. -/
def ofText (path : String) (text : List Char) : Except Failure Config :=
  match Toml.read text with
  | .error .malformed => .error (.config (.malformed path))
  | .error (.longInteger digits) => .error (.longInteger digits)
  | .ok entries => ofEntries path entries

theorem ofBytes_encode (path : String) (text : List Char) :
    ofBytes path (Utf8.encode text) = ofText path text := by
  unfold ofBytes
  rw [Utf8.decode_encode]
  rfl

theorem ofText_cases (path : String) (text : List Char) :
    (∃ config, ofText path text = .ok config) ∨
      (∃ fault, ofText path text = .error (.config fault) ∧ fault.path = path) ∨
      ∃ n, ofText path text = .error (.longInteger n) ∧ Toml.LongRun n text := by
  unfold ofText
  obtain ⟨entries, is, -⟩ | is | ⟨n, is, run⟩ := Toml.read_cases text
  · rw [is]
    unfold ofEntries
    dsimp only
    cases check (.table entries) with
    | ok config => exact .inl ⟨config, rfl⟩
    | error complaints => exact .inr (.inl ⟨_, rfl, rfl⟩)
  · rw [is]
    exact .inr (.inl ⟨_, rfl, rfl⟩)
  · rw [is]
    exact .inr (.inr ⟨n, rfl, run⟩)

/-- Only the decoder says that bytes cannot be decoded. -/
theorem undecodable_iff (path : String) :
    (∃ fault, ofBytes path data = .error (.undecodable fault)) ↔
      ¬ ∃ text, Utf8.encode text = data := by
  constructor
  · rintro ⟨fault, breaks⟩ ⟨text, rfl⟩
    rw [ofBytes_encode] at breaks
    obtain ⟨config, is⟩ | ⟨fault, is, -⟩ | ⟨n, is, -⟩ := ofText_cases path text
    all_goals
      rw [is] at breaks
      cases breaks
  · intro no_text
    unfold ofBytes
    cases decoded : Utf8.decode data with
    | error fault => exact ⟨fault, rfl⟩
    | ok text => exact absurd ⟨text, Utf8.encode_of_decode decoded⟩ no_text

/-- **Outcomes**: where there is a file, every text in it gives a configuration or a fault of the
    configuration that names the file, unless a decimal integer of more digits than are read stands
    in the text; and bytes that are no text are the only ones that cannot be decoded. -/
theorem load_cases (there : h.files.read (file directory) = .ok data) :
    (∀ text, Utf8.encode text = data →
      (∃ config, load h directory = .ok config) ∨
      (∃ fault, load h directory = .error (.config fault) ∧ fault.path = file directory) ∨
      ∃ n, load h directory = .error (.longInteger n) ∧ Toml.LongRun n text) ∧
    ((∃ fault, load h directory = .error (.undecodable fault)) ↔
      ¬ ∃ text, Utf8.encode text = data) := by
  rw [load_of_read there]
  refine ⟨?_, undecodable_iff _⟩
  rintro text rfl
  rw [ofBytes_encode]
  exact ofText_cases _ text

/-! ### A configuration file in `/w` -/

/-- A host with a configuration file of these bytes. -/
def configured (data : List UInt8) : Host where
  files := ⟨[("w", .directory [("editor.toml", .file data false)])], .root⟩
  environment := []
  system := "linux"
  machine := "x86_64"
  temporary := "/tmp"

theorem read_configured (data : List UInt8) :
    (configured data).files.read (file "/w") = .ok data := by
  have leads : FileSystem.LeadsTo "/w/editor.toml" ["w", "editor.toml"] := ⟨rfl, rfl, by decide⟩
  exact leads.read (leads.passable (by decide) (by decide)) (Entry.fileAt_eq_some.mpr ⟨false, rfl⟩)
    (by decide)

/-- The document has this text for this key and nothing else. -/
def isEntry (key s : String) : Except Toml.Fault Toml.Entries → Bool
  | .ok [(k, .text t)] => k = key && t = s
  | _ => false

theorem read_of_isEntry {key s : String} {text : List Char}
    (entry : isEntry key s (Toml.read text) = true) : Toml.read text = .ok [(key, .text s)] := by
  unfold isEntry at entry
  split at entry
  · rename_i k t is
    obtain ⟨same_key, same⟩ := (Bool.and_eq_true _ _).mp entry
    rw [is, of_decide_eq_true same_key, of_decide_eq_true same]
  · cases entry

theorem load_cases_of_quoted :
    (configured (Utf8.encode ['\''])).files.read (file "/w") = .ok (Utf8.encode ['\'']) ∧
    ∃ fault, load (configured (Utf8.encode ['\''])) "/w" = .error (.config fault) ∧
      fault.path = file "/w" := by
  have there := read_configured (Utf8.encode ['\''])
  refine ⟨there, ?_⟩
  obtain ⟨config, is⟩ | rejected | ⟨n, is, -⟩ := (load_cases there).1 ['\''] rfl
  · rw [load_of_read there, ofBytes_encode] at is
    cases is
  · exact rejected
  · rw [load_of_read there, ofBytes_encode] at is
    cases is

/-! ## Breaking off -/

/-- A key with an integer of 4301 digits. -/
def longText : List Char := 'x' :: '=' :: List.replicate 4301 '1'

/-- The outcome is a long integer of so many digits. -/
def isLong (digits : Nat) : Except Toml.Fault Toml.Entries → Bool
  | .error (.longInteger n) => n = digits
  | _ => false

theorem read_longText : Toml.read longText = .error (.longInteger 4301) := by
  -- documents have no decidable equality, so the outcome is told by a test
  have long : isLong 4301 (Toml.read longText) = true := by decide +kernel
  unfold isLong at long
  split at long
  · rename_i n is
    rw [is, of_decide_eq_true long]
  · cases long

/-- **Breaking off**: not every file gives a configuration or a fault of it. -/
theorem load_breaks_off :
    (∃ fault, load (configured [0xFF]) "/w" = .error (.undecodable fault)) ∧
      load (configured (Utf8.encode longText)) "/w" = .error (.longInteger 4301) := by
  constructor
  · rw [load_of_read (read_configured _)]
    exact ⟨_, rfl⟩
  · rw [load_of_read (read_configured _), ofBytes_encode]
    unfold ofText
    rw [read_longText]

end Config

end GoWorkbench
