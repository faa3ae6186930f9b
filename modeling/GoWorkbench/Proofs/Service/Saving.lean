/-
  What saving a file leaves behind.

  A save empties the file before it looks at the text, and notes the write after it.  A text that
  cannot be encoded is found out too late, and so is a workspace that links lead to in a circle; and
  what breaks the writing off leaves a beginning of the text.  Apart from these, a save stores the
  text or changes nothing at all.

  1. **Notes** — a write can be noted if it can be told whether the path is in the workspace
     (`noteWritten_ok`), and no file is changed by that.
  2. **Stored or untouched** — a save of a text that can be encoded stores its bytes, or the service
     is as it was before, or the writing has been broken off (`save_stores`).
  3. **Emptied** — a save of any other text empties the file, if the path leads to one
     (`save_empties`).
-/
import GoWorkbench.Proofs.Host
import GoWorkbench.Service.Run

namespace GoWorkbench

open FileSystem Text

namespace Service

variable {s after : Service} {root path : String} {content : CodePoints} {data : List UInt8}

/-! ## Notes -/

theorem rebuildUnattended_files (index : SymbolIndex) (h : Host) (root : String) :
    (index.rebuildUnattended h root).2.files = h.files := by
  unfold SymbolIndex.rebuildUnattended SymbolIndex.rebuild
  dsimp only
  split <;> rename_i same <;> split at same <;> cases same <;> rfl

/-- A rebuild changes no file. -/
theorem schedule_files (s : Service) (root : String) :
    (s.schedule root).host.files = s.host.files :=
  rebuildUnattended_files s.index s.host root

theorem noteWritten_files (s : Service) (path : String) :
    (s.noteWritten path).2.host.files = s.host.files := by
  unfold noteWritten
  split
  · rfl
  · rfl
  · exact schedule_files s _

/-- Every workspace that is active can be resolved. -/
def WellRooted (s : Service) : Prop :=
  ∀ root, s.workspace = some root → s.host.files.Resolvable root

/-- It can be told whether the path is in the workspace, if there is one: both can be resolved. -/
def Placeable (s : Service) (path : String) : Prop :=
  ∀ root, s.workspace = some root → s.host.files.Resolvable root ∧ s.host.files.Resolvable path

theorem WellRooted.placeable (well : s.WellRooted) (resolves : s.host.files.Resolvable path) :
    s.Placeable path := fun root active => ⟨well root active, resolves⟩

/-- It can be told whether the path is in the workspace, if there is one. -/
def Placed (s : Service) (path : String) : Prop :=
  ∀ root, s.workspace = some root → ∃ inside, s.host.isWithin path root = .ok inside

theorem Placeable.placed (placeable : s.Placeable path) : s.Placed path :=
  fun root active => Host.isWithin_ok (placeable root active).2 (placeable root active).1

theorem rebuildDue_ok (placed : s.Placed path) : ∃ due, s.rebuildDue path = .ok due := by
  unfold rebuildDue
  split
  · exact ⟨_, rfl⟩
  · rename_i root active
    split
    · exact ⟨_, rfl⟩
    · obtain ⟨inside, within⟩ := placed root active
      rw [within]
      exact ⟨_, rfl⟩

/-- **Notes**: that a file has been written can be noted if its path can be placed. -/
theorem noteWritten_ok (placed : s.Placed path) :
    ∃ noted, (s.noteWritten path).1 = .ok noted := by
  obtain ⟨due, h⟩ := rebuildDue_ok placed
  unfold noteWritten
  rw [h]
  cases due with
  | none => exact ⟨false, rfl⟩
  | some root => exact ⟨true, rfl⟩

/-! ## Stored or untouched -/

/-- Where only a file differs, a path can be placed as before. -/
theorem Placeable.stored {files : FileSystem} (placeable : s.Placeable path)
    (orderly : s.host.files.Orderly) (stored : Stored path data s.host.files files) :
    Placeable { s with host := { s.host with files } } path := by
  obtain ⟨spot, executable, -, same⟩ := stored.found
  exact fun root active => (placeable root active).imp
    (·.alike same orderly.proper stored.orderly.proper)
    (·.alike same orderly.proper stored.orderly.proper)

/-- A text that can be encoded is written as its bytes. -/
theorem writeText_of_encode (encodes : content.encode = .ok data) (fault : Option Breach) :
    s.writeText path content fault =
      ((s.host.write path data fault).1, { s with host := (s.host.write path data fault).2 }) := by
  unfold writeText
  rw [encodes]
  dsimp only
  rcases s.host.write path data fault with ⟨e | ⟨⟩, host⟩ <;> rfl

/-- **Stored or untouched**: a save of a text that can be encoded to a path that can be placed stores
    the bytes of the text, or leaves everything as it was if the path cannot be opened.  If the
    writing is broken off, a beginning of them is stored and no rebuild is scheduled. -/
theorem save_stores (orderly : s.host.files.Orderly) (placeable : s.Placeable path)
    (encodes : content.encode = .ok data) (fault : Option Breach) :
    match s.host.files.write path data, fault with
    | .error t, _ => s.save path content fault = (.error (.refused t path), s)
    | .ok _, none => ∃ after, s.save path content fault = (.ok (), after) ∧
        after.host.files.read path = .ok data
    | .ok _, some breach => ∃ after,
        s.save path content fault = (.error (.interrupted breach.how), after) ∧
        Stored path (data.take breach.written) s.host.files after.host.files ∧
        after.index = s.index := by
  have written := @writeText_of_encode s path _ _ encodes fault
  have ends := s.host.write_ends orderly path data fault
  unfold save
  rw [written]
  generalize s.host.write path data fault = answer at ends ⊢
  cases ends with
  | refused refused =>
    rw [refused]
  | @stored files is stored =>
    rw [is]
    obtain ⟨noted, hnoted⟩ := noteWritten_ok (placeable.stored orderly stored).placed
    have kept := noteWritten_files { s with host := { s.host with files } } path
    dsimp only
    generalize noteWritten _ path = note at hnoted kept ⊢
    obtain ⟨answer, after⟩ := note
    obtain rfl : answer = .ok noted := hnoted
    refine ⟨after, rfl, ?_⟩
    rw [show after.host.files = files from kept]
    exact stored.read
  | @brokenOff breach files opens begun =>
    obtain ⟨whole, is⟩ := opens.write data
    rw [is]
    exact ⟨_, rfl, begun, rfl⟩

/-- A service over some files, with `/w` as its workspace. -/
def serving (files : FileSystem) : Service where
  config := {}
  platform := .posix
  statePath := "/editor_config.json"
  workspace := some "/w"
  index := { options := {} }
  host := { files, environment := [], system := "linux", machine := "x86_64", temporary := "/tmp" }

/-- A workspace with one file. -/
def oneFile : FileSystem := ⟨[("w", .directory [("a.go", .file [112] false)])], .root⟩

theorem orderly_oneFile : oneFile.Orderly := by
  refine Sound.orderly ⟨?_, linkFree_of_countLinks (by simp [oneFile, countLinks]),
    stands_root _, by decide⟩
  simp only [oneFile, Entry.Proper]
  decide

theorem wellRooted_oneFile : (serving oneFile).WellRooted := by
  rintro root ⟨⟩
  have leads : LeadsTo "/w" ["w"] := ⟨rfl, rfl, by decide⟩
  exact leads.resolvable orderly_oneFile
    (rfl : Entry.at? ["w"] oneFile.entries = some (.directory _)) nofun

theorem leadsTo_file : LeadsTo "/w/a.go" ["w", "a.go"] := ⟨rfl, rfl, by decide⟩

theorem passable_file : Passable "/w/a.go" := leadsTo_file.passable (by decide) (by decide)

/-- The file can be written over. -/
theorem write_oneFile (data : List UInt8) : oneFile.write "/w/a.go" data =
    .ok ⟨[("w", .directory [("a.go", .file data false)])], .root⟩ :=
  leadsTo_file.write passable_file (by decide)
    (rfl : Entry.at? ["w", "a.go"] oneFile.entries = some (.file [112] false)) data

theorem encode_x : CodePoints.encode ⟨[120]⟩ = .ok [120] := by decide +kernel

theorem placeable_oneFile : (serving oneFile).Placeable "/w/a.go" :=
  wellRooted_oneFile.placeable <| leadsTo_file.resolvable orderly_oneFile
    (rfl : Entry.at? ["w", "a.go"] oneFile.entries = some (.file [112] false)) nofun

theorem save_stores_over_file : oneFile.Orderly ∧ (serving oneFile).Placeable "/w/a.go" ∧
    CodePoints.encode ⟨[120]⟩ = .ok [120] ∧
    ∃ after, (serving oneFile).save "/w/a.go" ⟨[120]⟩ = (.ok (), after) ∧
      after.host.files.read "/w/a.go" = .ok [120] := by
  refine ⟨orderly_oneFile, placeable_oneFile, encode_x, ?_⟩
  have stores := @save_stores (serving oneFile) "/w/a.go" _ _ orderly_oneFile placeable_oneFile
    encode_x none
  rw [show (serving oneFile).host.files = oneFile from rfl, write_oneFile] at stores
  exact stores

/-! ## Emptied -/

/-- **Emptied**: of a text that cannot be encoded nothing is saved, and the file that the path leads
    to is empty. -/
theorem save_empties {u : CodePoints.Unencodable} (orderly : s.host.files.Orderly)
    (fails : content.encode = .error u) (opens : ∃ files, s.host.files.write path [] = .ok files) :
    (s.save path content).1 = .error (.unencodable u) ∧
      (s.save path content).2.host.files.read path = .ok [] := by
  obtain ⟨files, written⟩ := opens
  unfold save writeText
  rw [fails]
  dsimp only
  rw [Host.write_of_ok written]
  exact ⟨rfl, (stored_of_write orderly written).read⟩

/-- A save that fails has taken away what was in the file. -/
theorem save_loses_text : ∃ u after, (serving oneFile).save "/w/a.go" ⟨[0xD800]⟩ =
      (.error (.unencodable u), after) ∧
    oneFile.read "/w/a.go" = .ok [112] ∧ after.host.files.read "/w/a.go" = .ok [] := by
  have encodes : CodePoints.encode ⟨[0xD800]⟩ = .error ⟨0xD800, 0, 1⟩ := by decide +kernel
  have before : oneFile.read "/w/a.go" = .ok [112] :=
    leadsTo_file.read passable_file (by decide) (by decide)
  obtain ⟨fails, emptied⟩ :=
    @save_empties (serving oneFile) "/w/a.go" _ _ orderly_oneFile encodes ⟨_, write_oneFile []⟩
  exact ⟨_, _, Prod.ext fails rfl, before, emptied⟩

end Service

end GoWorkbench
