/-
  What the operations of a host come to.

  1. **Writing** — a path that is refused is refused whatever is to be written there
     (`write_refused`).  Otherwise all the bytes get into the file, or those that were written
     before something broke the writing off (`write_ends`).
  2. **Places** — whether one path is within another is answered if both can be resolved
     (`isWithin_ok`).
-/
import GoWorkbench.Host
import GoWorkbench.Proofs.FileSystem.Resolving

namespace GoWorkbench

open FileSystem

variable {h : Host} {path root : String} {data : List UInt8}

/-! ## Writing -/

/-- A path is refused for itself, not for what is to be written there. -/
theorem FileSystem.write_refused {fs : FileSystem} {t : Trouble}
    (refused : fs.write path data = .error t) (other : List UInt8) :
    fs.write path other = .error t := by
  unfold FileSystem.write at refused ⊢
  split at refused
  · exact refused
  · cases refused
  · cases refused
  · exact refused

theorem FileSystem.not_writable {fs : FileSystem} {t : Trouble}
    (refused : fs.write path data = .error t) : ¬ fs.Writable path := fun writable => by
  obtain ⟨files, written⟩ := writable.write data
  rw [refused] at written
  cases written

/-- The disk is full, so nothing is written to a file that has been opened. -/
def Breach.full : Breach := ⟨.system "No space left on device", 0⟩

namespace Host

/-- Writing opens the file, and then puts the bytes there or is broken off. -/
theorem write_cases (h : Host) (path : String) (data : List UInt8) (fault : Option Breach) :
    (∃ t, h.files.write path data = .error t ∧
      h.write path data fault = (.error (.refused t path), h)) ∨
    ∃ files, h.files.write path (Breach.kept fault data) = .ok files ∧
      h.write path data fault =
        (match fault with
          | some breach => .error (.interrupted breach.how)
          | none => .ok (), { h with files }) := by
  unfold Host.write
  rcases written : h.files.write path (Breach.kept fault data) with t | files
  · exact .inl ⟨t, write_refused written data, rfl⟩
  · refine .inr ⟨files, rfl, ?_⟩
    cases fault <;> rfl

/-- A writing that goes well is not broken off. -/
theorem write_ok {fault : Option Breach} {after : Host}
    (wrote : h.write path data fault = (.ok (), after)) :
    fault = none ∧ h.files.write path data = .ok after.files := by
  rcases h.write_cases path data fault with ⟨t, -, is⟩ | ⟨files, written, is⟩
  · cases is.symm.trans wrote
  · cases fault with
    | some breach => cases is.symm.trans wrote
    | none =>
      cases is.symm.trans wrote
      exact ⟨rfl, written⟩

/-- One that is refused and not broken off changes nothing. -/
theorem write_error {e : Failure} {after : Host} (refused : h.write path data = (.error e, after)) :
    after = h := by
  rcases h.write_cases path data none with ⟨t, -, is⟩ | ⟨files, -, is⟩
  · cases is.symm.trans refused
    rfl
  · cases is.symm.trans refused

/-- How writing a file ends: the path is refused, and nothing has changed; or the bytes are in the
    file; or those are that had been written when something broke the writing off. -/
inductive Writes (h : Host) (path : String) (data : List UInt8) :
    Option Breach → Except Failure Unit × Host → Prop
  | refused {fault : Option Breach} {t : Trouble} (refused : h.files.write path data = .error t) :
      Writes h path data fault (.error (.refused t path), h)
  | stored {files : FileSystem} (written : h.files.write path data = .ok files)
      (stored : Stored path data h.files files) : Writes h path data none (.ok (), { h with files })
  | brokenOff {breach : Breach} {files : FileSystem} (opens : h.files.Writable path)
      (begun : Stored path (data.take breach.written) h.files files) :
      Writes h path data (some breach) (.error (.interrupted breach.how), { h with files })

/-- **Writing** ends so. -/
theorem write_ends (orderly : h.files.Orderly) (path : String) (data : List UInt8)
    (fault : Option Breach) : Writes h path data fault (h.write path data fault) := by
  rcases h.write_cases path data fault with ⟨t, refused, is⟩ | ⟨files, written, is⟩
  · rw [is]
    exact .refused refused
  · rw [is]
    cases fault with
    | none => exact .stored written (stored_of_write orderly written)
    | some breach => exact .brokenOff ⟨_, _, written⟩ (stored_of_write orderly written)

/-- A writing that is not broken off stores the bytes where a file can be written. -/
theorem write_of_ok {files : FileSystem} (written : h.files.write path data = .ok files) :
    h.write path data = (.ok (), { h with files }) := by
  unfold Host.write Breach.kept
  rw [written]

theorem write_of_error {t : Trouble} (refused : h.files.write path data = .error t)
    (fault : Option Breach) : h.write path data fault = (.error (.refused t path), h) := by
  unfold Host.write
  rw [write_refused refused]

/-! ## Places -/

/-- **Places**: what can be resolved is within another path or is not. -/
theorem isWithin_ok (resolves : h.files.Resolvable path) (resolves_root : h.files.Resolvable root) :
    ∃ inside, h.isWithin path root = .ok inside := by
  obtain ⟨inside, within⟩ := isWithin_of_resolvable resolves resolves_root
  refine ⟨inside, ?_⟩
  unfold Host.isWithin
  rw [within]

end Host

end GoWorkbench
