/-
  The state file: a JSON table that remembers the last workspace.

  Reading is forgiving: whatever cannot be read counts as nothing remembered.  Writing says
  whether it succeeded.
-/
import GoWorkbench.Host
import GoWorkbench.Json.Reader
import GoWorkbench.Json.Writer

namespace GoWorkbench.SavedState

open GoWorkbench.Text

/-- The name that this part reports under. -/
def source : String := "config.state"

/-- The key of the last workspace, and a second name for it. -/
def workspaceKey : String := "lastWorkDir"
def otherWorkspaceKey : String := "last_work_dir"

/-- The last workspace in a state; none is the empty text.  The first key wins, whatever its
    value. -/
def workspaceOf? : Value → Option String
  | .table entries =>
    match (Value.get? workspaceKey entries).or (Value.get? otherWorkspaceKey entries) with
    | some (.text s) => some s
    | some _ => none
    | none => some ""
  | _ => none

/-- The last workspace in the bytes of a state file, if they are one. -/
def ofBytes (data : List UInt8) : Option String :=
  (Json.ofBytes Json.Limits.usual data).bind workspaceOf?

/-- The bytes of a state file. -/
def toBytes (workspace : String) : List UInt8 :=
  Utf8.bytes (Json.indented [(workspaceKey, .text workspace)])

/-- The workspace that a state file remembers, the empty text if none. -/
def load (h : Host) (path : String) : Except Failure String × Host :=
  let ignored := h.report .debug source s!"Ignoring unreadable state file {path}"
  match h.files.read path with
  | .error .nul => (.error (.refused .nul path), h)
  | .error .missing => (.ok "", h)
  | .error _ => (.ok "", ignored)
  | .ok data => match ofBytes data with
    | some workspace => (.ok workspace, h)
    | none => (.ok "", ignored)

/-- Remembers a workspace; says whether the file could be written.  `fault` is what breaks off the
    writing, if anything does. -/
def save (h : Host) (path : String) (workspace : CodePoints) (fault : Option Breach := none) :
    Except Failure Bool × Host :=
  match workspace.encode with
  | .error _ => (.error .halfCharacter, h)
  | .ok _ => match h.write path (toBytes workspace.toString) fault with
    | (.ok (), h) => (.ok true, h)
    | (.error e, h) =>
      if e.bySystem then (.ok false, h.report .debug source s!"Could not persist state to {path}")
      else (.error e, h)

end GoWorkbench.SavedState
