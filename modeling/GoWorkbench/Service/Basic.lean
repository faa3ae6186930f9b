/-
  The service behind an editor: the active workspace, its index, and the files in it.

  All state is in one value.  An operation gives its answer, or the cause of a failure, together
  with the state after it; a failure late in an operation leaves what was done before it.

  A rebuild of the index that is only scheduled has ended by the time the operation has.
-/
import GoWorkbench.Config
import GoWorkbench.Imports
import GoWorkbench.Launch
import GoWorkbench.SavedState
import GoWorkbench.SymbolIndex

namespace GoWorkbench

open GoWorkbench.Text

structure Service where
  config : Config
  platform : Platform
  /-- The file that remembers the last workspace. -/
  statePath : String
  workspace : Option String := none
  index : SymbolIndex
  host : Host

/-- An answer with the state after it. -/
abbrev Answer (α : Type) := Except Failure α × Service

namespace Service

/-- The name that the service reports under. -/
def source : String := "workspace.service"

/-- A service without a workspace.  The state file of a relative name lies in `directory`, or in
    the working directory if none is given. -/
def create (h : Host) (config : Config) (directory : Option String) (platform : Platform) :
    Except Failure Service := do
  let directory ← match directory with
    | some d => pure d
    | none => match h.files.workingDirectory with
      | .ok d => pure d
      | .error t => .error (.adrift t)
  let statePath ← config.statePath h directory
  return { config, platform, statePath, index := { options := config.index }, host := h }

/-! ## The index -/

/-- Rebuilds the index for a root and waits for it. -/
def rebuildAt (s : Service) (root : String) : Answer Bool :=
  let (answer, index, host) := s.index.rebuild s.host root
  (answer, { s with index, host })

/-- Schedules a rebuild of the index. -/
def schedule (s : Service) (root : String) : Service :=
  let (index, host) := s.index.rebuildUnattended s.host root
  { s with index, host }

/-- Rebuilds the index for the active workspace, if there is one. -/
def rebuild (s : Service) : Answer Bool :=
  match s.workspace with
  | some root => s.rebuildAt root
  | none => (.ok false, s)

/-- The symbols of the last complete scan. -/
def symbols (s : Service) : List Go.Symbol := s.index.snapshot

/-! ## The workspace -/

/-- Activates the workspace that is remembered, or the working directory if there is none or it
    is gone. -/
def restore (s : Service) : Answer (Option String) :=
  let (remembered, host) := SavedState.load s.host s.statePath
  let s := { s with host }
  match remembered with
  | .error e => (.error e, s)
  | .ok remembered =>
    let candidate :=
      if !remembered.isEmpty && s.host.files.isDirectory remembered then some remembered
      else s.host.files.workingDirectory.toOption
    match candidate with
    | none => (.ok none, s)
    | some root =>
      let host := s.host.report .info source s!"Active workspace: {root}"
      (.ok (some root), { s with workspace := some root, host })

/-- Restores the workspace and schedules its first index. -/
def start (s : Service) : Answer (Option String) :=
  match s.restore with
  | (.ok (some root), s) => (.ok (some root), s.schedule root)
  | other => other

/-- A path that can be a workspace names an existing directory. -/
def checkWorkspace (h : Host) (path : String) : Except WorkspaceFault Unit :=
  if path.isEmpty then .error .noPath
  else
    let plain := Path.plain path
    match h.files.find plain with
    | .ok (_, .directory _) => .ok ()
    | .ok _ => .error (.notDirectory path)
    | .error t =>
      if Host.meansNothing t then .error (.missing path) else .error (.refused ⟨t, some plain⟩)

/-- Writes the path of the workspace to the state file.  A path that is no text cannot be written
    there. -/
def remember (s : Service) (path : String) (fault : Option Breach) : Except Failure Bool × Host :=
  if s.host.isText path then SavedState.save s.host s.statePath (.ofString path) fault
  else (.error .halfCharacter, s.host)

/-- Switches to another workspace, remembers it if `persist`, and schedules its index if
    `reindex`.  `fault` is what breaks off the writing of the state file, if anything does. -/
def setWorkspace (s : Service) (path : String) (persist reindex : Bool)
    (fault : Option Breach := none) : Answer String :=
  match checkWorkspace s.host path with
  | .error fault => (.error (.workspace fault), s)
  | .ok () =>
    let s := { s with workspace := some path }
    let (saved, host) := if persist then s.remember path fault else (.ok true, s.host)
    let s := { s with host }
    match saved with
    | .error e => (.error e, s)
    | .ok _ => (.ok path, if reindex then s.schedule path else s)

/-! ## Files -/

/-- The root whose index is out of date once a file has been written: that of the active
    workspace, if the file is a source in it. -/
def rebuildDue (s : Service) (path : String) : Except Failure (Option String) :=
  match s.workspace with
  | none => .ok none
  | some root =>
    if !Path.isGoSource path then .ok none
    else (s.host.isWithin path root).map fun inside => if inside then some root else none

/-- A file has been written: schedules the rebuild that is due.  Says whether one was. -/
def noteWritten (s : Service) (path : String) : Answer Bool :=
  match s.rebuildDue path with
  | .error e => (.error e, s)
  | .ok none => (.ok false, s)
  | .ok (some root) => (.ok true, s.schedule root)

/-- Writes a text to a file and tells nobody.  The file is emptied first, so a text that cannot be
    encoded leaves an empty file.  `fault` is what breaks off the writing, if anything does. -/
def writeText (s : Service) (path : String) (content : CodePoints)
    (fault : Option Breach := none) : Answer Unit :=
  let (data, flaw) := match content.encode with
    | .ok data => (data, none)
    | .error u => ([], some u)
  let (written, host) := s.host.write path data fault
  match written, flaw with
  | .ok (), some u => (.error (.unencodable u), { s with host })
  | written, _ => (written, { s with host })

/-- Writes a text to a file and notes that it has been written. -/
def save (s : Service) (path : String) (content : CodePoints) (fault : Option Breach := none) :
    Answer Unit :=
  match s.writeText path content fault with
  | (.error e, s) => (.error e, s)
  | (.ok (), s) => match s.noteWritten path with
    | (.error e, s) => (.error e, s)
    | (.ok _, s) => (.ok (), s)

/-- The file that an import in the file `base` means. -/
def resolve (s : Service) (base specifier : String) : Option String :=
  Imports.resolve s.host.files base specifier s.workspace

/-! ## The toolchain -/

/-- Settings with the configured root of the toolchain, where they name none. -/
def withRoot (s : Service) (settings : Settings) : Settings :=
  let asked := (settings.lookup Toolchain.rootVariable).getD ""
  match s.config.toolchain.root with
  | some root =>
    if asked.isEmpty && !root.isEmpty then
      Host.setVariable Toolchain.rootVariable root settings
    else settings
  | none => settings

/-- The toolchain that is used with some settings. -/
def locate (s : Service) (settings : Settings) : Except Failure String :=
  Toolchain.locate s.host (s.withRoot settings) none s.platform

end Service

end GoWorkbench
