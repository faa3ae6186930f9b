/-
  Carrying out what the command line asks for.

  The program ends with a status: 0 if all went well, 1 if nothing was found or what was run went
  wrong, 2 if the arguments, the configuration or the request are refused.  A failure of another
  kind breaks the program off.

  A request that launches a child stops before the launch and goes on when it is told how the
  child ended.
-/
import GoWorkbench.CommandLine.Request
import GoWorkbench.Service.Run

namespace GoWorkbench.CommandLine

open GoWorkbench.Text

/-- How the program ended, and what it wrote. -/
structure Ended where
  /-- The status, or the failure that broke the program off. -/
  status : Except Failure Nat
  output : String := ""
  errors : String := ""
  host : Host

/-- Where the program stands. -/
inductive Progress
  | ended (e : Ended)
  | running (run : Service.PendingRun) (s : Service)
  | commanding (launch : Launch) (s : Service)
  | reporting (launch : Launch) (s : Service)

/-! ## Ends -/

/-- Failures that are shown to the user; the others break the program off. -/
def isShown : Failure → Bool
  | .badPath _ | .workspace _ | .undecodable _ | .unencodable _ | .longInteger _ => true
  | .invalid _ _ | .malformedSetting _ => true
  | .interrupted (.other _) => false
  | .interrupted _ => true
  | .circle _ | .homeless | .halfCharacter | .config _ | .rule _ | .blankCommand => false

/-- One line of JSON. -/
def jsonLine (v : Value) : String := Json.compact v ++ "\n"

/-- The program was asked for something it cannot do. -/
def refuse (h : Host) (message : String) : Ended :=
  { status := .ok 2, errors := s!"error: {message}\n", host := h }

/-- An end with a failure within a request. -/
def fail (h : Host) (f : Failure) : Ended :=
  if isShown f then refuse h (f.message.getD "") else { status := .error f, host := h }

/-- An end with one line of JSON, in which the path stands.  A path that is no text cannot be
    written. -/
def succeed (h : Host) (path : String) (v : Value) : Ended :=
  if h.isText path then { status := .ok 0, output := jsonLine v, host := h }
  else { status := .error .halfCharacter, host := h }

/-- The end of a request, from its answer. -/
def endWith {α : Type} (finish : Host → α → Ended) (answer : Answer α) : Ended :=
  match answer.1 with
  | .ok a => finish answer.2.host a
  | .error f => fail answer.2.host f

/-- The end of something that was run. -/
def endRun (h : Host) (r : RunResult) : Ended :=
  match r.error with
  | none => { status := .ok 0, output := r.output, host := h }
  | some e => { status := .ok 1, output := r.output, errors := s!"error: {e}\n", host := h }

/-- A table with a path. -/
def pathTable (path : String) : Value := .table [("path", .text path)]

/-- The table of a symbol. -/
def symbolTable (s : Go.Symbol) : Value :=
  .table [("name", .text s.name), ("kind", .text s.kind.name), ("path", .text s.path),
    ("line", .integer s.line), ("column", .integer s.column)]

/-- The table of a report on the toolchain. -/
def reportTable (r : ToolchainReport) : Value :=
  .table [("executable", .text r.executable), ("host_os", .text r.system),
    ("host_arch", .text r.machine), ("env_vars", .text r.environment),
    ("error", r.error.elim .null .text)]

/-! ## Requests -/

/-- The settings of `KEY=VALUE` arguments; of two for one key the later one holds. -/
def settingsOf (settings : Settings) : List String → Except Failure Settings
  | [] => .ok settings
  | pair :: rest =>
    match splitValue pair.toList with
    | ([], _) => .error (.malformedSetting pair)
    | (_, none) => .error (.malformedSetting pair)
    | (key, some value) =>
      settingsOf (Host.setVariable (String.ofList key) (String.ofList value) settings) rest

/-- Activates the root that is asked for, or the last workspace. -/
def activate (s : Service) (root : Option String) : Answer Unit :=
  match root with
  | some root =>
    let (answer, s) := s.setWorkspace root false false
    (answer.map fun _ => (), s)
  | none =>
    let (answer, s) := s.restore
    (answer.map fun _ => (), s)

/-- The code to run: that of a file, with line ends of one kind, or what comes from outside. -/
def codeFrom (h : Host) (file codeFile : Option String) (input : String) :
    Except Failure CodePoints :=
  match (codeFile.filter fun f => !f.isEmpty).or file with
  | none => .ok (.ofString input)
  | some path => match h.read (Path.plain path) with
    | .error e => .error e
    | .ok data => match Utf8.decode data with
      | .ok text => .ok (.ofString (String.ofList (unifyLineEnds text)))
      | .error fault => .error (.undecodable fault)

/-- The request for a run, once the workspace is active. -/
def runJob (h : Host) (file codeFile : Option String) (settings : List String)
    (input : String) : Except Failure RunJob := do
  let code ← codeFrom h file codeFile input
  RunJob.make code file (← settingsOf [] settings)

/-- An end with a line of JSON for every symbol, up to one with a path that is no text. -/
def endList (h : Host) (symbols : List Go.Symbol) : Ended :=
  let shown := symbols.takeWhile fun s => h.isText s.path
  { status := if shown.length < symbols.length then .error .halfCharacter else .ok 0
    output := String.join (shown.map fun s => jsonLine (symbolTable s))
    host := h }

/-- Lists symbols.  Nothing is remembered, and no workspace is active. -/
def listSymbols (h : Host) (config : Config) (root : String) : Ended :=
  let root := do h.canonical (← h.expandHome root)
  match root with
  | .error f => { status := .error f, host := h }
  | .ok root =>
    let index : SymbolIndex := { options := config.index }
    match index.rebuild h root with
    | (.error f, _, h) => { status := .error f, host := h }
    | (.ok _, index, h) => endList h index.snapshot

/-- Finds the file of an import. -/
def findImport (s : Service) (base specifier : String) (root : Option String) : Ended :=
  match activate s root with
  | (.error f, s) => fail s.host f
  | (.ok (), s) => match s.resolve base specifier with
    | some path => succeed s.host path (pathTable path)
    | none => { status := .ok 1, errors := "Not found\n", host := s.host }

/-- Goes as far as the launch of a run. -/
def startRun (s : Service) (file codeFile : Option String) (settings : List String)
    (root : Option String) (input : String) : Progress :=
  match activate s root with
  | (.error f, s) => .ended (fail s.host f)
  | (.ok (), s) => match runJob s.host file codeFile settings input with
    | .error f => .ended (fail s.host f)
    | .ok job => match s.prepareRun job none with
      | (.error f, s) => .ended (fail s.host f)
      | (.ok (.answered r), s) => .ended (endRun s.host r)
      | (.ok (.waiting run), s) => .running run s

/-- Goes as far as the launch of a command line. -/
def startCommand (s : Service) (line : String) (settings : List String)
    (root : Option String) : Progress :=
  match activate s root with
  | (.error f, s) => .ended (fail s.host f)
  | (.ok (), s) => match (settingsOf [] settings).bind (CommandJob.make line) with
    | .error f => .ended (fail s.host f)
    | .ok job => match s.prepareCommand job with
      | (.error f, s) => .ended (fail s.host f)
      | (.ok (.answered r), s) => .ended (endRun s.host r)
      | (.ok (.waiting launch), s) => .commanding launch s

/-- Carries out a request of a configured program. -/
def carryOut (h : Host) (config : Config) (directory : String) (request : Request)
    (input : String) : Progress :=
  match request with
  | .symbols root => .ended (listSymbols h config root)
  | request => match Service.create h config (some directory) .posix with
    | .error f => .ended { status := .error f, host := h }
    | .ok s => match request with
      | .symbols root => .ended (listSymbols h config root)
      | .resolve base specifier root => .ended (findImport s base specifier root)
      | .locate goroot =>
        let answer := s.locate [(Toolchain.rootVariable, goroot.getD "")]
        .ended (endWith (fun h path => succeed h path (pathTable path)) (answer, s))
      | .run file codeFile settings root => startRun s file codeFile settings root input
      | .command line settings root => startCommand s line settings root
      | .report goroot => match s.prepareReport goroot with
        | (.error f, s) => .ended (fail s.host f)
        | (.ok launch, s) => .reporting launch s
      | .workspace path =>
        .ended (endWith (fun h path =>
          succeed h path (.table [("status", .text "ok"), ("path", .text path)]))
          (s.setWorkspace path true false))

/-- The directory of the configuration and what is in it. -/
def configure (h : Host) (directory : String) : Except Failure (String × Config) := do
  let directory ← h.canonical (← h.expandHome directory)
  return (directory, ← Config.load h directory)

/-- Opens the file that reports go to, if one is configured, and makes it if it is not there.  The
    reports themselves are in the log of the host. -/
def openLog (h : Host) (config : Config) : Except Failure Host :=
  match config.logFile.filter fun f => !f.isEmpty with
  | none => .ok h
  | some file => do
    let path ← h.absolute file
    match h.files.touch path with
    | .ok files => .ok { h with files }
    | .error t => .error (.refused t path)

/-- Starts the program, where `opening` gets ready for the reports.  The configuration is given with
    the progress if there is one: it says which reports are wanted. -/
def startBy (opening : Host → Config → Except Failure Host) (arguments : List String)
    (input : String) (h : Host) : Option Config × Progress :=
  match Invocation.parse arguments with
  | .error .help => (none, .ended { status := .ok 0, host := h })
  | .error (.wrong program fault) =>
    (none, .ended { status := .ok 2, errors := s!"{program}: error: {fault.message}\n", host := h })
  | .ok invocation => match configure h invocation.configDirectory with
    | .error (.config fault) => (none, .ended (refuse h fault.message))
    | .error f => (none, .ended { status := .error f, host := h })
    | .ok (directory, config) => match opening h config with
      | .error f => (some config, .ended { status := .error f, host := h })
      | .ok h => (some config, carryOut h config directory invocation.request input)

/-- Starts the program. -/
def start (arguments : List String) (input : String) (h : Host) : Option Config × Progress :=
  startBy openLog arguments input h

/-! ## Children -/

namespace Progress

/-- The launch that is waited for, with the state at that moment. -/
def launch? : Progress → Option (Launch × Service)
  | .ended _ => none
  | .running run s => some (run.launch, s)
  | .commanding launch s => some (launch, s)
  | .reporting launch s => some (launch, s)

/-- Goes on after the child has ended. -/
def finish (ending : Ending) : Progress → Ended
  | .ended e => e
  | .running run s => endWith endRun (s.finishRun run ending)
  | .commanding launch s => endWith endRun (s.finishCommand launch ending)
  | .reporting launch s =>
    endWith (fun h r => succeed h r.executable (reportTable r)) (s.finishReport launch ending)

end Progress

end GoWorkbench.CommandLine
