/-
  Why an operation gives no answer.

  Failures are causes; the wording is in `Failure.message`.  Three of them never reach a user in
  words: a rule for ignored files that is cut short or malformed, and a blank command line.
-/
import GoWorkbench.FileSystem.Canonical
import GoWorkbench.Schema
import GoWorkbench.Text.CodePoints

namespace GoWorkbench

open GoWorkbench.Text

/-- Why a workspace cannot be activated. -/
inductive WorkspaceFault
  | noPath
  | missing (path : String)
  | notDirectory (path : String)
  /-- The operating system does not take the path. -/
  | refused (e : PathError)
deriving DecidableEq, Repr

def WorkspaceFault.message : WorkspaceFault → String
  | .noPath => "Path required"
  | .missing path => s!"Path does not exist: {path}"
  | .notDirectory path => s!"Path is not a directory: {path}"
  | .refused e => s!"Path does not exist: {e.message}"

/-- Why a configuration file cannot be used. -/
inductive ConfigFault
  | malformed (path : String)
  | invalid (path : String) (model : String) (complaints : List Complaint)
deriving DecidableEq, Repr

/-- A rule for ignored files that cannot be read or matched. -/
inductive RuleFault
  /-- A character is asked for where the rule has ended. -/
  | tooShort
  /-- A character class that is not one. -/
  | malformed
deriving DecidableEq, Repr

/-- Something outside broke off what was being done. -/
inductive Interruption
  /-- By the operating system. -/
  | system (text : String)
  /-- Because of a value that it was given. -/
  | value (text : String)
  | other (text : String)
deriving DecidableEq, Repr

def Interruption.text : Interruption → String
  | .system t => t
  | .value t => t
  | .other t => t

/-- The end of a writing that is broken off once the file has been opened, and so emptied. -/
structure Breach where
  how : Interruption
  /-- How many bytes have been written before. -/
  written : Nat := 0
deriving DecidableEq, Repr

/-- The bytes that get into the file: all of them unless the writing is broken off. -/
def Breach.kept (fault : Option Breach) (data : List UInt8) : List UInt8 :=
  match fault with
  | some breach => data.take breach.written
  | none => data

inductive Failure
  | badPath (e : PathError)
  /-- Symbolic links lead around in a circle. -/
  | circle (path : String)
  /-- The home directory of a user is not known. -/
  | homeless
  | workspace (fault : WorkspaceFault)
  | undecodable (fault : Utf8.Fault)
  | unencodable (fault : CodePoints.Unencodable)
  /-- Half of a surrogate pair in a text that has to be written as JSON. -/
  | halfCharacter
  /-- A decimal integer with more digits than are read. -/
  | longInteger (digits : Nat)
  | config (fault : ConfigFault)
  | invalid (model : String) (complaints : List Complaint)
  | rule (fault : RuleFault)
  | blankCommand
  /-- A setting for the environment that is not a key and a value. -/
  | malformedSetting (setting : String)
  | interrupted (how : Interruption)
deriving DecidableEq, Repr

namespace Failure

/-- A refused path. -/
def refused (t : Trouble) (path : String) : Failure := .badPath ⟨t, some path⟩

/-- The working directory is gone. -/
def adrift (t : Trouble) : Failure := .badPath ⟨t, none⟩

/-- The operating system has refused or broken off what was being done. -/
def bySystem : Failure → Bool
  | .badPath e => e.trouble ≠ .nul
  | .interrupted (.system _) => true
  | _ => false

/-- A path without a link-free form. -/
def ofUnresolved (path : String) : FileSystem.Unresolved → Failure
  | .trouble .missing => .badPath ⟨.missing, none⟩
  | .trouble t => refused t path
  | .circle stuck => .circle stuck

end Failure

/-! ## Wording -/

/-- The place of a complaint, with dots between the steps. -/
def Complaint.dotted (c : Complaint) : String :=
  String.intercalate "." (c.place.map fun
    | .key name => name
    | .index n => toString n)

/-- Complaints about a model, one after the other. -/
def complaintsMessage (model : String) (complaints : List Complaint) : String :=
  let count := complaints.length
  let plural := if count = 1 then "" else "s"
  let one := fun c : Complaint => s!"\n{c.dotted}\n  {c.problem.message}"
  s!"{count} validation error{plural} for {model}" ++ String.join (complaints.map one)

def ConfigFault.message : ConfigFault → String
  | .malformed path => s!"Invalid TOML in {path}: not a valid document"
  | .invalid path model complaints =>
    s!"Invalid config in {path}: " ++ complaintsMessage model complaints

/-- The error text, if there is one. -/
def Failure.message : Failure → Option String
  | .badPath e => some e.message
  | .circle path => some s!"Symlink loop from {quoted path}"
  | .homeless => some "Could not determine home directory."
  | .workspace fault => some fault.message
  | .undecodable fault => some fault.message
  | .unencodable fault => some fault.message
  | .halfCharacter => some "str is not valid UTF-8: surrogates not allowed"
  | .longInteger digits => some (
      s!"Exceeds the limit (4300 digits) for integer string conversion: value has {digits} " ++
      "digits; use sys.set_int_max_str_digits() to increase the limit")
  | .config fault => some fault.message
  | .invalid model complaints => some (complaintsMessage model complaints)
  | .rule _ => none
  | .blankCommand => none
  | .malformedSetting setting => some s!"--env expects KEY=VALUE, got '{setting}'"
  | .interrupted i => some i.text

end GoWorkbench
