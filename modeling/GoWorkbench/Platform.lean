/-
  Platforms: what programs are called, how consoles encode text, and who runs bare commands.

  A platform is described, not detected; the differences between platforms are all here.  The
  names of systems and processors are those that the Go toolchain uses.
-/
import GoWorkbench.Text.Casing
import GoWorkbench.Text.Gbk
import GoWorkbench.Text.Utf8

namespace GoWorkbench

open GoWorkbench.Text

/-- The encoding of a console that does not use UTF-8. -/
inductive LegacyEncoding
  | gbk
deriving DecidableEq, Repr

structure Platform where
  name : String
  /-- What ends the name of a program. -/
  binarySuffix : String := ""
  legacyEncoding : Option LegacyEncoding := none
  /-- Commands without a path are handed to a shell. -/
  wrapsBareCommands : Bool := false
deriving DecidableEq, Repr

namespace Platform

def posix : Platform := { name := "posix" }

def windows : Platform where
  name := "windows"
  binarySuffix := ".exe"
  legacyEncoding := some .gbk
  wrapsBareCommands := true

/-- The file of a program. -/
def executable (p : Platform) (path : String) : String := path ++ p.binarySuffix

/-- The words that hand a command line to the shell as it is. -/
def shellWords (line : String) : List String := ["cmd", "/C", line]

end Platform

/-- The text of bytes in a legacy encoding, if they are such. -/
def LegacyEncoding.decode : LegacyEncoding → List UInt8 → Option (List Char)
  | .gbk => Gbk.decode

/-- The text that a program wrote.  What cannot be read in the legacy encoding of the platform is
    read as UTF-8, where every flaw becomes U+FFFD. -/
def Platform.readOutput (p : Platform) (raw : List UInt8) : String :=
  let legacy := p.legacyEncoding.bind fun e => e.decode raw
  String.ofList (legacy.getD (Utf8.lossy raw))

/-! ## Names of systems and processors -/

/-- How the names of systems begin, and what Go calls them. -/
def systemNames : List (String × String) := [
  ("win32", "windows"), ("cygwin", "windows"), ("darwin", "darwin"), ("linux", "linux"),
  ("freebsd", "freebsd"), ("openbsd", "openbsd"), ("netbsd", "netbsd")]

/-- The name of a system; an unknown one keeps its own. -/
def goSystem (system : String) : String :=
  match systemNames.find? fun (start, _) => start.toList.isPrefixOf system.toList with
  | some (_, name) => name
  | none => system

/-- What Go calls the processors. -/
def machineNames : List (String × String) := [
  ("x86_64", "amd64"), ("amd64", "amd64"), ("aarch64", "arm64"), ("arm64", "arm64"),
  ("i386", "386"), ("i686", "386"), ("x86", "386"), ("armv6l", "arm"), ("armv7l", "arm"),
  ("ppc64le", "ppc64le"), ("s390x", "s390x"), ("riscv64", "riscv64")]

/-- The name of a processor, whatever its case; an unknown one keeps its own in lower case. -/
def goMachine (machine : String) : String :=
  let name := lower machine
  (machineNames.lookup name).getD name

end GoWorkbench
