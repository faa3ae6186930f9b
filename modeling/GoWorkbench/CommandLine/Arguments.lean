/-
  Reading the arguments of a command.

  A command has options, which take one value each, and arguments without a name.  Every command
  also has `-h` and `--help`, which take no value.

  1. Each argument is looked at on its own: it is a word, or an option, perhaps with its value
     after `=`.  An option may be cut short as long as it is clear which one is meant.  After
     `--` there are only words.
  2. Then they are handed out from left to right.  An option takes its value; a row of words
     fills as many of the places for arguments as it can.  What fits nowhere is left over.
-/
import GoWorkbench.Text.Blank
import GoWorkbench.Text.Quoted

namespace GoWorkbench.CommandLine

open GoWorkbench.Text

/-! ## Commands -/

/-- How much an argument without a name takes. -/
inductive Extent
  | one
  | atMostOne
  /-- One word and everything after it, options included. -/
  | rest
deriving DecidableEq, Repr

/-- What a command takes. -/
structure Form where
  /-- How the command is called. -/
  program : String
  /-- The options that take a value. -/
  options : List String
  /-- The arguments without a name. -/
  places : List (String × Extent)
deriving DecidableEq, Repr

/-- The options that take no value. -/
def helpOptions : List String := ["-h", "--help"]

/-- All options. -/
def Form.allOptions (f : Form) : List String := helpOptions ++ f.options

/-- What is wrong with the arguments of a command. -/
inductive UsageFault
  | ambiguous (argument : String) (meanings : List String)
  | valueMissing (option : String)
  /-- An option that takes no value has one. -/
  | valueIgnored (value : String)
  | missing (places : List String)
  | notChoice (place value : String) (choices : List String)
  | leftOver (arguments : List String)
deriving DecidableEq, Repr

/-- What is wrong, in words. -/
def UsageFault.message : UsageFault → String
  | .ambiguous argument meanings =>
    s!"ambiguous option: {argument} could match " ++ String.intercalate ", " meanings
  | .valueMissing option => s!"argument {option}: expected one argument"
  | .valueIgnored value => s!"argument -h/--help: ignored explicit argument {quoted value}"
  | .missing places =>
    "the following arguments are required: " ++ String.intercalate ", " places
  | .notChoice place value choices =>
    let row := String.intercalate ", " (choices.map quoted)
    s!"argument {place}: invalid choice: {quoted value} (choose from {row})"
  | .leftOver arguments => "unrecognized arguments: " ++ String.intercalate " " arguments

/-- Why there is nothing to do. -/
inductive Stop
  /-- Help was asked for. -/
  | help
  | wrong (program : String) (fault : UsageFault)
deriving DecidableEq, Repr

/-! ## One argument -/

/-- What an argument is. -/
inductive Shape
  | word
  /-- The `--` that ends the options. -/
  | dashes
  | option (name : String) (value : Option String)
  /-- It looks like an option, but there is none of its name. -/
  | unknown
deriving DecidableEq, Repr

/-- What stands before the first `=` and after it. -/
def splitValue (cs : List Char) : List Char × Option (List Char) :=
  (cs.takeWhile (· ≠ '='), match cs.dropWhile (· ≠ '=') with
    | _ :: value => some value
    | [] => none)

/-- The argument is a number with a minus sign. -/
def isNegativeNumber (cs : List Char) : Bool :=
  match cs with
  | '-' :: rest =>
    let whole := rest.takeWhile Char.isDigit
    match rest.dropWhile Char.isDigit with
    | [] => !whole.isEmpty
    | '.' :: fraction => !fraction.isEmpty && fraction.all Char.isDigit
    | _ => false
  | _ => false

/-- The options that an argument may be short for, each with the value given. -/
def meanings (f : Form) (cs : List Char) : List (String × Option String) :=
  if ['-', '-'].isPrefixOf cs then
    let (name, value) := splitValue cs
    (f.allOptions.filter fun o => name.isPrefixOf o.toList).map fun o =>
      (o, value.map String.ofList)
  else f.allOptions.filterMap fun o =>
    if o.toList = cs.take 2 then some (o, some (String.ofList (cs.drop 2)))
    else if cs.isPrefixOf o.toList then some (o, none)
    else none

/-- What an argument is, `--` apart. -/
def shapeOf (f : Form) (argument : String) : Except UsageFault Shape :=
  let cs := argument.toList
  let (name, value) := splitValue cs
  if cs.head? ≠ some '-' then .ok .word
  else if argument ∈ f.allOptions then .ok (.option argument none)
  else if cs = ['-'] then .ok .word
  else if value.isSome && String.ofList name ∈ f.allOptions then
    .ok (.option (String.ofList name) (value.map String.ofList))
  else match meanings f cs with
    | [(o, value)] => .ok (.option o value)
    | [] => .ok (if isNegativeNumber cs || ' ' ∈ cs then .word else .unknown)
    | several => .error (.ambiguous argument (several.map (·.1)))

/-- An argument with what it is. -/
abbrev Shaped := Shape × String

/-- What the arguments are. -/
def shaped (f : Form) : List String → Except UsageFault (List Shaped)
  | [] => .ok []
  | "--" :: rest => .ok ((.dashes, "--") :: rest.map fun a => (.word, a))
  | a :: rest => do
    let shape ← shapeOf f a
    let others ← shaped f rest
    return (shape, a) :: others

/-! ## Handing out -/

/-- The `--` at the front. -/
def dashesOf (args : List Shaped) : List Shaped := args.takeWhile (·.1 = .dashes)

/-- How many arguments at the front a place takes, if it can be filled. -/
def taken (extent : Extent) (args : List Shaped) : Option Nat :=
  let lead := (dashesOf args).length
  let after := args.drop lead
  let isWord := (after.head?.map (·.1)) = some .word
  let trail := (dashesOf (after.drop 1)).length
  match extent with
  | .one => if isWord then some (lead + 1 + trail) else none
  | .atMostOne => some (if isWord then lead + 1 + trail else lead)
  | .rest => if isWord then some args.length else none

/-- Fills places from the arguments at the front, as many as can be filled.  Gives what each
    place takes, the places that stay empty, and the arguments left. -/
def fill : List (String × Extent) → List Shaped →
    List (String × List String) × List (String × Extent) × List Shaped
  | [], args => ([], [], args)
  | (name, extent) :: places, args =>
    match taken extent args with
    | none => ([], (name, extent) :: places, args)
    | some n =>
      let (filled, empty, rest) := fill places (args.drop n)
      ((name, (args.take n).map (·.2)) :: filled, empty, rest)

/-- What has been read so far. -/
structure Parsed where
  /-- The values of options, the first one first. -/
  options : List (String × String) := []
  /-- What the places have taken, `--` included. -/
  places : List (String × List String) := []
  leftOver : List String := []

/-- The part of what follows `-h` that is refused, if any: a value after `=`, or another dash.
    More letters `h` only repeat it, and other letters are passed over. -/
def refusedAfterHelp : List Char → Option (List Char)
  | 'h' :: rest => refusedAfterHelp rest
  | '=' :: value => some value
  | '-' :: rest => some ('-' :: rest)
  | _ => none

/-- What comes of an option: help, or its value and how many arguments after it that takes.  The
    option is written as in `argument`. -/
def optionValue (name : String) (value : Option String) (argument : String)
    (after : List Shaped) : Except UsageFault (Option (String × Nat)) :=
  if name = "-h" then match refusedAfterHelp (argument.toList.drop 2) with
    | none => .ok none
    | some refused => .error (.valueIgnored (String.ofList refused))
  else if name = "--help" then match value with
    | none => .ok none
    | some v => .error (.valueIgnored v)
  else match value, after with
    | some v, _ => .ok (some (v, 0))
    | none, (.word, v) :: _ => .ok (some (v, 1))
    | none, _ => .error (.valueMissing name)

/-- Hands out arguments, first those in front of the next option.  There is as much fuel as
    there are arguments. -/
def handOut (f : Form) : Nat → List (String × Extent) → Parsed → List Shaped →
    Except Stop Parsed
  | 0, _, done, _ => .ok done
  | fuel + 1, empty, done, args =>
    let isOption := fun a : Shaped => match a.1 with
      | .option _ _ | .unknown => true
      | _ => false
    match args with
    | (.option name value, argument) :: after =>
      match optionValue name value argument after with
      | .error fault => .error (.wrong f.program fault)
      | .ok none => .error .help
      | .ok (some (v, n)) =>
        handOut f fuel empty { done with options := done.options ++ [(name, v)] } (after.drop n)
    | (.unknown, a) :: after =>
      handOut f fuel empty { done with leftOver := done.leftOver ++ [a] } after
    | args =>
      let (filled, empty, rest) := fill empty args
      let done := { done with places := done.places ++ filled }
      if !args.any isOption || rest.isEmpty then
        .ok { done with leftOver := done.leftOver ++ rest.map (·.2) }
      else if rest.length < args.length then handOut f fuel empty done rest
      else
        let words := rest.takeWhile fun a => !isOption a
        handOut f fuel empty { done with leftOver := done.leftOver ++ words.map (·.2) }
          (rest.drop words.length)

/-- The places that must be filled and are not. -/
def missingPlaces (f : Form) (done : Parsed) : List String :=
  (f.places.filter fun (name, extent) =>
    extent ≠ .atMostOne && (done.places.lookup name).isNone).map (·.1)

/-- Reads the arguments of a command.  What is left over is no fault yet. -/
def parse (f : Form) (arguments : List String) : Except Stop Parsed :=
  match shaped f arguments with
  | .error fault => .error (.wrong f.program fault)
  | .ok args => match handOut f (2 * args.length + 1) f.places {} args with
    | .error stop => .error stop
    | .ok done => match missingPlaces f done with
      | [] => .ok done
      | places => .error (.wrong f.program (.missing places))

namespace Parsed

/-- The last value of an option. -/
def option? (p : Parsed) (name : String) : Option String :=
  ((p.options.filter (·.1 = name)).getLast?).map (·.2)

/-- All values of an option. -/
def optionValues (p : Parsed) (name : String) : List String :=
  (p.options.filter (·.1 = name)).map (·.2)

/-- What a place has taken, without the `--` before or after it. -/
def place? (p : Parsed) (name : String) : Option String :=
  ((p.places.lookup name).getD []).erase "--" |>.head?

end Parsed

end GoWorkbench.CommandLine
