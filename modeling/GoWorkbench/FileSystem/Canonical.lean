/-
  The link-free form of a path, and containment.

  `canonical` replaces every symbolic link on a path by what it leads to.  Components that do not
  exist are kept as they are, and a `..` takes out the name before it after that name has been
  followed.  A link that leads back to itself cannot be replaced; the path up to it is kept, and
  if the operating system cannot walk the result either, the path has no link-free form.  A link
  is known by the path it was reached on, which starts in the working directory until a link to
  an absolute path has been followed.  If that path is longer than an operating system takes, the
  link is overlooked, and its name is kept as it is.

  One path is within another if the names of its link-free form start with those of the other's.
-/
import GoWorkbench.FileSystem.Basic

namespace GoWorkbench.FileSystem

/-- The number of links in a list of entries. -/
def countLinks : List (String × Entry) → Nat
  | [] => 0
  | (_, .link _) :: rest => 1 + countLinks rest
  | (_, .directory entries) :: rest => countLinks entries + countLinks rest
  | (_, .file _ _) :: rest => countLinks rest

/-- How far a path has been followed. -/
structure Reached where
  /-- The path starts at the root, and not in the working directory. -/
  rooted : Bool
  /-- The components, the last one first. -/
  names : List String
deriving DecidableEq, Repr

/-- One component more, which is no link. -/
def Reached.push (r : Reached) (component : String) : Reached :=
  { r with names := Path.push r.rooted r.names component }

/-- The path with components added that are not followed any more.  If the first of them is
    empty, a slash has been repeated, and the others start at the root. -/
def Reached.stop (r : Reached) : List String → Reached
  | "" :: component :: rest => ⟨true, (component :: rest).reverse⟩
  | rest => { r with names := rest.reverse ++ r.names }

/-- The place that a component leads to if it is no link. -/
def Place.step (p : Place) (component : String) : Place :=
  if component = ".." then p.parent
  else ⟨p.names ++ [component], if p.gone = 0 then 0 else p.gone + 1⟩

/-- The path as a text. -/
def Reached.text (r : Reached) : String :=
  (if r.rooted then "/" else "") ++ Path.slashed r.names.reverse

/-- What the last component is the name of, if the path is not too long to look at it. -/
def entryOf (fs : FileSystem) (r : Reached) : Option Entry :=
  match r.names with
  | [] => none
  | name :: before =>
    if maxPath < r.text.utf8ByteSize then none
    else
      let start := if r.rooted then .root else fs.current
      Entry.child? name (fs.entriesAt (before.foldr (fun c p => Place.step p c) start))

/-- Follows the components from `here`; the second part says whether every link led somewhere.
    `pending` are the links that are being followed, each by the path that it was reached on; at
    most `links` more can join them. -/
def settle (fs : FileSystem) (links : Nat) (pending : List Reached) (here : Reached)
    (todo : List String) : Reached × Bool :=
  match todo with
  | [] => (here, true)
  | name :: rest =>
    let next := here.push name
    if name.isEmpty || name = "." || name = ".." then settle fs links pending next rest
    else match fs.entryOf next with
      | some (.link target) =>
        if next ∈ pending then (next.stop rest, false)
        else match links with
          | 0 => (next.stop rest, false)
          | fewer + 1 =>
            let start := if Path.isAbsolute target then ⟨true, []⟩ else here
            match settle fs fewer (next :: pending) start (Path.parts target) with
            | (settled, true) => settle fs (fewer + 1) pending settled rest
            | (stuck, false) => (stuck.stop rest, false)
      | _ => settle fs links pending next rest
termination_by (links, todo.length)

/-- How many links can be followed within each other: each by a path from the root, or by one
    that goes up from the working directory. -/
def nesting (fs : FileSystem) : Nat := countLinks fs.entries * (fs.current.names.length + 2)

/-- Why a path has no link-free form. -/
inductive Unresolved
  | trouble (t : Trouble)
  /-- Links lead around in a circle; the path is shown as far as it could be followed. -/
  | circle (path : String)
deriving DecidableEq, Repr

/-- The link-free form of a path, as names from the root. -/
def canonicalNames (fs : FileSystem) (path : String) : Except Unresolved (List String) :=
  if '\x00' ∈ path.toList then .error (.trouble .nul)
  else
    let (reached, _) := fs.settle fs.nesting [] ⟨Path.isAbsolute path, []⟩ (Path.parts path)
    if !reached.rooted && fs.current.gone > 0 then .error (.trouble .missing)
    else
      let start := if reached.rooted then [] else fs.current.names
      let names := Path.collapse true (start ++ reached.names.reverse)
      let text := "/" ++ Path.slashed names
      match fs.find text with
      | .error .loop => .error (.circle text)
      | _ => .ok names

/-- The link-free form of a path. -/
def canonical (fs : FileSystem) (path : String) : Except Unresolved String :=
  (fs.canonicalNames path).map fun names => "/" ++ Path.slashed names

/-- The link-free form of `path` lies in that of `root`, or is it.  A path that the operating
    system refuses is within nothing. -/
def isWithin (fs : FileSystem) (path root : String) : Except Unresolved Bool :=
  match fs.canonicalNames (Path.plain root), fs.canonicalNames (Path.plain path) with
  | .ok root, .ok path => .ok (root.isPrefixOf path)
  | .error e, _ => refuse e
  | .ok _, .error e => refuse e
where
  refuse : Unresolved → Except Unresolved Bool
    | .trouble .nul => .error (.trouble .nul)
    | .trouble _ => .ok false
    | .circle path => .error (.circle path)

end GoWorkbench.FileSystem
