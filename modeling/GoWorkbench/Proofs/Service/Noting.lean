/-
  Whether it can be told that a write lies in the workspace.

  The note of a write needs the link-free forms of two paths.  Nothing needs to be there for a path
  to have one, but a path with a NUL has none, and links may lead it around in a circle.

  1. **Forms** — what comes of making the link-free form of a path (`form_of`).
  2. **Containment** — it is told by where the two paths lead once their links have been followed,
     however many there are, or it cannot be told (`isWithin_tells`).  Only a link that is met on a
     path too long to look at it is not followed.
  3. **Notes** — so a write is noted, or it cannot be told whether it is one to note, and then
     nothing has changed (`notes_tell`).
  4. **Escapes** — a NUL and a circle are no answers, though the write has been made
     (`notes_escape`).
-/
import GoWorkbench.Proofs.FileSystem.Containment
import GoWorkbench.Proofs.Service.Answers
import GoWorkbench.Proofs.Service.Targets

namespace GoWorkbench

open Entry

namespace FileSystem

variable {fs : FileSystem} {path root : String}

/-! ## Forms -/

/-- What comes of making a link-free form: the names that the path leads to, if its links have an
    end and can be looked at, or none. -/
inductive Form (fs : FileSystem) (path : String) : Except Unresolved (List String) → Prop
  | names {found : List String}
      (leads : ∀ place, fs.TracedTo path place → place.gone = 0 ∧ found = place.names) :
      Form fs path (.ok found)
  | adrift (away : ∀ place, fs.TracedTo path place → ¬ fs.Anchored path) :
      Form fs path (.error (.trouble .missing))
  | nul (given : '\x00' ∈ path.toList) : Form fs path (.error (.trouble .nul))
  | circle {stuck : String} (endless : ∀ place, ¬ fs.TracedTo path place)
      (looped : fs.find stuck = .error .loop) : Form fs path (.error (.circle stuck))

/-- The form of a path is one of a path whose links have an end and can be looked at, or of one that
    is stuck. -/
theorem form_of (orderly : fs.Orderly) (path : String) :
    Form fs path (fs.canonicalNames (Path.plain path)) := by
  by_cases nul : '\x00' ∈ path.toList
  · have still : '\x00' ∈ (Path.plain path).toList :=
      Classical.not_not.mp fun gone => nul_not_mem_of_plain gone nul
    unfold canonicalNames
    rw [if_pos still]
    exact .nul nul
  have no_nul := nul_not_mem_plain nul
  by_cases leads : ∃ place, fs.TracedTo path place
  · obtain ⟨location, leads⟩ := leads
    rcases canonicalNames_of_traced orderly no_nul (tracedTo_plain.mpr leads) with
      ⟨whole, form⟩ | ⟨adrift, form⟩
    · rw [form]
      refine .names fun place also => ?_
      obtain rfl := leads.unique also
      exact ⟨whole, rfl⟩
    · rw [form]
      exact .adrift fun _ _ anchored => adrift (anchored_plain.mpr anchored)
  · -- A path without an end has a form all the same, unless looking that form up meets the circle.
    have endless : ∀ place, ¬ fs.TracedTo path place := fun place h => leads ⟨place, h⟩
    unfold canonicalNames
    rw [if_neg no_nul]
    dsimp only
    split
    · exact .adrift fun place h => absurd h (endless place)
    · split
      · rename_i looped
        exact .circle endless looped
      · exact .names fun place h => absurd h (endless place)

/-! ## Containment -/

/-- The answer goes by where the two paths lead: if it is yes, both have a link-free form and the
    names of one place start with those of the other, and it is yes then, unless a path starts in a
    working directory that is gone. -/
structure Tells (fs : FileSystem) (path root : String) (inside : Bool) : Prop where
  resolved : inside = true → ∀ given, given = root ∨ given = path →
    ∃ names, fs.canonicalNames (Path.plain given) = .ok names
  sound : inside = true → ∀ place top, fs.TracedTo path place → fs.TracedTo root top →
    place.gone = 0 ∧ top.gone = 0 ∧ top.names <+: place.names
  complete : fs.Anchored path → fs.Anchored root → ∀ place top, fs.TracedTo path place →
    fs.TracedTo root top → top.names <+: place.names → inside = true

/-- Why it cannot be told whether the path is within the root. -/
inductive Untold (fs : FileSystem) (path root : String) : Unresolved → Prop
  | nul {given : String} (one : given = root ∨ given = path) (there : '\x00' ∈ given.toList) :
      Untold fs path root (.trouble .nul)
  | circle {given stuck : String} (one : given = root ∨ given = path)
      (endless : ∀ place, ¬ fs.TracedTo given place) (looped : fs.find stuck = .error .loop) :
      Untold fs path root (.circle stuck)

/-- A path that starts in a working directory that is gone is within nothing. -/
theorem tells_false
    (away : fs.Anchored path → fs.Anchored root → ∀ place top, fs.TracedTo path place →
      ¬ fs.TracedTo root top) : Tells fs path root false where
  resolved := nofun
  sound := nofun
  complete anchored anchored_root place top leads leads_root _ :=
    absurd leads_root (away anchored anchored_root place top leads)

/-- **Containment** is told by where the two paths lead, or it cannot be told. -/
theorem isWithin_tells (orderly : fs.Orderly) (path root : String) :
    (∃ inside, fs.isWithin path root = .ok inside ∧ Tells fs path root inside) ∨
      ∃ e, fs.isWithin path root = .error e ∧ Untold fs path root e := by
  have form := form_of orderly path
  have form_root := form_of orderly root
  unfold isWithin
  -- The form of the root is asked for first, so what is wrong with it is told first.
  generalize is_root : fs.canonicalNames (Path.plain root) = made_root at form_root ⊢
  generalize is_path : fs.canonicalNames (Path.plain path) = made at form ⊢
  cases form_root with
  | adrift away =>
    exact Or.inl ⟨false, rfl, tells_false fun _ anchored _ top _ leads => away top leads anchored⟩
  | nul given => exact Or.inr ⟨_, rfl, .nul (Or.inl rfl) given⟩
  | circle endless looped => exact Or.inr ⟨_, rfl, .circle (Or.inl rfl) endless looped⟩
  | @names names_root leads_root =>
    cases form with
    | adrift away =>
      exact Or.inl ⟨false, rfl, tells_false fun anchored _ place _ leads =>
        absurd anchored (away place leads)⟩
    | nul given => exact Or.inr ⟨_, rfl, .nul (Or.inr rfl) given⟩
    | circle endless looped => exact Or.inr ⟨_, rfl, .circle (Or.inr rfl) endless looped⟩
    | @names names leads =>
      refine Or.inl ⟨names_root.isPrefixOf names, rfl, fun _ given one => ?_,
        fun inside place top at_place at_top => ?_, fun _ _ place top at_place at_top below => ?_⟩
      · rcases one with rfl | rfl
        · exact ⟨names_root, is_root⟩
        · exact ⟨names, is_path⟩
      · obtain ⟨whole, rfl⟩ := leads place at_place
        obtain ⟨whole_root, rfl⟩ := leads_root top at_top
        exact ⟨whole, whole_root, List.isPrefixOf_iff_prefix.mp inside⟩
      · obtain ⟨-, rfl⟩ := leads place at_place
        obtain ⟨-, rfl⟩ := leads_root top at_top
        exact List.isPrefixOf_iff_prefix.mpr below

end FileSystem

open FileSystem

namespace Service

variable {s : Service} {path root : String}

/-! ## Notes -/

/-- What comes of noting a write: a rebuild is scheduled if the file is a source in the workspace,
    and otherwise nothing has changed, also where that cannot be told. -/
inductive Notes (s : Service) (path : String) : Answer Bool → Prop
  | elsewhere (outside : ∀ root, s.workspace = some root → Path.isGoSource path = true →
      s.host.files.Tells path root false) : Notes s path (.ok false, s)
  | due {root : String} (active : s.workspace = some root) (source : Path.isGoSource path = true)
      (inside : s.host.files.Tells path root true) : Notes s path (.ok true, s.schedule root)
  | untold {root : String} {e : Unresolved} (active : s.workspace = some root)
      (source : Path.isGoSource path = true) (why : s.host.files.Untold path root e) :
      Notes s path (.error (.ofUnresolved path e), s)

theorem noteWritten_notes (orderly : s.host.files.Orderly) (path : String) :
    Notes s path (s.noteWritten path) := by
  unfold noteWritten rebuildDue
  cases active : s.workspace with
  | none => exact .elsewhere fun root is => nomatch active.symm.trans is
  | some root =>
    dsimp only
    by_cases source : Path.isGoSource path = true
    · rw [source, Bool.not_true, if_neg Bool.false_ne_true]
      unfold Host.isWithin
      obtain ⟨inside, is, tells⟩ | ⟨e, is, why⟩ := isWithin_tells orderly path root
      · rw [is]
        cases inside with
        | true => exact .due active source tells
        | false =>
          refine .elsewhere fun other also _ => ?_
          obtain rfl := Option.some.inj (active.symm.trans also)
          exact tells
      · rw [is]
        exact .untold active source why
    · rw [if_pos (by simp [source])]
      exact .elsewhere fun _ _ is => absurd is source

/-- **Notes**: it is told whether a path is within a root, or one of them has a NUL or is led around
    in a circle.  So a write is noted, or one of these is the failure and nothing has changed. -/
theorem notes_tell (orderly : s.host.files.Orderly) (path : String) :
    (∀ root, (∃ inside, s.host.files.isWithin path root = .ok inside ∧
        s.host.files.Tells path root inside) ∨
      ∃ e, s.host.files.isWithin path root = .error e ∧ s.host.files.Untold path root e) ∧
    Notes s path (s.noteWritten path) :=
  ⟨fun root => isWithin_tells orderly path root, noteWritten_notes orderly path⟩

/-- A file that is not there is within the directory that a link on its path leads to. -/
theorem notes_tell_through_link : linkedFiles.Orderly ∧
    linkedFiles.isWithin "/w/link/new/a.go" "/w/d" = .ok true := by
  have no_link : ∀ {place : Place} {name : String} {inner : List (String × Entry)},
      Entry.child? name (linkedFiles.entriesAt place) = some (.directory inner) →
      ∀ target, Entry.child? name (linkedFiles.entriesAt place) ≠ some (.link target) := by
    intro place name inner is target also
    cases is.symm.trans also
  have root : Traces linkedFiles 1 ⟨true, []⟩ ["w"] ⟨true, ["w"]⟩ :=
    .onward ⟨by decide, by decide, by decide⟩ (no_link rfl) .done
  have below : Traces linkedFiles 0 ⟨true, ["w"]⟩ ["d", "sub"] ⟨true, ["sub", "d", "w"]⟩ :=
    .onward ⟨by decide, by decide, by decide⟩ (no_link rfl)
      (.onward ⟨by decide, by decide, by decide⟩ (no_link rfl) .done)
  have link : Traces linkedFiles 1 ⟨true, ["w"]⟩ ["link"] ⟨true, ["sub", "d", "w"]⟩ :=
    .through ⟨by decide, by decide, by decide⟩ rfl (by decide) below .done
  have onward : Traces linkedFiles 1 ⟨true, ["sub", "d", "w"]⟩ ["new", "a.go"]
      ⟨true, ["a.go", "new", "sub", "d", "w"]⟩ :=
    .onward ⟨by decide, by decide, by decide⟩ nofun
      (.onward ⟨by decide, by decide, by decide⟩ nofun .done)
  have leads : linkedFiles.TracedTo "/w/link/new/a.go" ⟨["w", "d", "sub", "new", "a.go"], 0⟩ :=
    tracedTo_of_traces rfl (rfl : components "/w/link/new/a.go" = ["w", "link", "new", "a.go"])
      (root.append (link.append onward))
  have leads_root : linkedFiles.TracedTo "/w/d" ⟨["w", "d"], 0⟩ :=
    tracedTo_of_traces rfl (rfl : components "/w/d" = ["w", "d"])
      (root.append (.onward ⟨by decide, by decide, by decide⟩ (no_link rfl) .done))
  obtain ⟨tells, -⟩ := notes_tell (s := serving linkedFiles) orderly_linkedFiles "/w/link/new/a.go"
  refine ⟨orderly_linkedFiles, ?_⟩
  obtain ⟨inside, is, told⟩ | ⟨e, -, why⟩ := tells "/w/d"
  · rw [told.complete (Or.inl rfl) (Or.inl rfl) _ _ leads leads_root ⟨["sub", "new", "a.go"], rfl⟩]
      at is
    exact is
  · cases why with
    | nul one there => rcases one with rfl | rfl <;> exact absurd there (by decide)
    | circle one endless =>
      rcases one with rfl | rfl
      · exact absurd leads_root (endless _)
      · exact absurd leads (endless _)

/-! ## Escapes -/

/-- A link to itself beside a directory with a source. -/
def circled : FileSystem := circleFiles [("a.go", .file [112] false)]

theorem orderly_circled : circled.Orderly where
  proper := by
    simp only [circled, circleFiles, Proper]
    decide
  stands := stands_root _
  names := by decide
  targets := by
    intro route target h
    have routes : linkRoutes circled.entries = [["w"]] := by
      simp [circled, circleFiles, linkRoutes]
    have listed := mem_linkRoutes_of_at? (at?_of_leafAt h)
    rw [routes, List.mem_singleton] at listed
    subst listed
    obtain rfl : target = "/w" := by
      have is : leafAt ["w"] circled.entries = some (.link "/w") := rfl
      exact (Entry.link.inj (Option.some.inj (is.symm.trans h))).symm
    decide

theorem leadsTo_beside : LeadsTo "/o" ["o"] ∧ LeadsTo "/o/a.go" ["o", "a.go"] :=
  ⟨⟨rfl, rfl, by decide⟩, rfl, rfl, by decide⟩

theorem canonicalNames_beside : circled.canonicalNames (Path.plain "/o") = .ok ["o"] :=
  canonicalNames_anchored orderly_circled (Or.inl rfl)
    (leadsTo_beside.1.sighted (rfl : Entry.at? ["o"] circled.entries = some (.directory _)) nofun)
    (leadsTo_beside.1.find (leadsTo_beside.1.passable (by decide) (by decide))
      (rfl : Entry.at? ["o"] circled.entries = some (.directory _)) (fits_directory _ _))

/-- A path that leaves a circle again by `..` is judged by the rest of its text. -/
theorem canonicalNames_left : circled.canonicalNames "/w/../o/a.go" = .ok ["o", "a.go"] := by
  have found : circled.find "/o/a.go" = .ok (⟨["o", "a.go"], 0⟩, .file [112] false) :=
    leadsTo_beside.2.find (leadsTo_beside.2.passable (by decide) (by decide)) rfl (fits_file _ _)
  have settles := settle_circle [("a.go", .file [112] false)]
    (2 * countLinks [("a.go", .file [112] false)] + 1) ["..", "o", "a.go"]
  rw [← nesting_circle] at settles
  unfold canonicalNames
  rw [if_neg (by decide), show Path.parts "/w/../o/a.go" = ["", "w", "..", "o", "a.go"] from rfl,
    show Path.isAbsolute "/w/../o/a.go" = true from rfl, show circled = circleFiles _ from rfl,
    settles, show Reached.stop ⟨true, ["w"]⟩ ["..", "o", "a.go"] =
      ⟨true, ["a.go", "o", "..", "w"]⟩ from rfl]
  dsimp only
  rw [Bool.not_true, Bool.false_and, if_neg Bool.false_ne_true, if_pos rfl,
    show "/" ++ Path.slashed (Path.collapse true ([] ++ ["a.go", "o", "..", "w"].reverse)) =
      "/o/a.go" from rfl, show circleFiles _ = circled from rfl, found]
  rfl

theorem canonicalNames_nul {path : String} (given : '\x00' ∈ path.toList) (fs : FileSystem) :
    fs.canonicalNames path = .error (.trouble .nul) := by
  unfold canonicalNames
  exact if_pos given

/-- **Escapes**: whether a path is within a root is not told where one of them is led around in a
    circle or has a NUL, and a write that has been made is not noted then.  And a path that leaves
    the circle again by `..`, which no system follows, is said to be within the root. -/
theorem notes_escape :
    circled.isWithin "/w" "/o" = .error (.circle "/w") ∧
      circled.isWithin "/o\x00" "/o" = .error (.trouble .nul) ∧
      circled.find "/w/../o/a.go" = .error .loop ∧
      circled.isWithin "/w/../o/a.go" "/o" = .ok true ∧
      (serving circled).noteWritten "/o/a.go" = (.error (.circle "/w"), serving circled) ∧
      (serving oneFile).noteWritten "/w/a\x00.go" =
        (.error (.refused .nul "/w/a\x00.go"), serving oneFile) := by
  have stuck : circled.canonicalNames (Path.plain "/w") = .error (.circle "/w") :=
    canonicalNames_circle _
  refine ⟨?_, ?_, ?_, ?_, ?_, ?_⟩
  · unfold isWithin
    rw [canonicalNames_beside, stuck]
    rfl
  · unfold isWithin
    rw [canonicalNames_beside, canonicalNames_nul (by decide)]
    rfl
  · unfold FileSystem.find
    rw [reach_of_passable (by decide) (by decide) (by decide), if_pos (by decide),
      show components "/w/../o/a.go" = ["w", "..", "o", "a.go"] from rfl,
      show endsInSlash "/w/../o/a.go" = false from rfl, show circled = circleFiles _ from rfl,
      walk_circle]
  · unfold isWithin
    rw [canonicalNames_beside, show Path.plain "/w/../o/a.go" = "/w/../o/a.go" from rfl,
      canonicalNames_left]
    rfl
  · unfold noteWritten rebuildDue Host.isWithin isWithin
    dsimp only [serving]
    rw [stuck]
    rfl
  · have leads : LeadsTo "/w" ["w"] := ⟨rfl, rfl, by decide⟩
    have form : oneFile.canonicalNames (Path.plain "/w") = .ok ["w"] :=
      canonicalNames_anchored orderly_oneFile (Or.inl rfl)
        (leads.sighted (rfl : Entry.at? ["w"] oneFile.entries = some (.directory _)) nofun)
        (leads.find (leads.passable (by decide) (by decide))
          (rfl : Entry.at? ["w"] oneFile.entries = some (.directory _)) (fits_directory _ _))
    unfold noteWritten rebuildDue Host.isWithin isWithin
    dsimp only [serving]
    rw [form, canonicalNames_nul (by decide)]
    rfl

end Service

end GoWorkbench
