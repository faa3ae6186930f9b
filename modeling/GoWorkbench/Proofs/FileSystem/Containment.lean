/-
  Containment by link-free forms, and containment in the tree.

  `isWithin` opens neither of its paths: it makes their link-free forms and compares the names.  An
  operating system walks both paths, each along its own links, and ends at two objects of one tree.

  1. **Objects** — a path that leads somewhere has the names of that place for its link-free form,
     and what it leads to is found along them (`canonicalNames_anchored`, `at?_of_find`).
  2. **Containment** — one path is within another just if the object that it leads to lies in the
     directory that the other leads to (`isWithin_iff_liesIn`).
  3. **Overlooked links** — a link that is met on a path too long to look at it is not followed, and
     then a path is said to be within a directory that it leads out of (`isWithin_overlooks`).
-/
import GoWorkbench.Proofs.FileSystem.Depths
import GoWorkbench.Proofs.FileSystem.Reading
import GoWorkbench.Proofs.FileSystem.Resolving
import GoWorkbench.Proofs.FileSystem.Straight

namespace GoWorkbench.FileSystem

open Entry

variable {fs : FileSystem} {path root : String} {location top : Place} {entry : Entry}
  {inner : List (String × Entry)}

/-! ## Objects -/

/-- What a path with a start that stands leads to is found along the names of its place. -/
theorem at?_of_find (orderly : fs.Orderly) (anchored : fs.Anchored path)
    (found : fs.find path = .ok (location, entry)) :
    Entry.at? location.names fs.entries = some entry := by
  have reaches := reach_of_find found
  have walked := ((reach_eq_walk reaches).2 .look).symm.trans reaches
  have stands := orderly.start path
  cases entry with
  | directory inner =>
    obtain ⟨⟨left, on⟩, -⟩ := arrives_of_walk walked
    refine at?_of_look stands walked (on.stands stands ?_).2
    split
    · rfl
    · rename_i relative
      exact anchored.resolve_left relative
  | file data executable =>
    cases walk_sits walked stands with
    | leaf found => exact found
  | link target =>
    cases walk_sits walked stands with
    | leaf found => exact found

theorem canonicalNames_anchored (orderly : fs.Orderly) (anchored : fs.Anchored path)
    (sighted : fs.Sighted path) (found : fs.find path = .ok (location, entry)) :
    fs.canonicalNames (Path.plain path) = .ok location.names :=
  (canonicalNames_of_find orderly sighted found).resolve_right fun adrift => adrift.1 anchored

/-! ## Containment -/

/-- The object is in the directory at `top`, however far below it, or is that directory. -/
def LiesIn (top : Place) (inner : List (String × Entry)) (location : Place) (entry : Entry) :
    Prop :=
  ∃ below, location.names = top.names ++ below ∧ Entry.at? below inner = some entry

/-- The names of two objects of one tree tell whether one is in the other. -/
theorem liesIn_iff {entries : List (String × Entry)}
    (there : Entry.at? location.names entries = some entry)
    (directory : Entry.at? top.names entries = some (.directory inner)) :
    LiesIn top inner location entry ↔ top.names <+: location.names := by
  refine ⟨fun ⟨below, is, _⟩ => ⟨below, is.symm⟩, fun ⟨below, is⟩ => ⟨below, is.symm, ?_⟩⟩
  rw [← is] at there
  by_cases none_below : below = []
  · -- the object is the directory itself
    rw [none_below, List.append_nil, directory] at there
    rw [none_below, at?_nil]
    exact there
  · rw [at?_append _ none_below, directory] at there
    exact there

/-- **Containment**: with a working directory that exists, it can be told of every path and every
    path to a directory whether one is within the other, and it is just if the object that the first
    leads to lies in the directory that the second leads to.  No link on the two paths may be met on
    a path that is too long to look at it. -/
theorem isWithin_iff_liesIn (orderly : fs.Orderly) (working : fs.current.gone = 0)
    (sighted : fs.Sighted path) (sighted_root : fs.Sighted root)
    (opens : fs.find path = .ok (location, entry))
    (opens_root : fs.find root = .ok (top, .directory inner)) :
    ∃ inside, fs.isWithin path root = .ok inside ∧
      (inside = true ↔ LiesIn top inner location entry) := by
  have there := at?_of_find orderly (Or.inr working) opens
  have directory := at?_of_find orderly (Or.inr working) opens_root
  refine ⟨top.names.isPrefixOf location.names, ?_, ?_⟩
  · unfold isWithin
    rw [canonicalNames_anchored orderly (Or.inr working) sighted_root opens_root,
      canonicalNames_anchored orderly (Or.inr working) sighted opens]
  · rw [liesIn_iff there directory, List.isPrefixOf_iff_prefix]

/-- A directory with a link, and another link to it. -/
def chained : FileSystem where
  entries := [("w", .directory [
    ("d", .directory [("sub", .directory []), ("x.go", .file [112] false)]),
    ("link", .link "d/sub"),
    ("chain", .link "/w/link")])]
  current := ⟨["w"], 0⟩

theorem orderly_chained : chained.Orderly where
  proper := by
    simp only [chained, Proper]
    decide
  stands := stands_of_dirAt ⟨_, rfl⟩
  names := by decide
  targets := by
    intro route target h
    have routes : linkRoutes chained.entries = [["w", "link"], ["w", "chain"]] := by
      simp [chained, linkRoutes]
    have listed := mem_linkRoutes_of_at? (at?_of_leafAt h)
    simp only [routes, List.mem_cons, List.not_mem_nil, or_false] at listed
    rcases listed with rfl | rfl
    all_goals
      cases h
      decide

theorem isWithin_chained : chained.Orderly ∧ chained.current.gone = 0 ∧
    chained.Sighted "chain/../x.go" ∧ chained.Sighted "link//.." ∧
    chained.find "chain/../x.go" = .ok (⟨["w", "d", "x.go"], 0⟩, .file [112] false) ∧
    chained.find "link//.." = .ok (⟨["w", "d"], 0⟩,
      .directory [("sub", .directory []), ("x.go", .file [112] false)]) ∧
    chained.isWithin "chain/../x.go" "link//.." = .ok true := by
  have up : ∀ links, Arrives chained (links + 1) ⟨["w"], 0⟩ ["link", ".."] links ⟨["w", "d"], 0⟩ :=
    fun links => .follows ⟨by decide, by decide, by decide⟩
      (rfl : Entry.child? "link" (chained.entriesAt ⟨["w"], 0⟩) = some (.link "d/sub"))
      (.enters ⟨by decide, by decide, by decide⟩ rfl
        (.enters ⟨by decide, by decide, by decide⟩ rfl (.rises .done)))
  have across : Arrives chained maxLinks ⟨["w"], 0⟩ ["chain", ".."] 38 ⟨["w", "d"], 0⟩ :=
    .follows ⟨by decide, by decide, by decide⟩
      (rfl : Entry.child? "chain" (chained.entriesAt ⟨["w"], 0⟩) = some (.link "/w/link"))
      (.enters ⟨by decide, by decide, by decide⟩ rfl (up 38))
  have opens : chained.find "chain/../x.go" =
      .ok (⟨["w", "d", "x.go"], 0⟩, .file [112] false) :=
    find_of_walk (by decide) (by decide) (by decide) rfl rfl rfl
      (across.walk_file ⟨by decide, by decide, by decide⟩ rfl .look)
  have opens_root : chained.find "link//.." = .ok (⟨["w", "d"], 0⟩,
      .directory [("sub", .directory []), ("x.go", .file [112] false)]) :=
    find_of_walk (by decide) (by decide) (by decide) rfl rfl rfl ((up 39).walk false)
  have below : Traces chained 0 ⟨false, []⟩ ["d", "sub"] ⟨false, ["sub", "d"]⟩ :=
    .onward ⟨by decide, by decide, by decide⟩ nofun
      (.onward ⟨by decide, by decide, by decide⟩ nofun .done)
  have sighted_root : chained.Sighted "link//.." :=
    sighted_of_traces rfl (rfl : _ = ["link", ".."]) <|
      .through ⟨by decide, by decide, by decide⟩ rfl (by decide) below (.rises .done)
  have from_root : Traces chained 0 ⟨true, ["w"]⟩ ["d", "sub"] ⟨true, ["sub", "d", "w"]⟩ :=
    .onward ⟨by decide, by decide, by decide⟩ nofun
      (.onward ⟨by decide, by decide, by decide⟩ nofun .done)
  have link : Traces chained 1 ⟨true, []⟩ ["w", "link"] ⟨true, ["sub", "d", "w"]⟩ :=
    .onward ⟨by decide, by decide, by decide⟩ nofun <|
      .through ⟨by decide, by decide, by decide⟩ rfl (by decide) from_root .done
  have sighted : chained.Sighted "chain/../x.go" :=
    sighted_of_traces rfl (rfl : _ = ["chain", "..", "x.go"]) <|
      .through ⟨by decide, by decide, by decide⟩ rfl (by decide) link
        (.rises (.onward ⟨by decide, by decide, by decide⟩ nofun .done))
  obtain ⟨inside, is, lies⟩ :=
    isWithin_iff_liesIn orderly_chained rfl sighted sighted_root opens opens_root
  refine ⟨orderly_chained, rfl, sighted, sighted_root, opens, opens_root, ?_⟩
  rw [is, lies.mpr ⟨["x.go"], rfl, rfl⟩]

/-! ## Overlooked links -/

variable {links : Nat} {pending : List Reached} {names rest : List String}

/-- Once a path is too long, no link on it is looked at any more. -/
theorem settle_of_long (some_name : names ≠ [])
    (long : maxPath < (Reached.mk true names).text.utf8ByteSize) (valid : ∀ n ∈ rest, Solid n) :
    fs.settle links pending ⟨true, names⟩ rest = (⟨true, rest.reverse ++ names⟩, true) := by
  have size : ∀ {names : List String}, names ≠ [] → (Reached.mk true names).text.utf8ByteSize =
      (names.map fun n => n.utf8ByteSize + 1).sum := by
    intro names some_name
    unfold Reached.text
    rw [if_pos rfl, size_slashed (by simpa using some_name), List.map_reverse, List.sum_reverse]
  induction rest generalizing names with
  | nil => rw [settle, List.reverse_nil, List.nil_append]
  | cons name rest ih =>
    obtain ⟨solid, valid_rest⟩ := List.forall_mem_cons.mp valid
    have longer : maxPath < (Reached.mk true (name :: names)).text.utf8ByteSize := by
      rw [size some_name] at long
      rw [size (List.cons_ne_nil _ _), List.map_cons, List.sum_cons]
      omega
    have unseen : fs.entryOf ⟨true, name :: names⟩ = none := by
      unfold entryOf
      exact if_pos longer
    rw [settle, if_neg (by simp [solid.1, solid.2.1, solid.2.2]), push_name solid]
    dsimp only
    rw [unseen]
    dsimp only
    rw [ih (List.cons_ne_nil _ _) longer valid_rest, List.reverse_cons, List.append_assoc,
      List.singleton_append]

/-- A link to the deepest directory, in which there is a link out of it, to a directory with the
    entries. -/
def overlooked (inner : List (String × Entry)) : FileSystem where
  entries := ("l", .link ("/" ++ Path.slashed deepest)) :: ("out", .directory inner) ::
    nested longName [("k", .link "/out")] 63
  current := ⟨[], 0⟩

/-- What is in the deepest directory is found there. -/
theorem at?_overlooked (route : List String) :
    Entry.at? (deepest ++ route) (overlooked inner).entries =
      Entry.at? route [("k", .link "/out")] := by
  have found : Entry.at? (deepest ++ route) (nested longName [("k", .link "/out")] 63) =
    Entry.at? route [("k", .link "/out")] := at?_nested
  have first : deepest = longName :: List.replicate 62 longName := rfl
  have away : Entry.child? longName (overlooked inner).entries =
      Entry.child? longName (nested longName [("k", .link "/out")] 63) := by
    unfold overlooked
    rw [child?_cons, if_neg (by decide), child?_cons, if_neg (by decide)]
  rw [first, List.cons_append, at?_cons] at found ⊢
  rw [away]
  exact found

theorem orderly_overlooked (proper : Proper inner) (free : linkRoutes inner = []) :
    (overlooked inner).Orderly where
  proper := by
    have deep : Proper (nested longName [("k", .link "/out")] 63) := by
      refine proper_nested isName_longName ?_
      simp only [Proper]
      decide
    unfold overlooked
    rw [proper_cons, proper_cons]
    refine ⟨by decide, (by decide : "l" ∉ ["out", longName]),
      fun _ is => Entry.noConfusion is, by decide,
      (by decide : "out" ∉ [longName]), fun _ is => ?_, deep⟩
    obtain rfl := Entry.directory.inj is
    exact proper
  stands := stands_root _
  names := List.forall_mem_nil _
  targets := by
    intro route target h
    have routes : linkRoutes (overlooked inner).entries = [["l"], deepest ++ ["k"]] := by
      unfold overlooked
      rw [linkRoutes, linkRoutes, linkRoutes_nested, free]
      simp [linkRoutes, deepest]
    have found := at?_of_leafAt h
    have listed := mem_linkRoutes_of_at? found
    simp only [routes, List.mem_cons, List.not_mem_nil, or_false] at listed
    rcases listed with rfl | rfl
    · cases found
      exact (leadsTo_slashed deepest_valid).no_nul
    · rw [at?_overlooked] at found
      cases found
      decide

theorem at?_deepest : Entry.at? deepest (overlooked inner).entries =
    some (.directory [("k", .link "/out")]) := by
  have found := @at?_overlooked inner []
  rwa [List.append_nil, at?_nil] at found

/-- A system follows the link to the deepest directory. -/
theorem arrives_overlooked {left : Nat} {there : Place}
    (on : Arrives (overlooked inner) links ⟨deepest, 0⟩ rest left there) :
    Arrives (overlooked inner) (links + 1) .root ("l" :: rest) left there := by
  have root := leadsTo_slashed deepest_valid
  refine .follows ⟨by decide, by decide, by decide⟩
    (rfl : Entry.child? "l" ((overlooked inner).entriesAt .root) =
      some (.link ("/" ++ Path.slashed deepest))) ?_
  rw [root.absolute, if_pos rfl, root.components]
  exact (@arrives_names _ links [] _ ⟨_, at?_deepest⟩ deepest_valid deepest_short).append on

/-- And the one that leads out of it again. -/
theorem arrives_out : Arrives (overlooked inner) (links + 2) .root ["l", "k"] links ⟨["out"], 0⟩ := by
  have found : Entry.child? "k" ((overlooked inner).entriesAt ⟨deepest, 0⟩) =
      some (.link "/out") := by
    rw [child?_entriesAt, at?_overlooked]
    rfl
  exact arrives_overlooked (.follows ⟨by decide, by decide, by decide⟩ found
    (.enters ⟨by decide, by decide, by decide⟩ rfl .done))

/-- The first link can be looked at. -/
theorem traces_overlooked :
    Traces (overlooked inner) 1 ⟨true, []⟩ ["l"] ⟨true, deepest.reverse⟩ ∧
      (overlooked inner).placeOf ⟨true, deepest.reverse⟩ = ⟨deepest, 0⟩ := by
  have root := leadsTo_slashed deepest_valid
  obtain ⟨names, place⟩ := @traces_names (overlooked inner) 0 deepest ⟨true, []⟩
    (fun n listed => solid_of_isName (deepest_valid n listed))
    (unlinked_of_at? at?_deepest nofun) rfl
  rw [List.append_nil] at names place
  refine ⟨?_, place⟩
  refine .through ⟨by decide, by decide, by decide⟩
    (rfl : Entry.child? "l" ((overlooked inner).entriesAt .root) =
      some (.link ("/" ++ Path.slashed deepest))) (by decide) ?_ .done
  unfold startOf
  rw [if_pos root.absolute, root.components]
  exact names

/-- The second one is taken for a name. -/
theorem canonicalNames_overlooked (no_nul : '\x00' ∉ path.toList)
    (absolute : Path.isAbsolute path = true) (parts : Path.parts path = "" :: "l" :: "k" :: rest)
    (valid : ∀ n ∈ rest, IsName n) :
    (overlooked inner).canonicalNames path = .ok (deepest ++ "k" :: rest) := by
  have valid_below : ∀ n ∈ deepest ++ "k" :: rest, IsName n := fun n listed => by
    rcases List.mem_append.mp listed with listed | listed
    · exact deepest_valid n listed
    · exact List.forall_mem_cons.mpr ⟨by decide, valid⟩ n listed
  have solid : ∀ n ∈ "k" :: rest, Solid n := fun n listed =>
    solid_of_isName (valid_below n (List.mem_append_right _ listed))
  -- the path of the second link is too long, and so is all that comes after it
  have settles : (overlooked inner).settle (overlooked inner).nesting [] ⟨true, []⟩
      ("" :: "l" :: "k" :: rest) = (⟨true, (deepest ++ "k" :: rest).reverse⟩, true) := by
    have unseen : (overlooked inner).entryOf ⟨true, "k" :: deepest.reverse⟩ = none := by
      unfold entryOf Reached.text
      dsimp only
      rw [List.reverse_cons, List.reverse_reverse, if_pos rfl, if_pos (long_below "k" [])]
    have long : maxPath < (Reached.mk true ("k" :: deepest.reverse)).text.utf8ByteSize := by
      unfold Reached.text
      rw [List.reverse_cons, List.reverse_reverse, if_pos rfl]
      exact long_below "k" []
    rw [show "" :: "l" :: "k" :: rest = ["", "l"] ++ "k" :: rest from rfl,
      settle_append (settle_of_traces (clean_nil true) waits_nil traces_overlooked.1), settle,
      if_neg (by decide), push_name ⟨by decide, by decide, by decide⟩]
    dsimp only
    rw [unseen]
    dsimp only
    rw [settle_of_long (List.cons_ne_nil _ _) long fun n listed =>
      solid n (List.mem_cons_of_mem _ listed)]
    simp
  have collapsed : Path.collapse true ([] ++ ((deepest ++ "k" :: rest).reverse).reverse) =
      deepest ++ "k" :: rest := by
    rw [List.nil_append, List.reverse_reverse, (collapse_rooted _).1,
      List.filter_eq_self.mpr fun n listed => by simp [(valid_below n listed).1]]
    exact steps_names valid_below
  unfold canonicalNames
  rw [if_neg no_nul, parts, absolute, settles]
  dsimp only
  rw [Bool.not_true, Bool.false_and, if_neg Bool.false_ne_true, if_pos rfl, collapsed,
    find_of_long (long_below "k" rest) (leadsTo_slashed valid_below)]

/-- **Overlooked links**: the path leads out of the directory that the root leads to, along a link
    whose own path is too long to look at it, and it is said to be within that directory. -/
theorem isWithin_overlooks : (overlooked []).Orderly ∧ (overlooked []).current.gone = 0 ∧
    (overlooked []).find "/l/k" = .ok (⟨["out"], 0⟩, .directory []) ∧
    (overlooked []).find "/l" = .ok (⟨deepest, 0⟩, .directory [("k", .link "/out")]) ∧
    (overlooked []).isWithin "/l/k" "/l" = .ok true ∧
    ¬ LiesIn ⟨deepest, 0⟩ [("k", .link "/out")] ⟨["out"], 0⟩ (.directory []) := by
  have orderly : (overlooked []).Orderly := orderly_overlooked proper_nil (by rw [linkRoutes])
  have opens : (overlooked []).find "/l/k" = .ok (⟨["out"], 0⟩, .directory []) :=
    find_of_walk (by decide) (by decide) (by decide) rfl rfl rfl
      ((@arrives_out [] 38).walk false)
  have walked := (@arrives_overlooked [] 39 [] 39 ⟨deepest, 0⟩ .done).walk false
  rw [entriesAt_of_at? at?_deepest] at walked
  have opens_root : (overlooked []).find "/l" =
      .ok (⟨deepest, 0⟩, .directory [("k", .link "/out")]) :=
    find_of_walk (by decide) (by decide) (by decide) rfl rfl rfl walked
  refine ⟨orderly, rfl, opens, opens_root, ?_, ?_⟩
  · unfold isWithin
    rw [canonicalNames_anchored orderly (Or.inl rfl)
        (sighted_of_traces rfl (rfl : components "/l" = ["l"]) traces_overlooked.1) opens_root,
      show Path.plain "/l/k" = "/l/k" from rfl,
      canonicalNames_overlooked (by decide) rfl (rfl : Path.parts "/l/k" = "" :: "l" :: "k" :: [])
        (List.forall_mem_nil _)]
    exact congrArg Except.ok (List.isPrefixOf_iff_prefix.mpr ⟨_, rfl⟩)
  · rintro ⟨below, is, -⟩
    exact absurd (List.cons.inj is).1 (by decide)

end GoWorkbench.FileSystem
