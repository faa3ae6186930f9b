/-
  Settling the links of a path.

  The link-free form of a path is made link by link: each is settled before what comes after it,
  and one that is met while it is pending leads around in a circle.  Every path whose links all have
  an end is settled so, however many there are.

  1. **Places** — what has been settled of a path leads to a place (`placeOf`).
  2. **Pending links** — what each pending link leads along is not as deep as the link, so it is not
     met again, and so there are never more pending than there are links (`Waits`).
  3. **Tracing** — a link is settled only if the path that it is met on is not too long to look at
     it.  `Traces` follows links under this condition, and where it leads, `Follows` does too
     (`Traces.follows`).
  4. **Settling** — a path whose links have an end is settled to where they are traced
     (`settle_of_traces`).
  5. **Paths** — a path whose links can all be looked at is `Sighted`, and leads where following its
     links leads (`Sighted.traced`).
-/
import GoWorkbench.Proofs.FileSystem.Following

namespace GoWorkbench

open Entry

namespace FileSystem

variable {fs : FileSystem} {depth deeper links : Nat} {here there location : Place}
  {name target : String} {todo rest : List String}

/-! ## Places -/

variable {reached r : Reached} {pending : List Reached}

/-- The place that has been reached. -/
def placeOf (fs : FileSystem) (r : Reached) : Place :=
  r.names.foldr (fun component p => Place.step p component)
    (if r.rooted then .root else fs.current)

/-- Nothing has been kept that changes no path. -/
def Clean (r : Reached) : Prop := ∀ n ∈ r.names, n ≠ "" ∧ n ≠ "."

theorem clean_nil (rooted : Bool) : Clean ⟨rooted, []⟩ := fun _ hn => absurd hn List.not_mem_nil

/-- What changes no path changes no place. -/
theorem push_blank {component : String} (h : component = "" ∨ component = ".") :
    reached.push component = reached := by
  show Reached.mk _ (Path.push _ _ _) = _
  rw [push_skipped h]

theorem push_name {component : String} (h : Solid component) :
    reached.push component = ⟨reached.rooted, component :: reached.names⟩ := by
  show Reached.mk _ (Path.push _ _ _) = _
  rw [push_solid h]

theorem Clean.push_name (clean : Clean reached) {component : String} (h : Solid component) :
    Clean (reached.push component) := by
  rw [FileSystem.push_name h]
  exact List.forall_mem_cons.mpr ⟨⟨h.1, h.2.1⟩, clean⟩

theorem placeOf_push_name (fs : FileSystem) (reached : Reached) {component : String}
    (h : Solid component) :
    fs.placeOf (reached.push component) = Place.step (fs.placeOf reached) component := by
  rw [push_name h]
  rfl

theorem parent_step (place : Place) {component : String} (not_dots : component ≠ "..") :
    (Place.step place component).parent = place := by
  obtain ⟨names, gone⟩ := place
  unfold Place.step Place.parent
  rw [if_neg not_dots]
  dsimp only
  rw [List.dropLast_concat]
  split
  · rename_i whole
    rw [whole]
  · rfl

/-- Two dots lead to the directory that holds the place. -/
theorem placeOf_push_dots (fs : FileSystem) (clean : Clean reached) :
    fs.placeOf (reached.push "..") = (fs.placeOf reached).parent ∧
      Clean (reached.push "..") := by
  have up : ∀ names : List String, Clean ⟨reached.rooted, names⟩ →
      fs.placeOf ⟨reached.rooted, ".." :: names⟩ = (fs.placeOf ⟨reached.rooted, names⟩).parent ∧
        Clean ⟨reached.rooted, ".." :: names⟩ := by
    intro names clean
    refine ⟨?_, List.forall_mem_cons.mpr ⟨by decide, clean⟩⟩
    show Place.step _ ".." = _
    exact if_pos rfl
  obtain ⟨rooted, names⟩ := reached
  cases names with
  | nil =>
    cases rooted with
    | true => exact ⟨rfl, clean_nil true⟩
    | false => exact up [] (clean_nil false)
  | cons last rest =>
    by_cases hlast : last = ".."
    · subst hlast
      exact up _ clean
    · have h : Reached.push ⟨rooted, last :: rest⟩ ".." = ⟨rooted, rest⟩ := by
        show Reached.mk _ (Path.push _ _ _) = _
        rw [push_up hlast]
      obtain ⟨⟨nonempty, no_dot⟩, clean_rest⟩ := List.forall_mem_cons.mp clean
      refine ⟨?_, by rw [h]; exact clean_rest⟩
      have solid : Solid last := ⟨nonempty, no_dot, hlast⟩
      have added : Reached.push ⟨rooted, rest⟩ last = ⟨rooted, last :: rest⟩ := push_name solid
      rw [h, ← added, placeOf_push_name fs _ solid]
      exact (parent_step _ hlast).symm

/-- What the last component is the name of is found where it has been added, if the path is short
    enough to look at it. -/
theorem entryOf_push {component : String} {entry : Entry} (h : Solid component)
    (short : (reached.push component).text.utf8ByteSize ≤ maxPath)
    (found : Entry.child? component (fs.entriesAt (fs.placeOf reached)) = some entry) :
    fs.entryOf (reached.push component) = some entry := by
  rw [push_name h] at short ⊢
  unfold entryOf
  dsimp only
  rw [if_neg (Nat.not_lt.mpr short)]
  exact found

theorem of_entryOf_push {component : String} {entry : Entry} (h : Solid component)
    (is : fs.entryOf (reached.push component) = some entry) :
    Entry.child? component (fs.entriesAt (fs.placeOf reached)) = some entry := by
  rw [push_name h] at is
  unfold entryOf at is
  dsimp only at is
  split at is
  · cases is
  · exact is

/-! ## Pending links -/

/-- The link at the end of the route has no end if links within links are followed no deeper. -/
def Blocked (fs : FileSystem) (depth : Nat) (route : List String) : Prop :=
  ∃ names name, route = names ++ [name] ∧ ∀ place, ¬ Follows fs depth ⟨names, 0⟩ [name] place

/-- The links that are being followed while what is left is so deep: each is deeper than that, so
    that it is not met again, and they are not more than there are links. -/
structure Waits (fs : FileSystem) (depth links : Nat) (pending : List Reached) : Prop where
  linked : ∀ p ∈ pending, (fs.placeOf p).names ∈ linkRoutes fs.entries
  blocked : ∀ p ∈ pending, fs.Blocked depth (fs.placeOf p).names
  nodup : (pending.map fun p => (fs.placeOf p).names).Nodup
  enough : countLinks fs.entries ≤ links + pending.length

/-- At first none is followed. -/
theorem waits_nil : Waits fs depth fs.nesting [] := by
  refine ⟨fun p hp => absurd hp List.not_mem_nil, fun p hp => absurd hp List.not_mem_nil,
    List.nodup_nil, ?_⟩
  unfold nesting
  exact Nat.le_mul_of_pos_right _ (Nat.succ_pos _)

theorem Waits.mono (waits : Waits fs deeper links pending) (le : depth ≤ deeper) :
    Waits fs depth links pending := by
  refine ⟨waits.linked, fun p hp => ?_, waits.nodup, waits.enough⟩
  obtain ⟨names, name, is, blocked⟩ := waits.blocked p hp
  exact ⟨names, name, is, fun place h => blocked place (h.mono le)⟩

/-- A link that has an end is followed for the first time. -/
theorem Waits.fresh (waits : Waits fs depth links pending) (whole : here.gone = 0)
    (h : Follows fs depth here (name :: rest) there) :
    here.names ++ [name] ∉ pending.map fun p => (fs.placeOf p).names := by
  intro listed
  obtain ⟨p, hp, is⟩ := List.mem_map.mp listed
  obtain ⟨names, last, same, blocked⟩ := waits.blocked p hp
  obtain ⟨rfl, same_name⟩ := List.append_inj' (is.symm.trans same) rfl
  obtain rfl := (List.cons.inj same_name).1
  obtain ⟨route, gone⟩ := here
  obtain rfl : gone = 0 := whole
  obtain ⟨between, front, -⟩ := follows_cons.mp h
  exact blocked between front

/-- A link that has an end can join those that are being followed, while what it leads along is
    followed less deep. -/
theorem Waits.join (waits : Waits fs depth links pending) (solid : Solid name)
    (found : Entry.child? name (fs.entriesAt (fs.placeOf reached)) = some (.link target))
    (h : Follows fs depth (fs.placeOf reached) (name :: rest) there) :
    reached.push name ∉ pending ∧ 0 < links ∧ ∃ fewer between,
      Waits fs fewer (links - 1) (reached.push name :: pending) ∧
      Follows fs fewer (if Path.isAbsolute target then .root else fs.placeOf reached)
        (components target) between ∧
      Follows fs depth between rest there := by
  obtain ⟨whole, at_link⟩ := at?_child found
  have names : (fs.placeOf (reached.push name)).names =
      (fs.placeOf reached).names ++ [name] := by
    rw [placeOf_push_name fs reached solid, step_eq_child solid.2.2 whole]
    rfl
  have fresh := waits.fresh whole h
  rw [← names] at fresh at_link
  have linked : ∀ p ∈ reached.push name :: pending, (fs.placeOf p).names ∈ linkRoutes fs.entries :=
    List.forall_mem_cons.mpr ⟨mem_linkRoutes_of_at? at_link, waits.linked⟩
  have nodup : ((reached.push name :: pending).map fun p => (fs.placeOf p).names).Nodup :=
    List.nodup_cons.mpr ⟨fresh, waits.nodup⟩
  have room : pending.length + 1 ≤ countLinks fs.entries := by
    have counted := length_le_countLinks nodup fun route hroute => by
      obtain ⟨p, hp, rfl⟩ := List.mem_map.mp hroute
      exact linked p hp
    rwa [List.length_map, List.length_cons] at counted
  have enough := waits.enough
  -- the least depth at which the link has an end: below it the link is blocked, and stays so
  obtain ⟨fewer, lt, blocked, between, on_link, on⟩ := h.tight solid.2.1 solid.2.2 found
  refine ⟨fun hp => fresh (List.mem_map.mpr ⟨_, hp, rfl⟩), by omega, fewer, between, ?_, on_link,
    on⟩
  refine ⟨linked, List.forall_mem_cons.mpr ⟨?_, (waits.mono (Nat.le_of_lt lt)).blocked⟩, nodup, ?_⟩
  · refine ⟨_, name, names, ?_⟩
    rw [← whole]
    exact blocked
  · rw [List.length_cons]
    omega

/-- Where the target of a link starts from. -/
def startOf (reached : Reached) (target : String) : Reached :=
  if Path.isAbsolute target then ⟨true, []⟩ else reached

theorem placeOf_startOf (fs : FileSystem) (reached : Reached) (target : String) :
    fs.placeOf (startOf reached target) =
      if Path.isAbsolute target then .root else fs.placeOf reached := by
  unfold startOf
  split <;> rfl

/-- A path has been settled to a place, and starts at the root if it did before. -/
structure Settled (fs : FileSystem) (reached : Reached) (location : Place) (r : Reached) :
    Prop where
  clean : Clean r
  place : fs.placeOf r = location
  rooted : reached.rooted = true → r.rooted = true

theorem Settled.of_push {component : String}
    (settled : Settled fs (reached.push component) location r) : Settled fs reached location r :=
  ⟨settled.clean, settled.place, settled.rooted⟩

theorem Settled.of_start (settled : Settled fs (startOf reached target) there r) :
    Settled fs reached there r := by
  refine ⟨settled.clean, settled.place, fun rooted => settled.rooted ?_⟩
  unfold startOf
  split
  · rfl
  · exact rooted

theorem Clean.start (clean : Clean reached) (target : String) :
    Clean (startOf reached target) := by
  unfold startOf
  split
  · exact clean_nil true
  · exact clean

/-! ## Tracing -/

/-- The components lead from what has been reached to what is reached by them, as `Follows` says of
    places, and each link is met on a path that is short enough for the system to look at it. -/
inductive Traces (fs : FileSystem) : Nat → Reached → List String → Reached → Prop
  | done {depth : Nat} {here : Reached} : Traces fs depth here [] here
  | stays {depth : Nat} {here there : Reached} {rest : List String}
      (on : Traces fs depth here rest there) : Traces fs depth here ("." :: rest) there
  | rises {depth : Nat} {here there : Reached} {rest : List String}
      (on : Traces fs depth (here.push "..") rest there) : Traces fs depth here (".." :: rest) there
  | onward {depth : Nat} {here there : Reached} {name : String} {rest : List String}
      (solid : Solid name)
      (no_link : ∀ target,
        Entry.child? name (fs.entriesAt (fs.placeOf here)) ≠ some (.link target))
      (on : Traces fs depth (here.push name) rest there) : Traces fs depth here (name :: rest) there
  | through {depth : Nat} {here between there : Reached} {name target : String}
      {rest : List String} (solid : Solid name)
      (found : Entry.child? name (fs.entriesAt (fs.placeOf here)) = some (.link target))
      (short : (here.push name).text.utf8ByteSize ≤ maxPath)
      (at_link : Traces fs depth (startOf here target) (components target) between)
      (on : Traces fs (depth + 1) between rest there) :
      Traces fs (depth + 1) here (name :: rest) there

variable {between : Reached}

/-- What is done with the first component. -/
theorem Traces.first (h : Traces fs depth reached (name :: rest) r) :
    name = "." ∧ Traces fs depth reached rest r ∨
    name = ".." ∧ Traces fs depth (reached.push name) rest r ∨
    Solid name ∧
      ((∀ target, Entry.child? name (fs.entriesAt (fs.placeOf reached)) ≠ some (.link target)) ∧
          Traces fs depth (reached.push name) rest r ∨
        ∃ fewer target between, depth = fewer + 1 ∧
          Entry.child? name (fs.entriesAt (fs.placeOf reached)) = some (.link target) ∧
          (reached.push name).text.utf8ByteSize ≤ maxPath ∧
          Traces fs fewer (startOf reached target) (components target) between ∧
          Traces fs depth between rest r) := by
  generalize is : name :: rest = todo at h
  cases h with
  | done => cases is
  | stays on =>
    obtain ⟨rfl, rfl⟩ := List.cons.inj is
    exact Or.inl ⟨rfl, on⟩
  | rises on =>
    obtain ⟨rfl, rfl⟩ := List.cons.inj is
    exact Or.inr (Or.inl ⟨rfl, on⟩)
  | onward solid no_link on =>
    obtain ⟨rfl, rfl⟩ := List.cons.inj is
    exact Or.inr (Or.inr ⟨solid, Or.inl ⟨no_link, on⟩⟩)
  | through solid found short at_link on =>
    obtain ⟨rfl, rfl⟩ := List.cons.inj is
    exact Or.inr (Or.inr ⟨solid, Or.inr ⟨_, _, _, rfl, found, short, at_link, on⟩⟩)

theorem Traces.of_stays (h : Traces fs depth reached ("." :: rest) r) :
    Traces fs depth reached rest r := by
  obtain ⟨-, on⟩ | ⟨is, -⟩ | ⟨solid, -⟩ := h.first
  · exact on
  · exact absurd is (by decide)
  · exact absurd rfl solid.2.1

theorem Traces.of_rises (h : Traces fs depth reached (".." :: rest) r) :
    Traces fs depth (reached.push "..") rest r := by
  obtain ⟨is, -⟩ | ⟨-, on⟩ | ⟨solid, -⟩ := h.first
  · exact absurd is (by decide)
  · exact on
  · exact absurd rfl solid.2.2

theorem Traces.of_onward (h : Traces fs depth reached (name :: rest) r) (solid : Solid name)
    (no_link : ∀ target,
      Entry.child? name (fs.entriesAt (fs.placeOf reached)) ≠ some (.link target)) :
    Traces fs depth (reached.push name) rest r := by
  obtain ⟨is, -⟩ | ⟨is, -⟩ | ⟨-, ⟨-, on⟩ | ⟨_, target, _, -, found, -⟩⟩ := h.first
  · exact absurd is solid.2.1
  · exact absurd is solid.2.2
  · exact on
  · exact absurd found (no_link target)

theorem Traces.of_through (h : Traces fs depth reached (name :: rest) r) (solid : Solid name)
    (found : Entry.child? name (fs.entriesAt (fs.placeOf reached)) = some (.link target)) :
    (reached.push name).text.utf8ByteSize ≤ maxPath ∧ ∃ fewer between, depth = fewer + 1 ∧
      Traces fs fewer (startOf reached target) (components target) between ∧
      Traces fs depth between rest r := by
  obtain ⟨is, -⟩ | ⟨is, -⟩ |
    ⟨-, ⟨no_link, -⟩ | ⟨fewer, other, between, deep, is, short, at_link, on⟩⟩ := h.first
  · exact absurd is solid.2.1
  · exact absurd is solid.2.2
  · exact absurd found (no_link target)
  · obtain rfl := Entry.link.inj (Option.some.inj (found.symm.trans is))
    exact ⟨short, fewer, between, deep, at_link, on⟩

/-- One part after the other. -/
theorem Traces.append {before after : List String} (h : Traces fs depth reached before between)
    (h' : Traces fs depth between after r) : Traces fs depth reached (before ++ after) r := by
  induction h with
  | done => exact h'
  | stays _ ih => exact .stays (ih h')
  | rises _ ih => exact .rises (ih h')
  | onward solid no_link _ ih => exact .onward solid no_link (ih h')
  | through solid found short at_link _ _ ih => exact .through solid found short at_link (ih h')

/-- Dots make no difference. -/
theorem traces_dotless :
    Traces fs depth reached (dotless todo) r ↔ Traces fs depth reached todo r := by
  constructor
  · intro h
    induction todo generalizing reached with
    | nil => exact h
    | cons name rest ih =>
      by_cases dot : name = "."
      · subst dot
        exact .stays (ih h)
      rw [dotless_cons dot] at h
      obtain ⟨is, -⟩ | ⟨rfl, on⟩ | ⟨solid, ⟨no_link, on⟩ |
        ⟨fewer, target, between, rfl, found, short, at_link, on⟩⟩ := h.first
      · exact absurd is dot
      · exact .rises (ih on)
      · exact .onward solid no_link (ih on)
      · exact .through solid found short at_link (ih on)
  · intro h
    induction h with
    | done => exact .done
    | stays _ ih => exact ih
    | rises _ ih =>
      rw [dotless_cons (by decide)]
      exact .rises ih
    | onward solid no_link _ ih =>
      rw [dotless_cons solid.2.1]
      exact .onward solid no_link ih
    | through solid found short at_link _ _ ih =>
      rw [dotless_cons solid.2.1]
      exact .through solid found short at_link ih

/-- What is traced is followed. -/
theorem Traces.follows (h : Traces fs depth reached todo r) (clean : Clean reached) :
    Follows fs depth (fs.placeOf reached) todo (fs.placeOf r) ∧
      Settled fs reached (fs.placeOf r) r := by
  induction h with
  | done => exact ⟨.done, clean, rfl, id⟩
  | stays _ ih =>
    obtain ⟨on, settled⟩ := ih clean
    exact ⟨.stays on, settled⟩
  | rises _ ih =>
    obtain ⟨up, clean_up⟩ := placeOf_push_dots fs clean
    obtain ⟨on, settled⟩ := ih clean_up
    rw [up] at on
    exact ⟨.rises on, settled.of_push⟩
  | onward solid no_link _ ih =>
    obtain ⟨on, settled⟩ := ih (clean.push_name solid)
    rw [placeOf_push_name fs _ solid] at on
    exact ⟨.onward solid.2.1 solid.2.2 no_link on, settled.of_push⟩
  | through solid found _ _ _ ih_link ih =>
    obtain ⟨at_link, is⟩ := ih_link (clean.start _)
    obtain ⟨on, is'⟩ := ih is.clean
    rw [placeOf_startOf] at at_link
    exact ⟨.through solid.2.1 solid.2.2 found at_link on, is'.clean, is'.place,
      is'.rooted ∘ is.of_start.rooted⟩

/-- Links are traced as deep as they are followed. -/
theorem Traces.at_depth (h : Traces fs depth reached todo r) (clean : Clean reached)
    (also : Follows fs deeper (fs.placeOf reached) todo there) : Traces fs deeper reached todo r := by
  induction h generalizing deeper there with
  | done => exact .done
  | stays _ ih => exact .stays (ih clean also.of_stays)
  | rises _ ih =>
    obtain ⟨up, clean_up⟩ := placeOf_push_dots fs clean
    have on := also.of_rises
    rw [← up] at on
    exact .rises (ih clean_up on)
  | onward solid no_link _ ih =>
    have on := also.of_onward solid.2.1 solid.2.2 no_link
    rw [← placeOf_push_name fs _ solid] at on
    exact .onward solid no_link (ih (clean.push_name solid) on)
  | through solid found short at_link _ ih_link ih =>
    obtain ⟨fewer, between, rfl, on_link, on⟩ := also.of_through solid.2.1 solid.2.2 found
    rw [← placeOf_startOf] at on_link
    -- tracing and following come out at one place, so the depths can be exchanged
    obtain ⟨followed, is⟩ := at_link.follows (clean.start _)
    obtain rfl := followed.unique on_link
    exact .through solid found short (ih_link (clean.start _) on_link) (ih is.clean on)

/-- Names without a link among them are traced as they are. -/
theorem traces_names (valid : ∀ n ∈ todo, Solid n)
    (unlinked : Unlinked fs ⟨(fs.placeOf reached).names ++ todo, 0⟩)
    (whole : (fs.placeOf reached).gone = 0) :
    Traces fs depth reached todo ⟨reached.rooted, todo.reverse ++ reached.names⟩ ∧
      fs.placeOf ⟨reached.rooted, todo.reverse ++ reached.names⟩ =
        ⟨(fs.placeOf reached).names ++ todo, 0⟩ := by
  induction todo generalizing reached with
  | nil =>
    refine ⟨.done, ?_⟩
    rw [List.append_nil, ← whole]
    rfl
  | cons name rest ih =>
    obtain ⟨solid, valid_rest⟩ := List.forall_mem_cons.mp valid
    obtain ⟨no_link, unlinked_rest⟩ := unlinked.next
    have next : fs.placeOf (reached.push name) = ⟨(fs.placeOf reached).names ++ [name], 0⟩ := by
      rw [placeOf_push_name fs reached solid, step_eq_child solid.2.2 whole]
      rfl
    rw [← whole] at no_link
    obtain ⟨on, is⟩ := @ih (reached.push name) valid_rest (by rw [next]; exact unlinked_rest)
      (by rw [next])
    rw [next, List.append_assoc, List.singleton_append] at is
    rw [push_name solid] at on is
    rw [List.reverse_cons, List.append_assoc, List.singleton_append]
    refine ⟨.onward solid no_link ?_, is⟩
    rw [push_name solid]
    exact on

/-! ## Settling -/

/-- A name that is no dots is solid, and not left out. -/
theorem solid_of_plain {name : String} (rest : List String)
    (plain : ¬ (name.isEmpty || name = "." || name = "..") = true) :
    Solid name ∧ (name :: rest).filter (fun c => !c.isEmpty) =
      name :: rest.filter (fun c => !c.isEmpty) := by
  simp only [Bool.or_eq_true, decide_eq_true_eq, String.isEmpty_iff, not_or] at plain
  exact ⟨⟨plain.1.1, plain.1.2, plain.2⟩, List.filter_cons_of_pos (by simp [plain.1.1])⟩

/-- A link that is traced joins those that are being followed. -/
theorem Waits.trace (waits : Waits fs depth links pending) (clean : Clean reached)
    (plain : ¬ (name.isEmpty || name = "." || name = "..") = true)
    (found : fs.entryOf (reached.push name) = some (.link target))
    (h : Traces fs depth reached ((name :: rest).filter fun c => !c.isEmpty) r) :
    reached.push name ∉ pending ∧ 0 < links ∧ ∃ fewer between,
      Waits fs fewer (links - 1) (reached.push name :: pending) ∧
      Traces fs fewer (startOf reached target) (components target) between ∧ Clean between ∧
      Traces fs depth between (rest.filter fun c => !c.isEmpty) r := by
  obtain ⟨solid, kept⟩ := solid_of_plain rest plain
  rw [kept] at h
  have there := of_entryOf_push solid found
  obtain ⟨fresh, room, fewer, place, waits', on_link, -⟩ :=
    waits.join solid there (h.follows clean).1
  obtain ⟨-, _, between, -, at_link, on⟩ := h.of_through solid there
  rw [← placeOf_startOf] at on_link
  have clean_start := clean.start target
  exact ⟨fresh, room, fewer, between, waits', at_link.at_depth clean_start on_link,
    (at_link.follows clean_start).2.clean, on⟩

/-- What comes after a part that has been settled is settled from there. -/
theorem settle_append {more : List String}
    (settles : fs.settle links pending reached todo = (r, true)) :
    fs.settle links pending reached (todo ++ more) = fs.settle links pending r more := by
  fun_induction FileSystem.settle fs links pending reached todo with
  | case1 links pending reached =>
    obtain rfl := (Prod.mk.inj settles).1
    rfl
  | case2 links pending reached name rest next skipped =>
    rename_i ih
    rw [List.cons_append, settle, if_pos skipped]
    exact ih settles
  | case3 | case4 | case6 => cases (Prod.mk.inj settles).2
  | case5 pending reached name rest next plain target found fresh fewer start settled inner =>
    rename_i ih_link ih
    subst next start
    rw [dite_eq_ite] at inner
    rw [List.cons_append, settle, if_neg plain]
    dsimp only
    rw [found]
    dsimp only
    rw [if_neg fresh, inner]
    exact ih settles
  | case7 links pending reached name rest next plain no_link =>
    rename_i ih
    rw [List.cons_append, settle, if_neg plain]
    dsimp only
    split
    · rename_i target found
      exact absurd found (no_link target)
    · exact ih settles

/-- **Settling**: a path whose links have an end is settled to where they are traced. -/
theorem settle_of_traces (clean : Clean reached) (waits : Waits fs depth links pending)
    (h : Traces fs depth reached (todo.filter fun c => !c.isEmpty) r) :
    fs.settle links pending reached todo = (r, true) := by
  fun_induction FileSystem.settle fs links pending reached todo generalizing depth r with
  | case1 links pending reached =>
    cases h
    rfl
  | case2 links pending reached name rest next skipped =>
    rename_i ih
    subst next
    simp only [Bool.or_eq_true, decide_eq_true_eq, String.isEmpty_iff, or_assoc] at skipped
    rcases skipped with rfl | rfl | rfl
    · rw [push_blank (.inl rfl)] at ih ⊢
      exact ih clean waits h
    · rw [push_blank (.inr rfl)] at ih ⊢
      exact ih clean waits (Traces.of_stays h)
    · exact ih (placeOf_push_dots fs clean).2 waits (Traces.of_rises h)
  | case3 links pending reached name rest next plain target found =>
    -- a link that leads back to itself has no end, so it is not traced
    rename_i met
    exact absurd met (waits.trace clean plain found h).1
  | case4 pending reached name rest next plain target found =>
    -- there is room for every link that there is
    exact absurd (waits.trace clean plain found h).2.1 (Nat.lt_irrefl 0)
  | case5 pending reached name rest next plain target found fresh fewer start settled inner =>
    rename_i ih_link ih
    subst next start
    rw [dite_eq_ite, show ite _ _ _ = startOf reached target from rfl] at ih_link inner
    obtain ⟨-, -, less, between, waits', at_link, clean', on⟩ := waits.trace clean plain found h
    obtain ⟨rfl, -⟩ := Prod.mk.inj (inner.symm.trans (ih_link (clean.start target) waits' at_link))
    exact ih clean' waits on
  | case6 pending reached name rest next plain target found fresh fewer start stuck =>
    rename_i inner ih_link
    subst next start
    rw [dite_eq_ite, show ite _ _ _ = startOf reached target from rfl] at ih_link inner
    obtain ⟨-, -, less, between, waits', at_link, -⟩ := waits.trace clean plain found h
    cases (Prod.mk.inj (inner.symm.trans (ih_link (clean.start target) waits' at_link))).2
  | case7 links pending reached name rest next plain no_link =>
    rename_i ih
    subst next
    obtain ⟨solid, kept⟩ := solid_of_plain rest plain
    rw [kept] at h
    refine ih (clean.push_name solid) waits (h.of_onward solid fun target found => ?_)
    -- a link that is not seen is met on a path that is too long, and then it is not traced
    exact no_link target (entryOf_push solid (h.of_through solid found).1 found)

/-! ## Paths -/

variable {path : String}

/-- The path leads to the place once all its links have been followed to their ends, and each of them
    can be looked at. -/
def TracedTo (fs : FileSystem) (path : String) (place : Place) : Prop :=
  ∃ depth r, Traces fs depth ⟨Path.isAbsolute path, []⟩ (components path) r ∧ fs.placeOf r = place

theorem TracedTo.followedTo (h : fs.TracedTo path there) : fs.FollowedTo path there := by
  obtain ⟨depth, r, traces, rfl⟩ := h
  refine ⟨depth, ?_⟩
  have follows := (traces.follows (clean_nil _)).1
  rwa [show fs.placeOf ⟨Path.isAbsolute path, []⟩ =
    if Path.isAbsolute path then .root else fs.current from rfl] at follows

theorem TracedTo.unique (h : fs.TracedTo path there) (h' : fs.TracedTo path location) :
    there = location :=
  h.followedTo.unique h'.followedTo

theorem tracedTo_of_traces {rooted : Bool} (starts : Path.isAbsolute path = rooted)
    (parts : components path = todo) (h : Traces fs depth ⟨rooted, []⟩ todo r) :
    fs.TracedTo path (fs.placeOf r) := by
  refine ⟨depth, r, ?_, rfl⟩
  rw [starts, parts]
  exact h

/-- A path leads where its plain form does. -/
theorem tracedTo_plain : fs.TracedTo (Path.plain path) there ↔ fs.TracedTo path there := by
  obtain ⟨starts, same⟩ := plain_components path
  refine exists_congr fun depth => exists_congr fun r => and_congr_left fun _ => ?_
  rw [starts]
  refine traces_dotless.symm.trans (Iff.trans ?_ traces_dotless)
  unfold dotless
  rw [same]

/-- A path of names without a link among them leads to them. -/
theorem tracedTo_names {names : List String} (absolute : Path.isAbsolute path = true)
    (named : components path = names) (valid : ∀ n ∈ names, IsName n)
    (unlinked : Unlinked fs ⟨names, 0⟩) : fs.TracedTo path ⟨names, 0⟩ := by
  obtain ⟨traces, is⟩ := @traces_names fs 0 names ⟨true, []⟩
    (fun n listed => solid_of_isName (valid n listed)) unlinked rfl
  refine ⟨0, _, ?_, is⟩
  rw [absolute, named]
  exact traces

/-- Every link that the path leads along has an end, and is met on a path that is short enough for
    the system to look at it. -/
def Sighted (fs : FileSystem) (path : String) : Prop := ∃ place, fs.TracedTo path place

/-- So the path is traced to where it leads. -/
theorem Sighted.traced (h : fs.Sighted path) (leads : fs.FollowedTo path there) :
    fs.TracedTo path there := by
  obtain ⟨place, traced⟩ := h
  obtain rfl := traced.followedTo.unique leads
  exact traced

theorem sighted_of_traces {rooted : Bool} {r : Reached} (starts : Path.isAbsolute path = rooted)
    (parts : components path = todo) (h : Traces fs depth ⟨rooted, []⟩ todo r) :
    fs.Sighted path :=
  ⟨_, tracedTo_of_traces starts parts h⟩

/-- A path of names to what is no link passes no link at all. -/
theorem LeadsTo.sighted {names : List String} {entry : Entry} (leads : LeadsTo path names)
    (found : Entry.at? names fs.entries = some entry) (no_link : ∀ target, entry ≠ .link target) :
    fs.Sighted path :=
  ⟨_, tracedTo_names leads.absolute leads.components leads.valid (unlinked_of_at? found no_link)⟩

end FileSystem

end GoWorkbench
