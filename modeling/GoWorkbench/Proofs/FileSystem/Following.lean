/-
  Following the links of a path to their ends.

  An operating system walks a path as long as something is there and its stock of links lasts.  To
  take the links out of a path another question is asked: whether each link on it has an end, where
  a link has one if all links that its own path goes along have.  Nothing needs to be there.

  1. **Following** — `Follows` relates a place, components and the place that they lead to once
     every link has been followed to its end.  It leads to one place only (`Follows.unique`), part
     by part (`Follows.append`, `Follows.split`), and no deeper through a link than the link needs
     (`Follows.tight`).
  2. **Walks** — where a walk finds something, every link on the path has an end
     (`follows_of_walk`).
  3. **Places without links** — no link lies on the way from the root to where links have been
     followed to (`Follows.unlinked`), so the system is not led around on it
     (`find_slashed_ne_loop`).
  4. **Paths** — a path leads to one place (`FollowedTo.unique`), made of names
     (`FollowedTo.valid`), and where something is found it leads there (`followedTo_of_find`).
-/
import GoWorkbench.Proofs.FileSystem.Links
import GoWorkbench.Proofs.FileSystem.Reading

namespace GoWorkbench

open Entry

namespace FileSystem

variable {fs : FileSystem} {depth deeper : Nat} {here there between place : Place}
  {name target path : String} {todo rest before after names : List String} {entry : Entry}

/-! ## Following -/

/-- The components lead from the first place to the second, each link being followed to its end
    before what comes after it, and links within links at most so deep. -/
inductive Follows (fs : FileSystem) : Nat → Place → List String → Place → Prop
  | done {depth : Nat} {here : Place} : Follows fs depth here [] here
  | stays {depth : Nat} {here there : Place} {rest : List String}
      (on : Follows fs depth here rest there) : Follows fs depth here ("." :: rest) there
  | rises {depth : Nat} {here there : Place} {rest : List String}
      (on : Follows fs depth here.parent rest there) : Follows fs depth here (".." :: rest) there
  | onward {depth : Nat} {here there : Place} {name : String} {rest : List String}
      (not_dot : name ≠ ".") (not_dots : name ≠ "..")
      (no_link : ∀ target, Entry.child? name (fs.entriesAt here) ≠ some (.link target))
      (on : Follows fs depth (Place.step here name) rest there) :
      Follows fs depth here (name :: rest) there
  | through {depth : Nat} {here between there : Place} {name target : String}
      {rest : List String} (not_dot : name ≠ ".") (not_dots : name ≠ "..")
      (found : Entry.child? name (fs.entriesAt here) = some (.link target))
      (at_link : Follows fs depth (if Path.isAbsolute target then .root else here)
        (components target) between)
      (on : Follows fs (depth + 1) between rest there) :
      Follows fs (depth + 1) here (name :: rest) there

theorem Follows.mono (h : Follows fs depth here todo there) (le : depth ≤ deeper) :
    Follows fs deeper here todo there := by
  induction h generalizing deeper with
  | done => exact .done
  | stays _ ih => exact .stays (ih le)
  | rises _ ih => exact .rises (ih le)
  | onward not_dot not_dots no_link _ ih => exact .onward not_dot not_dots no_link (ih le)
  | through not_dot not_dots found _ _ ih_link ih =>
    obtain ⟨less, rfl⟩ : ∃ less, deeper = less + 1 := ⟨deeper - 1, by omega⟩
    exact .through not_dot not_dots found (ih_link (by omega)) (ih le)

/-- What is done with the first component. -/
theorem Follows.first (h : Follows fs depth here (name :: rest) there) :
    name = "." ∧ Follows fs depth here rest there ∨
    name = ".." ∧ Follows fs depth here.parent rest there ∨
    name ≠ "." ∧ name ≠ ".." ∧
      ((∀ target, Entry.child? name (fs.entriesAt here) ≠ some (.link target)) ∧
          Follows fs depth (Place.step here name) rest there ∨
        ∃ fewer target between, depth = fewer + 1 ∧
          Entry.child? name (fs.entriesAt here) = some (.link target) ∧
          Follows fs fewer (if Path.isAbsolute target then .root else here)
            (components target) between ∧
          Follows fs depth between rest there) := by
  generalize is : name :: rest = todo at h
  cases h with
  | done => cases is
  | stays on =>
    obtain ⟨rfl, rfl⟩ := List.cons.inj is
    exact Or.inl ⟨rfl, on⟩
  | rises on =>
    obtain ⟨rfl, rfl⟩ := List.cons.inj is
    exact Or.inr (Or.inl ⟨rfl, on⟩)
  | onward not_dot not_dots no_link on =>
    obtain ⟨rfl, rfl⟩ := List.cons.inj is
    exact Or.inr (Or.inr ⟨not_dot, not_dots, Or.inl ⟨no_link, on⟩⟩)
  | through not_dot not_dots found at_link on =>
    obtain ⟨rfl, rfl⟩ := List.cons.inj is
    exact Or.inr (Or.inr ⟨not_dot, not_dots, Or.inr ⟨_, _, _, rfl, found, at_link, on⟩⟩)

theorem Follows.of_stays (h : Follows fs depth here ("." :: rest) there) :
    Follows fs depth here rest there := by
  obtain ⟨-, on⟩ | ⟨is, -⟩ | ⟨not_dot, -⟩ := h.first
  · exact on
  · exact absurd is (by decide)
  · exact absurd rfl not_dot

theorem Follows.of_rises (h : Follows fs depth here (".." :: rest) there) :
    Follows fs depth here.parent rest there := by
  obtain ⟨is, -⟩ | ⟨-, on⟩ | ⟨-, not_dots, -⟩ := h.first
  · exact absurd is (by decide)
  · exact on
  · exact absurd rfl not_dots

theorem Follows.of_onward (h : Follows fs depth here (name :: rest) there) (not_dot : name ≠ ".")
    (not_dots : name ≠ "..")
    (no_link : ∀ target, Entry.child? name (fs.entriesAt here) ≠ some (.link target)) :
    Follows fs depth (Place.step here name) rest there := by
  obtain ⟨is, -⟩ | ⟨is, -⟩ | ⟨-, -, ⟨-, on⟩ | ⟨_, target, _, -, found, -⟩⟩ := h.first
  · exact absurd is not_dot
  · exact absurd is not_dots
  · exact on
  · exact absurd found (no_link target)

theorem Follows.of_through (h : Follows fs depth here (name :: rest) there) (not_dot : name ≠ ".")
    (not_dots : name ≠ "..")
    (found : Entry.child? name (fs.entriesAt here) = some (.link target)) :
    ∃ fewer between, depth = fewer + 1 ∧
      Follows fs fewer (if Path.isAbsolute target then .root else here) (components target)
        between ∧
      Follows fs depth between rest there := by
  obtain ⟨is, -⟩ | ⟨is, -⟩ |
    ⟨-, -, ⟨no_link, -⟩ | ⟨fewer, other, between, deep, is, at_link, on⟩⟩ := h.first
  · exact absurd is not_dot
  · exact absurd is not_dots
  · exact absurd found (no_link target)
  · obtain rfl := Entry.link.inj (Option.some.inj (found.symm.trans is))
    exact ⟨fewer, between, deep, at_link, on⟩

/-- One part after the other. -/
theorem Follows.append (h : Follows fs depth here before between)
    (h' : Follows fs depth between after there) :
    Follows fs depth here (before ++ after) there := by
  induction h with
  | done => exact h'
  | stays _ ih => exact .stays (ih h')
  | rises _ ih => exact .rises (ih h')
  | onward not_dot not_dots no_link _ ih => exact .onward not_dot not_dots no_link (ih h')
  | through not_dot not_dots found at_link _ _ ih =>
    exact .through not_dot not_dots found at_link (ih h')

theorem Follows.split (h : Follows fs depth here (before ++ after) there) :
    ∃ between, Follows fs depth here before between ∧ Follows fs depth between after there := by
  induction before generalizing here with
  | nil => exact ⟨here, .done, h⟩
  | cons name before ih =>
    obtain ⟨rfl, on⟩ | ⟨rfl, on⟩ |
      ⟨not_dot, not_dots, ⟨no_link, on⟩ | ⟨fewer, target, _, rfl, found, at_link, on⟩⟩ := h.first
    · obtain ⟨between, front, back⟩ := ih on
      exact ⟨between, .stays front, back⟩
    · obtain ⟨between, front, back⟩ := ih on
      exact ⟨between, .rises front, back⟩
    · obtain ⟨between, front, back⟩ := ih on
      exact ⟨between, .onward not_dot not_dots no_link front, back⟩
    · obtain ⟨between, front, back⟩ := ih on
      exact ⟨between, .through not_dot not_dots found at_link front, back⟩

theorem follows_cons : Follows fs depth here (name :: rest) there ↔
    ∃ between, Follows fs depth here [name] between ∧ Follows fs depth between rest there := by
  refine ⟨fun h => ?_, fun ⟨_, front, back⟩ => front.append back⟩
  exact Follows.split (show Follows fs depth here ([name] ++ rest) there from h)

/-- Components lead to one place only, however deep links are followed. -/
theorem Follows.unique (h : Follows fs depth here todo there)
    (h' : Follows fs deeper here todo place) : there = place := by
  induction h generalizing deeper place with
  | done => cases h'; rfl
  | stays _ ih => exact ih h'.of_stays
  | rises _ ih => exact ih h'.of_rises
  | onward not_dot not_dots no_link _ ih => exact ih (h'.of_onward not_dot not_dots no_link)
  | through not_dot not_dots found _ _ ih_link ih =>
    obtain ⟨_, _, -, at_link, on⟩ := h'.of_through not_dot not_dots found
    obtain rfl := ih_link at_link
    exact ih on

/-- What holds of a number and not of zero holds for the first time of one up to it. -/
theorem exists_first {P : Nat → Prop} (none : ¬ P 0) {n : Nat} (h : P n) :
    ∃ m < n, ¬ P m ∧ P (m + 1) := by
  induction n with
  | zero => exact absurd h none
  | succ n ih =>
    by_cases before : P n
    · obtain ⟨m, lt, found⟩ := ih before
      exact ⟨m, Nat.lt_succ_of_lt lt, found⟩
    · exact ⟨n, Nat.lt_succ_self n, before, h⟩

/-- **Through a link**: a link that has an end has one without being met again on the way, for what
    it leads along is not as deep as the link itself. -/
theorem Follows.tight (h : Follows fs depth here (name :: rest) there) (not_dot : name ≠ ".")
    (not_dots : name ≠ "..")
    (found : Entry.child? name (fs.entriesAt here) = some (.link target)) :
    ∃ fewer < depth, (∀ place, ¬ Follows fs fewer here [name] place) ∧ ∃ between,
      Follows fs fewer (if Path.isAbsolute target then .root else here) (components target)
        between ∧
      Follows fs depth between rest there := by
  obtain ⟨between, front, back⟩ := follows_cons.mp h
  -- Of all depths at which the link alone has an end, the least is the one to take.
  have shallow : ¬ ∃ place, Follows fs 0 here [name] place := by
    rintro ⟨place, h⟩
    obtain ⟨_, _, deep, -⟩ := h.of_through not_dot not_dots found
    cases deep
  obtain ⟨fewer, lt, too_few, place, enough⟩ :=
    exists_first (P := fun depth => ∃ place, Follows fs depth here [name] place) shallow
      ⟨between, front⟩
  obtain rfl := enough.unique front
  obtain ⟨_, end_of_link, deep, at_link, on⟩ := enough.of_through not_dot not_dots found
  obtain rfl := Nat.succ.inj deep
  cases on
  exact ⟨fewer, lt, fun place h => too_few ⟨place, h⟩, _, at_link, back⟩

/-! ## Walks -/

theorem step_eq_child (not_dots : name ≠ "..") (whole : here.gone = 0) :
    Place.step here name = here.child name := by
  unfold Place.step
  rw [if_neg not_dots, whole]
  rfl

/-- **Walks**: where a walk finds something, the components lead there and every link has an end. -/
theorem follows_of_walk {slash : Bool} {links : Nat} {entry : Entry}
    (h : fs.walk .look slash links here todo = .ok (.object there entry)) :
    Follows fs links here todo there := by
  have other : ∀ {here : Place} {name : String} {found : Entry} {target : String},
      Entry.child? name (fs.entriesAt here) = some found → found ≠ .link target →
      Entry.child? name (fs.entriesAt here) ≠ some (.link target) := by
    intro here name found target is no_link is_link
    exact no_link (Option.some.inj (is.symm.trans is_link))
  fun_induction FileSystem.walk fs .look slash links here todo with
  | case1 =>
    cases h
    exact .done
  | case2 slash links here rest ih => exact .stays (ih h)
  | case3 slash links here rest not_dot ih => exact .rises (ih h)
  | case4 | case5 | case6 | case7 | case10 | case12 => cases h
  | case8 slash links here name rest not_dot not_dots plain short inner found ih =>
    refine .onward not_dot not_dots (fun _ => other found (by rintro ⟨⟩)) ?_
    rw [step_eq_child not_dots (at?_child found).1]
    exact ih h
  | case9 slash links here name rest not_dot not_dots plain short data executable found last =>
    cases h
    rw [Bool.and_eq_true, List.isEmpty_iff] at last
    rw [last.1]
    refine .onward not_dot not_dots (fun _ => other found (by rintro ⟨⟩)) ?_
    rw [step_eq_child not_dots (at?_child found).1]
    exact .done
  | case11 slash links here name rest not_dot not_dots plain short target found looked =>
    simp at looked
  | case13 slash here name rest not_dot not_dots plain short target found followed links ih =>
    rw [dite_eq_ite] at ih
    obtain ⟨between, at_link, on⟩ := (ih h).split
    exact .through not_dot not_dots found at_link (on.mono (Nat.le_succ links))

/-! ## Places without links -/

/-- No link lies on the way from the root to what is left of the place. -/
def Unlinked (fs : FileSystem) (p : Place) : Prop :=
  ∀ route target, route <+: p.names.take (p.names.length - p.gone) →
    Entry.at? route fs.entries ≠ some (.link target)

/-- On the way to a directory there are directories only. -/
theorem Stands.unlinked (stands : Stands fs.entries here) : Unlinked fs here := by
  rintro route target ⟨more, is⟩ found
  have there := stands.left
  rw [← is] at there
  obtain ⟨inner, directory⟩ := there.of_append
  rw [found] at directory
  cases directory

/-- So there are on the way to any object. -/
theorem unlinked_of_at? (found : Entry.at? names fs.entries = some entry)
    (no_link : ∀ target, entry ≠ .link target) : Unlinked fs ⟨names, 0⟩ := by
  rintro route target ⟨more, is⟩ is_link
  replace is : route ++ more = names := by rwa [Nat.sub_zero, List.take_length] at is
  rw [← is] at found
  by_cases last : more = []
  · rw [last, List.append_nil, is_link] at found
    exact no_link target (Option.some.inj found).symm
  · obtain ⟨inner, directory⟩ := dirAt_of_at?_append last found
    rw [is_link] at directory
    cases directory

theorem Unlinked.parent (h : Unlinked fs here) : Unlinked fs here.parent := by
  intro route target earlier
  refine h route target (earlier.trans ?_)
  show here.names.dropLast.take (here.names.dropLast.length - (here.gone - 1)) <+: _
  rw [List.dropLast_eq_take, List.take_take, List.length_take]
  exact List.take_prefix_take_left (by omega)

theorem Unlinked.step (h : Unlinked fs here) (not_dots : name ≠ "..")
    (no_link : ∀ target, Entry.child? name (fs.entriesAt here) ≠ some (.link target)) :
    Unlinked fs (Place.step here name) := by
  obtain ⟨names, gone⟩ := here
  unfold Place.step
  rw [if_neg not_dots]
  intro route target earlier
  dsimp only at earlier
  by_cases whole : gone = 0
  · subst whole
    rw [if_pos rfl, Nat.sub_zero, List.take_length] at earlier
    rcases List.prefix_concat_iff.mp earlier with is | before
    · rw [is, ← child?_entriesAt]
      exact no_link target
    · refine h route target ?_
      rw [Nat.sub_zero, List.take_length]
      exact before
  · -- what is left of a place that is gone stays the same
    refine h route target ?_
    rw [if_neg whole, List.length_append, List.length_singleton, Nat.add_sub_add_right,
      List.take_append_of_le_length (Nat.sub_le _ _)] at earlier
    exact earlier

/-- Where names have been followed to is made of names. -/
theorem Follows.valid (orderly : fs.Orderly) (h : Follows fs depth here todo there)
    (start : ∀ n ∈ here.names, IsName n)
    (valid : ∀ n ∈ todo, n ≠ "" ∧ '/' ∉ n.toList ∧ '\x00' ∉ n.toList) :
    ∀ n ∈ there.names, IsName n := by
  induction h with
  | done => exact start
  | stays _ ih => exact ih start (List.forall_mem_cons.mp valid).2
  | rises _ ih =>
    exact ih (fun n listed => start n (List.dropLast_subset _ listed))
      (List.forall_mem_cons.mp valid).2
  | @onward _ here _ name _ not_dot not_dots _ _ ih =>
    obtain ⟨⟨nonempty, plain⟩, valid_rest⟩ := List.forall_mem_cons.mp valid
    refine ih (fun n listed => ?_) valid_rest
    unfold Place.step at listed
    rw [if_neg not_dots] at listed
    rcases List.mem_append.mp listed with before | last
    · exact start n before
    · obtain rfl := List.mem_singleton.mp last
      exact ⟨nonempty, not_dot, not_dots, plain⟩
  | @through _ here _ _ name target _ _ _ found _ _ ih_link ih =>
    refine ih (ih_link ?_ fun n listed => ?_) (List.forall_mem_cons.mp valid).2
    · split
      · exact fun n listed => absurd listed List.not_mem_nil
      · exact start
    · obtain ⟨part, nonempty, no_slash⟩ := of_mem_components listed
      refine ⟨nonempty, no_slash, fun h => ?_⟩
      have link := (at?_child found).2
      refine orderly.targets (here.names ++ [name]) target ?_ (Path.mem_of_mem_parts part h).1
      unfold leafAt
      rw [link]

/-- **No link lies on the way** to where links have been followed to. -/
theorem Follows.unlinked (h : Follows fs depth here todo there) (start : Unlinked fs here) :
    Unlinked fs there := by
  induction h with
  | done => exact start
  | stays _ ih => exact ih start
  | rises _ ih => exact ih start.parent
  | onward _ not_dots no_link _ ih => exact ih (start.step not_dots no_link)
  | through _ _ _ _ _ ih_link ih =>
    refine ih (ih_link ?_)
    split
    · exact (stands_root _).unlinked
    · exact start

/-- No link is met where the names go on from where they have come to. -/
theorem Unlinked.next (h : Unlinked fs ⟨names ++ name :: rest, 0⟩) :
    (∀ target, Entry.child? name (fs.entriesAt ⟨names, 0⟩) ≠ some (.link target)) ∧
      Unlinked fs ⟨names ++ [name] ++ rest, 0⟩ := by
  rw [show names ++ name :: rest = names ++ [name] ++ rest by simp] at h
  refine ⟨fun target => ?_, h⟩
  rw [child?_entriesAt]
  refine h _ target ?_
  rw [Nat.sub_zero, List.take_length]
  exact List.prefix_append _ _

/-- Names without a link among them are followed as they are. -/
theorem follows_names (valid : ∀ n ∈ todo, Solid n) (unlinked : Unlinked fs ⟨names ++ todo, 0⟩) :
    Follows fs depth ⟨names, 0⟩ todo ⟨names ++ todo, 0⟩ := by
  induction todo generalizing names with
  | nil =>
    rw [List.append_nil]
    exact .done
  | cons name rest ih =>
    obtain ⟨solid, valid_rest⟩ := List.forall_mem_cons.mp valid
    obtain ⟨no_link, unlinked_rest⟩ := unlinked.next
    have on := ih valid_rest unlinked_rest
    rw [List.append_assoc, List.singleton_append] at on
    refine .onward solid.2.1 solid.2.2 no_link ?_
    rw [step_eq_child solid.2.2 rfl]
    exact on

/-- A walk along names without a link among them is not led around. -/
theorem walk_ne_loop_of_unlinked {slash : Bool} {links : Nat} (valid : ∀ n ∈ todo, Solid n)
    (unlinked : Unlinked fs ⟨names ++ todo, 0⟩) :
    fs.walk .look slash links ⟨names, 0⟩ todo ≠ .error .loop := by
  induction todo generalizing names with
  | nil =>
    rw [walk]
    rintro ⟨⟩
  | cons name rest ih =>
    obtain ⟨solid, valid_rest⟩ := List.forall_mem_cons.mp valid
    obtain ⟨no_link, unlinked_rest⟩ := unlinked.next
    rw [walk, if_neg solid.2.1, if_neg solid.2.2, if_neg (by simp)]
    split
    · rintro ⟨⟩
    split
    · split <;> rintro ⟨⟩
    · exact ih valid_rest unlinked_rest
    · split <;> rintro ⟨⟩
    · rename_i target found
      exact absurd found (no_link target)

/-- Nor is the system on a path of them. -/
theorem find_slashed_ne_loop (valid : ∀ n ∈ names, IsName n) (unlinked : Unlinked fs ⟨names, 0⟩) :
    fs.find ("/" ++ Path.slashed names) ≠ .error .loop := by
  have leads := leadsTo_slashed valid
  have walks : ∀ slash links, fs.walk .look slash links ⟨[], 0⟩ names ≠ .error .loop :=
    fun slash links =>
      walk_ne_loop_of_unlinked (fun n listed => solid_of_isName (valid n listed)) unlinked
  intro h
  unfold FileSystem.find at h
  split at h
  · rename_i t reaches
    rw [Except.error.inj h] at reaches
    unfold FileSystem.reach at reaches
    rw [if_pos leads.absolute, leads.components] at reaches
    split at reaches
    · cases reaches
    split at reaches
    · cases reaches
    split at reaches
    · cases reaches
    · exact walks _ _ reaches
  · cases h
  · cases h

/-! ## Paths -/

/-- The path leads to the place once all its links have been followed to their ends. -/
def FollowedTo (fs : FileSystem) (path : String) (place : Place) : Prop :=
  ∃ depth, Follows fs depth (if Path.isAbsolute path then .root else fs.current)
    (components path) place

theorem FollowedTo.unique (h : fs.FollowedTo path there) (h' : fs.FollowedTo path place) :
    there = place := by
  obtain ⟨depth, h⟩ := h
  obtain ⟨deeper, h'⟩ := h'
  exact h.unique h'

/-- What is found by a path is where the path leads. -/
theorem followedTo_of_find (found : fs.find path = .ok (place, entry)) :
    fs.FollowedTo path place := by
  have reaches := reach_of_find found
  exact ⟨maxLinks, follows_of_walk (((reach_eq_walk reaches).2 .look).symm.trans reaches)⟩

/-- The place is made of names. -/
theorem FollowedTo.valid (orderly : fs.Orderly) (no_nul : '\x00' ∉ path.toList)
    (h : fs.FollowedTo path place) : ∀ n ∈ place.names, IsName n := by
  obtain ⟨depth, h⟩ := h
  refine h.valid orderly (fun n listed => ?_) fun n listed => ?_
  · split at listed
    · exact absurd listed List.not_mem_nil
    · exact orderly.names n listed
  · obtain ⟨part, nonempty, no_slash⟩ := of_mem_components listed
    exact ⟨nonempty, no_slash, fun h => no_nul (Path.mem_of_mem_parts part h).1⟩

end FileSystem

end GoWorkbench
