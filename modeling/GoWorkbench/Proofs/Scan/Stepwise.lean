/-
  A scan that takes its time.

  A scan in one go (`Scan.symbols`) sees one state of the file system.  A scan beside which other
  things happen lists one directory or reads one file at a time, and each time it sees the file
  system as it is then.

  1. **Steps** — `Walk` is a scan as far as it has come: what it still has to look at, in order,
     and what it has found.  A directory makes room for what is in it.
  2. **What is left** — `Task.symbols` is what looking at something would find now.  Listing a
     directory does not change it (`symbols_tasks`), because the tasks of a directory are sorted
     by the same names as the blocks of a scan in one go.  A directory whose path is too long is a
     task without a block, and there is nothing to find in it.
  3. **The invariant** — what has been found and what is left make the same symbols before and
     after a step (`Walk.Open.next_symbols`), and before and after a change that the scan cannot see
     (`Walk.Open.symbols_congr`).
  4. **In one go** — so where the file system stands still, the scan comes to an end, and has then
     found what a scan in one go finds (`stepwise_eq_symbols`).  The induction is on the size of
     the directory.
-/
import GoWorkbench.Proofs.Scan.Symbols
import Mathlib.Logic.Relation

namespace GoWorkbench.Scan

open Entry FileSystem

/-! ## Steps -/

/-- What a scan still has to look at, by the names that lead to it from the top. -/
inductive Task
  | directory (names : List String)
  | file (names : List String)
deriving DecidableEq, Repr

/-- What there is to look at for an entry of a directory. -/
def taskOf (skipped names : List String) (name : String) : Entry → Option Task
  | .link _ => none
  | .file _ _ => if Path.isGoSource name then some (.file (names ++ [name])) else none
  | .directory _ => if isPruned skipped name then none else some (.directory (names ++ [name]))

/-- What there is to look at in a directory, by name. -/
def tasks (skipped names : List String) (entries : List (String × Entry)) : List Task :=
  let named := entries.filterMap fun e => (taskOf skipped names e.1 e.2).map (e.1, ·)
  (named.mergeSort fun a b => a.1 ≤ b.1).map (·.2)

/-- A scan as far as it has come. -/
structure Walk where
  top : String
  todo : List Task
  found : List Go.Symbol
deriving DecidableEq, Repr

/-- A scan that has not looked at anything. -/
def Walk.start (top : String) : Walk := ⟨top, [.directory []], []⟩

/-- A scan looks at what is next. -/
def Walk.next (h : Host) (skipped : List String) (w : Walk) : Except Failure Walk :=
  match w.todo with
  | [] => .ok w
  | .directory names :: rest => match h.files.list (directoryOf w.top names) with
    | .error .nul => .error (.refused .nul (directoryOf w.top names))
    | .error _ => .ok { w with todo := rest }
    | .ok entries => .ok { w with todo := tasks skipped names entries ++ rest }
  | .file names :: rest => do
    let symbols ← fileSymbols h (pathOf w.top names)
    return { w with todo := rest, found := w.found ++ symbols }

/-- A scan that has not ended gets on. -/
def Walk.Advances (h : Host) (skipped : List String) (w after : Walk) : Prop :=
  w.todo ≠ [] ∧ w.next h skipped = .ok after

/-- How a scan may end. -/
def Walk.Ends (h : Host) (skipped : List String) (w : Walk) : Except Failure (List Go.Symbol) → Prop
  | .ok symbols => w.todo = [] ∧ symbols = w.found
  | .error e => w.next h skipped = .error e

/-! ## What is left -/

variable {skipped root names : List String} {top : String} {fs fs' : FileSystem} {h : Host}
  {w after : Walk}

/-- The symbols that looking at it would find. -/
def Task.symbols (skipped root : List String) (top : String) (fs : FileSystem) :
    Task → List Go.Symbol
  | .directory names => symbolsBelow skipped root top fs names
  | .file names => symbolsAt fs (pathOf top names)

/-- A directory in a directory has the path that its name is joined to. -/
theorem directoryOf_concat {name : String} (valid : ∀ n ∈ names ++ [name], IsName n) :
    directoryOf top (names ++ [name]) = Path.join (directoryOf top names) name := by
  have some_name : names ++ [name] ≠ [] := List.append_ne_nil_of_right_ne_nil _ (by simp)
  unfold directoryOf
  rw [if_neg some_name]
  by_cases none : names = []
  · rw [if_pos none, none]
    exact pathOf_singleton top name
  · rw [if_neg none, pathOf_concat valid none]

/-- In a directory whose path is too long there is nothing to find. -/
theorem symbolsBelow_of_long (leads : LeadsTo top root) (sound : fs.Sound)
    (valid : ∀ n ∈ names, IsName n) (long : maxPath < (directoryOf top names).utf8ByteSize) :
    symbolsBelow skipped root top fs names = [] := by
  rcases list_directoryOf skipped leads sound valid with ⟨-, -, none⟩ | listed
  · exact none
  · have short := ((list_eq_ok sound.free (leadsTo_directoryOf leads valid)).mp listed).2.short
    exact absurd short (Nat.not_le.mpr long)

/-- What is in a directory that is listed is found one name farther along. -/
theorem entriesAt_of_mem (sound : fs.Sound) {name : String} {below : List (String × Entry)}
    (mem : (name, .directory below) ∈ fs.entriesAt ⟨root ++ names, 0⟩) :
    fs.entriesAt ⟨root ++ (names ++ [name]), 0⟩ = below := by
  have found := (at?_child ((proper_entriesAt sound.proper _).mem_iff.mp mem)).2
  rw [List.append_assoc] at found
  exact entriesAt_of_at? found

/-- An entry has the same symbols in a scan in one go and as a task, if it has any. -/
theorem symbols_taskOf (leads : LeadsTo top root) (sound : fs.Sound)
    (valid : ∀ n ∈ names, IsName n) {name : String} {entry : Entry}
    (mem : (name, entry) ∈ fs.entriesAt ⟨root ++ names, 0⟩) :
    ((taskOf skipped names name entry).map (Task.symbols skipped root top fs)).filter
        (!·.isEmpty) =
      ((block skipped (directoryOf top names) name entry).map fun found =>
        found.flatMap fun rest => symbolsAt fs (pathOf top (names ++ rest))).filter
          (!·.isEmpty) := by
  have valid_more : ∀ n ∈ names ++ [name], IsName n := fun n listed =>
    (List.mem_append.mp listed).elim (valid n) fun last => by
      rw [List.mem_singleton.mp last]
      exact (proper_entriesAt sound.proper _).isName mem
  cases entry with
  | link target => rfl
  | file data executable =>
    unfold taskOf block
    dsimp only
    by_cases hgo : Path.isGoSource name = true
    · rw [if_pos hgo, if_pos hgo]
      simp only [Option.map_some, Task.symbols, List.flatMap_singleton]
    · rw [if_neg hgo, if_neg hgo]; rfl
  | directory below =>
    unfold taskOf block isClosed
    dsimp only
    by_cases hprune : isPruned skipped name = true
    · rw [if_pos hprune, hprune, Bool.true_or, if_pos rfl]; rfl
    · rw [if_neg hprune, Bool.eq_false_iff.mpr hprune, Bool.false_or,
        ← directoryOf_concat valid_more]
      by_cases long : maxPath < (directoryOf top (names ++ [name])).utf8ByteSize
      · -- what is not descended into has a task with nothing to find
        rw [if_pos (decide_eq_true long), Option.map_some]
        unfold Task.symbols
        dsimp only
        rw [symbolsBelow_of_long leads sound valid_more long]
        rfl
      · rw [decide_eq_false long, if_neg Bool.false_ne_true]
        simp only [Option.map_some, Task.symbols, symbolsBelow, List.flatMap_map,
          entriesAt_of_mem sound mem, List.append_assoc, List.singleton_append]

/-- What comes with names does not matter for sorting by name. -/
theorem map_byName {α β : Type} (g : α → β) (named : List (String × α)) :
    (named.mergeSort fun a b => a.1 ≤ b.1).map (fun a => (a.1, g a.2)) =
      (named.map fun a => (a.1, g a.2)).mergeSort fun a b => a.1 ≤ b.1 :=
  List.map_mergeSort fun _ _ _ _ => rfl

/-- A name does not matter for what is taken out. -/
theorem filter_named {α : Type} (p : α → Bool) (name : String) (some? : Option α) :
    (some?.map (name, ·)).filter (fun a => p a.2) = (some?.filter p).map (name, ·) := by
  cases some? with
  | none => rfl
  | some a => by_cases h : p a = true <;> simp [Option.filter, h]

/-- What is taken out can be taken out before sorting by name. -/
theorem filter_byName {α : Type} (p : String × α → Bool) {named : List (String × α)}
    (once : (named.map (·.1)).Nodup) :
    (named.mergeSort fun a b => a.1 ≤ b.1).filter p =
      (named.filter p).mergeSort fun a b => a.1 ≤ b.1 := by
  have sub : ((named.filter p).map (·.1)).Nodup := ((List.filter_sublist).map _).nodup once
  refine @List.Perm.eq_of_pairwise _ (fun a b => a.1 < b.1) _ _ ?_
    ((pairwise_mergeSort_lt Prod.fst once).filter _) (pairwise_mergeSort_lt Prod.fst sub) ?_
  · intro a b _ _ before after
    exact absurd (String.lt_trans before after) (String.lt_irrefl _)
  · exact ((List.mergeSort_perm named _).filter p).trans (List.mergeSort_perm _ _).symm

/-- What is in order by name is one after the other, and what is empty can be left out. -/
theorem flatten_byName {β : Type} {named : List (String × List β)}
    (once : (named.map (·.1)).Nodup) :
    ((named.mergeSort fun a b => a.1 ≤ b.1).map (·.2)).flatten =
      (((named.filter fun a => !a.2.isEmpty).mergeSort fun a b => a.1 ≤ b.1).map (·.2)).flatten := by
  rw [← filter_byName _ once]
  induction named.mergeSort fun a b => a.1 ≤ b.1 with
  | nil => rfl
  | cons head rest ih =>
    rw [List.map_cons, List.flatten_cons, ih, List.filter_cons]
    rcases is : head.2 with _ | ⟨first, more⟩
    · rfl
    · simp [is]

/-- **Listing** a directory leaves as much to find as there was. -/
theorem symbols_tasks (leads : LeadsTo top root) (sound : fs.Sound)
    (valid : ∀ n ∈ names, IsName n) :
    (tasks skipped names (fs.entriesAt ⟨root ++ names, 0⟩)).flatMap
        (Task.symbols skipped root top fs) = symbolsBelow skipped root top fs names := by
  let entries := fs.entriesAt ⟨root ++ names, 0⟩
  let named := entries.filterMap fun e => (taskOf skipped names e.1 e.2).map (e.1, ·)
  let blocked := blocks skipped (directoryOf top names) entries
  let found : List (List String) → List Go.Symbol := fun rests =>
    rests.flatMap fun rest => symbolsAt fs (pathOf top (names ++ rest))
  let ofTasks := named.map fun t => (t.1, t.2.symbols skipped root top fs)
  let ofBlocks := blocked.map fun b => (b.1, found b.2)
  have each : ofTasks.filter (fun a => !a.2.isEmpty) = ofBlocks.filter fun a => !a.2.isEmpty := by
    show ((named.map _).filter _) = ((blocked.map _).filter _)
    rw [show blocked = _ from blocks_eq_filterMap .., List.map_filterMap, List.map_filterMap,
      List.filter_filterMap, List.filter_filterMap]
    refine List.filterMap_congr fun e mem => ?_
    have same := congrArg (Option.map (e.1, ·))
      (@symbols_taskOf skipped _ _ _ _ leads sound valid _ _ mem)
    rw [← filter_named, ← filter_named, Option.map_map, Option.map_map] at same
    rw [Option.map_map, Option.map_map]
    exact same
  have proper := proper_entriesAt sound.proper ⟨root ++ names, 0⟩
  have once_tasks : (ofTasks.map (·.1)).Nodup := by
    have once := nodup_named proper (taskOf skipped names)
    rwa [List.map_map]
  have once_blocks : (ofBlocks.map (·.1)).Nodup := by
    have once := @nodup_blocks skipped _ (directoryOf top names) proper
    rwa [List.map_map]
  have same := flatten_byName once_tasks
  rw [each, ← flatten_byName once_blocks, ← map_byName, ← map_byName] at same
  simp only [List.map_map] at same
  unfold tasks symbolsBelow sourcesIn inOrder
  rw [List.flatMap_map, List.flatMap_assoc]
  exact same

/-! ## The invariant -/

/-- A scan looks at it: a directory that it descends into, or what can be a source. -/
def Task.Open (skipped : List String) : Task → Prop
  | .directory names => Entered skipped names ∧ ∀ n ∈ names, IsName n
  | .file names => IsRoute skipped names ∧ ∀ n ∈ names, IsName n

/-- A scan of the root is on its way. -/
structure Walk.Open (skipped root : List String) (w : Walk) : Prop where
  leads : LeadsTo w.top root
  todo : ∀ t ∈ w.todo, t.Open skipped

/-- What has been found, and what looking at the rest would find. -/
def Walk.symbols (skipped root : List String) (fs : FileSystem) (w : Walk) : List Go.Symbol :=
  w.found ++ w.todo.flatMap (Task.symbols skipped root w.top fs)

theorem mem_tasks {t : Task} {entries : List (String × Entry)} :
    t ∈ tasks skipped names entries ↔
      ∃ name entry, (name, entry) ∈ entries ∧ taskOf skipped names name entry = some t := by
  unfold tasks
  simp only [List.mem_map, List.mem_mergeSort, List.mem_filterMap, Option.map_eq_some_iff]
  constructor
  · rintro ⟨named, ⟨⟨name, entry⟩, mem, t, ht, rfl⟩, rfl⟩
    exact ⟨name, entry, mem, ht⟩
  · rintro ⟨name, entry, mem, ht⟩
    exact ⟨(name, t), ⟨(name, entry), mem, t, ht, rfl⟩, rfl⟩

theorem open_taskOf {name : String} {entry : Entry} {t : Task}
    (isOpen : (Task.directory names).Open skipped) (isName : IsName name)
    (ht : taskOf skipped names name entry = some t) : t.Open skipped := by
  obtain ⟨entered, valid⟩ := isOpen
  have valid_more : ∀ n ∈ names ++ [name], IsName n := fun n hn =>
    (List.mem_append.mp hn).elim (valid n) fun h => by rw [List.mem_singleton.mp h]; exact isName
  unfold taskOf at ht
  split at ht
  · cases ht
  · split at ht
    · rename_i hgo
      rw [← Option.some.inj ht]
      have route : IsRoute skipped [name] :=
        ⟨fun n hn => absurd hn List.not_mem_nil, name, rfl, hgo⟩
      exact ⟨entered.isRoute route, valid_more⟩
    · cases ht
  · split at ht
    · cases ht
    · rename_i hprune
      rw [← Option.some.inj ht]
      refine ⟨fun n hn => ?_, valid_more⟩
      rcases List.mem_append.mp hn with hn | hn
      · exact entered n hn
      · rw [List.mem_singleton.mp hn]
        exact Bool.eq_false_iff.mpr hprune

theorem next_file {rest : List Task} {found : List Go.Symbol} (leads : LeadsTo top root)
    (isOpen : (Task.file names).Open skipped) :
    Walk.next h skipped ⟨top, .file names :: rest, found⟩ =
      .ok ⟨top, rest, found ++ symbolsAt h.files (pathOf top names)⟩ := by
  unfold Walk.next
  dsimp only
  rw [fileSymbols_eq (leadsTo_pathOf leads isOpen.1.ne_nil isOpen.2).no_nul]
  rfl

theorem next_directory {rest : List Task} {found : List Go.Symbol} (leads : LeadsTo top root)
    (sound : h.files.Sound)
    (isOpen : (Task.directory names).Open skipped) :
    (Walk.next h skipped ⟨top, .directory names :: rest, found⟩ = .ok ⟨top, rest, found⟩ ∧
      symbolsBelow skipped root top h.files names = []) ∨
    Walk.next h skipped ⟨top, .directory names :: rest, found⟩ =
      .ok ⟨top, tasks skipped names (h.files.entriesAt ⟨root ++ names, 0⟩) ++ rest, found⟩ := by
  unfold Walk.next
  dsimp only
  rcases list_directoryOf skipped leads sound isOpen.2 with ⟨t, hlist, hnone⟩ | hlist
  · refine Or.inl ⟨?_, hnone⟩
    have hnul : t ≠ .nul := by
      rintro rfl
      exact list_ne_nul (leadsTo_directoryOf leads isOpen.2).no_nul hlist
    rw [hlist]
    cases t with
    | nul => exact absurd rfl hnul
    | _ => rfl
  · rw [hlist]
    exact Or.inr rfl

/-- Only a directory has what is in it to be looked at. -/
theorem taskOf_eq_directory {name : String} {entry : Entry} {more : List String}
    (ht : taskOf skipped names name entry = some (.directory more)) :
    ∃ below, entry = .directory below ∧ more = names ++ [name] := by
  unfold taskOf at ht
  split at ht
  · cases ht
  · split at ht <;> cases ht
  · split at ht
    · cases ht
    · exact ⟨_, rfl, (Task.directory.inj (Option.some.inj ht)).symm⟩

theorem sizeOf_lt_of_mem {name : String} {entries below : List (String × Entry)}
    (mem : (name, .directory below) ∈ entries) : sizeOf below < sizeOf entries := by
  have hmem := List.sizeOf_lt_of_mem mem
  simp only [Prod.mk.sizeOf_spec, Entry.directory.sizeOf_spec] at hmem
  omega

/-- **A step** goes well, and leaves as much to find as there was. -/
theorem Walk.Open.next_symbols (isOpen : w.Open skipped root) (sound : h.files.Sound) :
    ∃ after, w.next h skipped = .ok after ∧ after.Open skipped root ∧
      after.symbols skipped root h.files = w.symbols skipped root h.files := by
  obtain ⟨top, todo, found⟩ := w
  obtain ⟨leads, open_todo⟩ := isOpen
  dsimp only at leads open_todo
  cases todo with
  | nil => exact ⟨_, rfl, ⟨leads, open_todo⟩, rfl⟩
  | cons task rest =>
    obtain ⟨open_task, open_rest⟩ := List.forall_mem_cons.mp open_todo
    unfold Walk.symbols
    dsimp only
    rw [List.flatMap_cons]
    cases task with
    | directory names =>
      rcases next_directory leads sound open_task with ⟨hnext, hnone⟩ | hnext
      · -- what is no directory any more has nothing in it
        refine ⟨_, hnext, ⟨leads, open_rest⟩, ?_⟩
        show _ = found ++ (symbolsBelow skipped root top h.files names ++ _)
        rw [hnone, List.nil_append]
      · refine ⟨_, hnext, ⟨leads, fun t ht => ?_⟩, ?_⟩
        · rcases List.mem_append.mp ht with ht | ht
          · obtain ⟨name, entry, mem, ht⟩ := mem_tasks.mp ht
            exact open_taskOf open_task ((proper_entriesAt sound.proper _).isName mem) ht
          · exact open_rest t ht
        · rw [List.flatMap_append, symbols_tasks leads sound open_task.2]
          rfl
    | file names =>
      refine ⟨_, next_file leads open_task, ⟨leads, open_rest⟩, ?_⟩
      rw [List.append_assoc]
      rfl

theorem open_start (skipped : List String) (leads : LeadsTo top root) :
    (Walk.start top).Open skipped root := by
  refine ⟨leads, fun t ht => ?_⟩
  rw [List.mem_singleton.mp ht]
  exact ⟨fun n hn => absurd hn List.not_mem_nil, fun n hn => absurd hn List.not_mem_nil⟩

theorem symbols_of_start :
    (Walk.start top).symbols skipped root fs = symbolsBelow skipped root top fs [] := by
  unfold Walk.symbols Walk.start
  rw [List.flatMap_singleton]
  rfl

/-- At its start a scan has everything to find that a scan in one go finds. -/
theorem symbols_start {options : Options} {path : String} (off : options.respectIgnore = false)
    (absolute : h.absolute (Path.plain path) = .ok top) (leads : LeadsTo top root)
    (sound : h.files.Sound) :
    symbols h options path =
      .ok ((Walk.start top).symbols options.skipped root h.files) := by
  rw [symbols_eq_below off absolute leads sound, symbols_of_start]

/-- A change that a scan cannot see does not change what it will have found. -/
theorem Walk.Open.symbols_congr (isOpen : w.Open skipped root)
    (same : SameSources skipped root fs fs') (sound : fs.Sound) (sound' : fs'.Sound) :
    w.symbols skipped root fs' = w.symbols skipped root fs := by
  have each : w.todo.flatMap (Task.symbols skipped root w.top fs') =
      w.todo.flatMap (Task.symbols skipped root w.top fs) := by
    refine List.flatMap_congr fun task htask => ?_
    have open_task := isOpen.todo task htask
    cases task with
    | directory names =>
      exact symbolsBelow_congr isOpen.leads same sound sound' open_task.1 open_task.2
    | file names =>
      exact symbolsAt_congr isOpen.leads open_task.1.ne_nil open_task.2 sound sound'
        (same names open_task.1)
  unfold Walk.symbols
  rw [each]

/-! ## In one go -/

/-- A scan gets from one state to another while the file system stands still. -/
def Comes (h : Host) (skipped : List String) : Walk → Walk → Prop :=
  Relation.ReflTransGen (Walk.Advances h skipped)

theorem Comes.symbols (comes : Comes h skipped w after) (isOpen : w.Open skipped root)
    (sound : h.files.Sound) :
    after.Open skipped root ∧
      after.symbols skipped root h.files = w.symbols skipped root h.files := by
  induction comes with
  | refl => exact ⟨isOpen, rfl⟩
  | tail _ does ih =>
    obtain ⟨open_here, symbols_here⟩ := ih
    obtain ⟨next, hnext, open_next, symbols_next⟩ := open_here.next_symbols sound
    rw [does.2] at hnext
    obtain rfl := Except.ok.inj hnext
    exact ⟨open_next, symbols_next.trans symbols_here⟩

/-- What is next is done with at some time. -/
def Passes (h : Host) (skipped : List String) (top : String) (todo : List Task) : Prop :=
  ∀ rest found, ∃ more, Comes h skipped ⟨top, todo ++ rest, found⟩ ⟨top, rest, more⟩

theorem passes_of_forall {todo : List Task} (each : ∀ t ∈ todo, Passes h skipped top [t]) :
    Passes h skipped top todo := by
  induction todo with
  | nil => exact fun rest found => ⟨found, .refl⟩
  | cons t todo ih =>
    obtain ⟨first, others⟩ := List.forall_mem_cons.mp each
    intro rest found
    obtain ⟨between, comes_first⟩ := first (todo ++ rest) found
    obtain ⟨more, comes_others⟩ := ih others rest between
    exact ⟨more, comes_first.trans comes_others⟩

theorem passes_file (leads : LeadsTo top root) (isOpen : (Task.file names).Open skipped) :
    Passes h skipped top [.file names] := fun _ _ =>
  ⟨_, .single ⟨List.cons_ne_nil _ _, next_file leads isOpen⟩⟩

/-- A directory is done with when all that is in it is. -/
theorem passes_directory (leads : LeadsTo top root) (sound : h.files.Sound)
    (isOpen : (Task.directory names).Open skipped) :
    Passes h skipped top [.directory names] := by
  generalize hentries : h.files.entriesAt ⟨root ++ names, 0⟩ = entries
  induction hsize : sizeOf entries using Nat.strongRecOn generalizing names entries with
  | ind size ih =>
    intro rest found
    rcases next_directory leads sound isOpen with ⟨hnext, -⟩ | hnext
    · exact ⟨found, .single ⟨List.cons_ne_nil _ _, hnext⟩⟩
    · have each : ∀ t ∈ tasks skipped names entries, Passes h skipped top [t] := by
        intro t ht
        obtain ⟨name, entry, mem, ht⟩ := mem_tasks.mp ht
        have isName := (hentries ▸ proper_entriesAt sound.proper _ : Proper entries).isName mem
        have open_t := open_taskOf isOpen isName ht
        cases t with
        | file names => exact passes_file leads open_t
        | directory more =>
          -- the induction is on what is in the directory, which is smaller here
          obtain ⟨below, rfl, rfl⟩ := taskOf_eq_directory ht
          have smaller : sizeOf below < size := by
            rw [← hsize]; exact sizeOf_lt_of_mem mem
          rw [← hentries] at mem
          exact ih (sizeOf below) smaller open_t below (entriesAt_of_mem sound mem) rfl
      obtain ⟨more, comes⟩ := passes_of_forall each rest found
      rw [hentries] at hnext
      exact ⟨more, .head ⟨List.cons_ne_nil _ _, hnext⟩ comes⟩

/-- A scan beside which nothing else happens comes to its end, and has then found all that was
    left. -/
theorem Walk.Open.comes (isOpen : w.Open skipped root) (sound : h.files.Sound) :
    Comes h skipped w ⟨w.top, [], w.symbols skipped root h.files⟩ := by
  have each : ∀ t ∈ w.todo, Passes h skipped w.top [t] := by
    intro t ht
    have open_t := isOpen.todo t ht
    cases t with
    | directory names => exact passes_directory isOpen.leads sound open_t
    | file names => exact passes_file isOpen.leads open_t
  obtain ⟨more, comes⟩ := passes_of_forall each [] w.found
  rw [List.append_nil] at comes
  have found : more = w.symbols skipped root h.files :=
    (List.append_nil more).symm.trans (comes.symbols isOpen sound).2
  rw [found] at comes
  exact comes

/-- **Step by step and in one go**: where the file system stands still, a scan that looks at one
    thing at a time comes to an end, and ends as a scan in one go does. -/
theorem stepwise_eq_symbols {options : Options} {path : String}
    (off : options.respectIgnore = false) (absolute : h.absolute (Path.plain path) = .ok top)
    (leads : LeadsTo top root) (sound : h.files.Sound) :
    (∃ w, Comes h options.skipped (.start top) w ∧ w.todo = []) ∧
    ∀ w, Comes h options.skipped (.start top) w → ∀ outcome,
      w.Ends h options.skipped outcome → symbols h options path = outcome := by
  have isOpen := open_start options.skipped leads
  have whole := symbols_start off absolute leads sound
  refine ⟨⟨_, isOpen.comes sound, rfl⟩, fun w comes outcome ends => ?_⟩
  obtain ⟨open_w, symbols_w⟩ := comes.symbols isOpen sound
  cases outcome with
  | error e =>
    obtain ⟨after, hnext, -⟩ := open_w.next_symbols sound
    rw [show w.next h options.skipped = .error e from ends] at hnext
    cases hnext
  | ok symbols =>
    obtain ⟨none_left, rfl⟩ := ends
    rw [whole, ← symbols_w]
    unfold Walk.symbols
    rw [none_left, List.flatMap_nil, List.append_nil]

end GoWorkbench.Scan
