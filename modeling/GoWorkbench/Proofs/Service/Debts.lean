/-
  Who sees to it that the index becomes fresh.

  1. **Activation** — a root that has been activated is a path that can be walked.
  2. **Debts** — a call owes a rebuild from when it has written a source of the root until it has
     noted that (`Call.Owes`); the child of a run of such a source may change anything as long as
     its run owes.
  3. **The invariant** — `Fresh`: somebody owes a rebuild, or a rebuild has been called and has no
     number yet, or the rebuild with the highest number will have found, or has found, what is there
     now.  A change that a scan can see is made by somebody who owes; a note turns a debt into a
     call; and a rebuild that takes its number gets the highest one and has everything still to
     look at.
  4. **Every step** keeps the invariant (`Sane.step`), one lemma for each kind of step, and so does
     every run (`Run.sane`), as long as the calls are `Careful`.
-/
import GoWorkbench.Proofs.Service.Activation
import GoWorkbench.Proofs.Service.Editing

namespace GoWorkbench

open Entry FileSystem SymbolIndex

namespace Editing

variable {root : String} {usage : Usage} {first : Service} {s s' : Editing}

/-! ## Activation -/

/-- The root has just been activated for the first time; nobody wants rules, and there are no
    links. -/
structure Activated (root : String) (first : Service) : Prop where
  opens : Service.Opens root first
  absolute : Path.isAbsolute root = true
  fresh : first.index = { options := first.index.options }
  off : first.index.options.respectIgnore = false
  sound : first.host.files.Sound

theorem Activated.no_nul (h : Activated root first) : '\x00' ∉ root.toList :=
  h.opens.no_nul h.sound

theorem Activated.leads (h : Activated root first) :
    LeadsTo (Path.normalize (Path.plain root)) (lead .root root) := by
  have plain := plain_forms root
  have leads : LeadsTo (Path.normalize (Path.plain root))
      (first.host.files.spot (Path.plain root)) :=
    leadsTo_normalize (plain.1.trans h.absolute) (nul_not_mem_plain h.no_nul)
  rw [spot_plain, spot_of_absolute h.absolute] at leads
  exact leads

/-- A path from the root is made absolute without the working directory. -/
theorem absolute_plain (absolute : Path.isAbsolute root = true) (h : Host) :
    h.absolute (Path.plain root) = .ok (Path.normalize (Path.plain root)) := by
  unfold Host.absolute FileSystem.absolute
  rw [(plain_forms root).1, if_pos absolute]

/-- Scratch files are made in a directory that a scan of the root does not descend into. -/
structure Secluded (root : String) (first : Service) : Prop where
  absolute : Path.isAbsolute first.host.temporary = true
  apart : Service.Apart first.index.options.skipped (lead .root root)
    (lead .root first.host.temporary)

/-- A save is noted where it was written: its path starts at the root, or the working directory is
    still the same and exists. -/
def Steady (path : String) (place now : Place) : Prop :=
  Path.isAbsolute path = true ∨ now = place ∧ place.gone = 0

/-- What the calls are asked for: scratch files lie where no scan comes by, if any are made, saves
    are noted where they were written, and code with a path is written to its end. -/
structure Careful (root : String) (usage : Usage) (first : Service) : Prop where
  secluded : usage.scratch → Secluded root first
  steady : ∀ path place now, usage.notes path place now → Steady path place now
  whole : ¬ usage.broken

/-! ## Debts -/

/-- The call has yet to schedule a rebuild of the root. -/
def Owes (root : String) : Call → Prop
  | .saved path place => Service.isOwn (lead .root root) path (lead place path) = true
  | .running run => IsOwnRun root run
  | .ran path => Service.isOwn (lead .root root) path (lead .root path) = true
  | _ => False

/-- Somebody owes a rebuild. -/
def Owed (root : String) (calls : List Call) : Prop :=
  ∃ (i : Nat) (c : Call), calls[i]? = some c ∧ Owes root c

/-- What is known of a call under way: its path is one that has been written to, and a scratch file
    lies in the directory for them. -/
def Fits (usage : Usage) (temporary : String) : Call → Prop
  | .saved path _ => '\x00' ∉ path.toList
  | .starting job fault => usage.Allows job fault
  | .running run =>
    (run.isScratch = true →
      usage.scratch ∧ ∃ name, LeadsTo run.file (lead .root temporary ++ [name])) ∧
      (run.isScratch = false → Path.isAbsolute run.file = true ∧ '\x00' ∉ run.file.toList)
  | .ran path => Path.isAbsolute path = true ∧ '\x00' ∉ path.toList
  | _ => True

/-- A call that goes on loses its own debt only. -/
theorem owed_set {calls : List Call} {i : Nat} {c c' : Call} {paid : Prop}
    (here : calls[i]? = some c) (keeps : Owes root c → Owes root c' ∨ paid)
    (owed : Owed root calls) : Owed root (calls.set i c') ∨ paid := by
  obtain ⟨j, d, hj, owes⟩ := owed
  by_cases hji : j = i
  · rw [hji, here] at hj
    rw [← Option.some.inj hj] at owes
    exact (keeps owes).imp_left fun owes' =>
      ⟨i, c', by rw [getElem?_set_of_some here, if_pos rfl], owes'⟩
  · exact Or.inl ⟨j, d, by rw [getElem?_set_of_some here, if_neg hji]; exact hj, owes⟩

theorem owed_of_set {calls : List Call} {i : Nat} {c c' : Call} (here : calls[i]? = some c)
    (owes : Owes root c') : Owed root (calls.set i c') :=
  ⟨i, c', by rw [getElem?_set_of_some here, if_pos rfl], owes⟩

theorem fits_set {temporary : String} {calls : List Call} {i : Nat} {c' : Call}
    (fits : ∀ c ∈ calls, Fits usage temporary c) (new : Fits usage temporary c') :
    ∀ c ∈ calls.set i c', Fits usage temporary c := by
  intro c hc
  rcases List.mem_or_eq_of_mem_set hc with hc | rfl
  · exact fits c hc
  · exact new

/-! ## The invariant -/

/-- What a rebuild has found, or would find if nothing changed any more. -/
def promised (skipped root : List String) (fs : FileSystem) :
    Rebuild Scan.Walk → Option (List Go.Symbol)
  | .called w | .scanning _ w => some (w.symbols skipped root fs)
  | .scanned _ _ symbols | .ended _ _ symbols _ => some symbols
  | .failed _ _ => none

/-- What a scan of the root would find if nothing changed. -/
def present (skipped : List String) (root : String) (fs : FileSystem) : List Go.Symbol :=
  (scanOf root).symbols skipped (lead .root root) fs

/-- The index is fresh, or somebody will see to it. -/
inductive Fresh (skipped : List String) (root : String) (s : Editing) : Prop
  | owed (owed : Owed root s.calls)
  | waiting (i : Nat) (w : Scan.Walk) (here : s.rebuilds[i]? = some (.called w))
  | current (i : Nat) (r : Rebuild Scan.Walk) (here : s.rebuilds[i]? = some r)
      (number : r.number? = some s.service.index.started)
      (promise : promised skipped (lead .root root) s.service.host.files r =
        some (present skipped root s.service.host.files))

/-- What is known of every rebuild: it scans the root from its start, and does not fail. -/
structure Scans (skipped : List String) (root : String) (r : Rebuild Scan.Walk) : Prop where
  isOpen : r.scan.Open skipped (lead .root root)
  called : ∀ w, r = .called w → w = scanOf root
  alive : ∀ n w, r ≠ .failed n w

/-- **The invariant.** -/
structure Sane (root : String) (usage : Usage) (first : Service) (s : Editing) : Prop where
  workspace : s.service.workspace = some root
  options : s.service.index.options = first.index.options
  temporary : s.service.host.temporary = first.host.temporary
  sound : s.service.host.files.Sound
  calls : ∀ c ∈ s.calls, Fits usage first.host.temporary c
  scans : ∀ r ∈ s.rebuilds, Scans first.index.options.skipped root r
  reached : ∃ events, SymbolIndex.Run first.index.options events s.rebuilding
  fresh : Fresh first.index.options.skipped root s

/-- A scan of the root is what a rebuild is called with. -/
theorem Activated.scans (h : Activated root first) :
    Scans first.index.options.skipped root (.called (scanOf root)) where
  isOpen := Scan.open_start _ h.leads
  called := by
    intro w hw
    exact (Rebuild.called.inj hw).symm
  alive := by intro n w hw; cases hw

/-- What is due is a rebuild of the root. -/
theorem due_of_active {due : Option String} {path : String} {service : Service}
    (active : service.workspace = some root) (knows : service.rebuildDue path = .ok due) :
    due = none ∨ due = some root := by
  cases due with
  | none => exact Or.inl rfl
  | some other =>
    have same := Service.eq_of_rebuildDue knows
    rw [active] at same
    exact Or.inr same.symm

variable {skipped : List String}

/-- What a rebuild will have found does not change with what it cannot see. -/
theorem promised_congr {fs fs' : FileSystem} {r : Rebuild Scan.Walk} (scans : Scans skipped root r)
    (same : Scan.SameSources skipped (lead .root root) fs fs') (sound : fs.Sound)
    (sound' : fs'.Sound) :
    promised skipped (lead .root root) fs' r = promised skipped (lead .root root) fs r := by
  have walk := scans.isOpen.symbols_congr same sound sound'
  cases r with
  | called w => exact congrArg some walk
  | scanning n w => exact congrArg some walk
  | scanned n w symbols => rfl
  | failed n w => rfl
  | ended n w symbols fresh => rfl

/-- A step that is none of a thread: it may change files and call the rebuild that is due.  Whoever
    changes what a scan can see owes a rebuild, and whoever has owed one and does not any more has
    called one. -/
structure Change (root : String) (usage : Usage) (first : Service) (due : Option String)
    (s s' : Editing) : Prop where
  keeps : Service.Keeps s.service s'.service
  sound : s'.service.host.files.Sound
  calls : ∀ c ∈ s'.calls, Fits usage first.host.temporary c
  rebuilds : s'.rebuilds = s.rebuilds ++ scheduled due
  only : due = none ∨ due = some root
  owed : Owed root s.calls → Owed root s'.calls ∨ due = some root
  seen : Owed root s'.calls ∨ Scan.SameSources first.index.options.skipped (lead .root root)
    s.service.host.files s'.service.host.files

variable {due : Option String}

theorem Change.scans (change : Change root usage first due s s') (activated : Activated root first)
    (scans : ∀ r ∈ s.rebuilds, Scans first.index.options.skipped root r) :
    ∀ r ∈ s'.rebuilds, Scans first.index.options.skipped root r := by
  intro r hr
  rw [change.rebuilds] at hr
  rcases List.mem_append.mp hr with hr | hr
  · exact scans r hr
  · rcases change.only with rfl | rfl
    · cases hr
    · rw [List.mem_singleton.mp hr]; exact activated.scans

/-- The index sees a call at most. -/
theorem Change.reached {options : Scan.Options} (change : Change root usage first due s s')
    (reached : ∃ events, SymbolIndex.Run options events s.rebuilding) :
    ∃ events, SymbolIndex.Run options events s'.rebuilding := by
  obtain ⟨events, run⟩ := reached
  have whole : s'.rebuilding = ⟨s.rebuilding.index, s.rebuilding.rebuilds ++ scheduled due⟩ := by
    unfold rebuilding
    rw [change.rebuilds, change.keeps.index]
  rw [whole]
  rcases change.only with rfl | rfl
  · refine ⟨events, ?_⟩
    show SymbolIndex.Run options events ⟨s.rebuilding.index, s.rebuilding.rebuilds ++ []⟩
    rw [List.append_nil]; exact run
  · exact ⟨events ++ [.called], run.step (walker s.service) (.call s.rebuilding (scanOf root))⟩

theorem Change.fresh (change : Change root usage first due s s') (activated : Activated root first)
    (sound : s.service.host.files.Sound)
    (scans : ∀ r ∈ s.rebuilds, Scans first.index.options.skipped root r)
    (fresh : Fresh first.index.options.skipped root s) :
    Fresh first.index.options.skipped root s' := by
  have there : ∀ {i : Nat} {r : Rebuild Scan.Walk}, s.rebuilds[i]? = some r →
      s'.rebuilds[i]? = some r := by
    intro i r hr
    rw [change.rebuilds, List.getElem?_append_left (List.getElem?_eq_some_iff.mp hr).1]
    exact hr
  cases fresh with
  | owed debt =>
    rcases change.owed debt with debt | rfl
    · exact .owed debt
    · -- the debt has been paid by a call
      refine .waiting s.rebuilds.length (scanOf root) ?_
      rw [change.rebuilds]
      exact List.getElem?_concat_length
  | waiting i w here => exact .waiting i w (there here)
  | current i r here number promise =>
    rcases change.seen with debt | same
    · exact .owed debt
    · -- a scan does not see the change, so what was promised is still what there is to find
      have whole : present first.index.options.skipped root s'.service.host.files =
          present first.index.options.skipped root s.service.host.files :=
        activated.scans.isOpen.symbols_congr same sound change.sound
      refine .current i r (there here) (by rw [change.keeps.index]; exact number) ?_
      rw [promised_congr (scans r (List.mem_of_getElem? here)) same sound change.sound, whole]
      exact promise

/-- **Calls, children and others** keep the invariant. -/
theorem Sane.change (activated : Activated root first) (h : Sane root usage first s)
    (change : Change root usage first due s s') : Sane root usage first s' where
  workspace := change.keeps.workspace.trans h.workspace
  options := by rw [change.keeps.index]; exact h.options
  temporary := change.keeps.temporary.trans h.temporary
  sound := change.sound
  calls := change.calls
  scans := change.scans activated h.scans
  reached := change.reached h.reached
  fresh := change.fresh activated h.sound h.scans h.fresh

/-- A rebuild that goes on keeps to its scan of the root, and does not fail. -/
theorem Scans.move {service : Service} {e : Event} {r r' : Rebuild Scan.Walk}
    {index : SymbolIndex} (scans : Scans service.index.options.skipped root r)
    (sound : service.host.files.Sound)
    (does : Move (walker service) service.index r e r' index) :
    Scans service.index.options.skipped root r' ∧
      ((∃ w, r = .called w) ∨ promised service.index.options.skipped (lead .root root)
        service.host.files r' = promised service.index.options.skipped (lead .root root)
          service.host.files r) := by
  have isOpen := scans.isOpen
  cases does with
  | take w =>
    refine ⟨⟨isOpen, ?_, ?_⟩, Or.inl ⟨w, rfl⟩⟩
    · intro w hw; cases hw
    · intro n w hw; cases hw
  | advance n w after does =>
    obtain ⟨next, hnext, open_next, symbols_next⟩ :=
      Scan.Walk.Open.next_symbols (h := service.host) isOpen sound
    have advances : w.next service.host service.index.options.skipped = .ok after := does.2
    have same : after = next := Except.ok.inj (advances.symm.trans hnext)
    -- what it has found and what is left to find make up the same as before
    refine ⟨⟨?_, ?_, ?_⟩, Or.inr ?_⟩
    · rw [← same] at open_next; exact open_next
    · intro w hw; cases hw
    · intro n w hw; cases hw
    · rw [← same] at symbols_next
      exact congrArg some symbols_next
  | scan n w symbols does =>
    refine ⟨⟨isOpen, ?_, ?_⟩, Or.inr ?_⟩
    · intro w hw; cases hw
    · intro n w hw; cases hw
    · obtain ⟨none_left, found⟩ : w.todo = [] ∧ symbols = w.found := does
      show some symbols = some (w.symbols _ _ _)
      unfold Scan.Walk.symbols
      rw [none_left, List.flatMap_nil, List.append_nil, found]
  | fail n w e does =>
    obtain ⟨next, hnext, -⟩ := Scan.Walk.Open.next_symbols (h := service.host) isOpen sound
    have fails : w.next service.host service.index.options.skipped = .error e := does
    cases fails.symm.trans hnext
  | publish n w symbols =>
    refine ⟨⟨isOpen, ?_, ?_⟩, Or.inr rfl⟩
    · intro w hw; cases hw
    · intro n w hw; cases hw

/-- A rebuild that has its number already keeps what it promises. -/
theorem Fresh.stays {skipped : List String} {i : Nat} {r r' : Rebuild Scan.Walk}
    {index : SymbolIndex} (fresh : Fresh skipped root s) (here : s.rebuilds[i]? = some r)
    (started : index.started = s.service.index.started) (number : r'.number? = r.number?)
    (taken : ∀ w, r ≠ .called w)
    (kept : promised skipped (lead .root root) s.service.host.files r' =
      promised skipped (lead .root root) s.service.host.files r) :
    Fresh skipped root ⟨{ s.service with index }, s.rebuilds.set i r', s.calls⟩ := by
  have others : ∀ {j : Nat} {q : Rebuild Scan.Walk}, j ≠ i → s.rebuilds[j]? = some q →
      (s.rebuilds.set i r')[j]? = some q := by
    intro j q hji hq
    rw [getElem?_set_of_some here, if_neg hji]; exact hq
  cases fresh with
  | owed debt => exact .owed debt
  | waiting j w hj =>
    by_cases hji : j = i
    · rw [hji, here] at hj
      exact absurd (Option.some.inj hj) (taken w)
    · exact .waiting j w (others hji hj)
  | current j q hj highest promise =>
    by_cases hji : j = i
    · rw [hji, here] at hj
      obtain rfl := Option.some.inj hj
      refine .current i r' ?_ ?_ (kept.trans promise)
      · show (s.rebuilds.set i r')[i]? = some r'
        rw [getElem?_set_of_some here, if_pos rfl]
      · rw [number, started]; exact highest
    · refine .current j q (others hji hj) ?_ promise
      rw [started]; exact highest

/-- A rebuild that takes its number gets the highest one, and has everything still to look at. -/
theorem Fresh.taken {skipped : List String} {i : Nat} (here : s.rebuilds[i]? =
      some (.called (scanOf root))) :
    Fresh skipped root ⟨{ s.service with index := s.service.index.take.2 },
      s.rebuilds.set i (.scanning s.service.index.take.1 (scanOf root)), s.calls⟩ := by
  refine .current i (.scanning s.service.index.take.1 (scanOf root)) ?_ rfl rfl
  show (s.rebuilds.set i _)[i]? = some _
  rw [getElem?_set_of_some here, if_pos rfl]

/-- **Threads** keep the invariant. -/
theorem Sane.thread {i : Nat} {e : Event} {r r' : Rebuild Scan.Walk} {index : SymbolIndex}
    (h : Sane root usage first s) (here : s.rebuilds[i]? = some r)
    (does : Move (walker s.service) s.service.index r e r' index) :
    Sane root usage first ⟨{ s.service with index }, s.rebuilds.set i r', s.calls⟩ := by
  have scans : Scans s.service.index.options.skipped root r := by
    rw [h.options]; exact h.scans r (List.mem_of_getElem? here)
  obtain ⟨scans', kept⟩ := scans.move h.sound does
  rw [h.options] at scans' kept
  obtain ⟨events, run⟩ := h.reached
  have fresh : Fresh first.index.options.skipped root
      ⟨{ s.service with index }, s.rebuilds.set i r', s.calls⟩ := by
    rcases does.numbers with ⟨-, started, number⟩ | ⟨-, -, unnumbered, -⟩
    · have taken : ∀ w, r ≠ .called w := by
        rintro w rfl
        cases does
        cases number
      exact h.fresh.stays here started number taken
        (kept.resolve_left fun ⟨w, is⟩ => taken w is)
    · cases does with
      | take w =>
        rw [scans.called w rfl] at here ⊢
        exact .taken here
      | advance n w after does => cases unnumbered
      | scan n w symbols does => cases unnumbered
      | fail n w e does => cases unnumbered
      | publish n w symbols => cases unnumbered
  exact {
    workspace := h.workspace
    options := does.options_eq.trans h.options
    temporary := h.temporary
    sound := h.sound
    calls := h.calls
    scans := by
      intro q hq
      rcases List.mem_or_eq_of_mem_set hq with hq | rfl
      · exact h.scans q hq
      · exact scans'
    reached := ⟨_, run.step (walker s.service) (.move s.rebuilding i here does)⟩
    fresh := fresh }

/-- What is in the root and has changed is seen by no scan. -/
theorem sameSources_of_untouched {fs fs' : FileSystem} (untouched : Untouched root fs fs') :
    Scan.SameSources skipped (lead .root root) fs fs' := fun names _ => untouched names

/-- A path that has been written to and is noted leads to a rebuild, if it is a source of the
    root. -/
theorem Sane.due_of_owes {due : Option String} {path : String} (activated : Activated root first)
    (h : Sane root usage first s) (no_nul : '\x00' ∉ path.toList)
    (anchored : s.service.host.files.Anchored path)
    (knows : s.service.rebuildDue path = .ok due)
    (owes : Service.isOwn (lead .root root) path (s.service.host.files.spot path) = true) :
    due = some root := by
  rw [Service.rebuildDue_eq h.workspace h.sound activated.absolute activated.no_nul anchored
    no_nul, spot_of_absolute activated.absolute, if_pos owes] at knows
  exact (Except.ok.inj knows).symm

theorem Sane.fits (h : Sane root usage first s) {i : Nat} {c : Call}
    (here : s.calls[i]? = some c) : Fits usage first.host.temporary c :=
  h.calls c (List.mem_of_getElem? here)

/-- What changes beside scratch files only is not seen. -/
theorem Careful.unseen {fs fs' : FileSystem} (careful : Careful root usage first)
    (scratch : usage.scratch) (aside : Service.Aside (lead .root first.host.temporary) fs fs') :
    Scan.SameSources first.index.options.skipped (lead .root root) fs fs' :=
  aside.sameSources (careful.secluded scratch).apart

/-- **A call** that is made owes nothing yet. -/
theorem Sane.call {c : Call} (activated : Activated root first) (h : Sane root usage first s)
    (new : c.New usage) : Sane root usage first { s with calls := s.calls ++ [c] } := by
  have calls : ∀ d ∈ s.calls ++ [c], Fits usage first.host.temporary d := by
    intro d hd
    rcases List.mem_append.mp hd with hd | hd
    · exact h.calls d hd
    · rw [List.mem_singleton.mp hd]
      cases c with
      | saving path content => trivial
      | starting job fault => exact new
      | _ => cases new
  have owed : Owed root s.calls → Owed root (s.calls ++ [c]) := by
    rintro ⟨i, d, hd, owes⟩
    refine ⟨i, d, ?_, owes⟩
    rw [List.getElem?_append_left (List.getElem?_eq_some_iff.mp hd).1]; exact hd
  exact h.change activated {
    keeps := .refl _
    sound := h.sound
    calls := calls
    rebuilds := (List.append_nil _).symm
    only := Or.inl rfl
    owed := fun debt => Or.inl (owed debt)
    seen := Or.inr (.refl _ _ _) }

/-- **A save** that has written a source of the root owes a rebuild. -/
theorem Sane.write {i : Nat} {path : String} {content : Text.CodePoints} {after : Service}
    (activated : Activated root first) (h : Sane root usage first s)
    (here : s.calls[i]? = some (.saving path content))
    (writes : s.service.writeText path content = (.ok (), after)) :
    Sane root usage first
      ⟨after, s.rebuilds, s.calls.set i (.saved path s.service.host.files.current)⟩ := by
  obtain ⟨keeps, written⟩ := Service.writeText_ok h.sound writes
  refine h.change activated {
    keeps := keeps
    sound := written.changed.sound
    calls := fits_set h.calls written.no_nul
    rebuilds := (List.append_nil _).symm
    only := Or.inl rfl
    owed := owed_set here fun owes => owes.elim
    seen := ?_ }
  cases hown : Service.isOwn (lead .root root) path (s.service.host.files.spot path) with
  | true => exact Or.inl (owed_of_set here hown)
  | false => exact Or.inr (Service.sameSources_of_written written hown)

/-- **A note** pays a debt, if it is due where one is owed. -/
theorem Sane.note {i : Nat} {c : Call} {path : String} (activated : Activated root first)
    (h : Sane root usage first s) (here : s.calls[i]? = some c)
    (knows : s.service.rebuildDue path = .ok due) (pays : Owes root c → due = some root) :
    Sane root usage first ⟨s.service, s.rebuilds ++ scheduled due, s.calls.set i .returned⟩ :=
  h.change activated {
    keeps := .refl _
    sound := h.sound
    calls := fits_set h.calls trivial
    rebuilds := rfl
    only := due_of_active h.workspace knows
    owed := owed_set here fun owes => Or.inr (pays owes)
    seen := Or.inr (.refl _ _ _) }

/-- The note of a save pays its debt, if it is made from where the file was written. -/
theorem Sane.noteSaved {i : Nat} {path : String} {place : Place}
    (activated : Activated root first) (h : Sane root usage first s)
    (here : s.calls[i]? = some (.saved path place))
    (steady : Steady path place s.service.host.files.current)
    (knows : s.service.rebuildDue path = .ok due) :
    Sane root usage first
      ⟨s.service, s.rebuilds ++ scheduled due, s.calls.set i .returned⟩ := by
  refine h.note activated here knows fun owes => ?_
  -- either way the path leads where it led when the file was written
  rcases steady with absolute | ⟨same, there⟩
  · refine h.due_of_owes activated (h.fits here) (Or.inl absolute) knows ?_
    rw [spot_of_absolute absolute, ← lead_of_absolute absolute place]
    exact owes
  · refine h.due_of_owes activated (h.fits here) (Or.inr ?_) knows ?_
    · rw [same]; exact there
    · rw [spot_eq_lead, same]; exact owes

/-- The note of a run pays its debt, because its path starts at the root. -/
theorem Sane.noteRan {i : Nat} {path : String} (activated : Activated root first)
    (h : Sane root usage first s) (here : s.calls[i]? = some (.ran path))
    (knows : s.service.rebuildDue path = .ok due) :
    Sane root usage first
      ⟨s.service, s.rebuilds ++ scheduled due, s.calls.set i .returned⟩ := by
  obtain ⟨absolute, no_nul⟩ : Path.isAbsolute path = true ∧ '\x00' ∉ path.toList := h.fits here
  refine h.note activated here knows fun owes => ?_
  refine h.due_of_owes activated no_nul (Or.inl absolute) knows ?_
  rw [spot_of_absolute absolute]
  exact owes

/-- Code that has a path is not broken off. -/
theorem Careful.unbroken {job : RunJob} {fault : Option Breach}
    (careful : Careful root usage first) (allows : usage.Allows job fault) :
    Service.needsScratch job ∨ fault = none := by
  by_contra neither
  obtain ⟨given, broken⟩ := not_or.mp neither
  exact careful.whole (allows.broken given broken)

/-- **A run** whose child has been launched owes a rebuild if it runs a source of the root. -/
theorem Sane.prepare {i : Nat} {job : RunJob} {fault : Option Breach} {refusal : Option Trouble}
    {run : Service.PendingRun} {after : Service} (activated : Activated root first)
    (careful : Careful root usage first) (h : Sane root usage first s)
    (here : s.calls[i]? = some (.starting job fault))
    (launches : s.service.prepareRun job fault refusal = (.ok (.waiting run), after)) :
    Sane root usage first ⟨after, s.rebuilds, s.calls.set i (.running run)⟩ := by
  have allows : usage.Allows job fault := h.fits here
  have may := allows.scratch
  obtain ⟨keeps, launched⟩ := Service.prepareRun_ok h.sound
    (fun needed => by rw [h.temporary]; exact (careful.secluded (may needed)).absolute)
    (careful.unbroken allows) launches
  rw [h.temporary] at launched
  cases launched with
  | file plain absolute written =>
    have fits_run : Fits usage first.host.temporary (.running run) :=
      ⟨fun scratch => Bool.noConfusion (plain.symm.trans scratch),
        fun _ => ⟨absolute, written.no_nul⟩⟩
    refine h.change activated {
      keeps := keeps
      sound := written.changed.sound
      calls := fits_set h.calls fits_run
      rebuilds := (List.append_nil _).symm
      only := Or.inl rfl
      owed := owed_set here fun owes => owes.elim
      seen := ?_ }
    cases hown : Service.isOwn (lead .root root) run.file
        (s.service.host.files.spot run.file) with
    | true =>
      rw [spot_of_absolute absolute] at hown
      exact Or.inl (owed_of_set here ⟨plain, hown⟩)
    | false => exact Or.inr (Service.sameSources_of_written written hown)
  | scratch name needed scratch leads aside =>
    -- no scan comes by where the scratch file is, so nobody owes anything for it
    have fits_run : Fits usage first.host.temporary (.running run) :=
      ⟨fun _ => ⟨may needed, name, leads⟩,
        fun plain => Bool.noConfusion (plain.symm.trans scratch)⟩
    exact h.change activated {
      keeps := keeps
      sound := aside.sound
      calls := fits_set h.calls fits_run
      rebuilds := (List.append_nil _).symm
      only := Or.inl rfl
      owed := owed_set here fun owes => owes.elim
      seen := Or.inr (careful.unseen (may needed) aside) }

/-- A run that answers at once has changed nothing that is seen. -/
theorem Sane.answer {i : Nat} {job : RunJob} {fault : Option Breach} {refusal : Option Trouble}
    {result : RunResult} {after : Service} (activated : Activated root first)
    (careful : Careful root usage first) (h : Sane root usage first s)
    (here : s.calls[i]? = some (.starting job fault))
    (answers : s.service.prepareRun job fault refusal = (.ok (.answered result), after)) :
    Sane root usage first ⟨after, s.rebuilds, s.calls.set i .returned⟩ := by
  have allows : usage.Allows job fault := h.fits here
  have may := allows.scratch
  obtain ⟨keeps, changed⟩ := Service.prepareRun_ok h.sound
    (fun needed => by rw [h.temporary]; exact (careful.secluded (may needed)).absolute)
    (careful.unbroken allows) answers
  rw [h.temporary] at changed
  obtain ⟨sound, unseen⟩ : after.host.files.Sound ∧ Scan.SameSources
      first.index.options.skipped (lead .root root) s.service.host.files after.host.files := by
    rcases changed with same | ⟨needed, aside⟩
    · rw [same]; exact ⟨h.sound, .refl _ _ _⟩
    · exact ⟨aside.sound, careful.unseen (may needed) aside⟩
  exact h.change activated {
    keeps := keeps
    sound := sound
    calls := fits_set h.calls trivial
    rebuilds := (List.append_nil _).symm
    only := Or.inl rfl
    owed := owed_set here fun owes => owes.elim
    seen := Or.inr unseen }

/-- **Cleaning up** after a run leaves its debt. -/
theorem Sane.settle {i : Nat} {run : Service.PendingRun} (activated : Activated root first)
    (careful : Careful root usage first) (h : Sane root usage first s) (ending : Ending)
    (refusal : Option Trouble) (here : s.calls[i]? = some (.running run)) :
    Sane root usage first ⟨s.service.settleRun run ending refusal, s.rebuilds,
      s.calls.set i (if run.isScratch then .returned else .ran run.file)⟩ := by
  obtain ⟨keeps, same, removed⟩ :=
    Service.settleRun_ok (lead .root first.host.temporary) ending refusal h.sound
  obtain ⟨of_scratch, of_plain⟩ : (run.isScratch = true → _) ∧ (run.isScratch = false → _) :=
    h.fits here
  cases hscratch : run.isScratch with
  | true =>
    obtain ⟨scratch, name, leads⟩ := of_scratch hscratch
    have aside := removed name leads
    exact h.change activated {
      keeps := keeps
      sound := aside.sound
      calls := fits_set h.calls trivial
      rebuilds := (List.append_nil _).symm
      only := Or.inl rfl
      owed := owed_set here fun owes => Bool.noConfusion (hscratch.symm.trans owes.1)
      seen := Or.inr (careful.unseen scratch aside) }
  | false =>
    obtain ⟨sound, unseen⟩ : (s.service.settleRun run ending refusal).host.files.Sound ∧
        Scan.SameSources first.index.options.skipped (lead .root root) s.service.host.files
          (s.service.settleRun run ending refusal).host.files := by
      rw [same hscratch]; exact ⟨h.sound, .refl _ _ _⟩
    exact h.change activated {
      keeps := keeps
      sound := sound
      calls := fits_set h.calls (of_plain hscratch)
      rebuilds := (List.append_nil _).symm
      only := Or.inl rfl
      owed := owed_set here fun owes => Or.inl owes.2
      seen := Or.inr unseen }

/-- **Others** may change what is seen while a run of a source of the root owes, and nothing that is
    seen at other times. -/
theorem Sane.changes {files : FileSystem} (activated : Activated root first)
    (h : Sane root usage first s) (sound : files.Sound)
    (may : Owed root s.calls ∨ Untouched root s.service.host.files files) :
    Sane root usage first { s with service := withFiles s.service files } :=
  h.change activated {
    keeps := ⟨rfl, rfl, rfl⟩
    sound := sound
    calls := h.calls
    rebuilds := (List.append_nil _).symm
    only := Or.inl rfl
    owed := Or.inl
    seen := may.imp_right sameSources_of_untouched }

/-- **Every step** keeps the invariant. -/
theorem Sane.step (activated : Activated root first) (careful : Careful root usage first)
    (h : Sane root usage first s) (hs : Step root usage s s') : Sane root usage first s' := by
  cases hs with
  | call c new => exact h.call activated new
  | write i path content after here writes => exact h.write activated here writes
  | noteSaved i path place due here may knows =>
    exact h.noteSaved activated here (careful.steady _ _ _ may) knows
  | prepare i job fault refusal run after here launches =>
    exact h.prepare activated careful here launches
  | answer i job fault refusal result after here answers =>
    exact h.answer activated careful here answers
  | child i run files here sound may =>
    exact h.changes activated sound (may.imp_left fun own => ⟨i, _, here, own⟩)
  | settle i run ending refusal outcome here ended =>
    exact h.settle activated careful ending refusal here
  | noteRan i path due here knows => exact h.noteRan activated here knows
  | outside files sound may => exact h.changes activated sound (Or.inr may)
  | thread e after ne step =>
    cases step with
    | call scan => exact absurd rfl ne
    | move i here does => exact h.thread here does

theorem Activated.sane (activated : Activated root first) :
    Sane root usage first ⟨first, [.called (scanOf root)], []⟩ where
  workspace := activated.opens.active
  options := rfl
  temporary := rfl
  sound := activated.sound
  calls := fun _ hc => absurd hc List.not_mem_nil
  scans := by
    intro r hr
    rw [List.mem_singleton.mp hr]; exact activated.scans
  reached := by
    refine ⟨[] ++ [.called], ?_⟩
    have called : rebuilding ⟨first, [.called (scanOf root)], []⟩ =
        ⟨{ options := first.index.options }, [] ++ [.called (scanOf root)]⟩ := by
      unfold rebuilding
      rw [← activated.fresh]; rfl
    rw [called]
    exact SymbolIndex.Run.start.step (walker first) (.call (.fresh _) (scanOf root))
  fresh := .waiting 0 (scanOf root) rfl

theorem Run.sane (activated : Activated root first) (careful : Careful root usage first)
    (run : Run root usage first s) : Sane root usage first s := by
  induction run with
  | start => exact activated.sane
  | step _ hs ih => exact ih.step activated careful hs

end Editing

end GoWorkbench
