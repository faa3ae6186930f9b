/-
  Readers of an index that is being rebuilt.

  A rebuild publishes under a lock, by two assignments: it exchanges the snapshot, and then the
  published number (`SymbolIndex.hold`, `SymbolIndex.announce`).  Who reads the snapshot or the
  number takes no lock, and may do so between the two.

  1. **Sharing** — `Shared` is an index that is being rebuilt, with the rebuild that has the lock;
     `Shared.Step` is one step of a rebuild or of a reader.
  2. **One step or two** — with both assignments made, the rebuilds have come as far as they would
     with publications in one step (`Refines`), so their numbers are in order (`Numbered`).
  3. **Who wrote last** — `source` is the number of the rebuild that exchanged the snapshot last,
     `announced` that of the rebuild that exchanged the number last.  Neither ever falls, because
     the number of a rebuild that exchanges is not below the published one, and there is at most
     one rebuild between its two assignments (`Seen`).
  4. **Readers** — so what is read of the snapshot is what one rebuild found, and never an older
     one than what anybody has read before (`readers_in_order`).
-/
import GoWorkbench.Proofs.Index.Generations

namespace GoWorkbench.SymbolIndex

/-! ## Sharing -/

/-- Who has the lock. -/
inductive Lock
  | free
  /-- The rebuild at this place is about to compare its number with the published one. -/
  | entered (place : Nat)
  /-- It has exchanged the snapshot, but not yet the number. -/
  | halfway (place : Nat)
deriving DecidableEq, Repr

/-- An index that is being rebuilt, and who has the lock. -/
structure Shared (σ : Type) where
  now : Rebuilding σ
  lock : Lock

namespace Shared

/-- A new index, of which no rebuild has been called. -/
def fresh {σ : Type} (options : Scan.Options) : Shared σ := ⟨.fresh options, .free⟩

/-- What is done to a shared index, or seen of it. -/
inductive Act
  /-- A rebuild does something else than publish. -/
  | worked (event : Event)
  | entered (number : Nat)
  | discarded (number : Nat)
  | exchanged (number : Nat)
  | announced (number : Nat)
  /-- Somebody reads the snapshot. -/
  | listed (symbols : List Go.Symbol)
  /-- Somebody reads the published number. -/
  | told (number : Nat)
deriving DecidableEq, Repr

/-- One step of a rebuild or of a reader.  Taking a number needs the lock, reading does not. -/
inductive Step {σ : Type} (scanner : Scanner σ) : Shared σ → Act → Shared σ → Prop
  | work {s : Shared σ} {e : Event} {after : Rebuilding σ}
      (does : SymbolIndex.Step scanner s.now e after) (no_arrival : ∀ a, e ≠ .arrived a)
      (waits : ∀ n, e = .took n → s.lock = .free) : Step scanner s (.worked e) ⟨after, s.lock⟩
  | enter {s : Shared σ} {i n : Nat} {scan : σ} {symbols : List Go.Symbol}
      (here : s.now.rebuilds[i]? = some (.scanned n scan symbols)) (free : s.lock = .free) :
      Step scanner s (.entered n) ⟨s.now, .entered i⟩
  | discard {s : Shared σ} {i n : Nat} {scan : σ} {symbols : List Go.Symbol}
      (here : s.now.rebuilds[i]? = some (.scanned n scan symbols)) (has : s.lock = .entered i)
      (stale : n < s.now.index.published) :
      Step scanner s (.discarded n)
        ⟨⟨s.now.index, s.now.rebuilds.set i (.ended n scan symbols false)⟩, .free⟩
  | exchange {s : Shared σ} {i n : Nat} {scan : σ} {symbols : List Go.Symbol}
      (here : s.now.rebuilds[i]? = some (.scanned n scan symbols)) (has : s.lock = .entered i)
      (not_stale : ¬ n < s.now.index.published) :
      Step scanner s (.exchanged n) ⟨⟨s.now.index.hold symbols, s.now.rebuilds⟩, .halfway i⟩
  | announce {s : Shared σ} {i n : Nat} {scan : σ} {symbols : List Go.Symbol}
      (here : s.now.rebuilds[i]? = some (.scanned n scan symbols)) (has : s.lock = .halfway i) :
      Step scanner s (.announced n)
        ⟨⟨s.now.index.announce n, s.now.rebuilds.set i (.ended n scan symbols true)⟩, .free⟩
  | list {s : Shared σ} : Step scanner s (.listed s.now.index.snapshot) s
  | tell {s : Shared σ} : Step scanner s (.told s.now.index.published) s

/-- These steps, each with a scanner of its own, lead from a new index to `s`. -/
inductive Run {σ : Type} (options : Scan.Options) : List Act → Shared σ → Prop
  | start : Run options [] (fresh options)
  | step {acts : List Act} {s s' : Shared σ} {act : Act} (scanner : Scanner σ) :
      Run options acts s → Step scanner s act s' → Run options (acts ++ [act]) s'

/-- A rebuild with this number has ended its scan with these symbols. -/
def Found {σ : Type} (s : Shared σ) (n : Nat) (symbols : List Go.Symbol) : Prop :=
  ∃ (i : Nat) (r : Rebuild σ), s.now.rebuilds[i]? = some r ∧ r.number? = some n ∧ r.found? = some symbols

variable {σ : Type} {options : Scan.Options} {scanner : Scanner σ} {s s' : Shared σ}
  {acts : List Act} {act : Act}

/-! ## One step or two -/

/-- What a rebuild does that neither takes a number nor publishes, it does whatever the index
    holds. -/
theorem step_elsewhere {before after : Rebuilding σ} {e : Event}
    (does : SymbolIndex.Step scanner before e after) (no_arrival : ∀ a, e ≠ .arrived a)
    (no_number : ∀ n, e ≠ .took n) :
    after.index = before.index ∧ ∀ index,
      SymbolIndex.Step scanner ⟨index, before.rebuilds⟩ e ⟨index, after.rebuilds⟩ := by
  cases does with
  | call scan => exact ⟨rfl, fun index => .call ⟨index, before.rebuilds⟩ scan⟩
  | move i here does =>
    cases does with
    | take scan => exact absurd rfl (no_number _)
    | publish n scan symbols => exact absurd rfl (no_arrival _)
    | advance n scan after does =>
      exact ⟨rfl, fun index => .move ⟨index, _⟩ i here (.advance n scan after does)⟩
    | scan n scan symbols does =>
      exact ⟨rfl, fun index => .move ⟨index, _⟩ i here (.scan n scan symbols does)⟩
    | fail n scan e does =>
      exact ⟨rfl, fun index => .move ⟨index, _⟩ i here (.fail n scan e does)⟩

/-- A rebuild that has scanned stays as it is until it publishes. -/
theorem step_scanned {before after : Rebuilding σ} {e : Event} {i n : Nat} {scan : σ}
    {symbols : List Go.Symbol} (does : SymbolIndex.Step scanner before e after)
    (no_arrival : ∀ a, e ≠ .arrived a)
    (here : before.rebuilds[i]? = some (.scanned n scan symbols)) :
    after.rebuilds[i]? = some (.scanned n scan symbols) := by
  cases does with
  | call other =>
    rcases getElem?_append_called (s := before) other i with same | ⟨none_there, -, -⟩
    · exact same.trans here
    · rw [here] at none_there
      cases none_there
  | move j there does =>
    show (before.rebuilds.set j _)[i]? = _
    rw [getElem?_set_of_some there]
    by_cases is : i = j
    · rw [is, there] at here
      obtain rfl := Option.some.inj here
      cases does with
      | publish n scan symbols => exact absurd rfl (no_arrival _)
    · rw [if_neg is]
      exact here

/-- The rebuilds have come as far as those that publish in one step; between the two assignments
    the publication is still to come. -/
inductive Refines : Shared σ → Rebuilding σ → Prop
  | free (now : Rebuilding σ) : Refines ⟨now, .free⟩ now
  | entered (now : Rebuilding σ) (i : Nat) : Refines ⟨now, .entered i⟩ now
  | halfway {index : SymbolIndex} {rebuilds : List (Rebuild σ)} {i n : Nat} {scan : σ}
      {symbols : List Go.Symbol} (here : rebuilds[i]? = some (.scanned n scan symbols))
      (not_stale : ¬ n < index.published) :
      Refines ⟨⟨index.hold symbols, rebuilds⟩, .halfway i⟩ ⟨index, rebuilds⟩

theorem Refines.rebuilds {whole : Rebuilding σ} (refines : Refines s whole) :
    s.now.rebuilds = whole.rebuilds := by
  cases refines <;> rfl

/-- A step is one step or none of rebuilds that publish in one step. -/
theorem Refines.step {whole : Rebuilding σ} (refines : Refines s whole)
    (does : Step scanner s act s') :
    ∃ whole', Refines s' whole' ∧
      (whole' = whole ∨ ∃ e, SymbolIndex.Step scanner whole e whole') := by
  cases refines with
  | free =>
    cases does with
    | work does => exact ⟨_, .free _, .inr ⟨_, does⟩⟩
    | enter here free => exact ⟨_, .entered _ _, .inl rfl⟩
    | discard here has | exchange here has | announce here has => cases has
    | list | tell => exact ⟨_, .free _, .inl rfl⟩
  | entered _ i =>
    cases does with
    | work does => exact ⟨_, .entered _ _, .inr ⟨_, does⟩⟩
    | enter here free => cases free
    | announce here has => cases has
    | @discard _ n scan symbols here has stale =>
      cases has
      have publishes : whole.index.publish n symbols = (false, whole.index) := if_pos stale
      have goes : SymbolIndex.Step scanner whole _ _ := .move whole i here (.publish n scan symbols)
      rw [publishes] at goes
      exact ⟨_, .free _, .inr ⟨_, goes⟩⟩
    | exchange here has not_stale =>
      cases has
      exact ⟨whole, .halfway here not_stale, .inl rfl⟩
    | list | tell => exact ⟨_, .entered _ _, .inl rfl⟩
  | @halfway index rebuilds i n scan symbols here not_stale =>
    cases does with
    | @work e after does no_arrival waits =>
      have no_number : ∀ n, e ≠ .took n := fun n is => Lock.noConfusion (waits n is)
      obtain ⟨same, elsewhere⟩ := step_elsewhere does no_arrival no_number
      have there := step_scanned does no_arrival here
      obtain ⟨index', rebuilds'⟩ := after
      obtain rfl : index' = index.hold symbols := same
      exact ⟨_, .halfway there not_stale, .inr ⟨_, elsewhere index⟩⟩
    | enter here free => cases free
    | discard here has | exchange here has => cases has
    | announce there has =>
      cases has
      cases here.symm.trans there
      have publishes : index.publish n symbols = (true, (index.hold symbols).announce n) :=
        if_neg not_stale
      have goes : SymbolIndex.Step scanner ⟨index, rebuilds⟩ _ _ :=
        .move ⟨index, rebuilds⟩ i here (.publish n scan symbols)
      rw [publishes] at goes
      exact ⟨_, .free _, .inr ⟨_, goes⟩⟩
    | list | tell => exact ⟨_, .halfway here not_stale, .inl rfl⟩

/-- **One step or two**: it makes no difference to the rebuilds. -/
theorem Run.refines (run : Run options acts s) :
    ∃ events whole, SymbolIndex.Run options events whole ∧ Refines s whole := by
  induction run with
  | start => exact ⟨[], _, .start, .free _⟩
  | step scanner _ does ih =>
    obtain ⟨events, whole, run, refines⟩ := ih
    obtain ⟨whole', refines', rfl | ⟨e, goes⟩⟩ := refines.step does
    · exact ⟨events, whole', run, refines'⟩
    · exact ⟨_, whole', run.step scanner goes, refines'⟩

/-- Every number belongs to one rebuild, and none is zero. -/
theorem Run.numbered (run : Run options acts s) :
    (∀ i n, s.now.numberAt i = some n → 1 ≤ n) ∧
      ∀ i j n, s.now.numberAt i = some n → s.now.numberAt j = some n → i = j := by
  obtain ⟨events, whole, run, refines⟩ := run.refines
  have same : ∀ i, s.now.numberAt i = whole.numberAt i := fun i => by
    unfold Rebuilding.numberAt
    rw [refines.rebuilds]
  constructor
  · intro i n is
    exact (run.numbered.bounds i n ((same i).symm.trans is)).1
  · intro i j n is is'
    exact run.numbered.once i j n ((same i).symm.trans is) ((same j).symm.trans is')

/-! ## Who wrote last -/

/-- The number of the rebuild that has just exchanged the snapshot. -/
def Act.exchanged? : Act → Option Nat
  | .exchanged n => some n
  | _ => none

/-- The number of the rebuild that has just exchanged the published number. -/
def Act.announced? : Act → Option Nat
  | .announced n => some n
  | _ => none

/-- The last number that is picked, zero if none is. -/
def latest (pick : Act → Option Nat) (acts : List Act) : Nat :=
  acts.foldl (fun number act => (pick act).getD number) 0

/-- The number of the rebuild that exchanged the snapshot last. -/
def source (acts : List Act) : Nat := latest Act.exchanged? acts

/-- The number of the rebuild that exchanged the published number last. -/
def announced (acts : List Act) : Nat := latest Act.announced? acts

theorem latest_append (pick : Act → Option Nat) (acts : List Act) (act : Act) :
    latest pick (acts ++ [act]) = (pick act).getD (latest pick acts) := by
  unfold latest
  rw [List.foldl_append]
  rfl

/-- What a rebuild has found, it has found for good. -/
theorem Found.moved {n : Nat} {symbols : List Go.Symbol} (found : s.Found n symbols) {i : Nat}
    {r r' : Rebuild σ} (here : s.now.rebuilds[i]? = some r) {index : SymbolIndex} {lock : Lock}
    (keeps : r.found? = some symbols → r'.found? = some symbols ∧ r'.number? = r.number?) :
    Found ⟨⟨index, s.now.rebuilds.set i r'⟩, lock⟩ n symbols := by
  obtain ⟨j, other, there, number, finds⟩ := found
  by_cases is : j = i
  · obtain rfl : other = r := by
      rw [is, here] at there
      exact (Option.some.inj there).symm
    obtain ⟨finds', same⟩ := keeps finds
    refine ⟨j, r', ?_, same.trans number, finds'⟩
    show (s.now.rebuilds.set i r')[j]? = _
    rw [getElem?_set_of_some here, if_pos is]
  · refine ⟨j, other, ?_, number, finds⟩
    show (s.now.rebuilds.set i r')[j]? = _
    rw [getElem?_set_of_some here, if_neg is, there]

theorem Found.step {n : Nat} {symbols : List Go.Symbol} (found : s.Found n symbols)
    (does : Step scanner s act s') : s'.Found n symbols := by
  cases does with
  | work does no_arrival waits =>
    cases does with
    | call scan =>
      obtain ⟨i, r, here, is⟩ := found
      refine ⟨i, r, ?_, is⟩
      have there : i < s.now.rebuilds.length := (List.getElem?_eq_some_iff.mp here).1
      show (s.now.rebuilds ++ [_])[i]? = _
      rw [List.getElem?_append_left there, here]
    | move i here does =>
      refine found.moved here fun finds => ?_
      cases does with
      | take | advance | scan | fail => cases finds
      | publish => exact ⟨finds, rfl⟩
  | enter => exact found
  | exchange => exact found
  | discard here => exact found.moved here fun finds => ⟨finds, rfl⟩
  | announce here => exact found.moved here fun finds => ⟨finds, rfl⟩
  | list => exact found
  | tell => exact found

/-- **The invariant**: the snapshot is what the rebuild found that exchanged it last, and the
    published number is that of the same rebuild, unless that rebuild is halfway. -/
structure Seen (acts : List Act) (s : Shared σ) : Prop where
  published : s.now.index.published = announced acts
  snapshot : source acts = 0 ∧ s.now.index.snapshot = [] ∨
    s.Found (source acts) s.now.index.snapshot
  settled : (∀ i, s.lock ≠ .halfway i) → source acts = announced acts
  halfway : ∀ i, s.lock = .halfway i → announced acts ≤ source acts ∧
    ∃ scan, s.now.rebuilds[i]? = some (.scanned (source acts) scan s.now.index.snapshot)

theorem Seen.start : Seen [] (fresh options : Shared σ) where
  published := rfl
  snapshot := .inl ⟨rfl, rfl⟩
  settled := fun _ => rfl
  halfway := fun _ is => Lock.noConfusion is

/-- What exchanges neither of the two leaves all as it is. -/
theorem Seen.unwritten (seen : Seen acts s)
    (keeps : ∀ n symbols, s.Found n symbols → s'.Found n symbols)
    (not_exchanged : act.exchanged? = none) (not_announced : act.announced? = none)
    (published : s'.now.index.published = s.now.index.published)
    (snapshot : s'.now.index.snapshot = s.now.index.snapshot)
    (lock : ∀ i, s'.lock = .halfway i ↔ s.lock = .halfway i)
    (scanned : ∀ i n scan symbols, s.lock = .halfway i →
      s.now.rebuilds[i]? = some (.scanned n scan symbols) →
      s'.now.rebuilds[i]? = some (.scanned n scan symbols)) :
    Seen (acts ++ [act]) s' := by
  have same_source : source (acts ++ [act]) = source acts := by
    unfold source
    rw [latest_append, not_exchanged]
    rfl
  have same_announced : announced (acts ++ [act]) = announced acts := by
    unfold announced
    rw [latest_append, not_announced]
    rfl
  constructor
  · rw [same_announced, published, seen.published]
  · rw [same_source, snapshot]
    exact seen.snapshot.imp_right (keeps _ _)
  · intro not_halfway
    rw [same_source, same_announced]
    exact seen.settled fun i is => not_halfway i ((lock i).mpr is)
  · intro i is
    rw [same_source, same_announced, snapshot]
    obtain ⟨le, scan, here⟩ := seen.halfway i ((lock i).mp is)
    exact ⟨le, scan, scanned i _ scan _ ((lock i).mp is) here⟩

/-- The first assignment: the rebuild that makes it is halfway, and its number is not below the
    published one. -/
theorem Seen.exchange (seen : Seen acts s) {i n : Nat} {scan : σ} {symbols : List Go.Symbol}
    (here : s.now.rebuilds[i]? = some (.scanned n scan symbols))
    (not_stale : ¬ n < s.now.index.published) :
    Seen (acts ++ [.exchanged n]) ⟨⟨s.now.index.hold symbols, s.now.rebuilds⟩, .halfway i⟩ := by
  have is_source : source (acts ++ [.exchanged n]) = n := latest_append _ _ _
  have same_announced : announced (acts ++ [.exchanged n]) = announced acts := latest_append _ _ _
  constructor
  · rw [same_announced]
    exact seen.published
  · rw [is_source]
    exact .inr ⟨i, _, here, rfl, rfl⟩
  · intro not_halfway
    exact absurd rfl (not_halfway i)
  · intro j is
    cases is
    rw [is_source, same_announced]
    rw [seen.published] at not_stale
    exact ⟨Nat.le_of_not_lt not_stale, scan, here⟩

/-- Whoever is halfway has exchanged the snapshot last. -/
theorem Seen.eq_source (seen : Seen acts s) {i n : Nat} {scan : σ} {symbols : List Go.Symbol}
    (here : s.now.rebuilds[i]? = some (.scanned n scan symbols)) (has : s.lock = .halfway i) :
    n = source acts := by
  obtain ⟨-, scan', here'⟩ := seen.halfway i has
  rw [here] at here'
  cases here'
  rfl

/-- The second assignment: the snapshot and the number are those of one rebuild again. -/
theorem Seen.announce (seen : Seen acts s) {i n : Nat} {scan : σ} {symbols : List Go.Symbol}
    (here : s.now.rebuilds[i]? = some (.scanned n scan symbols)) (has : s.lock = .halfway i) :
    Seen (acts ++ [.announced n])
      ⟨⟨s.now.index.announce n, s.now.rebuilds.set i (.ended n scan symbols true)⟩, .free⟩ := by
  have same_source : source (acts ++ [.announced n]) = source acts := latest_append _ _ _
  have is_announced : announced (acts ++ [.announced n]) = n := latest_append _ _ _
  constructor
  · exact is_announced.symm
  · rw [same_source]
    exact seen.snapshot.imp_right fun found => found.moved here fun finds => ⟨finds, rfl⟩
  · intro _
    rw [same_source, is_announced, seen.eq_source here has]
  · intro j is
    cases is

/-- **One step** keeps the invariant. -/
theorem Seen.step (seen : Seen acts s) (does : Step scanner s act s') :
    Seen (acts ++ [act]) s' := by
  have keeps : ∀ n symbols, s.Found n symbols → s'.Found n symbols :=
    fun _ _ found => found.step does
  cases does with
  | @work e after goes no_arrival waits =>
    obtain ⟨-, published, snapshot, -⟩ | ⟨i, a, is, -⟩ := goes.arrivals
    · exact seen.unwritten keeps rfl rfl published snapshot (fun i => Iff.rfl)
        fun i n scan symbols _ => step_scanned goes no_arrival
    · exact absurd is (no_arrival a)
  | enter here free =>
    exact seen.unwritten keeps rfl rfl rfl rfl (fun i => by simp [free])
      fun i n scan symbols _ there => there
  | discard here has stale =>
    exact seen.unwritten keeps rfl rfl rfl rfl (fun i => by simp [has])
      fun i n scan symbols is => by rw [has] at is; cases is
  | list =>
    exact seen.unwritten keeps rfl rfl rfl rfl (fun i => Iff.rfl)
      fun i n scan symbols _ there => there
  | tell =>
    exact seen.unwritten keeps rfl rfl rfl rfl (fun i => Iff.rfl)
      fun i n scan symbols _ there => there
  | exchange here has not_stale => exact seen.exchange here not_stale
  | announce here has => exact seen.announce here has

theorem Run.seen (run : Run options acts s) : Seen acts s := by
  induction run with
  | start => exact Seen.start
  | step scanner _ does ih => exact ih.step does

/-- The published number is never that of a later rebuild than the snapshot. -/
theorem Seen.announced_le (seen : Seen acts s) : announced acts ≤ source acts := by
  cases lock : s.lock with
  | free => exact Nat.le_of_eq (seen.settled (by simp [lock])).symm
  | entered i => exact Nat.le_of_eq (seen.settled (by simp [lock])).symm
  | halfway i => exact (seen.halfway i lock).1

/-- **Who wrote last** never falls. -/
theorem Seen.climbs (seen : Seen acts s) (does : Step scanner s act s') :
    source acts ≤ source (acts ++ [act]) ∧ announced acts ≤ announced (acts ++ [act]) := by
  unfold source announced
  rw [latest_append, latest_append]
  cases does with
  | work | enter | discard | list | tell => exact ⟨Nat.le_refl _, Nat.le_refl _⟩
  | @exchange i n scan symbols here has not_stale =>
    refine ⟨?_, Nat.le_refl _⟩
    have settled := seen.settled (by simp [has])
    rw [seen.published, ← settled] at not_stale
    exact Nat.le_of_not_lt not_stale
  | @announce i n scan symbols here has =>
    refine ⟨Nat.le_refl _, ?_⟩
    have le := (seen.halfway i has).1
    rwa [← seen.eq_source here has] at le

/-! ## Readers -/

/-- What has been done up to some point is a run. -/
theorem Run.upTo (run : Run options acts s) (i : Nat) :
    ∃ before : Shared σ, Run options (acts.take i) before := by
  induction run with
  | start => exact ⟨_, by rw [List.take_nil]; exact .start⟩
  | @step acts s s' act scanner run does ih =>
    by_cases le : i ≤ acts.length
    · rw [List.take_append_of_le_length le]
      exact ih
    · rw [List.take_of_length_le (by simp; omega)]
      exact ⟨_, run.step scanner does⟩

/-- What is done at some point is a step from there, and what is found there is found still. -/
theorem Run.step_at (run : Run options acts s) {i : Nat} (there : acts[i]? = some act) :
    ∃ (before after : Shared σ) (scanner : Scanner σ), Run options (acts.take i) before ∧
      Step scanner before act after ∧ ∀ n symbols, before.Found n symbols → s.Found n symbols := by
  induction run with
  | start => cases there
  | @step acts s s' last scanner run does ih =>
    rcases Nat.lt_trichotomy i acts.length with lt | rfl | gt
    · rw [List.getElem?_append_left lt] at there
      rw [List.take_append_of_le_length (Nat.le_of_lt lt)]
      obtain ⟨before, after, scanner, run, goes, keeps⟩ := ih there
      exact ⟨before, after, scanner, run, goes, fun n symbols found => (keeps _ _ found).step does⟩
    · rw [List.getElem?_concat_length] at there
      cases there
      rw [List.take_left]
      exact ⟨s, s', scanner, run, does, fun n symbols found => found.step does⟩
    · rw [List.getElem?_eq_none (by simp; omega)] at there
      cases there

theorem Run.latest_le (run : Run options acts s) (i : Nat) :
    source (acts.take i) ≤ source acts ∧ announced (acts.take i) ≤ announced acts := by
  induction run with
  | start =>
    rw [List.take_nil]
    exact ⟨Nat.le_refl _, Nat.le_refl _⟩
  | @step acts s s' act scanner run does ih =>
    by_cases le : i ≤ acts.length
    · rw [List.take_append_of_le_length le]
      obtain ⟨source_climbs, announced_climbs⟩ := run.seen.climbs does
      exact ⟨Nat.le_trans ih.1 source_climbs, Nat.le_trans ih.2 announced_climbs⟩
    · rw [List.take_of_length_le (by simp; omega)]
      exact ⟨Nat.le_refl _, Nat.le_refl _⟩

/-- From one point to a later one the two numbers do not fall. -/
theorem Run.latest_mono (run : Run options acts s) {i j : Nat} (le : i ≤ j) :
    source (acts.take i) ≤ source (acts.take j) ∧
      announced (acts.take i) ≤ announced (acts.take j) := by
  obtain ⟨later, run⟩ := run.upTo j
  have rises := run.latest_le i
  rwa [List.take_take, Nat.min_eq_left le] at rises

/-- What is read of the snapshot. -/
theorem Run.of_listed (run : Run options acts s) {i : Nat} {symbols : List Go.Symbol}
    (reads : acts[i]? = some (.listed symbols)) :
    source (acts.take i) = 0 ∧ symbols = [] ∨ s.Found (source (acts.take i)) symbols := by
  obtain ⟨before, after, scanner, run, does, keeps⟩ := run.step_at reads
  cases does
  exact run.seen.snapshot.imp_right (keeps _ _)

/-- What is read of the published number. -/
theorem Run.of_told (run : Run options acts s) {i n : Nat} (reads : acts[i]? = some (.told n)) :
    n = announced (acts.take i) ∧ n ≤ source (acts.take i) := by
  obtain ⟨before, after, scanner, run, does, -⟩ := run.step_at reads
  cases does
  exact ⟨run.seen.published, run.seen.published ▸ run.seen.announced_le⟩

/-- **Readers** see one rebuild after the other, for every run of any number of rebuilds and
    readers: what is read of the snapshot when the rebuild number `source` has exchanged it last is
    all that this rebuild found, or nothing if there was none; what is read later is not from a
    rebuild with a lower number; and no published number that is read is below one that has been
    read, or above the rebuild whose snapshot is read from then on. -/
theorem readers_in_order (run : Run options acts s) :
    (∀ n symbols symbols', s.Found n symbols → s.Found n symbols' → symbols = symbols') ∧
    (∀ i symbols, acts[i]? = some (.listed symbols) →
      source (acts.take i) = 0 ∧ symbols = [] ∨
        1 ≤ source (acts.take i) ∧ s.Found (source (acts.take i)) symbols) ∧
    (∀ (i j : Nat) symbols symbols', i ≤ j → acts[i]? = some (.listed symbols) →
      acts[j]? = some (.listed symbols') → source (acts.take i) ≤ source (acts.take j)) ∧
    (∀ i j n m : Nat, i ≤ j → acts[i]? = some (.told n) → acts[j]? = some (.told m) → n ≤ m) ∧
    ∀ (i j n : Nat) symbols, i ≤ j → acts[i]? = some (.told n) → acts[j]? = some (.listed symbols) →
      n ≤ source (acts.take j) := by
  obtain ⟨positive, once⟩ := run.numbered
  have numberAt : ∀ {i : Nat} {r : Rebuild σ} {n : Nat}, s.now.rebuilds[i]? = some r →
      r.number? = some n → s.now.numberAt i = some n :=
    fun here is => (numberAt_of_some here).trans is
  refine ⟨?_, ?_, fun i j _ _ le _ _ => (run.latest_mono le).1, ?_, ?_⟩
  · rintro n symbols symbols' ⟨i, r, here, number, finds⟩ ⟨j, r', here', number', finds'⟩
    obtain rfl := once i j n (numberAt here number) (numberAt here' number')
    rw [here] at here'
    cases here'
    exact Option.some.inj (finds.symm.trans finds')
  · intro i symbols reads
    refine (run.of_listed reads).imp_right fun found => ⟨?_, found⟩
    obtain ⟨j, r, here, number, -⟩ := found
    exact positive j _ (numberAt here number)
  · intro i j n m le reads reads'
    rw [(run.of_told reads).1, (run.of_told reads').1]
    exact (run.latest_mono le).2
  · intro i j n symbols le reads _
    exact Nat.le_trans (run.of_told reads).2 (run.latest_mono le).1

/-- Two rebuilds: the later one publishes first and is read in between, the other one is
    discarded. -/
def readInBetween : List Act := [.worked .called, .worked .called, .worked (.took 1),
  .worked (.took 2), .worked (.scanned 1), .worked (.scanned 2), .listed [], .entered 2,
  .exchanged 2, .listed [newer], .told 0, .announced 2, .told 2, .entered 1, .discarded 1,
  .listed [newer]]

/-- What both rebuilds have led to. -/
def readAtLast : Shared Unit :=
  ⟨⟨{ options := {}, started := 2, published := 2, snapshot := [newer] },
    [.ended 1 () [older] false, .ended 2 () [newer] true]⟩, .free⟩

theorem readInBetween_run : Run {} readInBetween readAtLast := by
  have work : ∀ {acts : List Act} {now after : Rebuilding Unit} {e : Event},
      Run {} acts ⟨now, .free⟩ → SymbolIndex.Step anything now e after →
      (∀ a, e ≠ .arrived a) → Run {} (acts ++ [.worked e]) ⟨after, .free⟩ :=
    fun run does no_arrival => run.step anything (.work does no_arrival fun _ _ => rfl)
  have none_called : Run {} [] (fresh {} : Shared Unit) := .start
  have called := work (work none_called (.call _ ()) nofun) (.call _ ()) nofun
  have took := work (work called (.move _ 0 rfl (.take ())) nofun) (.move _ 1 rfl (.take ())) nofun
  have scanned := work (work took (.move _ 0 rfl (.scan 1 () [older] trivial)) nofun)
    (.move _ 1 rfl (.scan 2 () [newer] trivial)) nofun
  have exchanged := ((scanned.step anything .list).step anything
    (.enter (i := 1) rfl rfl)).step anything (.exchange rfl rfl (by decide))
  have announced := (((exchanged.step anything .list).step anything .tell).step anything
    (.announce rfl rfl)).step anything .tell
  exact ((announced.step anything (.enter (i := 0) rfl rfl)).step anything
    (.discard rfl rfl (by decide))).step anything .list

theorem readers_in_order_in_between : Run {} readInBetween readAtLast ∧
    (1 ≤ source (readInBetween.take 9) ∧
      readAtLast.Found (source (readInBetween.take 9)) [newer]) ∧
    source (readInBetween.take 9) ≤ source (readInBetween.take 15) ∧
    2 ≤ source (readInBetween.take 15) := by
  obtain ⟨-, listed, later, -, told⟩ := readers_in_order readInBetween_run
  refine ⟨readInBetween_run, ?_, later 9 15 _ _ (by decide) rfl rfl,
    told 12 15 2 _ (by decide) rfl rfl⟩
  rcases listed 9 [newer] rfl with ⟨-, is⟩ | found
  · cases is
  · exact found

end Shared

end GoWorkbench.SymbolIndex
