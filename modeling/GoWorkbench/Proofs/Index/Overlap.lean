/-
  Rebuilds of one index that overlap.

  Any number of rebuilds may be under way at once.  Each of them takes a number, scans, and then
  publishes what it found or discards it; taking and publishing are single steps
  (`SymbolIndex.take`, `SymbolIndex.publish`), and between any two steps of one rebuild the others
  may take theirs.

  1. **Steps** — `Rebuilding` is an index with the rebuilds that were called; `Step` is one step of
     one of them.  What a scan does and finds is left to a `Scanner`, so that the same steps serve
     scans of a file system that stands still and of one that changes.
  2. **Runs** — `Run events s`: the steps with these events lead from the fresh index to `s`.
  3. **Numbers** — every number up to the last one taken belongs to exactly one rebuild
     (`Numbered`), because only taking hands one out, and it hands out the next.
  4. **Arrivals** — the rebuilds that reached the publishing step, in order, are exactly those that
     have ended (`Recorded`), so no two arrivals have one number.
  5. **The invariant** — `Settled`: the index holds the result of the highest number that has
     arrived.  The load-bearing step is an arrival with a number not below the published one: by 4
     no earlier arrival has its number, so it is the only highest one from then on.
-/
import GoWorkbench.SymbolIndex
import Mathlib.Data.List.Induction

namespace GoWorkbench.SymbolIndex

/-! ## Rebuilds under way -/

/-- A rebuild, as far as it has come.  `σ` is what its scan works with. -/
inductive Rebuild (σ : Type)
  /-- It has no number yet. -/
  | called (scan : σ)
  | scanning (number : Nat) (scan : σ)
  /-- The scan has ended, but its result has not reached the index. -/
  | scanned (number : Nat) (scan : σ) (symbols : List Go.Symbol)
  /-- The scan has been broken off; the index will not hear of it. -/
  | failed (number : Nat) (scan : σ)
  | ended (number : Nat) (scan : σ) (symbols : List Go.Symbol) (fresh : Bool)

/-- The number that a rebuild has taken. -/
def Rebuild.number? {σ : Type} : Rebuild σ → Option Nat
  | .called _ => none
  | .scanning n _ | .scanned n _ _ | .failed n _ | .ended n _ _ _ => some n

/-- What the scan of a rebuild works with. -/
def Rebuild.scan {σ : Type} : Rebuild σ → σ
  | .called w | .scanning _ w | .scanned _ w _ | .failed _ w | .ended _ w _ _ => w

/-- What a rebuild has found, once its scan has ended. -/
def Rebuild.found? {σ : Type} : Rebuild σ → Option (List Go.Symbol)
  | .scanned _ _ symbols | .ended _ _ symbols _ => some symbols
  | _ => none

/-- A rebuild that has reached the index: its number, what it found, and whether that was
    published. -/
structure Arrival where
  number : Nat
  symbols : List Go.Symbol
  fresh : Bool
deriving DecidableEq, Repr

/-- What a rebuild that has ended came to the index with. -/
def Rebuild.arrival? {σ : Type} : Rebuild σ → Option Arrival
  | .ended n _ symbols fresh => some ⟨n, symbols, fresh⟩
  | _ => none

/-- An index with all rebuilds of it that have been called. -/
structure Rebuilding (σ : Type) where
  index : SymbolIndex
  rebuilds : List (Rebuild σ)

/-- A new index, of which no rebuild has been called. -/
def Rebuilding.fresh {σ : Type} (options : Scan.Options) : Rebuilding σ := ⟨{ options }, []⟩

/-- What scans do: how they get on, and how they may end. -/
structure Scanner (σ : Type) where
  advances : σ → σ → Prop
  ends : σ → Except Failure (List Go.Symbol) → Prop

/-- What can be seen of a step. -/
inductive Event
  | called
  | took (number : Nat)
  | advanced (number : Nat)
  | scanned (number : Nat)
  | failed (number : Nat)
  | arrived (arrival : Arrival)
deriving DecidableEq, Repr

/-- One step of one rebuild, with the index before it and after it. -/
inductive Move {σ : Type} (scanner : Scanner σ) (index : SymbolIndex) :
    Rebuild σ → Event → Rebuild σ → SymbolIndex → Prop
  | take (scan : σ) :
      Move scanner index (.called scan) (.took index.take.1) (.scanning index.take.1 scan)
        index.take.2
  | advance (n : Nat) (scan after : σ) (does : scanner.advances scan after) :
      Move scanner index (.scanning n scan) (.advanced n) (.scanning n after) index
  | scan (n : Nat) (scan : σ) (symbols : List Go.Symbol) (does : scanner.ends scan (.ok symbols)) :
      Move scanner index (.scanning n scan) (.scanned n) (.scanned n scan symbols) index
  | fail (n : Nat) (scan : σ) (e : Failure) (does : scanner.ends scan (.error e)) :
      Move scanner index (.scanning n scan) (.failed n) (.failed n scan) index
  | publish (n : Nat) (scan : σ) (symbols : List Go.Symbol) :
      Move scanner index (.scanned n scan symbols)
        (.arrived ⟨n, symbols, (index.publish n symbols).1⟩)
        (.ended n scan symbols (index.publish n symbols).1) (index.publish n symbols).2

/-- One step: another rebuild is called, or the `i`-th one goes on. -/
inductive Step {σ : Type} (scanner : Scanner σ) : Rebuilding σ → Event → Rebuilding σ → Prop
  | call (s : Rebuilding σ) (scan : σ) :
      Step scanner s .called ⟨s.index, s.rebuilds ++ [.called scan]⟩
  | move (s : Rebuilding σ) (i : Nat) {r r' : Rebuild σ} {e : Event} {index : SymbolIndex}
      (here : s.rebuilds[i]? = some r) (does : Move scanner s.index r e r' index) :
      Step scanner s e ⟨index, s.rebuilds.set i r'⟩

/-- The steps with these events, each with a scanner of its own, lead from a new index to `s`. -/
inductive Run {σ : Type} (options : Scan.Options) : List Event → Rebuilding σ → Prop
  | start : Run options [] (.fresh options)
  | step {events : List Event} {s s' : Rebuilding σ} {e : Event} (scanner : Scanner σ) :
      Run options events s → Step scanner s e s' → Run options (events ++ [e]) s'

/-- The numbers that were taken, in the order of taking. -/
def taken (events : List Event) : List Nat :=
  events.filterMap fun
    | .took n => some n
    | _ => none

/-- The rebuilds that reached the index, in the order of reaching it. -/
def arrivals (events : List Event) : List Arrival :=
  events.filterMap fun
    | .arrived a => some a
    | _ => none

/-- The highest number of an arrival, or zero if there is none. -/
def highest (arrived : List Arrival) : Nat := (arrived.map (·.number)).foldl max 0

/-- The number of the `i`-th rebuild. -/
def Rebuilding.numberAt {σ : Type} (s : Rebuilding σ) (i : Nat) : Option Nat :=
  s.rebuilds[i]?.bind Rebuild.number?

/-- What the `i`-th rebuild came to the index with. -/
def Rebuilding.arrivalAt {σ : Type} (s : Rebuilding σ) (i : Nat) : Option Arrival :=
  s.rebuilds[i]?.bind Rebuild.arrival?

/-! ## What a step does -/

variable {σ : Type} {options : Scan.Options} {scanner : Scanner σ} {s s' : Rebuilding σ}
  {events : List Event} {e : Event}

/-- Only the place that is set changes. -/
theorem getElem?_set_of_some {α : Type} {l : List α} {i : Nat} {a : α} (here : l[i]? = some a)
    (b : α) (j : Nat) : (l.set i b)[j]? = if j = i then some b else l[j]? := by
  have hi : i < l.length := (List.getElem?_eq_some_iff.mp here).1
  rw [List.getElem?_set]
  by_cases hij : i = j
  · subst hij
    rw [if_pos rfl, if_pos rfl, if_pos hi]
  · rw [if_neg hij, if_neg (fun h => hij h.symm)]

/-- A rebuild that goes on to `after` changes its own number and arrival only. -/
theorem numberAt_set {i : Nat} {r : Rebuild σ} (here : s.rebuilds[i]? = some r)
    (index : SymbolIndex) (after : Rebuild σ) (j : Nat) :
    (Rebuilding.mk index (s.rebuilds.set i after)).numberAt j =
      if j = i then after.number? else s.numberAt j := by
  unfold Rebuilding.numberAt
  rw [getElem?_set_of_some here]
  split <;> rfl

theorem arrivalAt_set {i : Nat} {r : Rebuild σ} (here : s.rebuilds[i]? = some r)
    (index : SymbolIndex) (after : Rebuild σ) (j : Nat) :
    (Rebuilding.mk index (s.rebuilds.set i after)).arrivalAt j =
      if j = i then after.arrival? else s.arrivalAt j := by
  unfold Rebuilding.arrivalAt
  rw [getElem?_set_of_some here]
  split <;> rfl

theorem numberAt_of_some {i : Nat} {r : Rebuild σ} (here : s.rebuilds[i]? = some r) :
    s.numberAt i = r.number? := by
  unfold Rebuilding.numberAt; rw [here]; rfl

theorem arrivalAt_of_some {i : Nat} {r : Rebuild σ} (here : s.rebuilds[i]? = some r) :
    s.arrivalAt i = r.arrival? := by
  unfold Rebuilding.arrivalAt; rw [here]; rfl

/-- What is at a place once another rebuild has been called. -/
theorem getElem?_append_called (scan : σ) (j : Nat) :
    (s.rebuilds ++ [Rebuild.called scan])[j]? = s.rebuilds[j]? ∨
      s.rebuilds[j]? = none ∧ j = s.rebuilds.length ∧
        (s.rebuilds ++ [Rebuild.called scan])[j]? = some (.called scan) := by
  rcases Nat.lt_trichotomy j s.rebuilds.length with hj | hj | hj
  · exact Or.inl (List.getElem?_append_left hj)
  · refine Or.inr ⟨List.getElem?_eq_none (by omega), hj, ?_⟩
    rw [hj]; exact List.getElem?_concat_length
  · refine Or.inl ?_
    have hlen : (s.rebuilds ++ [Rebuild.called scan]).length = s.rebuilds.length + 1 :=
      List.length_append
    rw [List.getElem?_eq_none (by omega), List.getElem?_eq_none (by omega)]

/-- Nothing changes the options of an index. -/
theorem Move.options_eq {r r' : Rebuild σ} {index index' : SymbolIndex}
    (h : Move scanner index r e r' index') : index'.options = index.options := by
  cases h with
  | publish n scan symbols => unfold SymbolIndex.publish; split <;> rfl
  | take scan => rfl
  | advance n scan after does => rfl
  | scan n scan symbols does => rfl
  | fail n scan e does => rfl

/-- What a rebuild has found stays, and is what its scan ended with. -/
theorem Move.found {r r' : Rebuild σ} {index index' : SymbolIndex}
    (h : Move scanner index r e r' index') {symbols : List Go.Symbol}
    (hfound : r'.found? = some symbols) :
    r'.scan = r.scan ∧ (r.found? = some symbols ∨ scanner.ends r.scan (.ok symbols)) := by
  cases h with
  | take scan => cases hfound
  | advance n scan after does => cases hfound
  | scan n scan symbols does => cases hfound; exact ⟨rfl, Or.inr does⟩
  | fail n scan e does => cases hfound
  | publish n scan symbols => exact ⟨rfl, Or.inl hfound⟩

/-- A rebuild keeps its number, unless it takes the next one. -/
theorem Move.numbers {r r' : Rebuild σ} {index index' : SymbolIndex}
    (h : Move scanner index r e r' index') :
    ((∀ n, e ≠ .took n) ∧ index'.started = index.started ∧ r'.number? = r.number?) ∨
    (e = .took (index.started + 1) ∧ index'.started = index.started + 1 ∧
      r.number? = none ∧ r'.number? = some (index.started + 1)) := by
  cases h with
  | take scan => exact Or.inr ⟨rfl, rfl, rfl, rfl⟩
  | advance n scan after does => exact Or.inl ⟨fun n => Event.noConfusion, rfl, rfl⟩
  | scan n scan symbols does => exact Or.inl ⟨fun n => Event.noConfusion, rfl, rfl⟩
  | fail n scan e does => exact Or.inl ⟨fun n => Event.noConfusion, rfl, rfl⟩
  | publish n scan symbols =>
    refine Or.inl ⟨fun n => Event.noConfusion, ?_, rfl⟩
    unfold SymbolIndex.publish; split <;> rfl

/-- What the index holds stays, unless a rebuild arrives with a number that is not below the
    published one. -/
theorem Move.arrivals {r r' : Rebuild σ} {index index' : SymbolIndex}
    (h : Move scanner index r e r' index') :
    ((∀ a, e ≠ .arrived a) ∧ index'.published = index.published ∧
      index'.snapshot = index.snapshot ∧ r'.arrival? = r.arrival?) ∨
    (∃ a, e = .arrived a ∧ r.number? = some a.number ∧ r.arrival? = none ∧
      r'.arrival? = some a ∧ a.fresh = decide (index.published ≤ a.number) ∧
      index'.published = max index.published a.number ∧
      index'.snapshot = if index.published ≤ a.number then a.symbols else index.snapshot) := by
  cases h with
  | take scan => exact Or.inl ⟨fun a => Event.noConfusion, rfl, rfl, rfl⟩
  | advance n scan after does => exact Or.inl ⟨fun a => Event.noConfusion, rfl, rfl, rfl⟩
  | scan n scan symbols does => exact Or.inl ⟨fun a => Event.noConfusion, rfl, rfl, rfl⟩
  | fail n scan e does => exact Or.inl ⟨fun a => Event.noConfusion, rfl, rfl, rfl⟩
  | publish n scan symbols =>
    refine Or.inr ⟨_, rfl, rfl, rfl, rfl, ?_⟩
    show (index.publish n symbols).1 = decide (index.published ≤ n) ∧
      (index.publish n symbols).2.published = max index.published n ∧
      (index.publish n symbols).2.snapshot =
        if index.published ≤ n then symbols else index.snapshot
    unfold SymbolIndex.publish
    by_cases hn : n < index.published
    · rw [if_pos hn, if_neg (by omega)]
      exact ⟨(decide_eq_false (by omega)).symm, (Nat.max_eq_left (Nat.le_of_lt hn)).symm, rfl⟩
    · rw [if_neg hn, if_pos (by omega)]
      exact ⟨(decide_eq_true (by omega)).symm, (Nat.max_eq_right (Nat.le_of_not_lt hn)).symm, rfl⟩

/-- **What a step does to the numbers**: either nothing, or it gives the next number to a rebuild
    that has none. -/
theorem Step.numbers (h : Step scanner s e s') :
    ((∀ n, e ≠ .took n) ∧ s'.index.started = s.index.started ∧
      ∀ j, s'.numberAt j = s.numberAt j) ∨
    (∃ i, e = .took (s.index.started + 1) ∧ s'.index.started = s.index.started + 1 ∧
      s.numberAt i = none ∧
      ∀ j, s'.numberAt j = if j = i then some (s.index.started + 1) else s.numberAt j) := by
  cases h with
  | call scan =>
    refine Or.inl ⟨fun n => Event.noConfusion, rfl, fun j => ?_⟩
    unfold Rebuilding.numberAt
    rcases getElem?_append_called scan j with h | ⟨h, -, h'⟩
    · rw [h]
    · rw [h, h']; rfl
  | move i here does =>
    rcases does.numbers with ⟨hne, hst, hsame⟩ | ⟨he, hst, hnone, hsome⟩
    · refine Or.inl ⟨hne, hst, fun j => ?_⟩
      rw [numberAt_set here, hsame]
      by_cases hj : j = i
      · rw [if_pos hj, hj, numberAt_of_some here]
      · rw [if_neg hj]
    · refine Or.inr ⟨i, he, hst, by rw [numberAt_of_some here, hnone], fun j => ?_⟩
      rw [numberAt_set here, hsome]

/-- **What a step does to the arrivals**: either nothing, and then what the index holds stays, or a
    rebuild that has a number arrives, and its result is held if no higher number is. -/
theorem Step.arrivals (h : Step scanner s e s') :
    ((∀ a, e ≠ .arrived a) ∧ s'.index.published = s.index.published ∧
      s'.index.snapshot = s.index.snapshot ∧ ∀ j, s'.arrivalAt j = s.arrivalAt j) ∨
    (∃ i a, e = .arrived a ∧ s.numberAt i = some a.number ∧ s.arrivalAt i = none ∧
      (∀ j, s'.arrivalAt j = if j = i then some a else s.arrivalAt j) ∧
      a.fresh = decide (s.index.published ≤ a.number) ∧
      s'.index.published = max s.index.published a.number ∧
      s'.index.snapshot =
        if s.index.published ≤ a.number then a.symbols else s.index.snapshot) := by
  cases h with
  | call scan =>
    refine Or.inl ⟨fun a => Event.noConfusion, rfl, rfl, fun j => ?_⟩
    unfold Rebuilding.arrivalAt
    rcases getElem?_append_called scan j with h | ⟨h, -, h'⟩
    · rw [h]
    · rw [h, h']; rfl
  | move i here does =>
    rcases does.arrivals with ⟨hne, hpub, hsnap, hsame⟩ | ⟨a, he, hnum, hnone, hsome, hindex⟩
    · refine Or.inl ⟨hne, hpub, hsnap, fun j => ?_⟩
      rw [arrivalAt_set here, hsame]
      by_cases hj : j = i
      · rw [if_pos hj, hj, arrivalAt_of_some here]
      · rw [if_neg hj]
    · refine Or.inr ⟨i, a, he, by rw [numberAt_of_some here, hnum],
        by rw [arrivalAt_of_some here, hnone], fun j => ?_, hindex⟩
      rw [arrivalAt_set here, hsome]

/-! ## Numbers -/

/-- The numbers up to the last one taken each belong to exactly one rebuild. -/
structure Numbered (s : Rebuilding σ) : Prop where
  bounds : ∀ i n, s.numberAt i = some n → 1 ≤ n ∧ n ≤ s.index.started
  once : ∀ i j n, s.numberAt i = some n → s.numberAt j = some n → i = j
  all : ∀ n, 1 ≤ n → n ≤ s.index.started → ∃ i, s.numberAt i = some n

theorem Numbered.start : Numbered (.fresh options : Rebuilding σ) where
  bounds := by intro i n h; cases h
  once := by intro i j n h; cases h
  all := by
    intro n h1 h2
    have h3 : n ≤ 0 := h2
    omega

theorem Numbered.step (h : Numbered s) (hs : Step scanner s e s') : Numbered s' := by
  rcases hs.numbers with ⟨-, hst, hat⟩ | ⟨i, -, hst, hnone, hat⟩
  · exact ⟨fun j n hj => by rw [hst]; exact h.bounds j n (by rw [← hat]; exact hj),
      fun j k n hj hk => h.once j k n (by rw [← hat]; exact hj) (by rw [← hat]; exact hk),
      fun n h1 h2 => by
        obtain ⟨j, hj⟩ := h.all n h1 (by omega)
        exact ⟨j, by rw [hat]; exact hj⟩⟩
  · -- the new number is above all others
    have new : ∀ j n, s'.numberAt j = some n →
        j = i ∧ n = s.index.started + 1 ∨ j ≠ i ∧ s.numberAt j = some n := by
      intro j n hj
      rw [hat] at hj
      by_cases hji : j = i
      · rw [if_pos hji] at hj
        exact Or.inl ⟨hji, (Option.some.inj hj).symm⟩
      · rw [if_neg hji] at hj
        exact Or.inr ⟨hji, hj⟩
    refine ⟨fun j n hj => ?_, fun j k n hj hk => ?_, fun n h1 h2 => ?_⟩
    · rcases new j n hj with ⟨-, hn⟩ | ⟨-, hj⟩
      · omega
      · have := h.bounds j n hj; omega
    · rcases new j n hj with ⟨hji, hn⟩ | ⟨-, hj⟩ <;> rcases new k n hk with ⟨hki, hn'⟩ | ⟨-, hk⟩
      · rw [hji, hki]
      · have := h.bounds k n hk; omega
      · have := h.bounds j n hj; omega
      · exact h.once j k n hj hk
    · rcases Nat.lt_or_ge s.index.started n with hlt | hle
      · exact ⟨i, by rw [hat, if_pos rfl]; congr 1; omega⟩
      · obtain ⟨j, hj⟩ := h.all n h1 hle
        refine ⟨j, ?_⟩
        rw [hat, if_neg ?_]
        · exact hj
        · rintro rfl
          rw [hnone] at hj; cases hj

/-! ## Arrivals -/

theorem arrivals_append (events : List Event) (e : Event) :
    arrivals (events ++ [e]) = arrivals events ++ arrivals [e] := List.filterMap_append

theorem taken_append (events : List Event) (e : Event) :
    taken (events ++ [e]) = taken events ++ taken [e] := List.filterMap_append

/-- An event that is no arrival adds none. -/
theorem arrivals_singleton_of_ne (h : ∀ a, e ≠ .arrived a) : arrivals [e] = [] := by
  cases e with
  | arrived a => exact absurd rfl (h a)
  | called => rfl
  | took n => rfl
  | advanced n => rfl
  | scanned n => rfl
  | failed n => rfl

theorem taken_singleton_of_ne (h : ∀ n, e ≠ .took n) : taken [e] = [] := by
  cases e with
  | took n => exact absurd rfl (h n)
  | called => rfl
  | arrived a => rfl
  | advanced n => rfl
  | scanned n => rfl
  | failed n => rfl

theorem highest_append (l : List Arrival) (a : Arrival) :
    highest (l ++ [a]) = max (highest l) a.number := by
  unfold highest
  rw [List.map_append, List.foldl_append]; rfl

theorem le_highest {l : List Arrival} {a : Arrival} (h : a ∈ l) : a.number ≤ highest l := by
  induction l using List.reverseRecOn with
  | nil => cases h
  | append_singleton l b ih =>
    rw [highest_append]
    rcases List.mem_append.mp h with h | h
    · have := ih h; omega
    · rw [List.mem_singleton.mp h]; omega

/-- An arrival that came to the index. -/
theorem arrivalAt_number {i : Nat} {a : Arrival} (h : s.arrivalAt i = some a) :
    s.numberAt i = some a.number := by
  unfold Rebuilding.arrivalAt at h
  unfold Rebuilding.numberAt
  rcases hr : s.rebuilds[i]? with _ | r
  · rw [hr] at h; cases h
  · rw [hr] at h
    cases r with
    | ended n scan symbols fresh => cases h; rfl
    | called scan => cases h
    | scanning n scan => cases h
    | scanned n scan symbols => cases h
    | failed n scan => cases h

/-- The arrivals are what the rebuilds that have ended came with, one for each number. -/
structure Recorded (events : List Event) (s : Rebuilding σ) : Prop where
  mem : ∀ a, a ∈ arrivals events ↔ ∃ i, s.arrivalAt i = some a
  once : ∀ a ∈ arrivals events, ∀ b ∈ arrivals events, a.number = b.number → a = b

theorem Recorded.start : Recorded [] (.fresh options : Rebuilding σ) where
  mem := by
    intro a
    constructor
    · intro h; cases h
    · rintro ⟨i, h⟩; cases h
  once := by intro a h; cases h

theorem Recorded.step (hn : Numbered s) (h : Recorded events s) (hs : Step scanner s e s') :
    Recorded (events ++ [e]) s' := by
  rcases hs.arrivals with ⟨hne, -, -, hat⟩ | ⟨i, a, rfl, hnum, hnone, hat, -⟩
  · have same : arrivals (events ++ [e]) = arrivals events := by
      rw [arrivals_append, arrivals_singleton_of_ne hne, List.append_nil]
    refine ⟨fun a => ?_, ?_⟩
    · rw [same, h.mem]
      constructor
      · rintro ⟨j, hj⟩; exact ⟨j, by rw [hat]; exact hj⟩
      · rintro ⟨j, hj⟩; exact ⟨j, by rw [← hat]; exact hj⟩
    · rw [same]; exact h.once
  · have more : ∀ b, b ∈ arrivals (events ++ [.arrived a]) ↔ b ∈ arrivals events ∨ b = a := by
      intro b
      rw [arrivals_append, List.mem_append]
      exact or_congr Iff.rfl List.mem_singleton
    -- the number of the new arrival belongs to the `i`-th rebuild, which had not arrived
    have other : ∀ b ∈ arrivals events, b.number ≠ a.number := by
      intro b hb hba
      obtain ⟨j, hj⟩ := (h.mem b).mp hb
      have hji : j = i := hn.once j i a.number (by rw [← hba]; exact arrivalAt_number hj) hnum
      rw [hji, hnone] at hj; cases hj
    refine ⟨fun b => ?_, fun b hb c hc hbc => ?_⟩
    · rw [more, h.mem]
      constructor
      · rintro (⟨j, hj⟩ | rfl)
        · refine ⟨j, ?_⟩
          rw [hat, if_neg ?_]
          · exact hj
          · rintro rfl
            rw [hnone] at hj; cases hj
        · exact ⟨i, by rw [hat, if_pos rfl]⟩
      · rintro ⟨j, hj⟩
        rw [hat] at hj
        by_cases hji : j = i
        · rw [if_pos hji] at hj
          exact Or.inr (Option.some.inj hj).symm
        · rw [if_neg hji] at hj
          exact Or.inl ⟨j, hj⟩
    · rcases (more b).mp hb with hb' | hb' <;> rcases (more c).mp hc with hc' | hc'
      · exact h.once b hb' c hc' hbc
      · rw [hc'] at hbc; exact absurd hbc (other b hb')
      · rw [hb'] at hbc; exact absurd hbc.symm (other c hc')
      · rw [hb', hc']

/-! ## What the index holds -/

/-- The verdict on each arrival goes by the highest number that arrived before it. -/
def Judged (l : List Arrival) : Prop :=
  ∀ before a after, l = before ++ a :: after → a.fresh = decide (highest before ≤ a.number)

theorem Judged.append {l : List Arrival} {a : Arrival} (h : Judged l)
    (ha : a.fresh = decide (highest l ≤ a.number)) : Judged (l ++ [a]) := by
  intro before b after heq
  rcases List.eq_nil_or_concat after with rfl | ⟨after', c, rfl⟩
  · obtain ⟨hl, hb⟩ := List.append_inj' heq rfl
    rw [← hl, ← (List.cons.inj hb).1]; exact ha
  · rw [List.concat_eq_append, ← List.cons_append, ← List.append_assoc] at heq
    exact h before b after' (List.append_inj' heq rfl).1

theorem Judged.of_append {before after : List Arrival} (h : Judged (before ++ after)) :
    Judged before := by
  intro front b back heq
  exact h front b (back ++ after) (by rw [heq, List.append_assoc, List.cons_append])

/-- The highest number is zero or that of an arrival that was published. -/
theorem Judged.highest_published {l : List Arrival} (h : Judged l) :
    highest l = 0 ∨ ∃ a ∈ l, a.fresh = true ∧ a.number = highest l := by
  induction l using List.reverseRecOn with
  | nil => exact Or.inl rfl
  | append_singleton l a ih =>
    have ha : a.fresh = decide (highest l ≤ a.number) := h l a [] rfl
    rw [highest_append]
    by_cases hle : highest l ≤ a.number
    · refine Or.inr ⟨a, List.mem_append_right _ (List.mem_singleton_self a), ?_, ?_⟩
      · rw [ha]; exact decide_eq_true hle
      · omega
    · rcases ih h.of_append with h0 | ⟨b, hb, hfresh, hnum⟩
      · omega
      · exact Or.inr ⟨b, List.mem_append_left _ hb, hfresh, by omega⟩

/-- **The invariant**: the index holds the result of the highest number that has arrived. -/
structure Settled (events : List Event) (s : Rebuilding σ) : Prop where
  published : s.index.published = highest (arrivals events)
  held : ∀ a ∈ arrivals events, a.number = s.index.published → s.index.snapshot = a.symbols
  empty : arrivals events = [] → s.index.snapshot = []
  judged : Judged (arrivals events)

theorem Settled.start : Settled [] (.fresh options : Rebuilding σ) where
  published := rfl
  held := by intro a h; cases h
  empty := fun _ => rfl
  judged := by
    intro before a after heq
    exact absurd heq (by simp [arrivals])

theorem Settled.step (hr : Recorded (events ++ [e]) s') (h : Settled events s)
    (hs : Step scanner s e s') : Settled (events ++ [e]) s' := by
  rcases hs.arrivals with ⟨hne, hpub, hsnap, -⟩ | ⟨i, a, rfl, -, -, -, hfresh, hpub, hsnap⟩
  · have same : arrivals (events ++ [e]) = arrivals events := by
      rw [arrivals_append, arrivals_singleton_of_ne hne, List.append_nil]
    constructor
    · rw [hpub, same]; exact h.published
    · intro a ha hnum
      rw [same] at ha
      rw [hsnap]; exact h.held a ha (by rw [← hpub]; exact hnum)
    · intro hnil
      rw [same] at hnil
      rw [hsnap]; exact h.empty hnil
    · rw [same]; exact h.judged
  · have more : arrivals (events ++ [.arrived a]) = arrivals events ++ [a] := arrivals_append _ _
    have ha : a ∈ arrivals (events ++ [.arrived a]) := by
      rw [more]; exact List.mem_append_right _ (List.mem_singleton_self a)
    constructor
    · rw [hpub, more, highest_append, h.published]
    · intro b hb hnum
      rw [hsnap]
      by_cases hle : s.index.published ≤ a.number
      · -- `a` is the highest one now, and no other arrival has its number
        have hba : b = a := hr.once b hb a ha (by omega)
        rw [if_pos hle, hba]
      · rw [if_neg hle]
        have hb' : b ∈ arrivals events := by
          rw [more] at hb
          rcases List.mem_append.mp hb with hb | hb
          · exact hb
          · rw [List.mem_singleton.mp hb] at hnum
            omega
        exact h.held b hb' (by omega)
    · intro hnil
      rw [hnil] at ha; cases ha
    · rw [more]
      exact h.judged.append (by rw [hfresh, h.published])

/-! ## Runs -/

theorem Run.numbered (run : Run options events s) : Numbered s := by
  induction run with
  | start => exact Numbered.start
  | step scanner _ hs ih => exact ih.step hs

theorem Run.recorded (run : Run options events s) : Recorded events s := by
  induction run with
  | start => exact Recorded.start
  | step scanner run hs ih => exact Recorded.step run.numbered ih hs

theorem Run.settled (run : Run options events s) : Settled events s := by
  induction run with
  | start => exact Settled.start
  | step scanner run hs ih => exact ih.step (run.step scanner hs).recorded hs

/-- The numbers are handed out one after the other. -/
theorem Run.taken_eq (run : Run options events s) :
    taken events = List.range' 1 s.index.started := by
  induction run with
  | start => rfl
  | @step events s s' e scanner _ hs ih =>
    rw [taken_append, ih]
    rcases hs.numbers with ⟨hne, hst, -⟩ | ⟨i, rfl, hst, -, -⟩
    · rw [taken_singleton_of_ne hne, List.append_nil, hst]
    · rw [hst, List.range'_concat, Nat.one_mul, Nat.add_comm 1]; rfl

/-- What has arrived is the end of a rebuild. -/
theorem arrivalAt_eq_some {i : Nat} {a : Arrival} : s.arrivalAt i = some a ↔
    ∃ scan, s.rebuilds[i]? = some (.ended a.number scan a.symbols a.fresh) := by
  unfold Rebuilding.arrivalAt
  constructor
  · intro h
    rcases hr : s.rebuilds[i]? with _ | r
    · rw [hr] at h; cases h
    · rw [hr] at h
      cases r with
      | ended n scan symbols fresh => cases h; exact ⟨scan, rfl⟩
      | called scan => cases h
      | scanning n scan => cases h
      | scanned n scan symbols => cases h
      | failed n scan => cases h
  · rintro ⟨scan, h⟩
    rw [h]; rfl

/-- All rebuilds have ended, and none has failed. -/
def Quiet (s : Rebuilding σ) : Prop := ∀ r ∈ s.rebuilds, (r.arrival?).isSome

/-- No number is published that has not been taken. -/
theorem Run.published_le (run : Run options events s) : s.index.published ≤ s.index.started := by
  rw [run.settled.published]
  rcases run.settled.judged.highest_published with h0 | ⟨a, ha, -, highest⟩
  · omega
  · obtain ⟨i, hi⟩ := (run.recorded.mem a).mp ha
    rw [← highest]
    exact (run.numbered.bounds i a.number (arrivalAt_number hi)).2

/-- Once all is quiet, every number has arrived, because whoever took it has ended. -/
theorem Run.exists_arrival (run : Run options events s) (quiet : Quiet s) {n : Nat} (h1 : 1 ≤ n)
    (h2 : n ≤ s.index.started) : ∃ a ∈ arrivals events, a.number = n := by
  obtain ⟨i, hi⟩ := run.numbered.all n h1 h2
  obtain ⟨r, hr, hn⟩ := Option.bind_eq_some_iff.mp hi
  obtain ⟨a, ha⟩ := Option.isSome_iff_exists.mp (quiet r (List.mem_of_getElem? hr))
  have hat : s.arrivalAt i = some a := by rw [arrivalAt_of_some hr, ha]
  refine ⟨a, (run.recorded.mem a).mpr ⟨i, hat⟩, ?_⟩
  have hnum := arrivalAt_number hat
  rw [numberAt_of_some hr, hn] at hnum
  exact (Option.some.inj hnum).symm

/-- **Once all is quiet**, the index holds what the rebuild found that took its number last. -/
theorem Run.quiet_snapshot (run : Run options events s) (quiet : Quiet s)
    (some_called : s.rebuilds ≠ []) :
    ∃ (i : Nat) (scan : σ) (fresh : Bool),
      s.rebuilds[i]? = some (.ended s.index.started scan s.index.snapshot fresh) := by
  have started : 1 ≤ s.index.started := by
    obtain ⟨r, hr⟩ := List.exists_mem_of_ne_nil _ some_called
    obtain ⟨i, hi⟩ := List.mem_iff_getElem?.mp hr
    obtain ⟨a, ha⟩ := Option.isSome_iff_exists.mp (quiet r hr)
    have hat : s.arrivalAt i = some a := by rw [arrivalAt_of_some hi, ha]
    have := run.numbered.bounds i _ (arrivalAt_number hat)
    omega
  obtain ⟨a, ha, hnum⟩ := run.exists_arrival quiet started (Nat.le_refl _)
  have top : a.number = s.index.published := by
    have h1 := le_highest ha
    have h2 := run.settled.published
    have h3 := run.published_le
    omega
  obtain ⟨i, hi⟩ := (run.recorded.mem a).mp ha
  obtain ⟨scan, hr⟩ := arrivalAt_eq_some.mp hi
  refine ⟨i, scan, a.fresh, ?_⟩
  rw [hr, hnum, run.settled.held a ha top]

/-- What a whole rebuild leaves of the index. -/
theorem rebuild_index (index : SymbolIndex) (h : Host) (root : String) :
    (∃ e, (index.rebuild h root).2.1 = index.take.2 ∧ (index.rebuild h root).1 = .error e) ∨
    (∃ symbols, (index.rebuild h root).2.1 = (index.take.2.publish index.take.1 symbols).2 ∧
      (index.rebuild h root).1 = .ok (index.take.2.publish index.take.1 symbols).1) := by
  unfold SymbolIndex.rebuild SymbolIndex.start
  dsimp only
  split
  · rename_i e _
    exact Or.inl ⟨e, rfl, rfl⟩
  · rename_i symbols _
    exact Or.inr ⟨symbols, rfl, rfl⟩

/-- A rebuild that no other one comes between is a run of its own, of four steps if its scan ends
    well and of three if not. -/
theorem Run.rebuild (run : Run options events s) (scan : σ) (h : Host) (root : String) :
    ∃ (more : List Event) (s' : Rebuilding σ), Run options (events ++ more) s' ∧
      s'.index = (s.index.rebuild h root).2.1 ∧
      ∀ fresh, (s.index.rebuild h root).1 = .ok fresh ↔
        ∃ a, arrivals more = [a] ∧ a.fresh = fresh := by
  let free : Scanner σ := ⟨fun _ _ => True, fun _ _ => True⟩
  have called := run.step free (.call s scan)
  have here : (s.rebuilds ++ [Rebuild.called scan])[s.rebuilds.length]? = some (.called scan) :=
    List.getElem?_concat_length
  have took := called.step free (.move ⟨s.index, _⟩ s.rebuilds.length here (.take scan))
  have there : ((s.rebuilds ++ [Rebuild.called scan]).set s.rebuilds.length
      (.scanning s.index.take.1 scan))[s.rebuilds.length]? =
        some (.scanning s.index.take.1 scan) := by
    rw [getElem?_set_of_some here, if_pos rfl]
  rcases rebuild_index s.index h root with ⟨e, hi, ha⟩ | ⟨symbols, hi, ha⟩
  · have failed := took.step free (.move ⟨s.index.take.2, _⟩ _ there (.fail _ _ e trivial))
    rw [List.append_assoc, List.append_assoc] at failed
    refine ⟨_, _, failed, hi.symm, fun fresh => ⟨fun hok => ?_, fun ⟨a, hno, _⟩ => ?_⟩⟩
    · rw [ha] at hok; cases hok
    · cases hno
  · have scanned := took.step free (.move ⟨s.index.take.2, _⟩ _ there (.scan _ _ symbols trivial))
    have published := scanned.step free (.move ⟨s.index.take.2, _⟩ s.rebuilds.length
      (by rw [getElem?_set_of_some there, if_pos rfl]) (.publish _ scan symbols))
    rw [List.append_assoc, List.append_assoc, List.append_assoc] at published
    refine ⟨_, _, published, hi.symm, fun fresh => ⟨fun hok => ?_, fun ⟨a, hone, hfresh⟩ => ?_⟩⟩
    · rw [ha] at hok
      exact ⟨_, rfl, Except.ok.inj hok⟩
    · rw [ha, ← hfresh, ← (List.cons.inj hone).1]

end GoWorkbench.SymbolIndex
