/-
  The protocol of numbers that rebuilds of one index follow.

  Rebuilds take numbers in turn and reach the index in any order.  What the index holds then
  depends on which of them have reached it, but not on the order:

  1. the numbers taken are 1, 2, 3, …;
  2. the published number is the highest that has arrived, and the snapshot is what the rebuild
     with that number found;
  3. an arrival is published exactly if nothing with a higher number was published before it;
  4. a scan that fails changes nothing, and a rebuild that has scanned can always publish.

  All of it is read off the invariants of `Overlap`; what is new here is that the verdict on an
  arrival, which the index gives by the published number alone, speaks about the arrivals that
  were published (`Judged.fresh_iff`), and that the highest number of a list of arrivals depends
  on what the list holds and not on its order (`highest_congr`).
-/
import GoWorkbench.Proofs.Index.Overlap

namespace GoWorkbench.SymbolIndex

variable {σ : Type} {options : Scan.Options}

/-- What a rebuild came with, whether it was published or not. -/
def Arrival.found (a : Arrival) : Nat × List Go.Symbol := (a.number, a.symbols)

/-- **The verdict**: an arrival is published exactly if none with a higher number was published
    before it. -/
theorem Judged.fresh_iff {l before after : List Arrival} {a : Arrival} (h : Judged l)
    (heq : l = before ++ a :: after) :
    a.fresh = true ↔ ¬ ∃ b ∈ before, b.fresh = true ∧ a.number < b.number := by
  rw [h before a after heq, decide_eq_true_iff]
  constructor
  · rintro hle ⟨b, hb, -, hlt⟩
    have := le_highest hb
    omega
  · intro hno
    have hbefore : Judged before := by
      rw [heq] at h; exact h.of_append
    rcases hbefore.highest_published with h0 | ⟨b, hb, hfresh, hnum⟩
    · omega
    · rcases Nat.lt_or_ge a.number b.number with hlt | hge
      · exact absurd ⟨b, hb, hfresh, hlt⟩ hno
      · omega

theorem highest_le {l : List Arrival} {m : Nat} (h : ∀ a ∈ l, a.number ≤ m) : highest l ≤ m := by
  induction l using List.reverseRecOn with
  | nil => exact Nat.zero_le m
  | append_singleton l a ih =>
    have hl := ih fun b hb => h b (List.mem_append_left _ hb)
    have ha := h a (List.mem_append_right _ (List.mem_singleton_self a))
    rw [highest_append]
    omega

/-- The highest number depends only on which rebuilds arrived. -/
theorem highest_congr {l l' : List Arrival}
    (h : (l.map Arrival.found).Perm (l'.map Arrival.found)) : highest l = highest l' := by
  have half : ∀ {l l' : List Arrival}, (l.map Arrival.found).Perm (l'.map Arrival.found) →
      highest l ≤ highest l' := by
    intro l l' h
    refine highest_le fun a ha => ?_
    obtain ⟨b, hb, hba⟩ := List.mem_map.mp (h.mem_iff.mp (List.mem_map_of_mem ha))
    rw [← (Prod.mk.inj hba).1]
    exact le_highest hb
  exact Nat.le_antisymm (half h) (half h.symm)

/-- Once anything has arrived, the published number is that of an arrival, and what that one found
    is held. -/
theorem Run.exists_published {events : List Event} {s : Rebuilding σ}
    (run : Run options events s) (some_arrived : arrivals events ≠ []) :
    ∃ a ∈ arrivals events, a.number = s.index.published ∧ s.index.snapshot = a.symbols := by
  have held : ∀ a ∈ arrivals events, a.number = highest (arrivals events) →
      ∃ a ∈ arrivals events, a.number = s.index.published ∧ s.index.snapshot = a.symbols := by
    intro a ha hnum
    have hpub : a.number = s.index.published := by rw [run.settled.published, hnum]
    exact ⟨a, ha, hpub, run.settled.held a ha hpub⟩
  rcases run.settled.judged.highest_published with h0 | ⟨a, ha, -, hnum⟩
  · obtain ⟨a, ha⟩ := List.exists_mem_of_ne_nil _ some_arrived
    have := le_highest ha
    exact held a ha (by omega)
  · exact held a ha hnum

/-- The order in which the same rebuilds arrive does not matter for what is held at last. -/
theorem Run.index_congr {events events' : List Event} {s s' : Rebuilding σ}
    (run : Run options events s) (run' : Run options events' s')
    (same : ((arrivals events).map Arrival.found).Perm ((arrivals events').map Arrival.found)) :
    s'.index.published = s.index.published ∧ s'.index.snapshot = s.index.snapshot := by
  have hpub : s'.index.published = s.index.published := by
    rw [run.settled.published, run'.settled.published, highest_congr same]
  refine ⟨hpub, ?_⟩
  by_cases hnil : arrivals events = []
  · have hnil' : arrivals events' = [] := by
      rw [hnil, List.map_nil, List.nil_perm] at same
      exact List.map_eq_nil_iff.mp same
    rw [run.settled.empty hnil, run'.settled.empty hnil']
  · obtain ⟨a, ha, hnum, hsnap⟩ := run.exists_published hnil
    obtain ⟨b, hb, hba⟩ := List.mem_map.mp (same.mem_iff.mp (List.mem_map_of_mem ha))
    obtain ⟨hn, hs⟩ := Prod.mk.inj hba
    rw [hsnap, run'.settled.held b hb (by omega), hs]

/-- A scan that fails leaves what the index holds, and every other rebuild, as they were. -/
theorem Step.of_failed {scanner : Scanner σ} {s s' : Rebuilding σ} {n : Nat}
    (h : Step scanner s (.failed n) s') :
    s'.index = s.index ∧
      ∀ i, s.numberAt i ≠ some n → s'.rebuilds[i]? = s.rebuilds[i]? := by
  cases h with
  | move i here does => cases does with
    | fail n scan f does =>
      refine ⟨rfl, fun j hj => ?_⟩
      show (s.rebuilds.set i (.failed n scan))[j]? = s.rebuilds[j]?
      rw [getElem?_set_of_some here]
      by_cases hji : j = i
      · subst hji
        exact absurd (numberAt_of_some here) hj
      · rw [if_neg hji]

/-- A rebuild that has scanned can publish next, whatever the others have done. -/
theorem exists_step_publish {s : Rebuilding σ} {i n : Nat} {scan : σ} {symbols : List Go.Symbol}
    (here : s.rebuilds[i]? = some (.scanned n scan symbols)) :
    ∃ (fresh : Bool) (s' : Rebuilding σ), s'.arrivalAt i = some ⟨n, symbols, fresh⟩ ∧
      ∀ scanner, Step scanner s (.arrived ⟨n, symbols, fresh⟩) s' := by
  refine ⟨_, _, ?_, fun scanner => .move s i here (.publish n scan symbols)⟩
  rw [arrivalAt_set here, if_pos rfl]; rfl

/-- **The protocol of numbers**, for every run of any number of rebuilds. -/
theorem generation_protocol {events : List Event} {s : Rebuilding σ}
    (run : Run options events s) :
    -- the numbers are 1, 2, 3, … in the order of taking
    taken events = List.range' 1 (taken events).length ∧
    -- the index holds the highest number that has arrived, and what it found
    s.index.published = highest (arrivals events) ∧
    (arrivals events = [] → s.index.snapshot = []) ∧
    (arrivals events ≠ [] →
      ∃ a ∈ arrivals events, a.number = s.index.published ∧ s.index.snapshot = a.symbols) ∧
    (∀ a ∈ arrivals events, ∀ b ∈ arrivals events, a.number = b.number → a = b) ∧
    -- the verdicts
    (∀ before a after, arrivals events = before ++ a :: after →
      (a.fresh = true ↔ ¬ ∃ b ∈ before, b.fresh = true ∧ a.number < b.number)) ∧
    -- failures change nothing and hold nobody up
    (∀ scanner n s', Step scanner s (.failed n) s' → s'.index = s.index ∧
      ∀ i, s.numberAt i ≠ some n → s'.rebuilds[i]? = s.rebuilds[i]?) ∧
    (∀ i n scan symbols, s.rebuilds[i]? = some (.scanned n scan symbols) →
      ∃ (fresh : Bool) (s' : Rebuilding σ), s'.arrivalAt i = some ⟨n, symbols, fresh⟩ ∧
        ∀ scanner, Step scanner s (.arrived ⟨n, symbols, fresh⟩) s') ∧
    -- the order of arrival does not matter
    (∀ (events' : List Event) (s' : Rebuilding σ), Run options events' s' →
      ((arrivals events).map Arrival.found).Perm ((arrivals events').map Arrival.found) →
      s'.index.published = s.index.published ∧ s'.index.snapshot = s.index.snapshot) := by
  have numbers : (taken events).length = s.index.started := by
    rw [run.taken_eq, List.length_range']
  refine ⟨?_, run.settled.published, run.settled.empty, run.exists_published,
    run.recorded.once, ?_, ?_, ?_, ?_⟩
  · rw [numbers]; exact run.taken_eq
  · intro before a after heq
    exact run.settled.judged.fresh_iff heq
  · intro scanner n s' failed
    exact failed.of_failed
  · intro i n scan symbols here
    exact exists_step_publish here
  · intro events' s' run' same
    exact run.index_congr run' same

/-! A run in which the second of three rebuilds overtakes the first, and the third one fails. -/

/-- A scan that may find anything. -/
def anything : Scanner Unit := ⟨fun _ _ => True, fun _ _ => True⟩

def newer : Go.Symbol := ⟨"Fresh", .function, "/w/new.go", 3, 6⟩

def older : Go.Symbol := ⟨"Stale", .function, "/w/old.go", 3, 6⟩

def overtaking : List Event := [.called, .called, .called, .took 1, .took 2, .took 3,
  .scanned 2, .arrived ⟨2, [newer], true⟩, .failed 3, .scanned 1, .arrived ⟨1, [older], false⟩]

def overtaken : Rebuilding Unit :=
  ⟨{ options := {}, started := 3, published := 2, snapshot := [newer] },
    [.ended 1 () [older] false, .ended 2 () [newer] true, .failed 3 ()]⟩

theorem overtaking_run : Run {} overtaking overtaken := by
  have none_called : Run {} [] (Rebuilding.fresh {} : Rebuilding Unit) := .start
  have called := ((none_called.step anything (.call _ ())).step anything (.call _ ())).step anything
    (.call _ ())
  have took := ((called.step anything (.move _ 0 rfl (.take ()))).step anything
    (.move _ 1 rfl (.take ()))).step anything (.move _ 2 rfl (.take ()))
  have second := (took.step anything (.move _ 1 rfl (.scan 2 () [newer] trivial))).step anything
    (.move _ 1 rfl (.publish 2 () [newer]))
  have third := second.step anything (.move _ 2 rfl (.fail 3 () .homeless trivial))
  exact (third.step anything (.move _ 0 rfl (.scan 1 () [older] trivial))).step anything
    (.move _ 0 rfl (.publish 1 () [older]))

theorem generation_protocol_overtaking : Run {} overtaking overtaken ∧
    overtaken.index.published = highest (arrivals overtaking) ∧
    ∃ a ∈ arrivals overtaking, a.number = 2 ∧ overtaken.index.snapshot = a.symbols :=
  ⟨overtaking_run, (generation_protocol overtaking_run).2.1,
    (generation_protocol overtaking_run).2.2.2.1 (by decide)⟩

end GoWorkbench.SymbolIndex
