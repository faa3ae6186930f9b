/-
  The files of runs that overlap.

  1. **Sources** — what it means that the code of a run is in its file, and stays there while other
     files change (`Holds.spared`).
  2. **Lodging** — each run has its code in a file of its own, and at all other places is what
     others have put there (`Lodged`).
  3. **Changes** — a child (`Lodged.child`), a new source (`Lodged.gain`), a beginning of one
     (`Lodged.begin`) and a scratch file that goes (`Lodged.lose`) leave the files of the other runs
     alone.
-/
import GoWorkbench.Proofs.Service.Overlapping
import GoWorkbench.Proofs.Service.Scratch

namespace GoWorkbench

open Entry FileSystem Service

namespace Flights

variable {ι : Type} {jobs : ι → RunJob} {faults : ι → Option Breach} {fs fs' : FileSystem}
  {source other : Source} {sources : ι → Option Source} {beside : List String → Option Entry}
  {place place' : List String} {data data' : List UInt8} {i j : ι}

/-! ## Sources -/

/-- How the file of a source is looked for: a scratch file is no link. -/
def purposeOf (source : Source) : Purpose := if source.isScratch then .lookAtLink else .look

/-- The bytes are in the file of the source, which is at the place. -/
def Holds (fs : FileSystem) (source : Source) (place : List String) (data : List UInt8) : Prop :=
  ∃ executable, fs.reach (purposeOf source) source.file =
    .ok (.object ⟨place, 0⟩ (.file data executable))

theorem Holds.find (h : Holds fs source place data) :
    ∃ executable, fs.find source.file = .ok (⟨place, 0⟩, .file data executable) := by
  obtain ⟨executable, reaches⟩ := h
  refine ⟨executable, ?_⟩
  unfold FileSystem.find
  rw [reach_of_file (fun h : Purpose.look = .lookAtLink => Purpose.noConfusion h) reaches]

theorem Holds.read (h : Holds fs source place data) : fs.read source.file = .ok data := by
  obtain ⟨executable, found⟩ := h.find
  unfold FileSystem.read
  rw [found]

/-- A source is at one place. -/
theorem Holds.place_unique (h : Holds fs source place data) {entry : Entry}
    (found : fs.find source.file = .ok (⟨place', 0⟩, entry)) : place' = place := by
  obtain ⟨executable, found'⟩ := h.find
  rw [found] at found'
  cases found'
  rfl

/-- **Sources**: a file elsewhere may change. -/
theorem Holds.spared {spot : List String} (h : Holds fs source place data)
    (same : SameBut spot fs fs') (elsewhere : place ≠ spot) : Holds fs' source place data := by
  obtain ⟨executable, reaches⟩ := h
  exact ⟨executable, reach_spared same elsewhere reaches⟩

/-- Two sources are apart just if they are at different places. -/
theorem apart_iff (h : Holds fs source place data) (h' : Holds fs other place' data') :
    Apart fs source.file other.file ↔ place ≠ place' := by
  constructor
  · rintro apart rfl
    obtain ⟨_, found⟩ := h.find
    obtain ⟨_, found'⟩ := h'.find
    exact apart _ _ _ found found'
  · intro ne location entry entry' found found'
    obtain ⟨_, is⟩ := h.find
    obtain ⟨_, is'⟩ := h'.find
    rw [is] at found
    rw [is'] at found'
    cases found
    cases found'
    exact ne rfl

/-- Sources that stay where they are stay apart. -/
theorem Holds.apart (was : Holds fs source place data) (was' : Holds fs other place' data')
    (is : Holds fs' source place data) (is' : Holds fs' other place' data')
    (apart : Apart fs source.file other.file) : Apart fs' source.file other.file :=
  (apart_iff is is').mpr ((apart_iff was was').mp apart)

/-- Where a source was there is one, if it stays where it is. -/
theorem Holds.taken (was : Holds fs source place data) (is : Holds fs' source place data)
    {entry : Entry} (found : fs.find source.file = .ok (⟨place', 0⟩, entry)) :
    ∃ entry', fs'.find source.file = .ok (⟨place', 0⟩, entry') := by
  obtain rfl := was.place_unique found
  obtain ⟨executable, found'⟩ := is.find
  exact ⟨_, found'⟩

/-! ## Lodging -/

/-- Each run has its code in a file of its own, or what has been written of it before that was broken
    off.  A scratch file is where nothing else would be, and at all other places is what others have
    put there. -/
structure Lodged (jobs : ι → RunJob) (faults : ι → Option Breach) (sources : ι → Option Source)
    (beside : List String → Option Entry) (fs : FileSystem) : Prop where
  orderly : fs.Orderly
  held : ∀ i source, sources i = some source → ∃ data place,
    (jobs i).code.encode = .ok data ∧ Holds fs source place (Breach.kept (faults i) data) ∧
      (source.isScratch = true → beside place = none)
  apart : ∀ i j source other, i ≠ j → sources i = some source → sources j = some other →
    Apart fs source.file other.file
  rest : ∀ place, ¬ Taken sources fs place → leafAt place fs.entries = beside place

theorem Lodged.start (orderly : fs.Orderly) :
    Lodged jobs faults (fun _ => none) (fun place => leafAt place fs.entries) fs where
  orderly := orderly
  held := fun _ _ h => nomatch h
  apart := fun _ _ _ _ _ h => nomatch h
  rest := fun _ _ => rfl

/-! ## Changes -/

/-- A child changes other files. -/
theorem Lodged.child {beside' : List String → Option Entry}
    (lodged : Lodged jobs faults sources beside fs) (orderly : fs'.Orderly)
    (spares : ∀ i source, sources i = some source → ∀ purpose,
      fs'.reach purpose source.file = fs.reach purpose source.file)
    (taken : ∀ place, Taken sources fs place → beside' place = beside place)
    (free : ∀ place, ¬ Taken sources fs place → beside' place = leafAt place fs'.entries) :
    Lodged jobs faults sources beside' fs' := by
  have finds : ∀ i source, sources i = some source → fs'.find source.file = fs.find source.file :=
    fun i source has => by
      unfold FileSystem.find
      rw [spares i source has]
  refine ⟨orderly, fun i source has => ?_, fun i j a b ne has has' => ?_, fun place untaken => ?_⟩
  · obtain ⟨data, place, encodes, holds, alone⟩ := lodged.held i source has
    obtain ⟨_, found⟩ := holds.find
    refine ⟨data, place, encodes, ?_, fun scratch => ?_⟩
    · obtain ⟨executable, reaches⟩ := holds
      exact ⟨executable, (spares i source has _).trans reaches⟩
    · rw [taken place ⟨i, source, _, has, found⟩]
      exact alone scratch
  · have apart := lodged.apart i j a b ne has has'
    unfold FileSystem.Apart at apart ⊢
    rw [finds i a has, finds j b has']
    exact apart
  · refine (free place ?_).symm
    rintro ⟨i, source, entry, has, found⟩
    exact untaken ⟨i, source, entry, has, (finds i source has).trans found⟩

/-- A source stays where it is when a file elsewhere changes. -/
theorem Lodged.stays (lodged : Lodged jobs faults sources beside fs) (same : SameBut place fs fs')
    (has : sources i = some source)
    (elsewhere : ∀ place' data', Holds fs source place' data' → place' ≠ place) :
    ∃ data' place', (jobs i).code.encode = .ok data' ∧
      Holds fs source place' (Breach.kept (faults i) data') ∧
      Holds fs' source place' (Breach.kept (faults i) data') ∧ place' ≠ place ∧
        (source.isScratch = true → beside place' = none) := by
  obtain ⟨data', place', encodes, holds, alone⟩ := lodged.held i source has
  have ne := elsewhere place' _ holds
  exact ⟨data', place', encodes, holds, holds.spared same ne, ne, alone⟩

/-- A run begins to write a file where no source is. -/
theorem Lodged.begin {entry : Entry}
    (lodged : Lodged jobs faults sources beside fs) (same : SameBut place fs fs')
    (orderly : fs'.Orderly) (found : leafAt place fs'.entries = some entry)
    (elsewhere : ∀ j other place' data', sources j = some other →
      Holds fs other place' data' → place' ≠ place) :
    Lodged jobs faults sources (Function.update beside place (some entry)) fs' := by
  have others := fun j other (has : sources j = some other) =>
    lodged.stays same has fun place' data' => elsewhere j other place' data' has
  refine ⟨orderly, fun j other has => ?_, fun j k a b ne has has' => ?_, fun place' untaken => ?_⟩
  · obtain ⟨data', place', encodes', -, is, away, alone⟩ := others j other has
    exact ⟨data', place', encodes', is, fun scratch =>
      (Function.update_of_ne away ..).trans (alone scratch)⟩
  · obtain ⟨_, _, -, was, is, -, -⟩ := others j a has
    obtain ⟨_, _, -, was', is', -, -⟩ := others k b has'
    exact was.apart was' is is' (lodged.apart j k a b ne has has')
  · by_cases there : place' = place
    · -- what has been begun is there
      rw [there, Function.update_self]
      exact found
    · rw [Function.update_of_ne there, same.leaves place' there]
      refine lodged.rest place' ?_
      rintro ⟨j, other, entry, has, found⟩
      obtain ⟨_, _, -, was, is, -, -⟩ := others j other has
      obtain ⟨entry', found'⟩ := was.taken is found
      exact untaken ⟨j, other, entry', has, found'⟩

variable [DecidableEq ι]

/-- A run stores its code in a file where no source is. -/
theorem Lodged.gain (lodged : Lodged jobs faults sources beside fs) (idle : sources i = none)
    (same : SameBut place fs fs') (orderly : fs'.Orderly)
    (encodes : (jobs i).code.encode = .ok data)
    (holds : Holds fs' source place (Breach.kept (faults i) data))
    (elsewhere : ∀ j other place' data', sources j = some other →
      Holds fs other place' data' → place' ≠ place)
    (free : source.isScratch = true → leafAt place fs.entries = none) :
    Lodged jobs faults (Function.update sources i (some source)) beside fs' := by
  have others := fun j other (has : sources j = some other) =>
    lodged.stays same has fun place' data' => elsewhere j other place' data' has
  -- Nothing was lodged at the place: the files of the others stay where they were, and that is
  -- elsewhere.
  have not_taken : ¬ Taken sources fs place := by
    rintro ⟨j, other, entry, has, found⟩
    obtain ⟨_, place', -, was, -, ne, -⟩ := others j other has
    exact ne (was.place_unique found).symm
  refine ⟨orderly, fun j other has => ?_, fun j k a b ne has has' => ?_, fun place' untaken => ?_⟩
  · by_cases own : j = i
    · subst own
      rw [Function.update_self] at has
      cases has
      exact ⟨data, place, encodes, holds, fun scratch =>
        (lodged.rest place not_taken).symm.trans (free scratch)⟩
    · rw [Function.update_of_ne own] at has
      obtain ⟨data', place', encodes', -, is, -, alone⟩ := others j other has
      exact ⟨data', place', encodes', is, alone⟩
  · -- the new source is elsewhere, and of the others none has moved
    by_cases own : j = i
    · subst own
      rw [Function.update_self] at has
      rw [Function.update_of_ne ne.symm] at has'
      cases has
      obtain ⟨_, _, -, -, is, away, -⟩ := others k b has'
      exact (apart_iff holds is).mpr away.symm
    · rw [Function.update_of_ne own] at has
      obtain ⟨_, _, -, was, is, away, -⟩ := others j a has
      by_cases own' : k = i
      · subst own'
        rw [Function.update_self] at has'
        cases has'
        exact (apart_iff is holds).mpr away
      · rw [Function.update_of_ne own'] at has'
        obtain ⟨_, _, -, was', is', -, -⟩ := others k b has'
        exact was.apart was' is is' (lodged.apart j k a b ne has has')
  · have other_place : place' ≠ place := by
      rintro rfl
      obtain ⟨_, found⟩ := holds.find
      exact untaken ⟨i, source, _, Function.update_self .., found⟩
    rw [same.leaves place' other_place]
    refine lodged.rest place' ?_
    rintro ⟨j, other, entry, has, found⟩
    obtain ⟨_, _, -, was, is, -, -⟩ := others j other has
    obtain ⟨entry', found'⟩ := was.taken is found
    have own : j ≠ i := by
      rintro rfl
      rw [idle] at has
      cases has
    exact untaken ⟨j, other, entry', by rw [Function.update_of_ne own]; exact has, found'⟩

/-- A scratch file goes. -/
theorem Lodged.lose (lodged : Lodged jobs faults sources beside fs) (here : sources i = some source)
    (scratch : source.isScratch = true) (holds : Holds fs source place data)
    (same : SameBut place fs fs') (orderly : fs'.Orderly)
    (gone : Entry.at? place fs'.entries = none) :
    Lodged jobs faults (Function.update sources i none) beside fs' := by
  have others := fun j other (ne : j ≠ i) (has : sources j = some other) =>
    lodged.stays same has fun _ _ was =>
      (apart_iff was holds).mp (lodged.apart j i other source ne has here)
  have remain : ∀ j other, Function.update sources i none j = some other →
      j ≠ i ∧ sources j = some other := by
    intro j other has
    by_cases own : j = i
    · rw [own, Function.update_self] at has
      cases has
    · rw [Function.update_of_ne own] at has
      exact ⟨own, has⟩
  refine ⟨orderly, fun j other has => ?_, fun j k a b ne has has' => ?_, fun place' untaken => ?_⟩
  · obtain ⟨own, has⟩ := remain j other has
    obtain ⟨data', place', encodes', -, is, -, alone⟩ := others j other own has
    exact ⟨data', place', encodes', is, alone⟩
  · obtain ⟨own, has⟩ := remain j a has
    obtain ⟨own', has'⟩ := remain k b has'
    obtain ⟨_, _, -, was, is, -, -⟩ := others j a own has
    obtain ⟨_, _, -, was', is', -, -⟩ := others k b own' has'
    exact was.apart was' is is' (lodged.apart j k a b ne has has')
  · by_cases there : place' = place
    · -- where the scratch file was there is nothing, as there would have been
      obtain ⟨_, _, -, was, alone⟩ := lodged.held i source here
      obtain ⟨_, found⟩ := holds.find
      obtain rfl := was.place_unique found
      rw [there, alone scratch]
      unfold leafAt
      rw [gone]
    · rw [same.leaves place' there]
      refine lodged.rest place' ?_
      rintro ⟨j, other, entry, has, found⟩
      have own : j ≠ i := by
        rintro rfl
        rw [here] at has
        cases has
        exact there (holds.place_unique found)
      obtain ⟨_, _, -, was, is, -, -⟩ := others j other own has
      obtain ⟨entry', found'⟩ := was.taken is found
      exact untaken ⟨j, other, entry', by rw [Function.update_of_ne own]; exact has, found'⟩

end Flights

end GoWorkbench
