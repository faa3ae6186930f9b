/-
  What a TOML document holds.

  A document has no word for null, and no table of it has a key twice: entries are only ever set by
  `Value.set`, which keeps a key where it is.

  1. **Definite values** — nothing is null, and no table has a key twice (`Definite`).
  2. **Changes** — a change below some keys keeps that if it keeps it where it happens
     (`keeps_inTable`).
  3. **Documents** — so does everything that a statement does (`Document.defines_add`).
-/
import GoWorkbench.Toml.Document

namespace GoWorkbench.Toml

/-! ## Definite values -/

/-- Nothing in the value is null, and no table in it has a key twice. -/
inductive Definite : Value → Prop
  | bool (b : Bool) : Definite (.bool b)
  | integer (n : Int) : Definite (.integer n)
  | real (x : Binary64) : Definite (.real x)
  | text (s : String) : Definite (.text s)
  | moment : Definite .moment
  | list {items : List Value} (each : ∀ v ∈ items, Definite v) : Definite (.list items)
  | table {entries : Entries} (distinct : (entries.map (·.1)).Nodup)
      (each : ∀ e ∈ entries, Definite e.2) : Definite (.table entries)

/-- The same of the entries of a table. -/
def Defines (entries : Entries) : Prop := Definite (.table entries)

theorem defines_nil : Defines [] := .table List.nodup_nil fun _ h => absurd h List.not_mem_nil

theorem Defines.distinct {entries : Entries} (defines : Defines entries) :
    (entries.map (·.1)).Nodup := by
  cases defines with
  | table distinct each => exact distinct

theorem Defines.each {entries : Entries} (defines : Defines entries) :
    ∀ e ∈ entries, Definite e.2 := by
  cases defines with
  | table distinct each => exact each

theorem Definite.items {items : List Value} (definite : Definite (.list items)) :
    ∀ v ∈ items, Definite v := by
  cases definite with
  | list each => exact each

theorem mem_of_get? {key : String} {v : Value} {entries : Entries}
    (h : Value.get? key entries = some v) : (key, v) ∈ entries := by
  induction entries with
  | nil => cases h
  | cons e entries ih =>
    obtain ⟨k, w⟩ := e
    rw [Value.get?, List.lookup_cons] at h
    split at h
    · rename_i same
      cases h
      rw [eq_of_beq same]
      exact List.mem_cons_self
    · exact List.mem_cons_of_mem _ (ih h)

theorem Defines.get? {key : String} {v : Value} {entries : Entries} (defines : Defines entries)
    (h : Value.get? key entries = some v) : Definite v := defines.each _ (mem_of_get? h)

theorem keys_set (key : String) (v : Value) (entries : Entries) :
    (Value.set key v entries).map (·.1) =
      if key ∈ entries.map (·.1) then entries.map (·.1) else entries.map (·.1) ++ [key] := by
  induction entries with
  | nil => rfl
  | cons e entries ih =>
    obtain ⟨k, w⟩ := e
    rw [Value.set]
    by_cases same : k = key
    · subst same
      simp
    · rw [if_neg same, List.map_cons, ih]
      simp only [List.map_cons, List.mem_cons, Ne.symm same, false_or]
      split <;> rfl

theorem mem_set {e : String × Value} {key : String} {v : Value} {entries : Entries}
    (h : e ∈ Value.set key v entries) : e = (key, v) ∨ e ∈ entries := by
  induction entries with
  | nil => exact .inl (List.mem_singleton.mp h)
  | cons first entries ih =>
    obtain ⟨k, w⟩ := first
    rw [Value.set] at h
    split at h
    · exact (List.mem_cons.mp h).imp_right (List.mem_cons_of_mem _)
    · obtain rfl | later := List.mem_cons.mp h
      · exact .inr List.mem_cons_self
      · exact (ih later).imp_right (List.mem_cons_of_mem _)

theorem Defines.set {entries : Entries} (defines : Defines entries) (key : String) {v : Value}
    (definite : Definite v) : Defines (Value.set key v entries) := by
  refine .table ?_ ?_
  · rw [keys_set]
    split
    · exact defines.distinct
    · rename_i new
      have single : [key].Nodup := List.nodup_cons.mpr ⟨List.not_mem_nil, List.nodup_nil⟩
      exact List.nodup_append.mpr ⟨defines.distinct, single, fun k listed k' is => by
        rintro rfl
        exact new (List.mem_singleton.mp is ▸ listed)⟩
  · intro e listed
    obtain rfl | listed := mem_set listed
    · exact definite
    · exact defines.each e listed

/-! ## Changes -/

/-- A change of a table that leaves nothing indefinite. -/
def Keeps (change : Entries → Option Entries) : Prop :=
  ∀ {entries after}, Defines entries → change entries = some after → Defines after

theorem keeps_inTable {change : Entries → Option Entries} (keeps : Keeps change) (key : Key) :
    Keeps (inTable change key) := by
  induction key with
  | nil => exact keeps
  | cons k key ih =>
    intro entries after defines changed
    rw [inTable] at changed
    split at changed
    · obtain ⟨inner, made, rfl⟩ := Option.map_eq_some_iff.mp changed
      exact defines.set k (ih defines_nil made)
    · rename_i inner found
      obtain ⟨inner, made, rfl⟩ := Option.map_eq_some_iff.mp changed
      exact defines.set k (ih (defines.get? found) made)
    · rename_i items found
      have each := (defines.get? found).items
      split at changed
      · -- the key goes on in the last table of the list
        rename_i last is_last
        obtain ⟨inner, made, rfl⟩ := Option.map_eq_some_iff.mp changed
        have definite : Definite (.table last) := each _ (List.mem_of_getLast? is_last)
        refine defines.set k (.list fun v listed => ?_)
        rcases List.mem_append.mp listed with before | is
        · exact each v ((List.dropLast_sublist items).subset before)
        · rw [List.mem_singleton.mp is]
          exact ih definite made
      · cases changed
    · cases changed

theorem keeps_addNew (key : String) {v : Value} (definite : Definite v) : Keeps (addNew key v) := by
  intro entries after defines changed
  unfold addNew at changed
  split at changed
  · cases changed
  · cases changed
    exact defines.set key definite

theorem keeps_addElement (key : String) : Keeps (addElement key) := by
  intro entries after defines changed
  unfold addElement at changed
  split at changed
  · cases changed
    refine defines.set key (.list fun v listed => ?_)
    rw [List.mem_singleton.mp listed]
    exact defines_nil
  · rename_i items found
    cases changed
    refine defines.set key (.list fun v listed => ?_)
    rcases List.mem_append.mp listed with before | is
    · exact (defines.get? found).items v before
    · rw [List.mem_singleton.mp is]
      exact defines_nil
  · cases changed

/-! ## Documents -/

namespace Document

variable {d after : Document} {key : Key}

theorem defines_openTable (defines : Defines d.entries) (opened : d.openTable key = some after) :
    Defines after.entries := by
  unfold openTable at opened
  dsimp only at opened
  split at opened
  · cases opened
  · obtain ⟨entries, made, rfl⟩ := Option.map_eq_some_iff.mp opened
    have keeps : Keeps some := by
      intro entries after defines same
      cases same
      exact defines
    exact keeps_inTable keeps key defines made

theorem defines_openElement (defines : Defines d.entries) (opened : d.openElement key = some after) :
    Defines after.entries := by
  unfold openElement at opened
  dsimp only at opened
  split at opened
  · cases opened
  · obtain ⟨entries, made, rfl⟩ := Option.map_eq_some_iff.mp opened
    refine keeps_inTable ?_ key.dropLast defines made
    intro entries after defines changed
    split at changed
    · exact keeps_addElement _ defines changed
    · cases changed

theorem defines_add {v : Value} (defines : Defines d.entries) (definite : Definite v)
    (added : d.add key v = some after) : Defines after.entries := by
  unfold add at added
  dsimp only at added
  split at added
  · cases added
  · split at added
    · cases added
    · obtain ⟨entries, made, rfl⟩ := Option.map_eq_some_iff.mp added
      exact keeps_inTable (keeps_addNew _ definite) _ defines made

theorem defines_addInline {v : Value} (defines : Defines d.entries) (definite : Definite v)
    (added : d.addInline key v = some after) : Defines after.entries := by
  unfold addInline at added
  split at added
  · cases added
  · split at added
    · cases added
    · obtain ⟨entries, made, rfl⟩ := Option.map_eq_some_iff.mp added
      exact keeps_inTable (keeps_addNew _ definite) _ defines made

end Document

end GoWorkbench.Toml
