/-
  Trees of entries, looked at from their top.

  1. **Looking** — `Entry.at?` along a path and its continuation.
  2. **Proper trees** — in every directory of a proper tree each entry has a name that can be a
     name, and no other entry has it.  So being an entry and being found by name are one
     (`Proper.mem_iff`), and sorting by name puts one strictly after the other
     (`pairwise_mergeSort_lt`).
  3. **Leaves and directories** — what matters of a tree to those who read files in it: what is at
     the end of each path that is no directory (`leafAt`), and where directories are (`dirAt`).
  4. **Changes** — putting and erasing an entry change the leaf at one place only, and no
     directory (`Replaced`).
-/
import GoWorkbench.FileSystem.Basic

namespace GoWorkbench.Entry

variable {name : String} {entry : Entry} {route : List String}
  {entries inner rest : List (String × Entry)}

/-! ## Looking -/

theorem child?_cons (name other : String) (entry : Entry) (rest : List (String × Entry)) :
    child? name ((other, entry) :: rest) =
      if other = name then some entry else child? name rest := by
  show List.lookup name ((other, entry) :: rest) = _
  rw [List.lookup_cons]
  by_cases h : other = name
  · subst h
    rw [if_pos rfl, beq_self_eq_true]
  · have hne : (name == other) = false := beq_eq_false_iff_ne.mpr fun he => h he.symm
    rw [if_neg h, hne]; rfl

theorem child?_nil : child? name [] = none := rfl

/-- What is found is there. -/
theorem mem_of_child? (h : child? name entries = some entry) : (name, entry) ∈ entries := by
  induction entries with
  | nil => cases h
  | cons head rest ih =>
    obtain ⟨other, e⟩ := head
    rw [child?_cons] at h
    split at h
    · rename_i heq
      rw [heq, Option.some.inj h]
      exact List.mem_cons_self
    · exact List.mem_cons_of_mem _ (ih h)

theorem at?_nil : at? [] entries = some (.directory entries) := by
  unfold at?; rfl

/-- Only directories are gone through. -/
theorem at?_cons (name : String) (route : List String) (entries : List (String × Entry)) :
    at? (name :: route) entries = match child? name entries with
      | some (.directory inner) => at? route inner
      | some entry => if route = [] then some entry else none
      | none => none := by
  cases route with
  | nil =>
    show child? name entries = _
    rcases child? name entries with _ | _ | _ | inner
    · rfl
    · rfl
    · rfl
    · show _ = at? [] inner
      rw [at?_nil]
  | cons next route =>
    rw [at?]
    · rcases child? name entries with _ | _ | _ | inner <;> rfl
    · intro h; cases h

theorem at?_singleton (name : String) (entries : List (String × Entry)) :
    at? [name] entries = child? name entries := rfl

/-- A longer path goes on where the shorter one ends. -/
theorem at?_append (before : List String) {after : List String} (h : after ≠ [])
    (entries : List (String × Entry)) :
    at? (before ++ after) entries = match at? before entries with
      | some (.directory inner) => at? after inner
      | _ => none := by
  induction before generalizing entries with
  | nil => rw [List.nil_append, at?_nil]
  | cons name before ih =>
    rw [List.cons_append, at?_cons, at?_cons]
    have hne : before ++ after ≠ [] := by
      intro he
      exact h (List.append_eq_nil_iff.mp he).2
    rcases child? name entries with _ | ⟨data, executable⟩ | target | inner
    · rfl
    · by_cases hb : before = [] <;> simp [hb, h]
    · by_cases hb : before = [] <;> simp [hb, h]
    · exact ih inner

/-- Whatever is below a directory is in a directory. -/
theorem dirAt_of_at?_append {before after : List String} (h : after ≠ [])
    (found : at? (before ++ after) entries = some entry) :
    ∃ inner, at? before entries = some (.directory inner) := by
  rw [at?_append before h] at found
  split at found
  · rename_i inner hinner
    exact ⟨inner, hinner⟩
  · cases found

/-- In an empty directory nothing is found. -/
theorem at?_of_empty (h : route ≠ []) : at? route [] = none := by
  obtain ⟨name, more, rfl⟩ := List.exists_cons_of_ne_nil h
  rw [at?_cons, child?_nil]

/-! ## Proper trees -/

/-- What the name of an entry can be. -/
def IsName (name : String) : Prop :=
  name ≠ "" ∧ name ≠ "." ∧ name ≠ ".." ∧ '/' ∉ name.toList ∧ '\x00' ∉ name.toList

instance (name : String) : Decidable (IsName name) := by
  unfold IsName; infer_instance

/-- Every entry has a name of its own, in the directory and in all that it holds. -/
def Proper : List (String × Entry) → Prop
  | [] => True
  | (name, .directory inner) :: rest =>
    IsName name ∧ name ∉ rest.map (·.1) ∧ Proper inner ∧ Proper rest
  | (name, .file _ _) :: rest => IsName name ∧ name ∉ rest.map (·.1) ∧ Proper rest
  | (name, .link _) :: rest => IsName name ∧ name ∉ rest.map (·.1) ∧ Proper rest

/-- What holds of the content of a directory, of any other entry. -/
def Inside (P : List (String × Entry) → Prop) (entry : Entry) : Prop :=
  ∀ inner, entry = .directory inner → P inner

theorem proper_nil : Proper [] := by
  rw [Proper]; trivial

theorem proper_cons : Proper ((name, entry) :: rest) ↔
    IsName name ∧ name ∉ rest.map (·.1) ∧ Inside Proper entry ∧ Proper rest := by
  cases entry with
  | directory inner =>
    rw [Proper]
    exact and_congr_right fun _ => and_congr_right fun _ => and_congr_left fun _ =>
      ⟨fun h _ he => Entry.directory.inj he ▸ h, fun h => h inner rfl⟩
  | file data executable =>
    rw [Proper]
    exact and_congr_right fun _ => and_congr_right fun _ =>
      ⟨fun h => ⟨fun _ he => Entry.noConfusion he, h⟩, fun h => h.2⟩
  | link target =>
    rw [Proper]
    exact and_congr_right fun _ => and_congr_right fun _ =>
      ⟨fun h => ⟨fun _ he => Entry.noConfusion he, h⟩, fun h => h.2⟩

theorem Proper.isName (h : Proper entries) (hmem : (name, entry) ∈ entries) : IsName name := by
  induction entries with
  | nil => cases hmem
  | cons head rest ih =>
    obtain ⟨hname, -, -, hrest⟩ := proper_cons.mp h
    rcases List.mem_cons.mp hmem with heq | hmem
    · rw [← heq] at hname; exact hname
    · exact ih hrest hmem

theorem Proper.nodup (h : Proper entries) : (entries.map (·.1)).Nodup := by
  induction entries with
  | nil => exact List.nodup_nil
  | cons head rest ih =>
    obtain ⟨-, hnot, -, hrest⟩ := proper_cons.mp h
    exact List.nodup_cons.mpr ⟨hnot, ih hrest⟩

/-- In a proper tree an entry is what is found by its name. -/
theorem Proper.mem_iff (h : Proper entries) :
    (name, entry) ∈ entries ↔ child? name entries = some entry := by
  refine ⟨fun hmem => ?_, mem_of_child?⟩
  induction entries with
  | nil => cases hmem
  | cons head rest ih =>
    obtain ⟨-, hnot, -, hrest⟩ := proper_cons.mp h
    rw [child?_cons]
    rcases List.mem_cons.mp hmem with heq | hmem
    · rw [← heq, if_pos rfl]
    · rw [if_neg ?_]
      · exact ih hrest hmem
      · intro heq
        exact hnot (List.mem_map.mpr ⟨_, hmem, heq.symm⟩)

/-- What a directory in a proper tree holds is proper. -/
theorem Proper.of_mem (h : Proper entries) (hmem : (name, .directory inner) ∈ entries) :
    Proper inner := by
  induction entries with
  | nil => cases hmem
  | cons head rest ih =>
    obtain ⟨-, -, hin, hrest⟩ := proper_cons.mp h
    rcases List.mem_cons.mp hmem with heq | hmem
    · exact hin inner (by rw [← heq])
    · exact ih hrest hmem

/-- So is what is found farther down. -/
theorem Proper.at? {route : List String} (h : Proper entries)
    (found : Entry.at? route entries = some (.directory inner)) : Proper inner := by
  induction route generalizing entries with
  | nil =>
    rw [at?_nil] at found
    rw [← Entry.directory.inj (Option.some.inj found)]; exact h
  | cons name route ih =>
    rw [at?_cons] at found
    split at found
    · rename_i below hbelow
      exact ih (h.of_mem (mem_of_child? hbelow)) found
    · rename_i entry hnot _
      split at found
      · exact absurd (Option.some.inj found) (hnot inner)
      · cases found
    · cases found

/-- Whatever leads anywhere in a proper tree is made of names. -/
theorem Proper.isName_of_at? (h : Proper entries) (found : Entry.at? route entries = some entry) :
    ∀ n ∈ route, IsName n := by
  induction route generalizing entries with
  | nil => intro n hn; cases hn
  | cons name route ih =>
    rw [at?_cons] at found
    split at found
    · rename_i inner hchild
      have hmem := mem_of_child? hchild
      exact List.forall_mem_cons.mpr ⟨h.isName hmem, ih (h.of_mem hmem) found⟩
    · rename_i hchild
      split at found
      · rename_i hroute
        rw [hroute]
        exact List.forall_mem_singleton.mpr (h.isName (mem_of_child? hchild))
      · cases found
    · cases found

/-- Things with different names are in increasing order, once they are sorted by name. -/
theorem pairwise_mergeSort_lt {α : Type} {named : List α} (nameOf : α → String)
    (once : (named.map nameOf).Nodup) :
    (named.mergeSort fun a b => nameOf a ≤ nameOf b).Pairwise fun a b => nameOf a < nameOf b := by
  have sorted : (named.mergeSort fun a b => nameOf a ≤ nameOf b).Pairwise
      fun a b => nameOf a ≤ nameOf b := by
    refine (List.pairwise_mergeSort ?_ ?_ named).imp fun h => of_decide_eq_true h
    · intro a b c hab hbc
      exact decide_eq_true (String.le_trans (of_decide_eq_true hab) (of_decide_eq_true hbc))
    · intro a b
      rw [Bool.or_eq_true, decide_eq_true_eq, decide_eq_true_eq]
      exact String.le_total (nameOf a) (nameOf b)
  have distinct : (named.mergeSort fun a b => nameOf a ≤ nameOf b).Pairwise
      fun a b => nameOf a ≠ nameOf b :=
    List.pairwise_map.mp (((List.mergeSort_perm _ _).map nameOf).nodup_iff.mpr once)
  exact (sorted.and distinct).imp fun ⟨le, ne⟩ =>
    String.not_le.mp fun ge => ne (String.le_antisymm le ge)

/-! ## Leaves and directories -/

/-- What is at the end of a path, if it is no directory. -/
def leafAt (route : List String) (entries : List (String × Entry)) : Option Entry :=
  match Entry.at? route entries with
  | some (.directory _) => none
  | found => found

/-- A directory is at the end of a path. -/
def dirAt (route : List String) (entries : List (String × Entry)) : Prop :=
  ∃ inner, Entry.at? route entries = some (.directory inner)

/-- The bytes of the file at the end of a path. -/
def fileAt (route : List String) (entries : List (String × Entry)) : Option (List UInt8) :=
  match leafAt route entries with
  | some (.file data _) => some data
  | _ => none

theorem leafAt_nil : leafAt [] entries = none := by
  unfold leafAt; rw [at?_nil]

theorem leafAt_cons (name : String) (route : List String) (entries : List (String × Entry)) :
    leafAt (name :: route) entries = match child? name entries with
      | some (.directory inner) => leafAt route inner
      | some entry => if route = [] then some entry else none
      | none => none := by
  unfold leafAt
  rw [at?_cons]
  rcases child? name entries with _ | ⟨data, executable⟩ | target | inner
  · rfl
  · by_cases h : route = [] <;> simp [h]
  · by_cases h : route = [] <;> simp [h]
  · rfl

theorem dirAt_nil : dirAt [] entries := ⟨entries, at?_nil⟩

theorem dirAt_cons : dirAt (name :: route) entries ↔
    ∃ inner, child? name entries = some (.directory inner) ∧ dirAt route inner := by
  unfold dirAt
  rw [at?_cons]
  rcases child? name entries with _ | ⟨data, executable⟩ | target | inner
  · simp
  · by_cases h : route = [] <;> simp [h]
  · by_cases h : route = [] <;> simp [h]
  · simp

/-- Where a longer path leads to a directory, a shorter one does. -/
theorem dirAt.of_append {before after : List String} (h : dirAt (before ++ after) entries) :
    dirAt before entries := by
  induction before generalizing entries with
  | nil => exact dirAt_nil
  | cons name before ih =>
    obtain ⟨inner, hchild, hrest⟩ := dirAt_cons.mp h
    exact dirAt_cons.mpr ⟨inner, hchild, ih hrest⟩

theorem fileAt_eq_some {data : List UInt8} : fileAt route entries = some data ↔
    ∃ executable, Entry.at? route entries = some (.file data executable) := by
  unfold fileAt leafAt
  rcases Entry.at? route entries with _ | ⟨data, executable⟩ | target | inner <;> simp

/-! ## Changes -/

theorem child?_place (n name : String) (entry : Entry) (entries : List (String × Entry)) :
    child? n (place name entry entries) = if n = name then some entry else child? n entries := by
  induction entries with
  | nil =>
    show child? n [(name, entry)] = _
    rw [child?_cons]
    by_cases h : n = name
    · rw [if_pos h, if_pos h.symm]
    · rw [if_neg h, if_neg (fun he => h he.symm)]
  | cons head rest ih =>
    obtain ⟨other, e⟩ := head
    rw [place, child?_cons]
    by_cases ho : other = name
    · rw [if_pos ho, child?_cons, ho]
      by_cases h : n = name
      · rw [if_pos h, if_pos h.symm]
      · rw [if_neg h, if_neg (fun he => h he.symm), if_neg (fun he => h he.symm)]
    · rw [if_neg ho, child?_cons, ih]
      by_cases h : n = name
      · rw [if_pos h, if_pos h, if_neg (fun he => ho (he.trans h))]
      · rw [if_neg h, if_neg h]

theorem child?_without (n name : String) (entries : List (String × Entry)) :
    child? n (entries.filter (·.1 != name)) = if n = name then none else child? n entries := by
  induction entries with
  | nil => rw [List.filter_nil, child?_nil, ite_self]
  | cons head rest ih =>
    obtain ⟨other, e⟩ := head
    rw [List.filter_cons, child?_cons]
    by_cases ho : other = name
    · rw [if_neg (by simp [ho]), ih]
      by_cases h : n = name
      · rw [if_pos h, if_pos h]
      · rw [if_neg h, if_neg h, if_neg (fun he => h (he.symm.trans ho))]
    · rw [if_pos (by simp [ho]), child?_cons, ih]
      by_cases h : n = name
      · rw [if_pos h, if_pos h, if_neg (fun he => ho (he.trans h))]
      · rw [if_neg h, if_neg h]

/-- The entries differ at the end of the path only, where `new` is now and no directory was. -/
inductive Replaced (new : Option Entry) :
    List String → List (String × Entry) → List (String × Entry) → Prop
  | here {name : String} {before after : List (String × Entry)}
      (was : ∀ inner, child? name before ≠ some (.directory inner))
      (is : ∀ n, child? n after = if n = name then new else child? n before) :
      Replaced new [name] before after
  | deeper {name : String} {route : List String}
      {before after inner changed : List (String × Entry)}
      (was : child? name before = some (.directory inner))
      (change : Replaced new route inner changed)
      (is : ∀ n, child? n after =
        if n = name then some (.directory changed) else child? n before) :
      Replaced new (name :: route) before after

variable {new : Option Entry} {before after : List (String × Entry)}

/-- A replacement is seen at its own place only. -/
theorem Replaced.leafAt (h : Replaced new route before after)
    (leaf : ∀ inner, new ≠ some (.directory inner)) (other : List String) :
    leafAt other after = if other = route then new else leafAt other before := by
  induction h generalizing other with
  | @here name before after was is =>
    cases other with
    | nil => rw [leafAt_nil, leafAt_nil, if_neg (fun h => nomatch h)]
    | cons n more =>
      rw [leafAt_cons, is]
      by_cases hn : n = name
      · rw [if_pos hn, hn]
        by_cases hm : more = []
        · rw [hm, if_pos rfl]
          rcases hnew : new with _ | ⟨data, executable⟩ | target | inner
          · rfl
          · rfl
          · rfl
          · exact absurd hnew (leaf inner)
        · -- nothing is below what was there, nor below what is there now
          have hne : name :: more ≠ [name] := fun h => hm (List.cons.inj h).2
          rw [if_neg hne, leafAt_cons]
          rcases hnew : new with _ | ⟨data, executable⟩ | target | inner <;>
            rcases hwas : child? name before with _ | ⟨data', executable'⟩ | target' | inner'
          all_goals first
            | exact absurd hnew (leaf _)
            | exact absurd hwas (was _)
            | simp only [if_neg hm]
      · have hne : n :: more ≠ [name] := fun h => hn (List.cons.inj h).1
        rw [if_neg hn, if_neg hne, leafAt_cons]
  | @deeper name route before after inner changed was change is ih =>
    cases other with
    | nil => rw [leafAt_nil, leafAt_nil, if_neg (fun h => nomatch h)]
    | cons n more =>
      rw [leafAt_cons, is]
      by_cases hn : n = name
      · rw [if_pos hn, leafAt_cons, hn, was]
        show Entry.leafAt more changed = _
        rw [ih]
        by_cases hm : more = route
        · rw [if_pos hm, if_pos (by rw [hm])]
        · rw [if_neg hm, if_neg (fun h => hm (List.cons.inj h).2)]
      · have hne : n :: more ≠ name :: route := fun h => hn (List.cons.inj h).1
        rw [if_neg hn, if_neg hne, leafAt_cons]

/-- No directory comes or goes. -/
theorem Replaced.dirAt (h : Replaced new route before after)
    (leaf : ∀ inner, new ≠ some (.directory inner)) (other : List String) :
    dirAt other after ↔ dirAt other before := by
  induction h generalizing other with
  | @here name before after was is =>
    cases other with
    | nil => exact iff_of_true dirAt_nil dirAt_nil
    | cons n more =>
      rw [dirAt_cons, dirAt_cons, is]
      by_cases hn : n = name
      · rw [if_pos hn, hn]
        exact iff_of_false (fun ⟨inner, h, _⟩ => leaf inner h) (fun ⟨inner, h, _⟩ => was inner h)
      · rw [if_neg hn]
  | @deeper name route before after inner changed was change is ih =>
    cases other with
    | nil => exact iff_of_true dirAt_nil dirAt_nil
    | cons n more =>
      rw [dirAt_cons, dirAt_cons, is]
      by_cases hn : n = name
      · rw [if_pos hn, hn, was]
        constructor
        · rintro ⟨found, hfound, hdir⟩
          rw [← Entry.directory.inj (Option.some.inj hfound)] at hdir
          exact ⟨inner, rfl, (ih more).mp hdir⟩
        · rintro ⟨found, hfound, hdir⟩
          rw [← Entry.directory.inj (Option.some.inj hfound)] at hdir
          exact ⟨changed, rfl, (ih more).mpr hdir⟩
      · rw [if_neg hn]

/-- Putting an entry into a directory that is there. -/
theorem replaced_put {parent : List String} (here : Entry.dirAt parent entries)
    (free : ¬ Entry.dirAt (parent ++ [name]) entries) (entry : Entry) :
    Replaced (some entry) (parent ++ [name]) entries (put (parent ++ [name]) entry entries) := by
  induction parent generalizing entries with
  | nil =>
    refine .here (fun inner hinner => free ?_) (fun n => child?_place n name entry entries)
    exact dirAt_cons.mpr ⟨inner, hinner, dirAt_nil⟩
  | cons first parent ih =>
    obtain ⟨inner, hchild, hrest⟩ := dirAt_cons.mp here
    have hfree : ¬ Entry.dirAt (parent ++ [name]) inner :=
      fun h => free (dirAt_cons.mpr ⟨inner, hchild, h⟩)
    refine .deeper hchild (ih hrest hfree) fun n => ?_
    rw [List.cons_append, put, hchild]
    · exact child?_place n first _ entries
    · intro h
      exact absurd h (List.append_ne_nil_of_right_ne_nil _ (List.cons_ne_nil _ _))

/-- Erasing what is no directory. -/
theorem replaced_erase {parent : List String} (here : Entry.dirAt parent entries)
    (leaf : ¬ Entry.dirAt (parent ++ [name]) entries) :
    Replaced none (parent ++ [name]) entries (erase (parent ++ [name]) entries) := by
  induction parent generalizing entries with
  | nil =>
    refine .here (fun inner hinner => leaf ?_) (fun n => child?_without n name entries)
    exact dirAt_cons.mpr ⟨inner, hinner, dirAt_nil⟩
  | cons first parent ih =>
    obtain ⟨inner, hchild, hrest⟩ := dirAt_cons.mp here
    have hleaf : ¬ Entry.dirAt (parent ++ [name]) inner :=
      fun h => leaf (dirAt_cons.mpr ⟨inner, hchild, h⟩)
    refine .deeper hchild (ih hrest hleaf) fun n => ?_
    rw [List.cons_append, erase, hchild]
    · exact child?_place n first _ entries
    · intro h
      exact absurd h (List.append_ne_nil_of_right_ne_nil _ (List.cons_ne_nil _ _))

/-- No symbolic link is anywhere. -/
def LinkFree (entries : List (String × Entry)) : Prop :=
  ∀ route target, Entry.leafAt route entries ≠ some (.link target)

theorem linkFree_nil : LinkFree [] := by
  intro route target
  cases route with
  | nil => rw [leafAt_nil]; exact Option.some_ne_none _ ∘ Eq.symm
  | cons first route => rw [leafAt_cons, child?_nil]; exact Option.some_ne_none _ ∘ Eq.symm

theorem linkFree_cons (no_link : ∀ target, entry ≠ .link target) (inside : Inside LinkFree entry)
    (more : LinkFree rest) : LinkFree ((name, entry) :: rest) := by
  intro route target
  cases route with
  | nil => rw [leafAt_nil]; exact Option.some_ne_none _ ∘ Eq.symm
  | cons first route =>
    have others := more (first :: route) target
    rw [leafAt_cons] at others ⊢
    rw [child?_cons]
    by_cases hname : name = first
    · rw [if_pos hname]
      cases entry with
      | file data executable => dsimp only; split <;> simp
      | link target => exact absurd rfl (no_link target)
      | directory inner => exact inside inner rfl route target
    · rw [if_neg hname]; exact others

theorem LinkFree.replaced (free : LinkFree before) (h : Replaced new route before after)
    (leaf : ∀ inner, new ≠ some (.directory inner))
    (no_link : ∀ target, new ≠ some (.link target)) :
    LinkFree after := by
  intro other target
  rw [h.leafAt leaf]
  by_cases hother : other = route
  · rw [if_pos hother]; exact no_link target
  · rw [if_neg hother]; exact free other target

theorem mem_names_place {n : String} (h : n ∈ (place name entry entries).map (·.1)) :
    n = name ∨ n ∈ entries.map (·.1) := by
  induction entries with
  | nil => exact Or.inl (List.mem_singleton.mp h)
  | cons head rest ih =>
    obtain ⟨other, e⟩ := head
    rw [place] at h
    by_cases ho : other = name
    · rw [if_pos ho] at h
      rcases List.mem_cons.mp h with h | h
      · exact Or.inl h
      · exact Or.inr (List.mem_cons_of_mem _ h)
    · rw [if_neg ho] at h
      rcases List.mem_cons.mp h with h | h
      · exact Or.inr (h ▸ List.mem_cons_self)
      · exact (ih h).imp id (List.mem_cons_of_mem _)

theorem Proper.place (h : Proper entries) (hname : IsName name) (hentry : Inside Proper entry) :
    Proper (place name entry entries) := by
  induction entries with
  | nil => exact proper_cons.mpr ⟨hname, List.not_mem_nil, hentry, h⟩
  | cons head rest ih =>
    obtain ⟨other, e⟩ := head
    obtain ⟨hother, hnot, hin, hrest⟩ := proper_cons.mp h
    rw [Entry.place]
    by_cases ho : other = name
    · rw [if_pos ho]
      exact proper_cons.mpr ⟨hname, ho ▸ hnot, hentry, hrest⟩
    · rw [if_neg ho]
      refine proper_cons.mpr ⟨hother, fun hmem => ?_, hin, ih hrest⟩
      exact (mem_names_place hmem).elim ho hnot

theorem Proper.filter (h : Proper entries) (keep : String × Entry → Bool) :
    Proper (entries.filter keep) := by
  induction entries with
  | nil => exact h
  | cons head rest ih =>
    obtain ⟨hname, hnot, hin, hrest⟩ := proper_cons.mp h
    rw [List.filter_cons]
    split
    · refine proper_cons.mpr ⟨hname, fun hmem => hnot ?_, hin, ih hrest⟩
      obtain ⟨e, he, heq⟩ := List.mem_map.mp hmem
      exact List.mem_map.mpr ⟨e, (List.mem_filter.mp he).1, heq⟩
    · exact ih hrest

/-- A tree stays proper when an entry is put where names lead. -/
theorem Proper.put (h : Proper entries) (names : ∀ n ∈ route, IsName n)
    (hentry : Inside Proper entry) : Proper (put route entry entries) := by
  induction route generalizing entries with
  | nil => exact h
  | cons name route ih =>
    have hname := names name List.mem_cons_self
    have hmore : ∀ n ∈ route, IsName n := fun n hn => names n (List.mem_cons_of_mem _ hn)
    cases route with
    | nil => exact h.place hname hentry
    | cons next route =>
      have inner : Proper (match child? name entries with
          | some (.directory inner) => inner
          | _ => []) := by
        split
        · rename_i inner hchild
          exact h.of_mem (mem_of_child? hchild)
        · exact proper_nil
      rw [Entry.put]
      · refine h.place hname fun found hfound => ?_
        rw [← Entry.directory.inj hfound]
        exact ih inner hmore
      · intro heq; cases heq

theorem Proper.erase (h : Proper entries) : Proper (erase route entries) := by
  induction route generalizing entries with
  | nil => exact h
  | cons name route ih =>
    cases route with
    | nil => exact h.filter _
    | cons next route =>
      rw [Entry.erase]
      · split
        · rename_i inner hchild
          have hmem := mem_of_child? hchild
          refine h.place (h.isName hmem) fun found hfound => ?_
          rw [← Entry.directory.inj hfound]
          exact ih (h.of_mem hmem)
        · exact h
      · intro heq; cases heq

end GoWorkbench.Entry
