/-
  The parts of a path.

  1. **Splitting** — a text is split at each slash, so a slash between two texts splits the parts
     of the one from those of the other (`parts_append`).
  2. **Names with slashes between** — names without a slash are the parts of the path that they
     make (`parts_slashed`).
  3. **Components** — the parts that are not empty; those of a path seen from a directory are those
     of the directory and then its own (`components_append`).
-/
import GoWorkbench.FileSystem.Basic

namespace GoWorkbench

open Text

/-! ## Splitting -/

theorem Text.splitAt_of_not_mem {c : Char} {text : List Char} (h : c ∉ text) :
    splitAt c text = [text] := by
  induction text with
  | nil => rfl
  | cons d rest ih =>
    rw [List.mem_cons, not_or] at h
    rw [splitAt, if_neg (fun hd => h.1 hd.symm), ih h.2]

/-- A part is made of what is not the separator. -/
theorem Text.mem_of_mem_splitAt {c d : Char} {text part : List Char} (h : part ∈ splitAt c text)
    (hd : d ∈ part) : d ∈ text ∧ d ≠ c := by
  induction text generalizing part with
  | nil =>
    rw [List.mem_singleton.mp h] at hd; cases hd
  | cons first rest ih =>
    rw [splitAt] at h
    by_cases hf : first = c
    · rw [if_pos hf] at h
      rcases List.mem_cons.mp h with rfl | h
      · cases hd
      · exact ⟨List.mem_cons_of_mem _ (ih h hd).1, (ih h hd).2⟩
    · rw [if_neg hf] at h
      split at h
      · rename_i last more hsplit
        rw [hsplit] at ih
        rcases List.mem_cons.mp h with rfl | h
        · rcases List.mem_cons.mp hd with rfl | hd
          · exact ⟨List.mem_cons_self, hf⟩
          · have := ih List.mem_cons_self hd
            exact ⟨List.mem_cons_of_mem _ this.1, this.2⟩
        · have := ih (List.mem_cons_of_mem _ h) hd
          exact ⟨List.mem_cons_of_mem _ this.1, this.2⟩
      · rw [List.mem_singleton.mp h] at hd
        rw [List.mem_singleton.mp hd]
        exact ⟨List.mem_cons_self, hf⟩

/-- What is not the separator is in a part. -/
theorem Text.exists_mem_splitAt {c d : Char} {text : List Char} (h : d ∈ text) (other : d ≠ c) :
    ∃ part ∈ splitAt c text, d ∈ part := by
  induction text with
  | nil => cases h
  | cons first rest ih =>
    rw [splitAt]
    by_cases hf : first = c
    · have hd : d ∈ rest := (List.mem_cons.mp h).resolve_left fun he => other (he.trans hf)
      obtain ⟨part, hpart, hd⟩ := ih hd
      rw [if_pos hf]
      exact ⟨part, List.mem_cons_of_mem _ hpart, hd⟩
    · rw [if_neg hf]
      split
      · rename_i last more hsplit
        rw [hsplit] at ih
        rcases List.mem_cons.mp h with rfl | hd
        · exact ⟨d :: last, List.mem_cons_self, List.mem_cons_self⟩
        · obtain ⟨part, hpart, hd⟩ := ih hd
          rcases List.mem_cons.mp hpart with rfl | hpart
          · exact ⟨first :: part, List.mem_cons_self, List.mem_cons_of_mem _ hd⟩
          · exact ⟨part, List.mem_cons_of_mem _ hpart, hd⟩
      · rename_i hsplit
        rw [hsplit] at ih
        rcases List.mem_cons.mp h with rfl | hd
        · exact ⟨[d], List.mem_cons_self, List.mem_cons_self⟩
        · obtain ⟨part, hpart, -⟩ := ih hd
          cases hpart

theorem Text.splitAt_ne_nil (c : Char) (text : List Char) : splitAt c text ≠ [] := by
  cases text with
  | nil => exact List.cons_ne_nil _ _
  | cons d rest =>
    rw [splitAt]
    split
    · exact List.cons_ne_nil _ _
    · split <;> exact List.cons_ne_nil _ _

/-- A separator ends a part. -/
theorem Text.splitAt_append (c : Char) (before after : List Char) :
    splitAt c (before ++ c :: after) = splitAt c before ++ splitAt c after := by
  induction before with
  | nil =>
    show splitAt c (c :: after) = [[]] ++ splitAt c after
    rw [splitAt, if_pos (Eq.refl c)]; rfl
  | cons d rest ih =>
    rw [List.cons_append, splitAt, splitAt]
    by_cases hd : d = c
    · rw [if_pos hd, if_pos hd, ih]; rfl
    · rw [if_neg hd, if_neg hd, ih]
      obtain ⟨part, parts, hparts⟩ := List.exists_cons_of_ne_nil (splitAt_ne_nil c rest)
      rw [hparts]; rfl

/-- The last part is what follows the last separator. -/
theorem Text.getLast?_splitAt (c : Char) (text : List Char) :
    ∃ front last, (splitAt c text).getLast? = some last ∧ text = front ++ last ∧
      (front = [] ∨ front.getLast? = some c) := by
  by_cases hc : c ∈ text
  · obtain ⟨after, before, hrev, hnot⟩ := List.eq_append_cons_of_mem (List.mem_reverse.mpr hc)
    have htext : text = before.reverse ++ c :: after.reverse := by
      rw [← List.reverse_reverse text, hrev]
      simp
    have hafter : c ∉ after.reverse := fun h => hnot (List.mem_reverse.mp h)
    refine ⟨before.reverse ++ [c], after.reverse, ?_, ?_, Or.inr List.getLast?_concat⟩
    · rw [htext, splitAt_append, splitAt_of_not_mem hafter, List.getLast?_concat]
    · rw [htext, List.append_assoc]; rfl
  · exact ⟨[], text, by rw [splitAt_of_not_mem hc]; rfl, rfl, Or.inl rfl⟩

/-- An ending without the separator is that of what follows the last one. -/
theorem Text.suffix_append_iff {c : Char} {ending front last : List Char} (without : c ∉ ending)
    (at_separator : front = [] ∨ front.getLast? = some c) :
    ending <:+ front ++ last ↔ ending <:+ last := by
  refine ⟨fun h => ?_, fun h => h.trans (List.suffix_append front last)⟩
  rcases Nat.le_total ending.length last.length with hle | hle
  · exact List.suffix_of_suffix_length_le h (List.suffix_append front last) hle
  · obtain ⟨middle, hmiddle⟩ :=
      List.suffix_of_suffix_length_le (List.suffix_append front last) h hle
    obtain ⟨before, hbefore⟩ := h
    rw [← hmiddle, ← List.append_assoc] at hbefore
    have hfront : before ++ middle = front := List.append_cancel_right hbefore
    -- were anything of the ending before the last part, the separator would be in it
    have hnil : middle = [] := by
      rcases at_separator with rfl | hlast
      · exact (List.append_eq_nil_iff.mp hfront).2
      · refine Decidable.byContradiction fun hsome => without ?_
        obtain ⟨d, hd⟩ := Option.isSome_iff_exists.mp (List.getLast?_isSome.mpr hsome)
        rw [← hfront, List.getLast?_append, hd] at hlast
        rw [← hmiddle, ← Option.some.inj hlast]
        exact List.mem_append_left _ (List.mem_of_getLast? hd)
    rw [← hmiddle, hnil]
    exact List.suffix_refl last

namespace Path

theorem parts_append (before after : String) :
    parts (before ++ "/" ++ after) = parts before ++ parts after := by
  unfold parts
  have htext : (before ++ "/" ++ after).toList = before.toList ++ '/' :: after.toList := by
    simp
  rw [htext, splitAt_append, List.map_append]

theorem parts_of_not_mem {name : String} (h : '/' ∉ name.toList) : parts name = [name] := by
  unfold parts
  rw [splitAt_of_not_mem h, List.map_cons, List.map_nil, String.ofList_toList]

theorem mem_of_mem_parts {path part : String} (h : part ∈ parts path) {d : Char}
    (hd : d ∈ part.toList) : d ∈ path.toList ∧ d ≠ '/' := by
  obtain ⟨text, htext, rfl⟩ := List.mem_map.mp h
  rw [String.toList_ofList] at hd
  exact mem_of_mem_splitAt htext hd

/-- What is not a slash is in a part. -/
theorem exists_mem_parts {path : String} {d : Char} (hd : d ∈ path.toList) (other : d ≠ '/') :
    ∃ part ∈ parts path, d ∈ part.toList := by
  obtain ⟨text, htext, hd⟩ := exists_mem_splitAt hd other
  exact ⟨String.ofList text, List.mem_map_of_mem htext, by rw [String.toList_ofList]; exact hd⟩

/-- A path is a source exactly if its last part is. -/
theorem isGoSource_of_parts {path name : String} (h : (parts path).getLast? = some name) :
    isGoSource path = isGoSource name := by
  obtain ⟨front, last, hlast, htext, hfront⟩ := getLast?_splitAt '/' path.toList
  have hname : last = name.toList := by
    unfold parts at h
    rw [List.getLast?_map, hlast] at h
    rw [← Option.some.inj h, String.toList_ofList]
  rw [Bool.eq_iff_iff]
  unfold isGoSource
  rw [List.isSuffixOf_iff_suffix, List.isSuffixOf_iff_suffix, htext,
    suffix_append_iff (by decide) hfront, hname]

/-- The last part of a path that does not end in a slash is its last component. -/
theorem getLast?_parts {path name : String} {before : List String}
    (h : (parts path).filter (fun c => !c.isEmpty) = before ++ [name])
    (plain : path.toList.getLast? ≠ some '/') : (parts path).getLast? = some name := by
  obtain ⟨front, last, hlast, htext, hfront⟩ := getLast?_splitAt '/' path.toList
  have some_last : last ≠ [] := by
    rintro rfl
    rw [List.append_nil] at htext
    rcases hfront with rfl | hfront
    · have hempty : path = "" := String.toList_eq_nil_iff.mp htext
      rw [hempty] at h
      exact absurd h.symm (List.append_ne_nil_of_right_ne_nil _ (List.cons_ne_nil _ _))
    · exact plain (htext ▸ hfront)
  have hparts : (parts path).getLast? = some (String.ofList last) := by
    unfold parts
    rw [List.getLast?_map, hlast]; rfl
  obtain ⟨earlier, hearlier⟩ := List.getLast?_eq_some_iff.mp hparts
  have nonempty : String.ofList last ≠ "" := by
    intro he
    have hlist := congrArg String.toList he
    rw [String.toList_ofList] at hlist
    exact some_last hlist
  have keeps : [String.ofList last].filter (fun c => !c.isEmpty) = [String.ofList last] := by
    rw [List.filter_cons_of_pos (by simp [nonempty]), List.filter_nil]
  rw [hearlier, List.filter_append, keeps] at h
  rw [hparts, (List.cons.inj (List.append_inj' h rfl).2).1]

/-! ## Names with slashes between -/

theorem slashed_singleton (name : String) : slashed [name] = name := by
  unfold slashed
  rw [String.intercalate_singleton]

theorem slashed_cons (name : String) {rest : List String} (h : rest ≠ []) :
    slashed (name :: rest) = name ++ "/" ++ slashed rest := by
  unfold slashed
  rw [String.intercalate_cons_of_ne_nil h]

theorem slashed_append {names rest : List String} (some_name : names ≠ []) (some_rest : rest ≠ []) :
    slashed (names ++ rest) = slashed names ++ "/" ++ slashed rest := by
  induction names with
  | nil => exact absurd rfl some_name
  | cons name more ih =>
    by_cases hmore : more = []
    · rw [hmore, List.singleton_append, slashed_cons name some_rest, slashed_singleton]
    · rw [List.cons_append, slashed_cons name (List.append_ne_nil_of_left_ne_nil hmore _), ih hmore,
        slashed_cons name hmore]
      simp only [String.append_assoc]

/-- The parts of a path made of names are the names. -/
theorem parts_slashed {names : List String} (some_name : names ≠ [])
    (h : ∀ name ∈ names, '/' ∉ name.toList) : parts (slashed names) = names := by
  induction names with
  | nil => exact absurd rfl some_name
  | cons name rest ih =>
    have hname := parts_of_not_mem (h name List.mem_cons_self)
    by_cases hrest : rest = []
    · rw [hrest, slashed_singleton, hname]
    · rw [slashed_cons name hrest, parts_append, hname,
        ih hrest fun n hn => h n (List.mem_cons_of_mem _ hn)]
      rfl

/-- Nothing but the names and slashes is in the path that they make. -/
theorem mem_slashed {names : List String} {d : Char} (h : d ∈ (slashed names).toList) :
    d = '/' ∨ ∃ name ∈ names, d ∈ name.toList := by
  induction names with
  | nil => cases h
  | cons name rest ih =>
    by_cases hrest : rest = []
    · rw [hrest, slashed_singleton] at h
      exact Or.inr ⟨name, List.mem_cons_self, h⟩
    · rw [slashed_cons name hrest, String.toList_append, String.toList_append, List.mem_append,
        List.mem_append] at h
      rcases h with (h | h) | h
      · exact Or.inr ⟨name, List.mem_cons_self, h⟩
      · exact Or.inl (List.mem_singleton.mp h)
      · rcases ih h with h | ⟨n, hn, hd⟩
        · exact Or.inl h
        · exact Or.inr ⟨n, List.mem_cons_of_mem _ hn, hd⟩

/-- The names are in the path that they make. -/
theorem mem_slashed_of_mem {names : List String} {name : String} {d : Char} (h : name ∈ names)
    (hd : d ∈ name.toList) : d ∈ (slashed names).toList := by
  induction names with
  | nil => cases h
  | cons first rest ih =>
    by_cases hrest : rest = []
    · rw [hrest] at h ⊢
      rw [slashed_singleton, ← List.mem_singleton.mp h]; exact hd
    · rw [slashed_cons first hrest, String.toList_append, String.toList_append, List.mem_append,
        List.mem_append]
      rcases List.mem_cons.mp h with rfl | h
      · exact Or.inl (Or.inl hd)
      · exact Or.inr (ih h)

/-- The slashes that a path starts with. -/
theorem rootOf_cases (path : String) :
    (isAbsolute path = true ∧ (rootOf path = "/" ∨ rootOf path = "//")) ∨
      (isAbsolute path = false ∧ rootOf path = "") := by
  unfold isAbsolute rootOf
  split
  · rename_i h; exact Or.inl ⟨by rw [h]; rfl, Or.inl rfl⟩
  · rename_i h; exact Or.inl ⟨by rw [h]; rfl, Or.inr rfl⟩
  · rename_i h; exact Or.inl ⟨by rw [h]; rfl, Or.inl rfl⟩
  · rename_i h
    refine Or.inr ⟨decide_eq_false fun hhead => ?_, rfl⟩
    obtain ⟨rest, hrest⟩ := List.head?_eq_some_iff.mp hhead
    exact h rest hrest

/-- What stands before a relative path when it is seen from a directory. -/
def base (directory : String) : String :=
  if directory.isEmpty || directory.toList.getLast? = some '/' then directory else directory ++ "/"

theorem join_of_relative {child : String} (h : isAbsolute child = false) (directory : String) :
    join directory child = base directory ++ child := by
  unfold join base
  rw [h, if_neg Bool.false_ne_true]
  split <;> rfl

/-- A path that starts with a name does not start with a slash. -/
theorem isAbsolute_slashed {name : String} (nonempty : name ≠ "") (h : '/' ∉ name.toList)
    (rest : List String) : isAbsolute (slashed (name :: rest)) = false := by
  obtain ⟨c, cs, hc⟩ : ∃ c cs, name.toList = c :: cs :=
    List.exists_cons_of_ne_nil fun hnil => nonempty (String.toList_eq_nil_iff.mp hnil)
  have hhead : (slashed (name :: rest)).toList.head? = some c := by
    by_cases hrest : rest = []
    · rw [hrest, slashed_singleton, hc]; rfl
    · rw [slashed_cons name hrest]
      simp [hc]
  have hne : c ≠ '/' := by
    intro heq
    rw [hc, heq] at h
    exact h List.mem_cons_self
  unfold isAbsolute
  rw [hhead]
  exact decide_eq_false fun heq => hne (Option.some.inj heq)

/-- What stands before a relative path ends in a slash, unless there is nothing. -/
theorem base_eq {directory : String} (h : directory ≠ "") :
    ∃ front, base directory = front ++ "/" ∧ (directory = front ∨ directory = front ++ "/") := by
  have nonempty : ¬ directory.isEmpty = true := fun he => h (String.isEmpty_iff.mp he)
  unfold base
  by_cases hlast : directory.toList.getLast? = some '/'
  · obtain ⟨front, hfront⟩ : ∃ front, directory.toList = front ++ ['/'] := by
      obtain ⟨hne, hget⟩ := List.getLast?_eq_some_iff.mp hlast
      exact ⟨_, hget⟩
    have heq : directory = String.ofList front ++ "/" := by
      rw [← String.toList_inj, hfront]
      simp
    refine ⟨String.ofList front, ?_, Or.inr heq⟩
    rw [if_pos (by simp [hlast])]; exact heq
  · refine ⟨directory, ?_, Or.inl rfl⟩
    rw [if_neg (by simp [hlast, nonempty])]

end Path

namespace FileSystem

theorem components_append (before after : String) :
    components (before ++ "/" ++ after) = components before ++ components after := by
  unfold components
  rw [Path.parts_append, List.filter_append]

theorem components_empty : components "" = [] := rfl

/-- The components of a path made of names are the names. -/
theorem components_slashed {names : List String} (nonempty : ∀ n ∈ names, n ≠ "")
    (h : ∀ n ∈ names, '/' ∉ n.toList) : components (Path.slashed names) = names := by
  by_cases hnil : names = []
  · rw [hnil]; rfl
  · unfold components
    rw [Path.parts_slashed hnil h, List.filter_eq_self]
    intro n hn
    have hne : n.isEmpty = false := by
      rw [Bool.eq_false_iff]
      exact fun he => nonempty n hn (String.isEmpty_iff.mp he)
    rw [hne]; rfl

/-- The components of a path from the root, however many slashes it starts with. -/
theorem components_rootOf (path rest : String) :
    components (Path.rootOf path ++ rest) = components rest := by
  have one : components ("/" ++ rest) = components rest := components_append "" rest
  have two : components ("//" ++ rest) = components rest := components_append "/" rest
  unfold Path.rootOf
  split
  · exact one
  · exact two
  · exact one
  · rw [String.empty_append]

end FileSystem

end GoWorkbench
