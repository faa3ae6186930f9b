/-
  What patterns read.

  The characters that a pattern reads belong to the sets it is made of, and what is left of it is
  made of the same sets (`sets_of_partials`).  Two things follow.

  1. A text that matches has only such characters (`contains_of_accepts`), and begins with one of
     those that may come first (`first_of_accepts`).
  2. Where a text that matches is followed by another character, the text is the longest beginning
     that matches (`longest?_of_accepts`).
-/
import GoWorkbench.Pattern

namespace GoWorkbench

/-- A set of ranges between two characters holds only characters between them. -/
theorem CharSet.between {set : CharSet} {low high c : Char} (not_inverted : set.inverted = false)
    (ranges : ∀ range ∈ set.ranges, low ≤ range.1 ∧ range.2 ≤ high)
    (h : set.contains c = true) : low ≤ c ∧ c ≤ high := by
  unfold contains at h
  rw [not_inverted, Bool.bne_false, List.any_eq_true] at h
  obtain ⟨range, hrange, found⟩ := h
  obtain ⟨hlow, hhigh⟩ := ranges range hrange
  simp only [Bool.and_eq_true, decide_eq_true_eq] at found
  exact ⟨Char.le_trans hlow found.1, Char.le_trans found.2 hhigh⟩

namespace Pattern

/-- The sets of characters that a pattern is made of. -/
def sets : Pattern → List CharSet
  | .empty => []
  | .one set => [set]
  | .seq a b => a.sets ++ b.sets
  | .either a b => a.sets ++ b.sets
  | .star a => a.sets

variable {c : Char} {p q : Pattern} {alive alive' : List Pattern} {text : List Char}

theorem sets_followedBy {set : CharSet} (h : set ∈ (followedBy p q).sets) :
    set ∈ p.sets ∨ set ∈ q.sets := by
  unfold followedBy at h
  split at h
  · exact Or.inr h
  · exact List.mem_append.mp h

/-- **What is left of a pattern** is made of the same sets. -/
theorem sets_of_partials (h : q ∈ p.partials c) : q.sets ⊆ p.sets := by
  induction p generalizing q with
  | empty => cases h
  | one set =>
    rw [partials] at h
    split at h
    · rw [List.mem_singleton.mp h]; exact List.nil_subset _
    · cases h
  | seq a b iha ihb =>
    have first : q ∈ (a.partials c).map (followedBy · b) → q.sets ⊆ (a.seq b).sets := by
      intro h set hset
      obtain ⟨a', ha', rfl⟩ := List.mem_map.mp h
      rcases sets_followedBy hset with hset | hset
      · exact List.mem_append_left _ (iha ha' hset)
      · exact List.mem_append_right _ hset
    rw [partials] at h
    split at h
    · rcases List.mem_append.mp h with h | h
      · exact first h
      · exact fun set hset => List.mem_append_right _ (ihb h hset)
    · exact first h
  | either a b iha ihb =>
    rcases List.mem_append.mp h with h | h
    · exact fun set hset => List.mem_append_left _ (iha h hset)
    · exact fun set hset => List.mem_append_right _ (ihb h hset)
  | star a iha =>
    obtain ⟨a', ha', rfl⟩ := List.mem_map.mp h
    intro set hset
    rcases sets_followedBy hset with hset | hset
    · exact iha ha' hset
    · exact hset

/-- The sets that the first character may belong to. -/
def firsts : Pattern → List CharSet
  | .empty => []
  | .one set => [set]
  | .seq a b => if a.nullable then a.firsts ++ b.firsts else a.firsts
  | .either a b => a.firsts ++ b.firsts
  | .star a => a.firsts

theorem sets_of_firsts (p : Pattern) : p.firsts ⊆ p.sets := by
  induction p with
  | empty | one => exact List.Subset.refl _
  | seq a b iha ihb =>
    intro set h
    rw [firsts] at h
    split at h
    · exact (List.mem_append.mp h).elim (fun h => List.mem_append_left _ (iha h))
        fun h => List.mem_append_right _ (ihb h)
    · exact List.mem_append_left _ (iha h)
  | either a b iha ihb =>
    intro set h
    exact (List.mem_append.mp h).elim (fun h => List.mem_append_left _ (iha h))
      fun h => List.mem_append_right _ (ihb h)
  | star a iha => exact iha

/-- **A character that can be read** belongs to one of the first sets. -/
theorem contains_of_partials (h : q ∈ p.partials c) : ∃ set ∈ p.firsts, set.contains c = true := by
  induction p generalizing q with
  | empty => cases h
  | one set =>
    rw [partials] at h
    split at h
    · exact ⟨set, List.mem_singleton_self _, by assumption⟩
    · cases h
  | seq a b iha ihb =>
    have first : q ∈ (a.partials c).map (followedBy · b) →
        ∃ set ∈ a.firsts, set.contains c = true := by
      intro h
      obtain ⟨a', ha', -⟩ := List.mem_map.mp h
      exact iha ha'
    rw [partials] at h
    rw [firsts]
    split at h
    · rename_i nothing
      rw [if_pos nothing]
      rcases List.mem_append.mp h with h | h
      · obtain ⟨set, hset, hc⟩ := first h
        exact ⟨set, List.mem_append_left _ hset, hc⟩
      · obtain ⟨set, hset, hc⟩ := ihb h
        exact ⟨set, List.mem_append_right _ hset, hc⟩
    · rename_i something
      rw [if_neg something]
      exact first h
  | either a b iha ihb =>
    rcases List.mem_append.mp h with h | h
    · obtain ⟨set, hset, hc⟩ := iha h
      exact ⟨set, List.mem_append_left _ hset, hc⟩
    · obtain ⟨set, hset, hc⟩ := ihb h
      exact ⟨set, List.mem_append_right _ hset, hc⟩
  | star a iha =>
    obtain ⟨a', ha', -⟩ := List.mem_map.mp h
    exact iha ha'

/-! ## Reading on -/

theorem mem_step : q ∈ step alive c ↔ ∃ p ∈ alive, q ∈ p.partials c := by
  unfold step
  rw [List.mem_eraseDups, List.mem_flatMap]

theorem after_cons (alive : List Pattern) (c : Char) (text : List Char) :
    after alive (c :: text) = after (step alive c) text := rfl

theorem after_nil_alive (text : List Char) : after [] text = [] := by
  induction text with
  | nil => rfl
  | cons c text ih => exact ih

/-- More patterns stay alive if more are alive. -/
theorem after_subset (h : alive ⊆ alive') (text : List Char) :
    after alive text ⊆ after alive' text := by
  induction text generalizing alive alive' with
  | nil => exact h
  | cons c text ih =>
    refine ih fun q hq => ?_
    obtain ⟨p, hp, hq⟩ := mem_step.mp hq
    exact mem_step.mpr ⟨p, h hp, hq⟩

/-- **A text that matches one of two patterns** matches either. -/
theorem accepts_either_left (h : p.accepts text = true) (q : Pattern) :
    (p.either q).accepts text = true := by
  unfold accepts at *
  cases text with
  | nil =>
    rw [after, List.foldl_nil, List.any_cons, List.any_nil, Bool.or_false] at h ⊢
    rw [nullable, h, Bool.true_or]
  | cons c text =>
    rw [after_cons] at *
    obtain ⟨left, hleft, ends⟩ := List.any_eq_true.mp h
    refine List.any_eq_true.mpr ⟨left, after_subset (fun r hr => ?_) text hleft, ends⟩
    obtain ⟨p', hp', hr⟩ := mem_step.mp hr
    rw [List.mem_singleton.mp hp'] at hr
    exact mem_step.mpr ⟨_, List.mem_singleton_self _, List.mem_append_left _ hr⟩

/-- All characters that have been read belong to the sets. -/
theorem contains_of_after (h : after alive text ≠ []) :
    ∀ c ∈ text, ∃ p ∈ alive, ∃ set ∈ p.sets, set.contains c = true := by
  induction text generalizing alive with
  | nil => intro c hc; cases hc
  | cons c text ih =>
    rw [after_cons] at h
    have some_left : step alive c ≠ [] := by
      intro nothing
      rw [nothing, after_nil_alive] at h
      exact h rfl
    refine List.forall_mem_cons.mpr ⟨?_, fun d hd => ?_⟩
    · obtain ⟨q, hq⟩ := List.exists_mem_of_ne_nil _ some_left
      obtain ⟨p, hp, hq⟩ := mem_step.mp hq
      obtain ⟨set, hset, hc⟩ := contains_of_partials hq
      exact ⟨p, hp, set, sets_of_firsts p hset, hc⟩
    · obtain ⟨q, hq, set, hset, hd⟩ := ih h d hd
      obtain ⟨p, hp, hq⟩ := mem_step.mp hq
      exact ⟨p, hp, set, sets_of_partials hq hset, hd⟩

/-- **The characters of a text that matches** belong to the sets of the pattern. -/
theorem contains_of_accepts (h : p.accepts text = true) (hc : c ∈ text) :
    ∃ set ∈ p.sets, set.contains c = true := by
  have some_left : after [p] text ≠ [] := by
    intro nothing
    unfold accepts at h
    rw [nothing] at h
    cases h
  obtain ⟨q, hq, found⟩ := contains_of_after some_left c hc
  rw [List.mem_singleton.mp hq] at found
  exact found

/-- A text that matches begins with a character of a first set, if it begins at all. -/
theorem first_of_accepts (h : p.accepts (c :: text) = true) :
    ∃ set ∈ p.firsts, set.contains c = true := by
  unfold accepts at h
  rw [after_cons] at h
  obtain ⟨q, hq⟩ : ∃ q, q ∈ step [p] c := by
    refine List.exists_mem_of_ne_nil _ fun nothing => ?_
    rw [nothing, after_nil_alive] at h
    cases h
  obtain ⟨p', hp', hq⟩ := mem_step.mp hq
  rw [List.mem_singleton.mp hp'] at hq
  exact contains_of_partials hq

/-! ## Longest matches -/

variable {α : Type} {char : α → Char} {front back : List α}

theorem longestFrom_of_after (read : Nat) (best : Option Nat)
    (h : (after alive (front.map char)).any nullable = true)
    (apart : ∀ y ∈ back.head?, ∀ p ∈ alive, ∀ set ∈ p.sets, set.contains (char y) = false) :
    longestFrom char alive read best (front ++ back) = some (read + front.length) := by
  induction front generalizing alive read best with
  | nil =>
    have ends : alive.any nullable = true := h
    cases back with
    | nil => exact if_pos ends
    | cons y back =>
      have nothing : step alive (char y) = [] := by
        refine List.eq_nil_iff_forall_not_mem.mpr fun q hq => ?_
        obtain ⟨p, hp, hq⟩ := mem_step.mp hq
        obtain ⟨set, hset, hy⟩ := contains_of_partials hq
        rw [apart y rfl p hp set (sets_of_firsts p hset)] at hy
        cases hy
      rw [List.nil_append, longestFrom, nothing]
      exact if_pos ends
  | cons x front ih =>
    rw [List.map_cons, after_cons] at h
    have onward := ih (read + 1) (if alive.any nullable then some read else best) h
      fun y hy q hq set hset => by
        obtain ⟨p, hp, hq⟩ := mem_step.mp hq
        exact apart y hy p hp set (sets_of_partials hq hset)
    rw [List.cons_append, longestFrom, List.length_cons]
    generalize step alive (char x) = next at h onward ⊢
    cases next with
    | nil => rw [after_nil_alive] at h; cases h
    | cons q next =>
      dsimp only
      rw [onward]
      congr 1
      omega

/-- **A text that matches** is the longest beginning that does, if what comes next belongs to none
    of the sets of the pattern. -/
theorem longest?_of_accepts (h : p.accepts (front.map char) = true)
    (apart : ∀ y ∈ back.head?, ∀ set ∈ p.sets, set.contains (char y) = false) :
    p.longest? char (front ++ back) = some front.length := by
  unfold longest?
  rw [longestFrom_of_after 0 none h, Nat.zero_add]
  intro y hy q hq
  rw [List.mem_singleton.mp hq]
  exact apart y hy

end Pattern

end GoWorkbench
