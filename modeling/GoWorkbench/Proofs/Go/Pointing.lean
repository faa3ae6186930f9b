/-
  The places of symbols point at their names.

  The names in an outline are words of the syntax tree, from left to right (`words_symbolsOf`), and
  those are words of the tokens (`words_parse`).  Tokens are placed where their words stand, one
  after the other, so the same holds of the symbols (`outline_points`).
-/
import GoWorkbench.Go.Outline
import GoWorkbench.Proofs.Go.Growth
import GoWorkbench.Proofs.Go.Places
import Mathlib.Data.List.Flatten

namespace GoWorkbench.Go

open Text

/-! ## Declared names -/

/-- The words at the nodes themselves. -/
def ownWords (nodes : List Node) : List (String × Position) := nodes.flatMap fun n => n.label.word

theorem words_own (n : Node) : (n.label.word).Sublist n.words := by
  cases n
  rw [Node.words]
  exact List.sublist_append_left _ _

theorem words_children (n : Node) : (wordsOf n.children).Sublist n.words := by
  cases n
  rw [Node.words]
  exact List.sublist_append_right _ _

/-- Nodes chosen from others, which may be looked into, have words of the others. -/
theorem ownWords_flatMap {nodes chosen : List Node} (sub : chosen.Sublist nodes)
    {choose : Node → List Node} (inside : ∀ n ∈ chosen, (ownWords (choose n)).Sublist n.words) :
    (ownWords (chosen.flatMap choose)).Sublist (wordsOf nodes) := by
  unfold ownWords
  rw [List.flatMap_assoc, wordsOf_eq]
  exact (List.Sublist.flatMap_right _ inside).trans (sub.flatMap _)

theorem ownWords_children {chosen : List Node} {n : Node} (sub : chosen.Sublist n.children) :
    (ownWords chosen).Sublist n.words := by
  have inside : (ownWords (chosen.flatMap fun n => [n])).Sublist (wordsOf n.children) := by
    refine ownWords_flatMap sub fun n _ => ?_
    unfold ownWords
    rw [List.flatMap_singleton]
    exact words_own n
  rw [List.flatMap_singleton'] at inside
  exact inside.trans (words_children n)

theorem words_firstName (n : Node) : (ownWords (firstName n)).Sublist n.words :=
  ownWords_children ((List.take_sublist _ _).trans List.filter_sublist)

theorem words_allNames (n : Node) : (ownWords (allNames n)).Sublist n.words :=
  ownWords_children (List.filter_sublist.trans List.filter_sublist)

/-- The names in specifications are words of the declaration, whether they stand in a list or not. -/
theorem words_specs {names : Node → List Node} (inside : ∀ n, (ownWords (names n)).Sublist n.words)
    (n : Node) (kinds : List Kind) : (ownWords ((specs n kinds).flatMap names)).Sublist n.words := by
  unfold specs
  rw [List.flatMap_assoc]
  refine (ownWords_flatMap List.filter_sublist fun child _ => ?_).trans (words_children n)
  split
  · rw [List.flatMap_singleton]
    exact inside child
  · split
    · refine (ownWords_flatMap ?_ fun n _ => inside n).trans (words_children child)
      exact List.filter_sublist.trans List.filter_sublist
    · exact List.nil_sublist _

/-- The names that a node declares are words below it. -/
theorem words_declaredBy (n : Node) : (ownWords ((declaredBy n).map (·.2))).Sublist n.words := by
  have names : ∀ (kind : SymbolKind) (found : List Node),
      (found.map (kind, ·)).map (·.2) = found := fun kind found => by
    rw [List.map_map]
    exact List.map_id found
  unfold declaredBy
  split
  · rw [names]; exact words_firstName n
  · rw [names]; exact words_firstName n
  · rw [names]; exact words_specs words_firstName n _
  · rw [names]; exact words_specs words_allNames n _
  · rw [names]; exact words_specs words_allNames n _
  · exact List.nil_sublist _

/-! ## Symbols -/

/-- The name of a symbol with its place, counted from zero. -/
def Symbol.word (s : Symbol) : String × Position := (s.name, ⟨s.line - 1, s.column - 1⟩)

theorem words_filterMap (path : String) (declared : List (SymbolKind × Node)) :
    (declared.filterMap fun (kind, n) => symbolOf path kind n).map Symbol.word =
      ownWords (declared.map (·.2)) := by
  unfold ownWords
  induction declared with
  | nil => rfl
  | cons d declared ih =>
    obtain ⟨kind, n⟩ := d
    rw [List.filterMap_cons, List.map_cons, List.flatMap_cons, ← ih]
    unfold Label.word
    dsimp only
    by_cases h : n.label.text.isEmpty = true
    · have skipped : symbolOf path kind n = none := if_pos h
      rw [skipped, if_pos h]
      rfl
    · have taken : symbolOf path kind n = some _ := if_neg h
      rw [taken, if_neg h]
      rfl

/-- **The names in an outline** are words of the tree, from left to right. -/
theorem words_symbolsOf (path : String) (root : Node) :
    ((symbolsOf path root).map Symbol.word).Sublist root.words := by
  unfold symbolsOf
  split
  · exact List.nil_sublist _
  · rw [words_filterMap, List.map_flatMap]
    refine (ownWords_flatMap List.filter_sublist fun n _ => ?_).trans (words_children root)
    exact words_declaredBy n

/-- The names in the outline of a source are words of its tokens, in their order. -/
theorem words_outline (source : List UInt8) (path : String) :
    ((outline source path).map Symbol.word).Sublist ((Go.tokens source).flatMap Token.word) :=
  (words_symbolsOf path _).trans (words_parse source)

/-- A symbol is counted from one. -/
theorem counted_from_one {source : List UInt8} {path : String} {s : Symbol}
    (h : s ∈ outline source path) : s.name ≠ "" ∧ 1 ≤ s.line ∧ 1 ≤ s.column := by
  unfold outline symbolsOf at h
  split at h
  · cases h
  · obtain ⟨⟨kind, n⟩, -, is⟩ := List.mem_filterMap.mp h
    change symbolOf path kind n = some s at is
    unfold symbolOf at is
    split at is
    · cases is
    · rename_i some_text
      rw [← Option.some.inj is]
      refine ⟨fun no_text => some_text ?_, Nat.le_add_left _ _, Nat.le_add_left _ _⟩
      rw [String.isEmpty_iff]
      exact no_text

theorem mem_words {tokens : List Token} {w : String × Position}
    (h : w ∈ tokens.flatMap Token.word) : ∃ t ∈ tokens, w = (t.name, t.start) := by
  obtain ⟨t, ht, hw⟩ := List.mem_flatMap.mp h
  unfold Token.word at hw
  split at hw
  · cases hw
  · exact ⟨t, ht, List.mem_singleton.mp hw⟩

/-- The words of tokens are placed one after the other. -/
theorem words_ordered (source : List UInt8) :
    ((Go.tokens source).flatMap Token.word).Pairwise fun a b => a.2.Precedes b.2 := by
  rw [List.pairwise_flatMap]
  refine ⟨fun t _ => ?_, (tokens_ordered source).imp fun {a b} hlt w hw v hv => ?_⟩
  · unfold Token.word
    split
    · exact .nil
    · exact List.pairwise_singleton _ _
  · have word : w ∈ [a].flatMap Token.word := by rw [List.flatMap_singleton]; exact hw
    have word' : v ∈ [b].flatMap Token.word := by rw [List.flatMap_singleton]; exact hv
    obtain ⟨_, ha, rfl⟩ := mem_words word
    obtain ⟨_, hb, rfl⟩ := mem_words word'
    rw [List.mem_singleton.mp ha, List.mem_singleton.mp hb]
    exact hlt

/-- **Positions point at names.**  The line of a symbol is a line of the source, and the name begins
    at its column there.  The symbols come one after the other. -/
theorem outline_points (source : List UInt8) (path : String) :
    (∀ s ∈ outline source path, s.name ≠ "" ∧ 1 ≤ s.line ∧ 1 ≤ s.column ∧
      ∃ line, (source.splitOn 10)[s.line - 1]? = some line ∧
        Utf8.bytes s.name <+: line.drop (s.column - 1)) ∧
    (outline source path).Pairwise fun a b =>
      a.line < b.line ∨ a.line = b.line ∧ a.column < b.column := by
  have words := words_outline source path
  constructor
  · intro s hs
    obtain ⟨some_name, line, column⟩ := counted_from_one hs
    refine ⟨some_name, line, column, ?_⟩
    obtain ⟨t, ht, is⟩ := mem_words (words.mem (List.mem_map.mpr ⟨s, hs, rfl⟩))
    obtain ⟨name, start⟩ := Prod.mk.inj is
    have found := (tokens_placed source t ht).found
    rw [← start, ← name] at found
    exact found
  · have ordered := List.pairwise_map.mp ((words_ordered source).sublist words)
    refine (List.Pairwise.and_mem.mp ordered).imp ?_
    rintro a b ⟨ha, hb, hlt⟩
    obtain ⟨-, line, column⟩ := counted_from_one ha
    obtain ⟨-, line', column'⟩ := counted_from_one hb
    unfold Position.Precedes Symbol.word at hlt
    dsimp only at hlt
    omega

end GoWorkbench.Go
