/-
  Lines are words with white space around and between them.

  1. **Reading on** — a word that is being read grows by characters that are no white space
     (`wordsFrom_word`), and white space ends it (`wordsFrom_gap`); where no word has begun, white
     space is passed over (`wordsFrom_blank`).
  2. **Lines** — so the words of a line that is put together from words and white space are the words
     that it is put together from (`words_line`).
  3. **All lines** — every line is blank or put together so (`blank_or_spaced`), and the blank ones
     are those without words (`words_eq_nil_iff`).
-/
import GoWorkbench.Text.Blank

namespace GoWorkbench.Text

/-- Nothing but white space, or nothing at all. -/
def IsBlank (s : String) : Prop := ∀ c ∈ s.toList, isSpace c = true

/-- Some characters, none of which is white space. -/
def IsWord (s : String) : Prop := s ≠ "" ∧ ∀ c ∈ s.toList, isSpace c = false

-- The characters of the text are looked at, rather than all that there are.
instance (s : String) : Decidable (IsBlank s) := List.decidableBAll _ s.toList

instance (s : String) : Decidable (IsWord s) :=
  @instDecidableAnd _ _ _ (List.decidableBAll _ s.toList)

/-! ## Reading on -/

theorem wordsFrom_word {token : List Char} (solid : ∀ c ∈ token, isSpace c = false)
    (word rest : List Char) :
    wordsFrom word (token ++ rest) = wordsFrom (token.reverse ++ word) rest := by
  induction token generalizing word with
  | nil => rfl
  | cons c token ih =>
    obtain ⟨first, solid⟩ := List.forall_mem_cons.mp solid
    rw [List.cons_append, wordsFrom, if_neg (Bool.eq_false_iff.mp first), ih solid,
      List.reverse_cons, List.append_assoc]
    rfl

theorem wordsFrom_blank {gap : List Char} (blank : ∀ c ∈ gap, isSpace c = true)
    (rest : List Char) : wordsFrom [] (gap ++ rest) = wordsFrom [] rest := by
  induction gap with
  | nil => rfl
  | cons c gap ih =>
    obtain ⟨first, blank⟩ := List.forall_mem_cons.mp blank
    rw [List.cons_append, wordsFrom, if_pos first, if_pos List.isEmpty_nil, ih blank]

theorem wordsFrom_gap {word gap : List Char} (some_word : word ≠ []) (some_gap : gap ≠ [])
    (blank : ∀ c ∈ gap, isSpace c = true) (rest : List Char) :
    wordsFrom word (gap ++ rest) = word.reverse :: wordsFrom [] rest := by
  obtain ⟨c, more, rfl⟩ := List.exists_cons_of_ne_nil some_gap
  obtain ⟨first, blank⟩ := List.forall_mem_cons.mp blank
  rw [List.cons_append, wordsFrom, if_pos first, if_neg (by simpa using some_word),
    wordsFrom_blank blank]

/-! ## Lines -/

/-- What follows the first word of a line: other words, each after the white space before it, and
    the white space at the end. -/
def following : List (String × String) → String → String
  | [], after => after
  | (gap, word) :: more, after => gap ++ word ++ following more after

/-- Words with white space around and between them. -/
structure Spaced where
  before : String
  first : String
  more : List (String × String)
  after : String
  blank_before : IsBlank before
  word_first : IsWord first
  /-- There is white space before every other word. -/
  gaps : ∀ next ∈ more, next.1 ≠ "" ∧ IsBlank next.1
  words_more : ∀ next ∈ more, IsWord next.2
  blank_after : IsBlank after

namespace Spaced

def line (row : Spaced) : String := row.before ++ row.first ++ following row.more row.after

def words (row : Spaced) : List String := row.first :: row.more.map (·.2)

end Spaced

/-- A word that has been read up to a gap is the first of those that are read from there. -/
theorem wordsFrom_following {word : List Char} {more : List (String × String)} {after : String}
    (some_word : word ≠ []) (gaps : ∀ next ∈ more, next.1 ≠ "" ∧ IsBlank next.1)
    (words_more : ∀ next ∈ more, IsWord next.2) (blank_after : IsBlank after) :
    (wordsFrom word (following more after).toList).map String.ofList =
      String.ofList word.reverse :: more.map (·.2) := by
  induction more generalizing word with
  | nil =>
    by_cases none : after.toList = []
    · rw [following, none, wordsFrom, if_neg (by simpa using some_word)]
      rfl
    · have ends := wordsFrom_gap some_word none blank_after []
      rw [List.append_nil] at ends
      rw [following, ends]
      rfl
  | cons next more ih =>
    obtain ⟨gap, token⟩ := next
    obtain ⟨⟨some_gap, blank⟩, gaps⟩ := List.forall_mem_cons.mp gaps
    obtain ⟨⟨some_token, solid⟩, words_more⟩ := List.forall_mem_cons.mp words_more
    have some_gap : gap.toList ≠ [] := fun none => some_gap (String.toList_eq_nil_iff.mp none)
    have some_token : token.toList.reverse ≠ [] := fun none =>
      some_token (String.toList_eq_nil_iff.mp (List.reverse_eq_nil_iff.mp none))
    rw [following, String.toList_append, String.toList_append, List.append_assoc,
      wordsFrom_gap some_word some_gap blank, wordsFrom_word solid, List.append_nil,
      List.map_cons, ih some_token gaps words_more, List.reverse_reverse, String.ofList_toList]
    rfl

/-- **Lines**: the words of a line are those that it is put together from. -/
theorem words_line (row : Spaced) : words row.line = row.words := by
  have some_first : row.first.toList.reverse ≠ [] := fun none =>
    row.word_first.1 (String.toList_eq_nil_iff.mp (List.reverse_eq_nil_iff.mp none))
  unfold words Spaced.line Spaced.words
  rw [String.toList_append, String.toList_append, List.append_assoc,
    wordsFrom_blank row.blank_before, wordsFrom_word row.word_first.2, List.append_nil,
    wordsFrom_following some_first row.gaps row.words_more row.blank_after, List.reverse_reverse,
    String.ofList_toList]

/-! ## All lines -/

theorem isBlank_append {s t : String} (blank : IsBlank s) (blank' : IsBlank t) : IsBlank (s ++ t) := by
  intro c mem
  rw [String.toList_append] at mem
  exact (List.mem_append.mp mem).elim (blank c) (blank' c)

theorem isBlank_char {c : Char} (space : isSpace c = true) : IsBlank (String.ofList [c]) := by
  unfold IsBlank
  rw [String.toList_ofList]
  exact List.forall_mem_singleton.mpr space

theorem isWord_char {c : Char} (solid : isSpace c = false) : IsWord (String.ofList [c]) := by
  refine ⟨fun none => List.cons_ne_nil c [] ?_, ?_⟩
  · rw [← String.toList_ofList (l := [c]), none]
    rfl
  · rw [String.toList_ofList]
    exact List.forall_mem_singleton.mpr solid

namespace Spaced

/-- White space before a line comes before its first word. -/
theorem exists_space (row : Spaced) {c : Char} (space : isSpace c = true) :
    ∃ row' : Spaced, row'.line = String.ofList [c] ++ row.line := by
  refine ⟨{ row with
    before := String.ofList [c] ++ row.before
    blank_before := isBlank_append (isBlank_char space) row.blank_before }, ?_⟩
  unfold line
  simp only [String.append_assoc]

/-- Any other character makes the first word longer, or is a word of its own. -/
theorem exists_solid (row : Spaced) {c : Char} (solid : isSpace c = false) :
    ∃ row' : Spaced, row'.line = String.ofList [c] ++ row.line := by
  obtain ⟨some_char, alone⟩ := isWord_char solid
  by_cases none : row.before = ""
  · have longer : IsWord (String.ofList [c] ++ row.first) := by
      refine ⟨fun empty => some_char (String.append_eq_empty_iff.mp empty).1, fun d mem => ?_⟩
      rw [String.toList_append] at mem
      exact (List.mem_append.mp mem).elim (alone d) (row.word_first.2 d)
    refine ⟨{ row with first := String.ofList [c] ++ row.first, word_first := longer }, ?_⟩
    unfold line
    dsimp only
    rw [none]
    simp only [String.empty_append, String.append_assoc]
  · refine ⟨{ row with
      before := ""
      first := String.ofList [c]
      more := (row.before, row.first) :: row.more
      blank_before := fun d mem => absurd mem List.not_mem_nil
      word_first := ⟨some_char, alone⟩
      gaps := List.forall_mem_cons.mpr ⟨⟨none, row.blank_before⟩, row.gaps⟩
      words_more := List.forall_mem_cons.mpr ⟨row.word_first, row.words_more⟩ }, ?_⟩
    unfold line
    dsimp only
    rw [following, String.empty_append]

end Spaced

/-- **All lines** are blank, or put together from words. -/
theorem blank_or_spaced (line : String) : IsBlank line ∨ ∃ row : Spaced, row.line = line := by
  rw [← String.ofList_toList (s := line)]
  induction line.toList with
  | nil => exact .inl fun c mem => absurd mem List.not_mem_nil
  | cons c rest ih =>
    have apart : String.ofList (c :: rest) = String.ofList [c] ++ String.ofList rest :=
      @String.ofList_append [c] rest
    rw [apart]
    cases space : isSpace c with
    | true =>
      rcases ih with blank | ⟨row, is⟩
      · exact .inl (isBlank_append (isBlank_char space) blank)
      · rw [← is]
        exact .inr (row.exists_space space)
    | false =>
      rcases ih with blank | ⟨row, is⟩
      · refine .inr ⟨{
          before := ""
          first := String.ofList [c]
          more := []
          after := String.ofList rest
          blank_before := fun d mem => absurd mem List.not_mem_nil
          word_first := isWord_char space
          gaps := fun _ mem => absurd mem List.not_mem_nil
          words_more := fun _ mem => absurd mem List.not_mem_nil
          blank_after := blank }, ?_⟩
        unfold Spaced.line
        dsimp only
        rw [following, String.empty_append]
      · rw [← is]
        exact .inr (row.exists_solid space)

/-- The lines without words are the blank ones. -/
theorem words_eq_nil_iff {line : String} : words line = [] ↔ IsBlank line := by
  constructor
  · intro none
    refine (blank_or_spaced line).resolve_right ?_
    rintro ⟨row, rfl⟩
    rw [words_line] at none
    cases none
  · intro blank
    have all := wordsFrom_blank blank []
    rw [List.append_nil] at all
    unfold words
    rw [all]
    rfl

end GoWorkbench.Text
