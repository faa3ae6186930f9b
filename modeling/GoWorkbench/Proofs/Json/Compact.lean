/-
  The compact form of a value, read again.

  1. **Words** — a run of characters that are neither marks nor blanks is one token, which ends where
     such a character comes (`tokens_word`).  The digits of an integer are such a word, and stand for
     it (`word_toString`).
  2. **Cutting** — the compact form of a value is cut into the tokens of the value (`lexes_compact`):
     nothing in it joins with what comes after it.
  3. **Putting together** — from these tokens the value is put together again (`builds`), so that
     reading undoes writing (`read_compact`).
  4. **Lines** — a compact form has no line end in it (`newline_not_mem_compact`).
  5. **Sizes** — an integer of a machine word is not too large for a number (`fits_of_lt`).
-/
import Mathlib.Data.List.Forall2
import Mathlib.Data.List.TakeWhile
import GoWorkbench.Proofs.Json.RoundTrip

namespace GoWorkbench.Json

open GoWorkbench.Text

variable {limits : Limits} {chars rest : List Char} {v : Value} {items : List Value}
  {entries : List (String × Value)} {frames : List Frame} {more : List Token} {n : Nat}

/-! ## Words -/

/-- The character is part of a word, where one is being read. -/
structure InWord (c : Char) : Prop where
  no_quote : c ≠ '"'
  no_blank : isBlank c = false
  no_mark : mark c = none

/-- A word that stands before these characters is complete. -/
def Delimits (rest : List Char) : Prop := ∀ c, rest.head? = some c → ¬ InWord c

theorem delimits_nil : Delimits [] := nofun

theorem delimits_mark {c : Char} {t : Token} (is : mark c = some t) (rest : List Char) :
    Delimits (c :: rest) := by
  rintro _ ⟨⟩ inside
  rw [inside.no_mark] at is
  cases is

theorem tokensFrom_inWord (inside : ∀ c ∈ chars, InWord c) (word rest : List Char) :
    tokensFrom (.word word) (chars ++ rest) = tokensFrom (.word (chars.reverse ++ word)) rest := by
  induction chars generalizing word with
  | nil => rfl
  | cons c chars ih =>
    obtain ⟨here, inside⟩ := List.forall_mem_cons.mp inside
    rw [List.cons_append, tokensFrom, if_neg here.no_quote, here.no_blank,
      if_neg Bool.false_ne_true, here.no_mark, ih inside, List.reverse_cons, List.append_assoc,
      List.singleton_append]

/-- A word ends before what is no part of it, and the reading goes on from there. -/
theorem tokensFrom_delimited (delimits : Delimits rest) (word : List Char) :
    tokensFrom (.word word) rest = (tokens rest).map (.word word.reverse :: ·) := by
  unfold tokens
  cases rest with
  | nil => rfl
  | cons c rest =>
    rw [tokensFrom, tokensFrom]
    split
    · rfl
    · rename_i no_quote
      split
      · rfl
      · rename_i no_blank
        split
        · rw [Option.map_map]
          rfl
        · rename_i no_mark
          exact absurd ⟨no_quote, Bool.eq_false_iff.mpr no_blank, no_mark⟩ (delimits c rfl)

/-- **Words**: a run of characters of a word is one token. -/
theorem tokens_word (some_char : chars ≠ []) (inside : ∀ c ∈ chars, InWord c)
    (delimits : Delimits rest) :
    tokens (chars ++ rest) = (tokens rest).map (.word chars :: ·) := by
  cases chars with
  | nil => exact absurd rfl some_char
  | cons c chars =>
    obtain ⟨here, inside⟩ := List.forall_mem_cons.mp inside
    rw [tokens, List.cons_append, tokensFrom, if_neg here.no_quote, here.no_blank,
      if_neg Bool.false_ne_true, here.no_mark]
    show tokensFrom (.word [c]) (chars ++ rest) = _
    rw [tokensFrom_inWord inside, tokensFrom_delimited delimits]
    simp

theorem inWord_of_isAlphanum {c : Char} (plain : c.isAlphanum = true) : InWord c := by
  have other : ∀ d : Char, d.isAlphanum = false → c ≠ d := by
    rintro d not_plain rfl
    rw [plain] at not_plain
    cases not_plain
  refine ⟨other _ (by decide), ?_, ?_⟩
  · simp [isBlank, other ' ' (by decide), other '\t' (by decide), other '\n' (by decide),
      other '\r' (by decide)]
  · unfold mark
    split
    · exact absurd rfl (other '[' (by decide))
    · exact absurd rfl (other ']' (by decide))
    · exact absurd rfl (other '{' (by decide))
    · exact absurd rfl (other '}' (by decide))
    · exact absurd rfl (other ':' (by decide))
    · exact absurd rfl (other ',' (by decide))
    · rfl

theorem inWord_of_all (plain : chars.all Char.isAlphanum = true) : ∀ c ∈ chars, InWord c :=
  fun c listed => inWord_of_isAlphanum (List.all_eq_true.mp plain c listed)

/-! ### Integers -/

theorem inWord_of_isDigit {c : Char} (digit : c.isDigit = true) : InWord c :=
  inWord_of_isAlphanum (by rw [Char.isAlphanum, digit, Bool.or_true])

/-- The digits of a number. -/
def digitsOf (n : Nat) : List Char := Nat.toDigits 10 n

theorem isDigit_digitsOf : ∀ c ∈ digitsOf n, c.isDigit = true := fun _ listed =>
  Nat.isDigit_of_mem_toDigits (by decide) (by decide) listed

theorem digitsOf_ne_nil (n : Nat) : digitsOf n ≠ [] := Nat.toDigits_ne_nil

theorem decimal_digitsOf (n : Nat) : decimal (digitsOf n) = n := by
  have folds := @Nat.ofDigitChars_eq_foldl 10 (digitsOf n) 0
  rw [show Nat.ofDigitChars 10 (digitsOf n) 0 = n from Nat.ofDigitChars_ten_toDigits] at folds
  unfold decimal
  simp only [Nat.mul_comm _ 10]
  exact folds.symm

/-- A number other than zero does not begin with the digit zero. -/
theorem head_digitsOf (n : Nat) (some_number : n ≠ 0) : (digitsOf n).head? ≠ some '0' := by
  induction n using Nat.strongRecOn with
  | ind n ih =>
    rw [digitsOf, Nat.toDigits_eq_if (by decide)]
    split
    · rename_i small
      have no_zero : ∀ d < 10, d ≠ 0 → Nat.digitChar d ≠ '0' := by decide
      intro is
      exact no_zero n small some_number (Option.some.inj is)
    · rename_i large
      -- the digits of `n / 10` come first
      have fewer := ih (n / 10) (by omega) (by omega)
      rw [List.head?_append_of_ne_nil _ Nat.toDigits_ne_nil]
      exact fewer

/-- The digits of a number stand for it. -/
theorem magnitude_digitsOf (negative : Bool) (n : Nat) : magnitude? negative (digitsOf n) =
    some (.integer (if negative then -(n : Int) else n)) := by
  have all_digits : digitsOf n = (digitsOf n).takeWhile Char.isDigit :=
    (List.takeWhile_eq_self_iff.mpr isDigit_digitsOf).symm
  have nothing_left : (digitsOf n).dropWhile Char.isDigit = [] :=
    List.dropWhile_eq_nil_iff.mpr isDigit_digitsOf
  have plain : ((digitsOf n).isEmpty || ((digitsOf n).head? = some '0' &&
      (digitsOf n).length ≠ 1 : Bool)) = false := by
    by_cases zero : n = 0
    · rw [zero]
      decide
    · simp [head_digitsOf n zero, digitsOf_ne_nil n]
  unfold magnitude? spanDigits
  rw [← all_digits, nothing_left]
  dsimp only
  rw [decimal_digitsOf, if_neg (Bool.eq_false_iff.mp plain)]
  rfl

theorem signed_digitsOf (n : Nat) : signed? (digitsOf n) = some (.integer n) := by
  unfold signed?
  split
  · rename_i begins
    have digit := isDigit_digitsOf (n := n) '-' (begins ▸ List.mem_cons_self)
    cases digit
  · exact magnitude_digitsOf false n

theorem toList_toString (k : Int) : (toString k).toList =
    if 0 ≤ k then digitsOf k.toNat else '-' :: digitsOf (-k).toNat := by
  show k.repr.toList = _
  rw [Int.repr_eq_if]
  split <;> simp [Nat.repr_eq_ofList_toDigits, digitsOf]

theorem signed_toString (k : Int) : signed? (toString k).toList = some (.integer k) := by
  rw [toList_toString]
  split
  · rename_i positive
    rw [signed_digitsOf, Int.toNat_of_nonneg positive]
  · rename_i negative
    show magnitude? true _ = _
    rw [magnitude_digitsOf, if_pos rfl, Int.toNat_of_nonneg (by omega), Int.neg_neg]

/-- An integer is a word. -/
theorem inWord_toString (k : Int) : ∀ c ∈ (toString k).toList, InWord c := by
  rw [toList_toString]
  split
  · exact fun c listed => inWord_of_isDigit (isDigit_digitsOf c listed)
  · refine List.forall_mem_cons.mpr ⟨⟨by decide, by decide, rfl⟩, ?_⟩
    exact fun c listed => inWord_of_isDigit (isDigit_digitsOf c listed)

theorem toString_ne_nil (k : Int) : (toString k).toList ≠ [] := by
  rw [toList_toString]
  split
  · exact digitsOf_ne_nil _
  · exact List.cons_ne_nil _ _

/-- What is read as a number is none of the other words. -/
theorem word_toString (k : Int) : word? (toString k).toList = some (.integer k) := by
  have signed := signed_toString k
  have other : ∀ w : List Char, signed? w = none → (toString k).toList ≠ w := by
    rintro w unsigned rfl
    rw [signed] at unsigned
    cases unsigned
  unfold word?
  rw [if_neg (other _ (by decide)), if_neg (other _ (by decide)), if_neg (other _ (by decide))]
  exact signed

/-! ## Cutting -/

/-- JSON holds the value, with at most so many lists and tables within each other: there are no
    reals and no moments, the integers are not too large, and no table has a key twice. -/
inductive Held (limits : Limits) : Nat → Value → Prop
  | null (n : Nat) : Held limits n .null
  | bool (n : Nat) (b : Bool) : Held limits n (.bool b)
  | integer (n : Nat) (k : Int) (size : limits.hugeNumbers = true ∨ fits (.integer k) = true) :
      Held limits n (.integer k)
  | text (n : Nat) (s : String) : Held limits n (.text s)
  | list {n : Nat} {items : List Value} (each : ∀ v ∈ items, Held limits n v) :
      Held limits (n + 1) (.list items)
  | table {n : Nat} {entries : List (String × Value)} (distinct : (entries.map (·.1)).Nodup)
      (each : ∀ e ∈ entries, Held limits n e.2) : Held limits (n + 1) (.table entries)

mutual

/-- The tokens of a value. -/
def tokensOf : Value → List Token
  | .bool b => [.word (if b then "true" else "false").toList]
  | .integer n => [.word (toString n).toList]
  | .text s => [.text (escaped s.toList)]
  | .list items => .openList :: ([.comma].intercalate (tokensOfItems items) ++ [.closeList])
  | .table entries => .openTable :: ([.comma].intercalate (tokensOfEntries entries) ++ [.closeTable])
  | _ => [.word "null".toList]

def tokensOfItems : List Value → List (List Token)
  | [] => []
  | v :: rest => tokensOf v :: tokensOfItems rest

def tokensOfEntries : List (String × Value) → List (List Token)
  | [] => []
  | (key, v) :: rest =>
    (.text (escaped key.toList) :: .colon :: tokensOf v) :: tokensOfEntries rest

end

/-- The characters are cut into these tokens, whatever comes after them. -/
def Lexes (chars : List Char) (ts : List Token) : Prop :=
  ∀ rest, Delimits rest → tokens (chars ++ rest) = (tokens rest).map (ts ++ ·)

theorem lexes_word (some_char : chars ≠ []) (inside : ∀ c ∈ chars, InWord c) :
    Lexes chars [.word chars] := fun _ delimits => tokens_word some_char inside delimits

theorem lexes_text (s : String) : Lexes (text s).toList [.text (escaped s.toList)] :=
  fun rest _ => tokens_text s rest

/-- Parts with commas between them. -/
theorem tokens_intercalate {parts : List (List Char)} {forms : List (List Token)} {close : Char}
    {t : Token} (each : List.Forall₂ Lexes parts forms) (closes : mark close = some t)
    (rest : List Char) : tokens ([','].intercalate parts ++ close :: rest) =
      (tokens rest).map ([.comma].intercalate forms ++ t :: ·) := by
  induction each with
  | nil => exact tokens_mark closes rest
  | cons here each ih =>
    -- what comes after a part is a comma or the end, and either completes its last word
    cases each with
    | nil =>
      rw [List.intercalate_singleton, List.intercalate_singleton, here _ (delimits_mark closes _),
        tokens_mark closes, Option.map_map]
      rfl
    | cons next each =>
      rw [List.intercalate_cons_cons, List.intercalate_cons_cons, List.append_assoc,
        List.append_assoc, List.singleton_append, here _ (delimits_mark rfl _), tokens_mark rfl, ih,
        Option.map_map, Option.map_map]
      simp [Function.comp_def]

theorem compactItems_eq_map (items : List Value) : compactItems items = items.map compact := by
  induction items with
  | nil => rfl
  | cons v items ih => rw [compactItems, ih, List.map_cons]

theorem compactEntries_eq_map (entries : List (String × Value)) :
    compactEntries entries = entries.map fun e => text e.1 ++ ":" ++ compact e.2 := by
  induction entries with
  | nil => rfl
  | cons e entries ih => rw [compactEntries, ih, List.map_cons]

theorem toList_compact_list (items : List Value) : (compact (.list items)).toList =
    '[' :: ([','].intercalate (items.map fun v => (compact v).toList) ++ [']']) := by
  simp [compact, compactItems_eq_map, String.toList_intercalate, Function.comp_def]

theorem toList_compact_table (entries : List (String × Value)) :
    (compact (.table entries)).toList = '{' :: ([','].intercalate
      (entries.map fun e => (text e.1).toList ++ ':' :: (compact e.2).toList) ++ ['}']) := by
  simp [compact, compactEntries_eq_map, String.toList_intercalate, Function.comp_def]

theorem lexes_items (each : ∀ v ∈ items, Lexes (compact v).toList (tokensOf v)) :
    List.Forall₂ Lexes (items.map fun v => (compact v).toList) (tokensOfItems items) := by
  induction items with
  | nil => exact .nil
  | cons v items ih =>
    obtain ⟨here, each⟩ := List.forall_mem_cons.mp each
    exact .cons here (ih each)

theorem lexes_entries (each : ∀ e ∈ entries, Lexes (compact e.2).toList (tokensOf e.2)) :
    List.Forall₂ Lexes (entries.map fun e => (text e.1).toList ++ ':' :: (compact e.2).toList)
      (tokensOfEntries entries) := by
  induction entries with
  | nil => exact .nil
  | cons e entries ih =>
    obtain ⟨here, each⟩ := List.forall_mem_cons.mp each
    refine .cons (fun rest delimits => ?_) (ih each)
    rw [List.append_assoc, tokens_text, List.cons_append, tokens_mark rfl, here rest delimits,
      Option.map_map, Option.map_map]
    rfl

/-- **Cutting**: the compact form of a value is cut into its tokens. -/
theorem lexes_compact (held : Held limits n v) : Lexes (compact v).toList (tokensOf v) := by
  induction held with
  | null => exact lexes_word (by decide) (inWord_of_all (by decide))
  | bool n b => cases b <;> exact lexes_word (by decide) (inWord_of_all (by decide))
  | integer n k => exact lexes_word (toString_ne_nil k) (inWord_toString k)
  | text n s => exact lexes_text s
  | @list n items each ih =>
    -- a list ends with a mark of its own, so nothing is asked of what comes after it
    intro rest _
    rw [toList_compact_list, List.cons_append, List.append_assoc, tokens_mark rfl, List.singleton_append,
      tokens_intercalate (lexes_items ih) rfl, Option.map_map, tokensOf]
    simp [Function.comp_def]
  | @table n entries distinct each ih =>
    intro rest _
    rw [toList_compact_table, List.cons_append, List.append_assoc, tokens_mark rfl, List.singleton_append,
      tokens_intercalate (lexes_entries ih) rfl, Option.map_map, tokensOf]
    simp [Function.comp_def]

/-! ## Putting together -/

/-- Where a value is expected, the tokens are put together as this one, if there is room for so many
    more lists and tables. -/
def Builds (limits : Limits) (n : Nat) (ts : List Token) (v : Value) : Prop :=
  ∀ frames more, frames.length + n ≤ limits.depth →
    assemble limits frames .value (ts ++ more) = assemble limits frames (.afterValue v) more

theorem assemble_step {t : Token} {frames' : List Frame} {expected expected' : Expected}
    (steps : step limits frames expected t = some (frames', expected')) (more : List Token) :
    assemble limits frames expected (t :: more) = assemble limits frames' expected' more := by
  rw [assemble, steps]

theorem builds_word {w : List Char} (is : word? w = some v)
    (fit : (limits.hugeNumbers || fits v) = true) : Builds limits n [.word w] v := by
  intro frames more _
  refine assemble_step ?_ more
  show begin limits frames (.word w) = _
  simp only [begin, is, fit, if_true]

theorem builds_text (s : String) : Builds limits n [.text (escaped s.toList)] (.text s) := by
  intro frames more _
  refine assemble_step ?_ more
  show begin limits frames (.text _) = _
  simp only [begin, unescape_escaped, Option.map_some, String.ofList_toList]

/-- No value begins with the end of a list. -/
theorem tokensOf_begins (v : Value) : ∃ t ts, tokensOf v = t :: ts ∧ t ≠ .closeList := by
  cases v <;> simp [tokensOf]

/-- In a list that has just been opened, a value may come as in any list. -/
theorem assemble_first {t : Token} (no_end : t ≠ .closeList) (frames : List Frame)
    (more : List Token) : assemble limits frames .valueOrClose (t :: more) =
      assemble limits frames .value (t :: more) := by
  have same : step limits frames .valueOrClose t = step limits frames .value t := by
    cases t with
    | closeList => exact absurd rfl no_end
    | _ => rfl
  rw [assemble, assemble, same]

/-- The items of a list, with its end, after those that have been read. -/
theorem assemble_items (each : ∀ v ∈ items, Builds limits n (tokensOf v) v)
    (room : frames.length + (n + 1) ≤ limits.depth) (some_item : items ≠ []) (before : List Value) :
    assemble limits (.list before :: frames) .value
        ([.comma].intercalate (tokensOfItems items) ++ .closeList :: more) =
      assemble limits frames (.afterValue (.list (before.reverse ++ items))) more := by
  induction items generalizing before with
  | nil => exact absurd rfl some_item
  | cons v items ih =>
    obtain ⟨here, each⟩ := List.forall_mem_cons.mp each
    have inner : (Frame.list before :: frames).length + n ≤ limits.depth := by
      rw [List.length_cons]
      omega
    cases items with
    | nil =>
      rw [tokensOfItems, tokensOfItems, List.intercalate_singleton, here _ _ inner,
        assemble_step rfl, List.reverse_cons]
    | cons next items =>
      have after := ih each (List.cons_ne_nil _ _) (v :: before)
      rw [tokensOfItems] at after
      rw [tokensOfItems, tokensOfItems, List.intercalate_cons_cons, List.append_assoc,
        List.append_assoc, here _ _ inner, List.singleton_append, assemble_step rfl, after,
        List.reverse_cons, List.append_assoc, List.singleton_append]

theorem builds_list (each : ∀ v ∈ items, Builds limits n (tokensOf v) v) :
    Builds limits (n + 1) (tokensOf (.list items)) (.list items) := by
  intro frames more room
  have opens : step limits frames .value .openList =
      some (.list [] :: frames, .valueOrClose) := if_pos (by omega)
  rw [tokensOf, List.cons_append, assemble_step opens, List.append_assoc, List.singleton_append]
  cases items with
  | nil => exact assemble_step rfl more
  | cons v items =>
    have inside : assemble limits (.list [] :: frames) .value
        ([.comma].intercalate (tokensOfItems (v :: items)) ++ .closeList :: more) = _ :=
      assemble_items each room (List.cons_ne_nil _ _) []
    -- the first item is read where the list might also end, and no value begins with that end
    obtain ⟨t, ts, begins, no_end⟩ := tokensOf_begins v
    have first : ∃ ts', [.comma].intercalate (tokensOfItems (v :: items)) = t :: ts' := by
      rw [tokensOfItems, begins, List.intercalate_cons_cons_left]
      exact ⟨_, rfl⟩
    obtain ⟨ts', is⟩ := first
    rw [is] at inside ⊢
    exact (assemble_first no_end _ _).trans inside

/-- A key that is new comes last. -/
theorem set_of_new {key : String} (new : key ∉ entries.map (·.1)) (v : Value) :
    Value.set key v entries = entries ++ [(key, v)] := by
  induction entries with
  | nil => rfl
  | cons e entries ih =>
    rw [List.map_cons, List.mem_cons, not_or] at new
    rw [Value.set, if_neg (Ne.symm new.1), ih new.2, List.cons_append]

/-- The entries of a table, with its end, after those that have been read. -/
theorem assemble_entries (each : ∀ e ∈ entries, Builds limits n (tokensOf e.2) e.2)
    (room : frames.length + (n + 1) ≤ limits.depth) (some_entry : entries ≠ [])
    (before : List (String × Value)) (distinct : ((before ++ entries).map (·.1)).Nodup) :
    assemble limits frames (.key before)
        ([.comma].intercalate (tokensOfEntries entries) ++ .closeTable :: more) =
      assemble limits frames (.afterValue (.table (before ++ entries))) more := by
  induction entries generalizing before with
  | nil => exact absurd rfl some_entry
  | cons e entries ih =>
    obtain ⟨key, v⟩ := e
    obtain ⟨here, each⟩ := List.forall_mem_cons.mp each
    have inner : (Frame.table before key :: frames).length + n ≤ limits.depth := by
      rw [List.length_cons]
      omega
    -- a key that were there already would take the new value at its old place
    have new : key ∉ before.map (·.1) := by
      rw [List.map_append, List.map_cons] at distinct
      exact fun old => (List.nodup_append.mp distinct).2.2 key old key List.mem_cons_self rfl
    have named : step limits frames (.key before) (.text (escaped key.toList)) =
        some (frames, .colon before key) := by
      show (unescape none _).map _ = _
      rw [unescape_escaped, Option.map_some, String.ofList_toList]
    have goes_on : before ++ (key, v) :: entries = Value.set key v before ++ entries := by
      rw [set_of_new new, List.append_assoc, List.singleton_append]
    cases entries with
    | nil =>
      rw [tokensOfEntries, tokensOfEntries, List.intercalate_singleton, List.cons_append,
        List.cons_append, assemble_step named, assemble_step rfl, here _ _ inner, assemble_step rfl,
        goes_on, List.append_nil]
    | cons next entries =>
      rw [goes_on] at distinct ⊢
      have after := ih each (List.cons_ne_nil _ _) _ distinct
      rw [tokensOfEntries] at after
      rw [tokensOfEntries, tokensOfEntries, List.intercalate_cons_cons, List.append_assoc,
        List.append_assoc, List.cons_append, List.cons_append, assemble_step named,
        assemble_step rfl, here _ _ inner, List.singleton_append, assemble_step rfl, after]

theorem builds_table (each : ∀ e ∈ entries, Builds limits n (tokensOf e.2) e.2)
    (distinct : (entries.map (·.1)).Nodup) :
    Builds limits (n + 1) (tokensOf (.table entries)) (.table entries) := by
  intro frames more room
  have opens : step limits frames .value .openTable =
      some (.table [] "" :: frames, .keyOrClose) := if_pos (by omega)
  rw [tokensOf, List.cons_append, assemble_step opens, List.append_assoc, List.singleton_append]
  cases entries with
  | nil => exact assemble_step rfl more
  | cons e entries =>
    have inside : assemble limits frames (.key [])
        ([.comma].intercalate (tokensOfEntries (e :: entries)) ++ .closeTable :: more) = _ :=
      assemble_entries each room (List.cons_ne_nil _ _) [] distinct
    rw [tokensOfEntries, List.intercalate_cons_cons_left] at inside ⊢
    rw [← List.nil_append (e :: entries), ← inside, List.cons_append, assemble, assemble]
    rfl

/-- **Putting together**: the tokens of a value are put together as this value. -/
theorem builds (held : Held limits n v) : Builds limits n (tokensOf v) v := by
  induction held with
  | null => exact builds_word rfl (Bool.or_true _)
  | bool n b => cases b <;> exact builds_word rfl (Bool.or_true _)
  | integer n k size => exact builds_word (word_toString k) ((Bool.or_eq_true _ _).mpr size)
  | text n s => exact builds_text s
  | list each ih => exact builds_list ih
  | table distinct each ih => exact builds_table ih distinct

/-- **Reading undoes writing**: what JSON holds is read from its compact form as it was. -/
theorem read_compact (held : Held limits n v) (room : n ≤ limits.depth) :
    read limits (compact v).toList = some v := by
  have cut := lexes_compact held [] delimits_nil
  have built := builds held [] [] (by simpa using room)
  rw [List.append_nil] at cut built
  unfold read
  rw [cut]
  simpa [tokens, tokensFrom, assemble, Reading.finished] using built

/-! ## Lines -/

theorem newline_not_mem_escapeChar (c : Char) : '\n' ∉ escapeChar c := by
  have digits : ∀ n < 0x20, '\n' ∉ hexDigits 4 n := by decide
  unfold escapeChar
  iterate 7
    split
    · decide
  split
  · rename_i control
    simpa using digits c.toNat control
  · rename_i no_newline _ _ _ _ _
    simpa using Ne.symm no_newline

theorem newline_not_mem_text (s : String) : '\n' ∉ (text s).toList := by
  have inside : ∀ c ∈ s.toList, '\n' ∉ escapeChar c := fun c _ => newline_not_mem_escapeChar c
  simpa [text] using inside

theorem newline_not_mem_intercalate {parts : List (List Char)} (each : ∀ part ∈ parts, '\n' ∉ part) :
    '\n' ∉ [','].intercalate parts := by
  induction parts with
  | nil => exact List.not_mem_nil
  | cons part parts ih =>
    obtain ⟨here, each⟩ := List.forall_mem_cons.mp each
    cases parts with
    | nil => rwa [List.intercalate_singleton]
    | cons next parts =>
      rw [List.intercalate_cons_cons, List.mem_append, List.mem_append, not_or, not_or]
      exact ⟨⟨here, by decide⟩, ih each⟩

/-- **Lines**: a compact form has no line end in it. -/
theorem newline_not_mem_compact (held : Held limits n v) : '\n' ∉ (compact v).toList := by
  induction held with
  | null => decide
  | bool n b => cases b <;> decide
  | integer n k =>
    intro listed
    have inside := inWord_toString k '\n' listed
    cases inside.no_blank
  | text n s => exact newline_not_mem_text s
  | @list n items each ih =>
    have inside := newline_not_mem_intercalate (List.forall_mem_map.mpr ih)
    rw [toList_compact_list]
    simpa using inside
  | @table n entries distinct each ih =>
    have each_entry : ∀ e ∈ entries, '\n' ∉ (text e.1).toList ++ ':' :: (compact e.2).toList := by
      intro e listed
      rw [List.mem_append, List.mem_cons, not_or, not_or]
      exact ⟨newline_not_mem_text e.1, by decide, ih e listed⟩
    have inside := newline_not_mem_intercalate (List.forall_mem_map.mpr each_entry)
    rw [toList_compact_table]
    simpa using inside

/-! ## Sizes -/

/-- How many numbers a machine word holds. -/
def wordSize : Nat := 0x10000000000000000

theorem log2_lt_of_lt {m bits : Nat} (some_bits : 0 < bits) (small : m < 1 <<< bits) :
    m.log2 < bits := by
  by_cases zero : m = 0
  · rw [zero]
    exact some_bits
  · rw [Nat.one_shiftLeft] at small
    exact (Nat.log2_lt zero).mpr small

theorem shiftLeft_lt {m bits : Nat} (small : m < 1 <<< bits) (more : Nat) :
    m <<< more < 1 <<< (bits + more) := by
  rw [Nat.shiftLeft_add, Nat.shiftLeft_eq, Nat.shiftLeft_eq (1 <<< bits)]
  exact Nat.mul_lt_mul_of_pos_right small (Nat.two_pow_pos _)

theorem roundDiv_one (n : Nat) : Binary64.roundDiv n 1 = n := by
  unfold Binary64.roundDiv
  simp [Nat.mod_one]

theorem roundDiv_le (n d : Nat) : Binary64.roundDiv n d ≤ n / d + 1 := by
  unfold Binary64.roundDiv
  dsimp only
  split
  · omega
  · split
    · omega
    · split <;> omega

theorem floorLog2_le (n : Nat) : Binary64.floorLog2 n 1 ≤ n.log2 := by
  have one : Nat.log2 1 = 0 := by decide
  unfold Binary64.floorLog2
  dsimp only
  rw [one]
  split <;> omega

/-- A number of a machine word is finite by far. -/
theorem isFinite_ofRatio {n : Nat} (small : n < 1 <<< 64) (negative : Bool) :
    (Binary64.ofRatio negative n 1).isFinite = true := by
  have bits := log2_lt_of_lt (by decide) small
  have low := floorLog2_le n
  unfold Binary64.ofRatio
  split
  · rfl
  · generalize is_exponent : max (Binary64.floorLog2 n 1 - (Binary64.precision - 1 : Nat))
      Binary64.leastExponent = exponent
    have up : exponent ≤ 64 := by
      rw [← is_exponent, Binary64.precision, Binary64.leastExponent]
      omega
    have finite : ¬ (Binary64.overflowExponent : Int) ≤ exponent +
        (Binary64.roundDiv (Binary64.scaled n 1 (-exponent)).1
          (Binary64.scaled n 1 (-exponent)).2).log2 := by
      rw [Binary64.overflowExponent]
      unfold Binary64.scaled
      split
      · -- nothing is rounded: the bits move up by as much as the exponent is below zero
        have moved := log2_lt_of_lt (by omega) (shiftLeft_lt small (-exponent).toNat)
        dsimp only
        rw [roundDiv_one]
        omega
      · have rounded := roundDiv_le n (1 <<< (- -exponent).toNat)
        have less : n / 1 <<< (- -exponent).toNat ≤ n := Nat.div_le_self _ _
        have few : (Binary64.roundDiv n (1 <<< (- -exponent).toNat)).log2 < 65 :=
          log2_lt_of_lt (by decide) (by omega)
        dsimp only
        omega
    dsimp only
    rw [if_neg finite]
    rfl

/-- **Sizes**: an integer of a machine word is not too large for a number. -/
theorem fits_of_lt {n : Nat} (small : n < wordSize) : fits (.integer n) = true := by
  have few : (Nat.toDigits 10 n).length ≤ 20 :=
    (Nat.length_toDigits_le_iff (by decide) (by decide)).mpr
      (Nat.lt_of_lt_of_le small (by decide))
  show (Binary64.ofDecimal false (n : Int).natAbs 0).isFinite = true
  rw [Int.natAbs_natCast]
  unfold Binary64.ofDecimal
  dsimp only
  split
  · rfl
  · rw [if_neg (by omega), if_pos (Int.le_refl 0)]
    show (Binary64.ofRatio false (n * 1) 1).isFinite = true
    rw [Nat.mul_one]
    exact isFinite_ofRatio small false

end GoWorkbench.Json
