/-
  What is written as JSON and read again.

  1. **Escapes** — the escaped form of a text stands for the text (`unescape_escaped`).
  2. **Tokens** — it has no quote that would end it early, so a text in quotes is one token
     (`tokens_text`).
  3. **Tables** — so a table with one text in it is read as it was written (`read_indented`).
-/
import GoWorkbench.Json.Reader
import GoWorkbench.Json.Writer

namespace GoWorkbench.Json

open GoWorkbench.Text

variable {c : Char} {chars : List Char}

/-! ## Escapes -/

/-- The escaped form of a text. -/
def escaped (chars : List Char) : List Char := chars.flatMap escapeChar

/-- A control character by its number. -/
theorem number_hexDigits : ∀ n < 0x20, ∃ a b c d, hexDigits 4 n = [a, b, c, d] ∧
    number? 16 [a, b, c, d] = some n ∧ ∀ e ∈ [a, b, c, d], e ≠ '"' ∧ e ≠ '\\' := by
  intro n small
  have all : ∀ n < 0x20, number? 16 (hexDigits 4 n) = some n ∧
      '"' ∉ hexDigits 4 n ∧ '\\' ∉ hexDigits 4 n := by decide
  obtain ⟨number, no_quote, no_escape⟩ := all n small
  exact ⟨_, _, _, _, rfl, number, fun e he =>
    ⟨fun is => no_quote (is ▸ he), fun is => no_escape (is ▸ he)⟩⟩

/-- What the escaped form of a character is. -/
inductive Escapes : Char → List Char → Prop
  /-- A backslash and one character. -/
  | short {c e : Char} (stands : shortEscape e = some c) (not_number : e ≠ 'u') :
      Escapes c ['\\', e]
  /-- A backslash and a number. -/
  | number {c : Char} {w x y z : Char} (control : c.toNat < 0x20)
      (is : number? 16 [w, x, y, z] = some c.toNat)
      (plain : ∀ e ∈ [w, x, y, z], e ≠ '"' ∧ e ≠ '\\') : Escapes c ['\\', 'u', w, x, y, z]
  /-- The character itself. -/
  | plain {c : Char} (no_control : ¬ c.toNat < 0x20) (no_quote : c ≠ '"') (no_escape : c ≠ '\\') :
      Escapes c [c]

theorem escapes_escapeChar (c : Char) : Escapes c (escapeChar c) := by
  unfold escapeChar
  -- the characters with an escape of their own come first
  iterate 7
    split
    · rename_i is
      rw [is]
      exact .short rfl (by decide)
  split
  · rename_i control
    obtain ⟨w, x, y, z, digits, is, plain⟩ := number_hexDigits c.toNat control
    rw [digits]
    exact .number control is plain
  · exact .plain ‹_› ‹_› ‹_›

theorem unescape_escapeChar (c : Char) (rest : List Char) :
    unescape none (escapeChar c ++ rest) = (unescape none rest).map (c :: ·) := by
  have escapes := escapes_escapeChar c
  generalize escapeChar c = form at escapes
  cases escapes with
  | short stands not_number =>
    show unescape none ('\\' :: _ :: rest) = _
    rw [unescape]
    · simp [stands]
    · exact fun _ _ _ _ _ is _ => not_number is
  | number control is plain =>
    show unescape none ('\\' :: 'u' :: _ :: _ :: _ :: _ :: rest) = _
    have low : ¬ 0xD800 ≤ c.toNat ∧ ¬ 0xDC00 ≤ c.toNat := by omega
    rw [unescape]
    simp [is, low]
  | plain no_control no_quote no_escape =>
    show unescape none (c :: rest) = _
    rw [unescape]
    · simp [no_control, no_escape]
    · exact fun _ _ _ _ _ is _ => no_escape is
    · exact fun _ _ is _ => no_escape is

/-- **Escapes**: the escaped form of a text stands for the text. -/
theorem unescape_escaped (chars : List Char) : unescape none (escaped chars) = some chars := by
  induction chars with
  | nil => rfl
  | cons c chars ih =>
    rw [show escaped (c :: chars) = escapeChar c ++ escaped chars from rfl, unescape_escapeChar, ih]
    rfl

/-! ## Tokens -/

/-- Characters that end no text and escape nothing are part of the text. -/
theorem tokensFrom_plain (plain : ∀ e ∈ chars, e ≠ '"' ∧ e ≠ '\\') (raw rest : List Char) :
    tokensFrom (.text raw) (chars ++ rest) = tokensFrom (.text (chars.reverse ++ raw)) rest := by
  induction chars generalizing raw with
  | nil => rfl
  | cons e chars ih =>
    obtain ⟨⟨no_quote, no_escape⟩, plain⟩ := List.forall_mem_cons.mp plain
    rw [List.cons_append, tokensFrom, if_neg no_quote, if_neg no_escape, ih plain,
      List.reverse_cons, List.append_assoc, List.singleton_append]

/-- An escape is part of the text. -/
theorem tokensFrom_escape (e : Char) (raw rest : List Char) :
    tokensFrom (.text raw) ('\\' :: e :: rest) = tokensFrom (.text (e :: '\\' :: raw)) rest := by
  rw [tokensFrom, if_neg (by decide), if_pos rfl, tokensFrom]

theorem tokensFrom_escapeChar (c : Char) (raw rest : List Char) :
    tokensFrom (.text raw) (escapeChar c ++ rest) =
      tokensFrom (.text ((escapeChar c).reverse ++ raw)) rest := by
  have escapes := escapes_escapeChar c
  generalize escapeChar c = form at escapes
  cases escapes with
  | short stands not_number => exact tokensFrom_escape _ raw rest
  | number control is plain =>
    refine (tokensFrom_escape 'u' raw _).trans ?_
    exact tokensFrom_plain plain ('u' :: '\\' :: raw) rest
  | plain no_control no_quote no_escape =>
    exact tokensFrom_plain (List.forall_mem_singleton.mpr ⟨no_quote, no_escape⟩) raw rest

theorem tokensFrom_escaped (chars raw rest : List Char) :
    tokensFrom (.text raw) (escaped chars ++ rest) =
      tokensFrom (.text ((escaped chars).reverse ++ raw)) rest := by
  induction chars generalizing raw with
  | nil => rfl
  | cons c chars ih =>
    rw [show escaped (c :: chars) = escapeChar c ++ escaped chars from rfl, List.append_assoc,
      tokensFrom_escapeChar, ih, List.reverse_append, List.append_assoc]

/-- **Tokens**: a text in quotes is one token. -/
theorem tokens_text (s : String) (rest : List Char) :
    tokens ((text s).toList ++ rest) = (tokens rest).map (.text (escaped s.toList) :: ·) := by
  have quoted : (text s).toList ++ rest = '"' :: (escaped s.toList ++ '"' :: rest) := by
    unfold text escaped
    simp
  unfold tokens
  rw [quoted, tokensFrom, if_pos rfl, tokensFrom_escaped, tokensFrom, if_pos rfl, List.append_nil,
    List.reverse_reverse]

/-! ## Tables -/

/-- A blank between tokens is passed over. -/
theorem tokens_blank {blank : Char} (is : isBlank blank = true) (rest : List Char) :
    tokens (blank :: rest) = tokens rest := by
  have no_quote : blank ≠ '"' := by
    rintro rfl
    cases is
  unfold tokens
  rw [tokensFrom, if_neg no_quote, if_pos is]

theorem tokens_mark {m : Char} {t : Token} (is : mark m = some t) (rest : List Char) :
    tokens (m :: rest) = (tokens rest).map (t :: ·) := by
  have no_quote : m ≠ '"' := by
    rintro rfl
    cases is
  have no_blank : ¬ isBlank m = true := by
    unfold isBlank
    rw [Bool.or_eq_true, Bool.or_eq_true, Bool.or_eq_true]
    simp only [beq_iff_eq]
    rintro (((rfl | rfl) | rfl) | rfl) <;> cases is
  unfold tokens
  rw [tokensFrom, if_neg no_quote, if_neg no_blank, is]

/-- **Tables**: a table with one text in it is read as it was written. -/
theorem read_indented (limits : Limits) (nests : 0 < limits.depth) (key s : String) :
    read limits (indented [(key, .text s)]).toList = some (.table [(key, .text s)]) := by
  have spelled : (indented [(key, .text s)]).toList =
      '{' :: '\n' :: ' ' :: ' ' :: ((text key).toList ++
        ':' :: ' ' :: ((text s).toList ++ ['\n', '}'])) := by
    simp [indented, compact]
  have cut : tokens (indented [(key, .text s)]).toList = some [.openTable,
      .text (escaped key.toList), .colon, .text (escaped s.toList), .closeTable] := by
    rw [spelled, tokens_mark rfl, tokens_blank rfl, tokens_blank rfl, tokens_blank rfl,
      tokens_text, tokens_mark rfl, tokens_blank rfl, tokens_text, tokens_blank rfl,
      tokens_mark rfl]
    rfl
  unfold read
  rw [cut]
  simp [assemble, step, begin, nests, unescape_escaped, Value.set]

end GoWorkbench.Json
