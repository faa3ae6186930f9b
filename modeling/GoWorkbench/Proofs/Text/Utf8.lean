/-
  What the pieces of a byte sequence stand for.

  1. **Characters** — what is read after a lead byte, up to where the byte says, is the UTF-8 form
     of a character (`encode_lead`).  No other character has an ASCII byte in its form than the one
     of that number (`ascii_mem`).
  2. **Pieces** — so each piece stands for the form of its character, or it is a flaw and stands
     for bytes that are no ASCII (`piece_stands`).
  3. **Cuts** — the pieces of a cut stand for all bytes, in order (`cut_spelled`).
  4. **Forms** — the form of a text is read as that text (`decode_encode`).
-/
import GoWorkbench.Text.Utf8
import Mathlib.Data.List.Basic

namespace GoWorkbench.Text.Utf8

/-! ## Characters -/

/-- Bytes that go on with a character: the first between `low` and `high`. -/
def Continues (low high : UInt8) : List UInt8 → Prop
  | [] => True
  | b :: rest => low.toNat ≤ b.toNat ∧ b.toNat ≤ high.toNat ∧ Continues 0x80 0xBF rest

/-- The number of a character, when so much has been read of it and these bytes follow. -/
def total (value : Nat) (bytes : List UInt8) : Nat :=
  bytes.foldl (fun value b => value * 64 + (b.toNat - 0x80)) value

theorem total_cons (value : Nat) (b : UInt8) (bytes : List UInt8) :
    total value (b :: bytes) = total (value * 64 + (b.toNat - 0x80)) bytes := by
  unfold total
  rw [List.foldl_cons]

/-- The UTF-8 form of the character with a number. -/
theorem encode_ofNat {n : Nat} (valid : n.isValidChar) : String.utf8EncodeChar (Char.ofNat n) =
    if n ≤ 0x7F then [UInt8.ofNat n]
    else if n ≤ 0x7FF then [UInt8.ofNat (n / 64 % 32 + 0xC0), UInt8.ofNat (n % 64 + 0x80)]
    else if n ≤ 0xFFFF then
      [UInt8.ofNat (n / 4096 % 16 + 0xE0), UInt8.ofNat (n / 64 % 64 + 0x80),
        UInt8.ofNat (n % 64 + 0x80)]
    else
      [UInt8.ofNat (n / 262144 % 8 + 0xF0), UInt8.ofNat (n / 4096 % 64 + 0x80),
        UInt8.ofNat (n / 64 % 64 + 0x80), UInt8.ofNat (n % 64 + 0x80)] := by
  have number : (Char.ofNat n).val.toNat = n := by
    unfold Char.ofNat
    rw [dif_pos valid]
    rfl
  rw [String.utf8EncodeChar.eq_1, number]

theorem ofNat_eq {n : Nat} {b : UInt8} (h : n = b.toNat) : UInt8.ofNat n = b := by
  rw [h, UInt8.ofNat_toNat]

/-- What lead bytes ask for. -/
theorem lead_cases {b low high : UInt8} {count value : Nat}
    (asked : lead b = some (count, value, low, high)) : 0x80 ≤ low.toNat ∧ high.toNat ≤ 0xBF ∧
    (0xC2 ≤ b.toNat ∧ b.toNat < 0xE0 ∧ count = 1 ∧ value = b.toNat - 0xC0 ∨
      0xE0 ≤ b.toNat ∧ b.toNat < 0xF0 ∧ count = 2 ∧ value = b.toNat - 0xE0 ∧
        (b.toNat = 0xE0 → 0xA0 ≤ low.toNat) ∧ (b.toNat = 0xED → high.toNat ≤ 0x9F) ∨
      0xF0 ≤ b.toNat ∧ b.toNat < 0xF5 ∧ count = 3 ∧ value = b.toNat - 0xF0 ∧
        (b.toNat = 0xF0 → 0x90 ≤ low.toNat) ∧ (b.toNat = 0xF4 → high.toNat ≤ 0x8F)) := by
  unfold lead at asked
  simp only [UInt8.lt_iff_toNat_lt, UInt8.reduceToNat] at asked
  split at asked
  · cases asked
  split at asked
  · simp only [Option.some.injEq, Prod.mk.injEq] at asked
    obtain ⟨rfl, rfl, rfl, rfl⟩ := asked
    exact ⟨by decide, by decide, Or.inl (by omega)⟩
  split at asked
  · simp only [Option.some.injEq, Prod.mk.injEq] at asked
    obtain ⟨rfl, rfl, rfl, rfl⟩ := asked
    refine ⟨?_, ?_, Or.inr (Or.inl ⟨by omega, by omega, rfl, rfl, fun h => ?_, fun h => ?_⟩)⟩
    · split <;> decide
    · split <;> decide
    · rw [if_pos (by simpa [← UInt8.toNat_inj] using h)]; decide
    · rw [if_pos (by simpa [← UInt8.toNat_inj] using h)]; decide
  split at asked
  · simp only [Option.some.injEq, Prod.mk.injEq] at asked
    obtain ⟨rfl, rfl, rfl, rfl⟩ := asked
    refine ⟨?_, ?_, Or.inr (Or.inr ⟨by omega, by omega, rfl, rfl, fun h => ?_, fun h => ?_⟩)⟩
    · split <;> decide
    · split <;> decide
    · rw [if_pos (by simpa [← UInt8.toNat_inj] using h)]; decide
    · rw [if_pos (by simpa [← UInt8.toNat_inj] using h)]; decide
  · cases asked

/-- **Characters are read back**: what a lead byte asks for makes the form of a character. -/
theorem encode_lead {b low high : UInt8} {count value : Nat} {rest : List UInt8}
    (asked : lead b = some (count, value, low, high)) (whole : rest.length = count)
    (continues : Continues low high rest) :
    String.utf8EncodeChar (Char.ofNat (total value rest)) = b :: rest := by
  obtain ⟨hlow, hhigh, ⟨hb, hb', count_is, is⟩ | ⟨hb, hb', count_is, is, hshort, hsurrogate⟩ |
    ⟨hb, hb', count_is, is, hshort, hhuge⟩⟩ := lead_cases asked
  all_goals rw [count_is] at whole; rw [is]
  · obtain ⟨c, rfl⟩ := List.length_eq_one_iff.mp whole
    obtain ⟨hc, hc', -⟩ := continues
    show String.utf8EncodeChar (Char.ofNat ((b.toNat - 0xC0) * 64 + (c.toNat - 0x80))) = _
    rw [encode_ofNat (Or.inl (by omega)), if_neg (by omega), if_pos (by omega),
      ofNat_eq (b := b) (by omega), ofNat_eq (b := c) (by omega)]
  · obtain ⟨c, d, rfl⟩ := List.length_eq_two.mp whole
    obtain ⟨hc, hc', hd, hd', -⟩ := continues
    have hd := show 0x80 ≤ d.toNat from hd
    have hd' := show d.toNat ≤ 0xBF from hd'
    show String.utf8EncodeChar (Char.ofNat
      (((b.toNat - 0xE0) * 64 + (c.toNat - 0x80)) * 64 + (d.toNat - 0x80))) = _
    rw [encode_ofNat (by unfold Nat.isValidChar; omega), if_neg (by omega), if_neg (by omega),
      if_pos (by omega), ofNat_eq (b := b) (by omega), ofNat_eq (b := c) (by omega),
      ofNat_eq (b := d) (by omega)]
  · obtain ⟨c, d, e, rfl⟩ := List.length_eq_three.mp whole
    obtain ⟨hc, hc', hd, hd', he, he', -⟩ := continues
    have hd := show 0x80 ≤ d.toNat from hd
    have hd' := show d.toNat ≤ 0xBF from hd'
    have he := show 0x80 ≤ e.toNat from he
    have he' := show e.toNat ≤ 0xBF from he'
    show String.utf8EncodeChar (Char.ofNat
      ((((b.toNat - 0xF0) * 64 + (c.toNat - 0x80)) * 64 + (d.toNat - 0x80)) * 64 +
        (e.toNat - 0x80))) = _
    rw [encode_ofNat (by unfold Nat.isValidChar; omega), if_neg (by omega), if_neg (by omega),
      if_neg (by omega), ofNat_eq (b := b) (by omega), ofNat_eq (b := c) (by omega),
      ofNat_eq (b := d) (by omega), ofNat_eq (b := e) (by omega)]

/-- An ASCII byte is in the form of the character of that number only. -/
theorem ascii_mem {c : Char} {b : UInt8} (ascii : b.toNat < 0x80)
    (h : b ∈ String.utf8EncodeChar c) : c.toNat = b.toNat := by
  have is : ∀ {n : Nat}, b = UInt8.ofNat n → n % 256 = b.toNat := by
    intro n hn
    rw [hn, UInt8.toNat_ofNat']
  rw [String.utf8EncodeChar.eq_1] at h
  split at h
  · have := is (List.mem_singleton.mp h)
    show c.val.toNat = b.toNat
    omega
  · split at h
    · simp only [List.mem_cons, List.not_mem_nil, or_false] at h
      rcases h with h | h <;> have := is h <;> omega
    · split at h
      · simp only [List.mem_cons, List.not_mem_nil, or_false] at h
        rcases h with h | h | h <;> have := is h <;> omega
      · simp only [List.mem_cons, List.not_mem_nil, or_false] at h
        rcases h with h | h | h | h <;> have := is h <;> omega

/-- A newline byte is in the form of the newline only. -/
theorem newline_mem {c : Char} (h : 10 ∈ String.utf8EncodeChar c) : c = '\n' :=
  Char.ext (UInt32.toNat_inj.mp (ascii_mem (by decide) h))

/-! ## Pieces -/

/-- What a piece stands for. -/
inductive Piece.StandsFor : Piece → List UInt8 → Prop
  | char (c : Char) : StandsFor (.char c (String.utf8EncodeChar c).length) (String.utf8EncodeChar c)
  | flaw {kind : Flaw} {bytes : List UInt8} (high : ∀ b ∈ bytes, 0x80 ≤ b.toNat)
      (some_byte : bytes ≠ []) : StandsFor (.flaw kind bytes.length) bytes

/-- Reading goes on to the end of the character, or stops at what is no part of it. -/
theorem finish_cases (low high : UInt8) (count value width : Nat) (bytes : List UInt8)
    (low_high : 0x80 ≤ low.toNat) : ∃ read rest, bytes = read ++ rest ∧
      (∀ b ∈ read, 0x80 ≤ b.toNat) ∧
      ((∃ kind, finish count value width low high bytes = .flaw kind (width + read.length)) ∨
        read.length = count ∧ Continues low high read ∧
          finish count value width low high bytes =
            .char (Char.ofNat (total value read)) (width + read.length)) := by
  induction bytes generalizing count value width low high with
  | nil =>
    refine ⟨[], [], rfl, fun b hb => absurd hb List.not_mem_nil, ?_⟩
    rw [finish]
    by_cases h : count = 0
    · rw [if_pos h]
      exact Or.inr ⟨h.symm, trivial, rfl⟩
    · rw [if_neg h]
      exact Or.inl ⟨_, rfl⟩
  | cons b bytes ih =>
    rw [finish]
    by_cases h : count = 0
    · rw [if_pos h]
      exact ⟨[], b :: bytes, rfl, fun b hb => absurd hb List.not_mem_nil,
        Or.inr ⟨h.symm, trivial, rfl⟩⟩
    rw [if_neg h]
    by_cases within : (low ≤ b && b ≤ high) = true
    · rw [if_pos within]
      simp only [Bool.and_eq_true, decide_eq_true_eq, UInt8.le_iff_toNat_le] at within
      obtain ⟨read, rest, rfl, hread, ends⟩ :=
        ih 0x80 0xBF (count - 1) (value * 64 + (b.toNat - 0x80)) (width + 1) (by decide)
      refine ⟨b :: read, rest, rfl, List.forall_mem_cons.mpr ⟨by omega, hread⟩, ?_⟩
      have width_eq : width + 1 + read.length = width + (b :: read).length := by
        rw [List.length_cons]; omega
      rw [width_eq] at ends
      refine ends.imp id fun ⟨whole, continues, is⟩ => ⟨?_, ⟨within.1, within.2, continues⟩, ?_⟩
      · rw [List.length_cons]; omega
      · rw [total_cons]; exact is
    · rw [if_neg within]
      exact ⟨[], b :: bytes, rfl, fun b hb => absurd hb List.not_mem_nil, Or.inl ⟨_, rfl⟩⟩

/-- **Each piece** stands for what the bytes begin with. -/
theorem piece_stands (b : UInt8) (bytes : List UInt8) :
    ∃ read rest, b :: bytes = read ++ rest ∧ (piece b bytes).StandsFor read := by
  unfold piece
  by_cases ascii : b < 0x80
  · rw [if_pos ascii]
    rw [UInt8.lt_iff_toNat_lt] at ascii
    have ascii := show b.toNat < 128 from ascii
    have is : String.utf8EncodeChar (Char.ofNat b.toNat) = [b] := by
      rw [encode_ofNat (Or.inl (by omega)), if_pos (by omega), UInt8.ofNat_toNat]
    refine ⟨[b], bytes, rfl, ?_⟩
    have stands := Piece.StandsFor.char (Char.ofNat b.toNat)
    rw [is] at stands
    exact stands
  rw [if_neg ascii]
  have not_ascii : 0x80 ≤ b.toNat := by
    rw [UInt8.lt_iff_toNat_lt, Nat.not_lt] at ascii
    exact ascii
  rcases asked : lead b with _ | ⟨count, value, low, high⟩
  · have high : ∀ c ∈ [b], 0x80 ≤ c.toNat := List.forall_mem_singleton.mpr not_ascii
    exact ⟨[b], bytes, rfl, .flaw high (List.cons_ne_nil _ _)⟩
  obtain ⟨read, rest, rfl, hread, ⟨kind, is⟩ | ⟨whole, continues, is⟩⟩ :=
    finish_cases low high count value 1 bytes (lead_cases asked).1
  · refine ⟨b :: read, rest, rfl, ?_⟩
    dsimp only
    rw [is, Nat.add_comm]
    exact .flaw (List.forall_mem_cons.mpr ⟨not_ascii, hread⟩) (List.cons_ne_nil _ _)
  · refine ⟨b :: read, rest, rfl, ?_⟩
    have stands := Piece.StandsFor.char (Char.ofNat (total value read))
    rw [encode_lead asked whole continues] at stands
    dsimp only
    rw [is, Nat.add_comm]
    exact stands

/-! ## Cuts -/

/-- The pieces stand for the bytes, one after the other. -/
inductive Spelled : List Piece → List UInt8 → Prop
  | nil : Spelled [] []
  | cons {p : Piece} {pieces : List Piece} {read rest : List UInt8} (stands : p.StandsFor read)
      (on : Spelled pieces rest) : Spelled (p :: pieces) (read ++ rest)

theorem cut_eq_drop (skip : Nat) (bytes : List UInt8) : cut skip bytes = cut 0 (bytes.drop skip) := by
  induction bytes generalizing skip with
  | nil => rw [List.drop_nil, cut, cut]
  | cons b bytes ih =>
    cases skip with
    | zero => rfl
    | succ skip => rw [cut, List.drop_succ_cons, ih]

theorem Piece.StandsFor.width {p : Piece} {read : List UInt8} (h : p.StandsFor read) :
    p.width = read.length ∧ read ≠ [] := by
  cases h with
  | char c => exact ⟨rfl, String.utf8EncodeChar_ne_nil⟩
  | flaw high some_byte => exact ⟨rfl, some_byte⟩

/-- **The pieces of a cut** stand for all bytes. -/
theorem cut_spelled (bytes : List UInt8) : Spelled (cut 0 bytes) bytes := by
  -- a piece takes at least one byte, and the cut goes on behind it
  induction hlength : bytes.length using Nat.strongRecOn generalizing bytes with
  | ind length ih =>
    cases bytes with
    | nil => rw [cut]; exact .nil
    | cons b bytes =>
      obtain ⟨read, rest, is, stands⟩ := piece_stands b bytes
      obtain ⟨width, some_byte⟩ := stands.width
      have onward : bytes.drop ((piece b bytes).width - 1) = rest := by
        obtain ⟨first, more, rfl⟩ := List.exists_cons_of_ne_nil some_byte
        rw [List.cons_append] at is
        rw [width, List.length_cons, Nat.add_sub_cancel, (List.cons.inj is).2, List.drop_left]
      have shorter : rest.length < length := by
        have := congrArg List.length is
        rw [List.length_append] at this
        have := List.length_pos_iff.mpr some_byte
        omega
      rw [cut, cut_eq_drop, onward, is]
      exact .cons stands (ih _ shorter rest rfl)

/-! ## Forms -/

theorem finish_done (value width : Nat) (low high : UInt8) (bytes : List UInt8) :
    finish 0 value width low high bytes = .char (Char.ofNat value) width := by
  cases bytes <;> rfl

/-- One byte more of a character. -/
theorem finish_byte {count value width : Nat} {low high : UInt8} {n : Nat} (rest : List UInt8)
    (from_low : low.toNat ≤ n) (to_high : n ≤ high.toNat) :
    finish (count + 1) value width low high (UInt8.ofNat n :: rest) =
      finish count (value * 64 + (n - 0x80)) (width + 1) 0x80 0xBF rest := by
  have byte : (UInt8.ofNat n).toNat = n :=
    UInt8.toNat_ofNat_of_lt' (Nat.lt_of_le_of_lt to_high high.toNat_lt)
  rw [finish, if_neg (Nat.succ_ne_zero count), if_pos, byte]
  · rfl
  · simp only [Bool.and_eq_true, decide_eq_true_eq, UInt8.le_iff_toNat_le, byte]
    exact ⟨from_low, to_high⟩

theorem finish_next {count value width : Nat} {n : Nat} (rest : List UInt8) (from_low : 0x80 ≤ n)
    (to_high : n ≤ 0xBF) :
    finish (count + 1) value width 0x80 0xBF (UInt8.ofNat n :: rest) =
      finish count (value * 64 + (n - 0x80)) (width + 1) 0x80 0xBF rest :=
  finish_byte rest from_low to_high

/-- What the lead bytes of two, three and four bytes ask for. -/
theorem lead_two {n : Nat} (h : 0xC2 ≤ n) (h' : n < 0xE0) :
    lead (UInt8.ofNat n) = some (1, n - 0xC0, 0x80, 0xBF) := by
  have byte : (UInt8.ofNat n).toNat = n := UInt8.toNat_ofNat_of_lt' (show n < 256 by omega)
  unfold lead
  simp only [UInt8.lt_iff_toNat_lt, UInt8.reduceToNat, byte]
  rw [if_neg (by omega), if_pos (by omega)]

theorem lead_three {n : Nat} (h : 0xE0 ≤ n) (h' : n < 0xF0) : ∃ low high,
    lead (UInt8.ofNat n) = some (2, n - 0xE0, low, high) ∧
      low.toNat = (if n = 0xE0 then 0xA0 else 0x80) ∧
      high.toNat = (if n = 0xED then 0x9F else 0xBF) := by
  have byte : (UInt8.ofNat n).toNat = n := UInt8.toNat_ofNat_of_lt' (show n < 256 by omega)
  unfold lead
  simp only [UInt8.lt_iff_toNat_lt, UInt8.reduceToNat, byte, beq_iff_eq, ← UInt8.toNat_inj]
  rw [if_neg (by omega), if_neg (by omega), if_pos (by omega)]
  exact ⟨_, _, rfl, by split <;> rfl, by split <;> rfl⟩

theorem lead_four {n : Nat} (h : 0xF0 ≤ n) (h' : n < 0xF5) : ∃ low high,
    lead (UInt8.ofNat n) = some (3, n - 0xF0, low, high) ∧
      low.toNat = (if n = 0xF0 then 0x90 else 0x80) ∧
      high.toNat = (if n = 0xF4 then 0x8F else 0xBF) := by
  have byte : (UInt8.ofNat n).toNat = n := UInt8.toNat_ofNat_of_lt' (show n < 256 by omega)
  unfold lead
  simp only [UInt8.lt_iff_toNat_lt, UInt8.reduceToNat, byte, beq_iff_eq, ← UInt8.toNat_inj]
  rw [if_neg (by omega), if_neg (by omega), if_neg (by omega), if_pos (by omega)]
  exact ⟨_, _, rfl, by split <;> rfl, by split <;> rfl⟩

/-- Bytes that are no ASCII are read by what the first of them asks for. -/
theorem piece_of_lead {n count value : Nat} {low high : UInt8} (rest : List UInt8)
    (h : 0x80 ≤ n) (h' : n ≤ 0xFF)
    (asks : lead (UInt8.ofNat n) = some (count, value, low, high)) :
    piece (UInt8.ofNat n) rest = finish count value 1 low high rest := by
  have byte : (UInt8.ofNat n).toNat = n := UInt8.toNat_ofNat_of_lt' (show n < 256 by omega)
  unfold piece
  rw [if_neg, asks]
  rw [UInt8.lt_iff_toNat_lt, byte]
  exact Nat.not_lt.mpr h

/-! The form of a character has one byte, two, three or four, by its number. -/

theorem piece_one {n : Nat} (h : n < 0x80) (rest : List UInt8) :
    piece (UInt8.ofNat n) rest = .char (Char.ofNat n) 1 := by
  have byte : (UInt8.ofNat n).toNat = n := UInt8.toNat_ofNat_of_lt' (show n < 256 by omega)
  unfold piece
  rw [if_pos, byte]
  rw [UInt8.lt_iff_toNat_lt, byte]
  exact h

theorem piece_two {n : Nat} (h : 0x80 ≤ n) (h' : n < 0x800) (rest : List UInt8) :
    piece (UInt8.ofNat (n / 64 % 32 + 0xC0)) (UInt8.ofNat (n % 64 + 0x80) :: rest) =
      .char (Char.ofNat n) 2 := by
  have asks := lead_two (show 0xC2 ≤ n / 64 % 32 + 0xC0 by omega) (by omega)
  rw [piece_of_lead _ (by omega) (by omega) asks, finish_next _ (by omega) (by omega), finish_done]
  have number : (n / 64 % 32 + 0xC0 - 0xC0) * 64 + (n % 64 + 0x80 - 0x80) = n := by omega
  rw [number]

theorem piece_three {n : Nat} (h : 0x800 ≤ n) (h' : n < 0x10000)
    (whole : n < 0xD800 ∨ 0xDFFF < n) (rest : List UInt8) :
    piece (UInt8.ofNat (n / 4096 % 16 + 0xE0))
        (UInt8.ofNat (n / 64 % 64 + 0x80) :: UInt8.ofNat (n % 64 + 0x80) :: rest) =
      .char (Char.ofNat n) 3 := by
  obtain ⟨low, high, asks, is_low, is_high⟩ :=
    lead_three (show 0xE0 ≤ n / 4096 % 16 + 0xE0 by omega) (by omega)
  -- no shorter form, and no half of a surrogate pair
  have from_low : low.toNat ≤ n / 64 % 64 + 0x80 := by
    rw [is_low]
    split <;> omega
  have to_high : n / 64 % 64 + 0x80 ≤ high.toNat := by
    rw [is_high]
    split <;> omega
  rw [piece_of_lead _ (by omega) (by omega) asks, finish_byte _ from_low to_high,
    finish_next _ (by omega) (by omega), finish_done]
  have number : ((n / 4096 % 16 + 0xE0 - 0xE0) * 64 + (n / 64 % 64 + 0x80 - 0x80)) * 64 +
      (n % 64 + 0x80 - 0x80) = n := by omega
  rw [number]

theorem piece_four {n : Nat} (h : 0x10000 ≤ n) (h' : n < 0x110000) (rest : List UInt8) :
    piece (UInt8.ofNat (n / 262144 % 8 + 0xF0)) (UInt8.ofNat (n / 4096 % 64 + 0x80) ::
        UInt8.ofNat (n / 64 % 64 + 0x80) :: UInt8.ofNat (n % 64 + 0x80) :: rest) =
      .char (Char.ofNat n) 4 := by
  obtain ⟨low, high, asks, is_low, is_high⟩ :=
    lead_four (show 0xF0 ≤ n / 262144 % 8 + 0xF0 by omega) (by omega)
  -- no shorter form, and no number that is too large
  have from_low : low.toNat ≤ n / 4096 % 64 + 0x80 := by
    rw [is_low]
    split <;> omega
  have to_high : n / 4096 % 64 + 0x80 ≤ high.toNat := by
    rw [is_high]
    split <;> omega
  rw [piece_of_lead _ (by omega) (by omega) asks, finish_byte _ from_low to_high,
    finish_next _ (by omega) (by omega), finish_next _ (by omega) (by omega), finish_done]
  have number : (((n / 262144 % 8 + 0xF0 - 0xF0) * 64 + (n / 4096 % 64 + 0x80 - 0x80)) * 64 +
      (n / 64 % 64 + 0x80 - 0x80)) * 64 + (n % 64 + 0x80 - 0x80) = n := by omega
  rw [number]

/-- The form of a character is read as that character. -/
theorem piece_encode (c : Char) (rest : List UInt8) : ∃ b bytes,
    String.utf8EncodeChar c = b :: bytes ∧
      piece b (bytes ++ rest) = .char c (String.utf8EncodeChar c).length := by
  have valid : c.toNat.isValidChar := c.valid
  have form := encode_ofNat valid
  rw [Char.ofNat_toNat] at form
  have is : Char.ofNat c.toNat = c := Char.ofNat_toNat c
  generalize c.toNat = n at valid form is
  unfold Nat.isValidChar at valid
  rw [form, ← is]
  split
  · exact ⟨_, _, rfl, piece_one (by omega) _⟩
  split
  · exact ⟨_, _, rfl, piece_two (by omega) (by omega) _⟩
  split
  · exact ⟨_, _, rfl, piece_three (by omega) (by omega) (by omega) _⟩
  · exact ⟨_, _, rfl, piece_four (by omega) (by omega) _⟩

theorem cut_encode (c : Char) (rest : List UInt8) :
    cut 0 (String.utf8EncodeChar c ++ rest) =
      .char c (String.utf8EncodeChar c).length :: cut 0 rest := by
  obtain ⟨b, bytes, is, reads⟩ := piece_encode c rest
  have width : (String.utf8EncodeChar c).length - 1 = bytes.length := by
    rw [is, List.length_cons, Nat.add_sub_cancel]
  rw [is, List.cons_append, cut, reads, ← is]
  show _ :: cut ((String.utf8EncodeChar c).length - 1) _ = _
  rw [width, cut_eq_drop, List.drop_left]

theorem gather_encode (data : List UInt8) (place : Nat) (text : List Char) :
    gather data place (cut 0 (encode text)) = .ok text := by
  induction text generalizing place with
  | nil => rfl
  | cons c text ih =>
    rw [show encode (c :: text) = String.utf8EncodeChar c ++ encode text from rfl, cut_encode,
      gather, ih]
    rfl

/-- **Forms**: the form of a text is decoded to it. -/
theorem decode_encode (text : List Char) : decode (encode text) = .ok text :=
  gather_encode _ 0 text

end GoWorkbench.Text.Utf8
