/-
  Code that has been through a text.

  Code from a file is decoded, gets line ends of one kind, and is encoded again when it is run.  The
  bytes come back as they were, but for the returns: each of them has become a newline, or has gone
  if a newline came after it.

  1. **Decoding** — what can be decoded is the form of its text (`encode_of_decode`), and such a
     text can be encoded again (`encode_ofString`).
  2. **Line ends** — line ends of one kind have no return (`return_not_mem_unify`), and a text
     without returns has line ends of one kind already (`unify_of_no_return`).
  3. **There and back** — so the bytes are the same just if there was no return among them
     (`encode_unify_eq_iff`).
-/
import GoWorkbench.Proofs.Text.Utf8
import GoWorkbench.Text.Blank
import GoWorkbench.Text.CodePoints

namespace GoWorkbench.Text

variable {text : List Char} {data : List UInt8}

/-! ## Decoding -/

namespace Utf8

theorem encode_cons (c : Char) (text : List Char) :
    encode (c :: text) = String.utf8EncodeChar c ++ encode text := rfl

theorem encode_of_gather {pieces : List Piece} {bytes : List UInt8} (spelled : Spelled pieces bytes)
    {place : Nat} (h : gather data place pieces = .ok text) : encode text = bytes := by
  induction spelled generalizing place text with
  | nil =>
    cases h
    rfl
  | cons stands on ih =>
    cases stands with
    | flaw high some_byte => cases h
    | char c =>
      rw [gather] at h
      rcases later : gather data (place + (String.utf8EncodeChar c).length) _ with fault | more
      · rw [later] at h
        cases h
      · rw [later] at h
        cases h
        rw [encode_cons, ih later]

/-- **Decoding**: bytes that can be decoded are the form of the text. -/
theorem encode_of_decode (h : decode data = .ok text) : encode text = data :=
  encode_of_gather (cut_spelled data) h

/-- A byte of a form is that of one of the characters. -/
theorem mem_encode {b : UInt8} : b ∈ encode text ↔ ∃ c ∈ text, b ∈ String.utf8EncodeChar c :=
  List.mem_flatMap

theorem return_mem_encode : 13 ∈ encode text ↔ '\r' ∈ text := by
  rw [mem_encode]
  constructor
  · rintro ⟨c, listed, mem⟩
    have is : c = '\r' := Char.ext (UInt32.toNat_inj.mp (ascii_mem (by decide) mem))
    exact is ▸ listed
  · exact fun listed => ⟨'\r', listed, by decide⟩

end Utf8

/-- No character is half of a surrogate pair. -/
theorem isSurrogate_toNat (c : Char) : CodePoints.isSurrogate c.toNat = false := by
  have valid := c.valid
  unfold UInt32.isValidChar Nat.isValidChar at valid
  unfold CodePoints.isSurrogate
  rw [Bool.and_eq_false_iff, decide_eq_false_iff_not, decide_eq_false_iff_not]
  show ¬ 0xD800 ≤ c.val.toNat ∨ ¬ c.val.toNat ≤ 0xDFFF
  omega

theorem firstSurrogates_eq_none {place : Nat} {points : List Nat} :
    CodePoints.firstSurrogates place points = none ↔
      ∀ n ∈ points, CodePoints.isSurrogate n = false := by
  induction points generalizing place with
  | nil => simp [CodePoints.firstSurrogates]
  | cons n rest ih =>
    rw [CodePoints.firstSurrogates, List.forall_mem_cons]
    split
    · rename_i half
      simp [half]
    · rename_i whole
      rw [ih, and_iff_right (Bool.eq_false_iff.mpr whole)]

theorem firstSurrogates_of_chars (place : Nat) (text : List Char) :
    CodePoints.firstSurrogates place (text.map Char.toNat) = none := by
  refine firstSurrogates_eq_none.mpr fun n listed => ?_
  obtain ⟨c, -, rfl⟩ := List.mem_map.mp listed
  exact isSurrogate_toNat c

/-- A text can be encoded if it has no half of a pair. -/
theorem encode_cases (text : CodePoints) :
    (∃ run, text.encode = .error run ∧ ∃ n ∈ text.toList, CodePoints.isSurrogate n = true) ∨
      ∃ data, text.encode = .ok data ∧ ∀ n ∈ text.toList, CodePoints.isSurrogate n = false := by
  unfold CodePoints.encode
  split
  · rename_i run found
    refine Or.inl ⟨run, rfl, ?_⟩
    by_contra none
    have whole : ∀ n ∈ text.toList, CodePoints.isSurrogate n = false := fun n listed =>
      Bool.eq_false_iff.mpr fun half => none ⟨n, listed, half⟩
    rw [firstSurrogates_eq_none.mpr whole] at found
    cases found
  · rename_i none
    exact Or.inr ⟨_, rfl, firstSurrogates_eq_none.mp none⟩

/-- Characters can be encoded. -/
theorem encode_ofString (text : List Char) :
    (CodePoints.ofString (String.ofList text)).encode = .ok (Utf8.encode text) := by
  unfold CodePoints.encode CodePoints.ofString
  rw [String.toList_ofList]
  dsimp only
  rw [firstSurrogates_of_chars, List.map_map]
  dsimp only
  rw [show Char.ofNat ∘ Char.toNat = id from funext Char.ofNat_toNat, List.map_id]

/-- A text is the string of its code points. -/
theorem toString_ofString (s : String) : (CodePoints.ofString s).toString = s := by
  have back : (fun n => if CodePoints.isSurrogate n then '\ufffd' else Char.ofNat n) ∘ Char.toNat =
      id := by
    funext c
    rw [Function.comp_apply, isSurrogate_toNat, if_neg Bool.false_ne_true, Char.ofNat_toNat]
    rfl
  unfold CodePoints.toString CodePoints.ofString
  rw [List.map_map, back, List.map_id, String.ofList_toList]

/-! ## Line ends -/

/-- **Line ends** of one kind have no return. -/
theorem return_not_mem_unify (text : List Char) : '\r' ∉ unifyLineEnds text := by
  fun_induction unifyLineEnds text with
  | case1 => exact List.not_mem_nil
  | case2 rest ih => exact List.not_mem_cons_of_ne_of_not_mem (by decide) ih
  | case3 rest _ ih => exact List.not_mem_cons_of_ne_of_not_mem (by decide) ih
  | case4 c rest _ other ih =>
    exact List.not_mem_cons_of_ne_of_not_mem (fun is => other is.symm) ih

theorem unify_of_no_return (h : '\r' ∉ text) : unifyLineEnds text = text := by
  fun_induction unifyLineEnds text with
  | case1 => rfl
  | case2 rest ih => exact absurd List.mem_cons_self h
  | case3 rest _ ih => exact absurd List.mem_cons_self h
  | case4 c rest not_return _ ih => rw [ih fun mem => h (List.mem_cons_of_mem _ mem)]

/-! ## There and back -/

/-- **There and back**: the bytes are the same, just if there was no return among them. -/
theorem encode_unify_eq_iff (text : List Char) :
    Utf8.encode (unifyLineEnds text) = Utf8.encode text ↔ 13 ∉ Utf8.encode text := by
  constructor
  · intro same
    rw [← same, Utf8.return_mem_encode]
    exact return_not_mem_unify text
  · intro none
    rw [unify_of_no_return fun mem => none (Utf8.return_mem_encode.mpr mem)]

end GoWorkbench.Text
