/-
  What is read of damaged output.

  1. **Starts** — the form of a character begins with a byte that goes on with no other character
     (`fresh_encode`).  So a piece that is cut off where a text begins is as long as one that is cut
     off at the end, and is read as the same character (`finish_append`, `piece_append`).
  2. **Damage** — a text before or after any bytes is read as itself, and the bytes as they are read
     alone (`lossy_encode_append`, `lossy_append`).
  3. **Legacy encodings** — what the bytes of GBK spell, as a relation (`decode_eq_some_iff`).
  4. **Output** — without a legacy encoding damage stays where it is; with one, the output is read
     in it as a whole, or as it would be without (`readOutput_local`).
-/
import GoWorkbench.Platform
import GoWorkbench.Proofs.Text.Utf8

namespace GoWorkbench.Text

namespace Utf8

/-! ## Starts -/

/-- Bytes that do not go on with a character: there are none, or the first is no continuation. -/
def Fresh (bytes : List UInt8) : Prop := ∀ b ∈ bytes.head?, b.toNat < 0x80 ∨ 0xBF < b.toNat

/-- **Starts**: the form of a text does not go on with what is before it. -/
theorem fresh_encode (text : List Char) : Fresh (encode text) := by
  cases text with
  | nil => exact fun b hb => absurd hb (Option.not_mem_none b)
  | cons c text =>
    show Fresh (String.utf8EncodeChar c ++ encode text)
    have valid : c.toNat.isValidChar := c.valid
    have form := encode_ofNat valid
    rw [Char.ofNat_toNat] at form
    generalize c.toNat = n at valid form
    unfold Nat.isValidChar at valid
    have byte : ∀ {m : Nat} {bytes : List UInt8}, m < 256 → m < 0x80 ∨ 0xBF < m →
        Fresh (UInt8.ofNat m :: bytes) := by
      intro m bytes small apart b hb
      rw [List.head?_cons, Option.mem_some_iff] at hb
      rwa [← hb, UInt8.toNat_ofNat_of_lt' small]
    rw [form]
    split
    · exact byte (by omega) (by omega)
    split
    · exact byte (by omega) (by omega)
    split
    · exact byte (by omega) (by omega)
    · exact byte (by omega) (by omega)

/-- Two pieces are as long and read as the same character. -/
def Piece.Alike (p q : Piece) : Prop := p.width = q.width ∧ p.repaired = q.repaired

theorem Piece.Alike.refl (p : Piece) : p.Alike p := ⟨rfl, rfl⟩

/-- What does not go on with a character ends it as the end of the bytes does. -/
theorem finish_append {low high : UInt8} {next : List UInt8} (fresh : Fresh next)
    (low_high : 0x80 ≤ low.toNat) (high_low : high.toNat ≤ 0xBF) (count value width : Nat)
    (bytes : List UInt8) : (finish count value width low high (bytes ++ next)).Alike
      (finish count value width low high bytes) := by
  induction bytes generalizing count value width low high with
  | nil =>
    rw [List.nil_append]
    by_cases done : count = 0
    · rw [done, finish_done, finish_done]
      exact .refl _
    cases next with
    | nil => exact .refl _
    | cons b next =>
      have outside : ¬ (low ≤ b && b ≤ high) = true := by
        have apart := fresh b rfl
        simp only [Bool.and_eq_true, decide_eq_true_eq, UInt8.le_iff_toNat_le]
        omega
      rw [finish, finish, if_neg done, if_neg outside, if_neg done]
      exact ⟨rfl, rfl⟩
  | cons b bytes ih =>
    rw [List.cons_append, finish, finish]
    by_cases done : count = 0
    · rw [if_pos done, if_pos done]
      exact .refl _
    rw [if_neg done, if_neg done]
    by_cases within : (low ≤ b && b ≤ high) = true
    · rw [if_pos within, if_pos within]
      exact ih (by decide) (by decide) _ _ _
    · rw [if_neg within, if_neg within]
      exact .refl _

theorem piece_append {next : List UInt8} (fresh : Fresh next) (b : UInt8) (bytes : List UInt8) :
    (piece b (bytes ++ next)).Alike (piece b bytes) := by
  unfold piece
  split
  · exact .refl _
  · rcases asked : lead b with _ | ⟨count, value, low, high⟩
    · exact .refl _
    · obtain ⟨low_high, high_low, -⟩ := lead_cases asked
      exact finish_append fresh low_high high_low count value 1 bytes

/-! ## Damage -/

/-- **Damage** ends where a text begins. -/
theorem lossy_append {next : List UInt8} (fresh : Fresh next) (data : List UInt8) :
    lossy (data ++ next) = lossy data ++ lossy next := by
  unfold lossy
  -- a piece takes at least one byte of the data, and none of what follows
  induction hlength : data.length using Nat.strongRecOn generalizing data with
  | ind length ih =>
    cases data with
    | nil => rfl
    | cons b bytes =>
      obtain ⟨width, repaired⟩ := piece_append fresh b bytes
      have inside : (piece b bytes).width - 1 ≤ bytes.length := by
        obtain ⟨read, rest, is, stands⟩ := piece_stands b bytes
        have lengths := congrArg List.length is
        rw [List.length_cons, List.length_append] at lengths
        rw [stands.width.1]
        omega
      have shorter : (bytes.drop ((piece b bytes).width - 1)).length < length := by
        rw [List.length_drop, ← hlength, List.length_cons]
        omega
      rw [List.cons_append, cut, cut, List.map_cons, List.map_cons, List.cons_append]
      rw [repaired, width, cut_eq_drop _ (bytes ++ next), cut_eq_drop _ bytes,
        List.drop_append_of_le_length inside, ih _ shorter _ rfl]

theorem lossy_encode_append (text : List Char) (data : List UInt8) :
    lossy (encode text ++ data) = text ++ lossy data := by
  induction text with
  | nil => rfl
  | cons c text ih =>
    have step : lossy (String.utf8EncodeChar c ++ (encode text ++ data)) =
        c :: lossy (encode text ++ data) := by
      unfold lossy
      rw [cut_encode]
      rfl
    rw [show encode (c :: text) = String.utf8EncodeChar c ++ encode text from rfl,
      List.append_assoc, step, ih, List.cons_append]

theorem lossy_encode (text : List Char) : lossy (encode text) = text := by
  have alone := lossy_encode_append text []
  rwa [List.append_nil, show lossy [] = [] from rfl, List.append_nil] at alone

end Utf8

/-! ## Legacy encodings -/

namespace Gbk

/-- What bytes spell: an ASCII byte its character, two other bytes the character of the pair. -/
inductive Spells : List UInt8 → List Char → Prop
  | nil : Spells [] []
  | ascii {b : UInt8} {rest : List UInt8} {text : List Char} (low : b < 0x80)
      (on : Spells rest text) : Spells (b :: rest) (Char.ofNat b.toNat :: text)
  | pair {lead trail : UInt8} {c : Char} {rest : List UInt8} {text : List Char}
      (high : ¬ lead < 0x80) (is : Gbk.pair lead trail = some c) (on : Spells rest text) :
      Spells (lead :: trail :: rest) (c :: text)

/-- Bytes are decoded to what they spell, and only if all of them spell something. -/
theorem decode_eq_some_iff {raw : List UInt8} {text : List Char} :
    decode raw = some text ↔ Spells raw text := by
  constructor
  · intro decoded
    fun_induction decode raw generalizing text with
    | case1 => cases decoded; exact .nil
    | case2 b rest low ih =>
      obtain ⟨more, on, rfl⟩ := Option.map_eq_some_iff.mp decoded
      exact .ascii low (ih on)
    | case3 => cases decoded
    | case4 b high trail rest c is ih =>
      obtain ⟨more, on, rfl⟩ := Option.map_eq_some_iff.mp decoded
      exact .pair high is (ih on)
    | case5 => cases decoded
  · intro spells
    induction spells with
    | nil => rfl
    | ascii low on ih =>
      rw [decode.eq_def]
      dsimp only
      rw [if_pos low, ih]
      rfl
    | pair high is on ih =>
      rw [decode.eq_def]
      dsimp only
      rw [if_neg high, is]
      dsimp only
      rw [ih]
      rfl

end Gbk

end GoWorkbench.Text

namespace GoWorkbench

open GoWorkbench.Text

/-- What bytes spell in a legacy encoding. -/
def LegacyEncoding.Spells : LegacyEncoding → List UInt8 → List Char → Prop
  | .gbk => Gbk.Spells

theorem LegacyEncoding.decode_eq_some_iff {e : LegacyEncoding} {raw : List UInt8}
    {text : List Char} : e.decode raw = some text ↔ e.Spells raw text := by
  cases e
  exact Gbk.decode_eq_some_iff

namespace Platform

/-! ## Output -/

theorem readOutput_of_none {p : Platform} (modern : p.legacyEncoding = none) (raw : List UInt8) :
    p.readOutput raw = String.ofList (Utf8.lossy raw) := by
  unfold readOutput
  rw [modern]
  rfl

/-- **Output**: on a platform without a legacy encoding, text is read as it is, and what is read of
    the bytes between two texts is what is read of them alone.  With a legacy encoding, the output
    is what it spells, and if it does not all spell something it is read as without. -/
theorem readOutput_local (p : Platform) (raw : List UInt8) :
    (p.legacyEncoding = none →
      (∀ s t : String,
        p.readOutput (Utf8.bytes s ++ raw ++ Utf8.bytes t) = s ++ p.readOutput raw ++ t) ∧
      ∀ s : String, p.readOutput (Utf8.bytes s) = s) ∧
    ∀ e, p.legacyEncoding = some e →
      (∀ text, e.Spells raw text → p.readOutput raw = String.ofList text) ∧
      ((∀ text, ¬ e.Spells raw text) →
        p.readOutput raw = { p with legacyEncoding := none }.readOutput raw) := by
  refine ⟨fun modern => ⟨fun s t => ?_, fun s => ?_⟩, fun e legacy => ⟨fun text spells => ?_,
    fun spells_nothing => ?_⟩⟩
  · simp only [readOutput_of_none modern]
    unfold Utf8.bytes
    rw [List.append_assoc, Utf8.lossy_encode_append, Utf8.lossy_append (Utf8.fresh_encode _),
      Utf8.lossy_encode, String.ofList_append, String.ofList_append, String.ofList_toList,
      String.ofList_toList, String.append_assoc]
  · rw [readOutput_of_none modern]
    unfold Utf8.bytes
    rw [Utf8.lossy_encode, String.ofList_toList]
  · unfold readOutput
    rw [legacy, Option.bind_some, LegacyEncoding.decode_eq_some_iff.mpr spells]
    rfl
  · have undecoded : e.decode raw = none := Option.eq_none_iff_forall_ne_some.mpr fun text decoded =>
      spells_nothing text (LegacyEncoding.decode_eq_some_iff.mp decoded)
    have without : { p with legacyEncoding := none }.readOutput raw = String.ofList (Utf8.lossy raw) :=
      readOutput_of_none rfl raw
    rw [without]
    unfold readOutput
    rw [legacy, Option.bind_some, undecoded]
    rfl

/-- Two bytes of a character of three, where a text begins; and half of a pair at the end. -/
theorem readOutput_local_cut_short :
    (posix.legacyEncoding = none ∧
      posix.readOutput (Utf8.bytes "go: " ++ [0xE4, 0xBD] ++ Utf8.bytes "é") = "go: \ufffdé") ∧
    windows.legacyEncoding = some .gbk ∧ (∀ text, ¬ LegacyEncoding.gbk.Spells [0x67, 0x81] text) ∧
      windows.readOutput [0x67, 0x81] = "g\ufffd" := by
  have half : ∀ text, ¬ LegacyEncoding.gbk.Spells [0x67, 0x81] text := by
    intro text spells
    cases LegacyEncoding.decode_eq_some_iff.mpr spells
  obtain ⟨modern, -⟩ := readOutput_local posix [0xE4, 0xBD]
  obtain ⟨-, legacy⟩ := readOutput_local windows [0x67, 0x81]
  refine ⟨⟨rfl, ((modern rfl).1 "go: " "é").trans ?_⟩, rfl, half, ((legacy .gbk rfl).2 half).trans ?_⟩
  · decide
  · decide

end Platform

end GoWorkbench
