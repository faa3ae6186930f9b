/-
  Places in a source, told by its bytes.

  1. **Glyphs** — the glyphs of a source are spelled by its bytes (`spells_glyphs`): each by the
     UTF-8 form of its character, or by one byte that is no ASCII.
  2. **Places** — the place after some bytes counts the newlines among them and the bytes since the
     last one; passing a glyph goes to the place after its bytes (`Spells.pass`).
  3. **Lines** — the row of a place is the number of a line, and its column is where what follows
     begins in that line (`line_at_place`).
  4. **Tokens** — the name of a token stands at its place, and tokens are found at one place after
     the other (`tokens_placed`, `tokens_ordered`).
-/
import GoWorkbench.Go.Rule
import GoWorkbench.Proofs.Text.Utf8
import Mathlib.Data.List.Induction
import Mathlib.Data.List.TakeWhile

namespace GoWorkbench.Go

open Text

/-! ## Glyphs -/

/-- The bytes spell the glyphs. -/
inductive Spells : List Glyph → List UInt8 → Prop
  | nil : Spells [] []
  | char (c : Char) {rest : List Glyph} {bytes : List UInt8} (on : Spells rest bytes) :
      Spells (⟨c, (String.utf8EncodeChar c).length⟩ :: rest) (String.utf8EncodeChar c ++ bytes)
  | flaw {b : UInt8} {rest : List Glyph} {bytes : List UInt8} (high : 0x80 ≤ b.toNat)
      (on : Spells rest bytes) : Spells (⟨'\ufffd', 1⟩ :: rest) (b :: bytes)

/-- **The glyphs of a source** are spelled by it. -/
theorem spells_glyphs (source : List UInt8) : Spells (glyphs source) source := by
  have flaws : ∀ {read : List UInt8} {rest : List Glyph} {bytes : List UInt8},
      (∀ b ∈ read, 0x80 ≤ b.toNat) → Spells rest bytes →
      Spells (List.replicate read.length ⟨'\ufffd', 1⟩ ++ rest) (read ++ bytes) := by
    intro read rest bytes high on
    induction read with
    | nil => exact on
    | cons b read ih =>
      obtain ⟨hb, hread⟩ := List.forall_mem_cons.mp high
      exact .flaw hb (ih hread)
  have spelled := Utf8.cut_spelled source
  unfold glyphs
  generalize Utf8.cut 0 source = pieces at spelled
  induction spelled with
  | nil => exact .nil
  | cons stands on ih =>
    rw [List.flatMap_cons]
    cases stands with
    | char c => exact .char c ih
    | flaw high => exact flaws high ih

/-! ## Places -/

/-- The place after a byte. -/
def Position.next (p : Position) (b : UInt8) : Position :=
  if b = 10 then ⟨p.row + 1, 0⟩ else ⟨p.row, p.column + 1⟩

/-- The place after bytes. -/
def Position.through (p : Position) (bytes : List UInt8) : Position := bytes.foldl Position.next p

/-- The place after the bytes at the start of a source. -/
def placeAfter (before : List UInt8) : Position := Position.through ⟨0, 0⟩ before

variable {p q : Position} {bytes before after : List UInt8}

theorem Position.through_nil (p : Position) : p.through [] = p := rfl

theorem Position.through_cons (p : Position) (b : UInt8) (bytes : List UInt8) :
    p.through (b :: bytes) = (p.next b).through bytes := rfl

theorem Position.through_append (p : Position) (before after : List UInt8) :
    p.through (before ++ after) = (p.through before).through after := List.foldl_append ..

/-- Within a line only the column grows. -/
theorem Position.through_line (p : Position) (no_newline : 10 ∉ bytes) :
    p.through bytes = ⟨p.row, p.column + bytes.length⟩ := by
  induction bytes generalizing p with
  | nil => rfl
  | cons b bytes ih =>
    rw [List.mem_cons, not_or] at no_newline
    rw [through_cons, ih _ no_newline.2, Position.next, if_neg (Ne.symm no_newline.1),
      List.length_cons]
    simp only [Position.mk.injEq, true_and]
    omega

/-- Places are the same from a later line on. -/
theorem Position.through_shift (row column : Nat) (bytes : List UInt8) :
    Position.through ⟨row, column⟩ bytes =
      ⟨row + (placeAfter bytes).row,
        if (placeAfter bytes).row = 0 then column + (placeAfter bytes).column
        else (placeAfter bytes).column⟩ := by
  induction bytes using List.reverseRecOn with
  | nil => rfl
  | append_singleton bytes b ih =>
    have last : placeAfter (bytes ++ [b]) = (placeAfter bytes).next b := Position.through_append ..
    rw [last, Position.through_append, ih, Position.through_cons, Position.through_nil]
    unfold Position.next
    by_cases h : b = 10
    · rw [if_pos h, if_pos h]
      simp [Nat.add_assoc]
    · rw [if_neg h, if_neg h]
      by_cases first : (placeAfter bytes).row = 0 <;> simp [first, Nat.add_assoc]

/-- One place comes before the other. -/
def Position.Precedes (p q : Position) : Prop :=
  p.row < q.row ∨ p.row = q.row ∧ p.column < q.column

theorem Position.Precedes.trans {r : Position} (h : p.Precedes q) (h' : q.Precedes r) :
    p.Precedes r := by
  unfold Precedes at *
  omega

theorem Position.precedes_next (p : Position) (b : UInt8) : p.Precedes (p.next b) := by
  unfold Precedes next
  split
  · exact Or.inl (Nat.lt_succ_self _)
  · exact Or.inr ⟨rfl, Nat.lt_succ_self _⟩

/-- **The place after more bytes** comes later. -/
theorem Position.precedes_through (p : Position) (some_byte : bytes ≠ []) :
    p.Precedes (p.through bytes) := by
  induction bytes generalizing p with
  | nil => exact absurd rfl some_byte
  | cons b bytes ih =>
    rw [through_cons]
    by_cases last : bytes = []
    · rw [last, through_nil]
      exact p.precedes_next b
    · exact (p.precedes_next b).trans (ih _ last)

theorem pass_char (p : Position) (c : Char) :
    p.pass ⟨c, (String.utf8EncodeChar c).length⟩ = p.through (String.utf8EncodeChar c) := by
  unfold Position.pass
  by_cases h : c = '\n'
  · rw [h]; rfl
  · rw [if_neg (by simpa using h), p.through_line fun mem => h (Utf8.newline_mem mem)]

theorem pass_flaw (p : Position) {b : UInt8} (high : 0x80 ≤ b.toNat) :
    p.pass ⟨'\ufffd', 1⟩ = p.through [b] := by
  have no_newline : 10 ∉ [b] := by
    intro h
    rw [← List.mem_singleton.mp h] at high
    revert high; decide
  rw [p.through_line no_newline]
  rfl

/-- **A glyph is passed** with its bytes. -/
theorem Spells.pass {g : Glyph} {rest : List Glyph} (h : Spells (g :: rest) bytes) :
    ∃ read more, bytes = read ++ more ∧ Spells rest more ∧ read ≠ [] ∧ g.width = read.length ∧
      ∀ p : Position, p.pass g = p.through read := by
  cases h with
  | char c on =>
    exact ⟨_, _, rfl, on, String.utf8EncodeChar_ne_nil, rfl, fun p => pass_char p c⟩
  | @flaw b _ more high on =>
    exact ⟨[b], more, rfl, on, List.cons_ne_nil _ _, rfl, fun p => pass_flaw p high⟩

/-! ## Lines -/

theorem splitOn_cons (b : UInt8) (bytes : List UInt8) : (b :: bytes).splitOn 10 =
    if b = 10 then [] :: bytes.splitOn 10 else (bytes.splitOn 10).modifyHead (b :: ·) := by
  unfold List.splitOn
  rw [List.splitOnP_cons_eq_if_modifyHead]
  simp

/-- The first line goes up to the first newline. -/
theorem first_line (bytes : List UInt8) :
    (bytes.splitOn 10)[0]? = some (bytes.takeWhile (· ≠ 10)) := by
  induction bytes with
  | nil => rfl
  | cons b bytes ih =>
    rw [splitOn_cons]
    by_cases h : b = 10
    · rw [if_pos h]; simp [h]
    · rw [if_neg h, List.takeWhile_cons_of_pos (by simpa using h)]
      rw [List.getElem?_modifyHead, ih]
      rfl

/-- **What follows a place** is in the line of its row, from its column on. -/
theorem line_at_place (before after : List UInt8) :
    ∃ line, ((before ++ after).splitOn 10)[(placeAfter before).row]? = some line ∧
      line.drop (placeAfter before).column = after.takeWhile (· ≠ 10) := by
  induction before with
  | nil => exact ⟨_, first_line after, rfl⟩
  | cons b before ih =>
    obtain ⟨line, hline, hdrop⟩ := ih
    have place : placeAfter (b :: before) = (Position.next ⟨0, 0⟩ b).through before := rfl
    rw [List.cons_append, splitOn_cons, place]
    unfold Position.next
    by_cases h : b = 10
    · rw [if_pos h, if_pos h, Position.through_shift]
      refine ⟨line, ?_, ?_⟩
      · rw [Nat.add_comm]; exact hline
      · dsimp only; split <;> simpa using hdrop
    · rw [if_neg h, if_neg h, Position.through_shift]
      dsimp only
      rw [Nat.zero_add, Nat.zero_add]
      by_cases first : (placeAfter before).row = 0
      · rw [if_pos first, first]
        rw [first] at hline
        refine ⟨b :: line, ?_, ?_⟩
        · rw [List.getElem?_modifyHead, hline]; rfl
        · rw [Nat.add_comm, List.drop_succ_cons, hdrop]
      · rw [if_neg first]
        refine ⟨line, ?_, hdrop⟩
        rw [List.getElem?_modifyHead, if_neg first, hline]

/-! ## Tokens -/

variable {g : Glyph} {rest : List Glyph} {shape : Shape} {source : List UInt8}

/-- The shapes that have no name. -/
def Shape.Nameless (shape : Shape) : Prop := (∀ w, shape ≠ .word w) ∧ ∀ c, shape ≠ .mark c

theorem name_of_nameless {t : Token} (h : t.shape.Nameless) : t.name = "" := by
  unfold Token.name
  split
  · exact absurd (by assumption) (h.1 _)
  · exact absurd (by assumption) (h.2 _)
  · rfl

/-- What a source begins with has a name if it is a word or a mark. -/
theorem front_cases (h : (front g rest).1 = some shape) :
    (opensIdentifier g.char = true ∧ shape = .word (String.ofList
      (g.char :: (rest.takeWhile fun h => continuesIdentifier h.char).map Glyph.char))) ∨
    (isMark g.char = true ∧ shape = .mark g.char) ∨ shape.Nameless := by
  unfold front at h
  dsimp only at h
  -- a character that opens an identifier or is a mark is looked at by itself, and what a pattern
  -- cuts off has no name
  repeat' split at h
  all_goals first
    | exact Or.inl ⟨by assumption, (Option.some.inj h).symm⟩
    | exact Or.inr (Or.inl ⟨by assumption, (Option.some.inj h).symm⟩)
    | (cases h; done)
    | (cases h; exact Or.inr (Or.inr ⟨fun _ h => (nomatch h), fun _ h => (nomatch h)⟩))

/-- Characters that are spelled and are no flaws are spelled by their UTF-8 form. -/
theorem Spells.encode {gs : List Glyph} (h : Spells (gs ++ rest) bytes)
    (sound : ∀ g ∈ gs, g.char ≠ '\ufffd') : Utf8.encode (gs.map Glyph.char) <+: bytes := by
  induction gs generalizing bytes with
  | nil => exact List.nil_prefix
  | cons g gs ih =>
    obtain ⟨hg, hgs⟩ := List.forall_mem_cons.mp sound
    cases h with
    | char c on => exact (List.prefix_append_right_inj _).mpr (ih on hgs)
    | flaw => exact absurd rfl hg

theorem newline_mem_encode {text : List Char} (h : 10 ∈ Utf8.encode text) : '\n' ∈ text := by
  obtain ⟨c, hc, mem⟩ := List.mem_flatMap.mp h
  rw [← Utf8.newline_mem mem]
  exact hc

theorem opens_ne {c : Char} (h : opensIdentifier c = true) : c ≠ '\ufffd' ∧ c ≠ '\n' := by
  constructor
  · rintro rfl; revert h; decide +kernel
  · rintro rfl; revert h; decide

theorem continues_ne {c : Char} (h : continuesIdentifier c = true) : c ≠ '\ufffd' ∧ c ≠ '\n' := by
  constructor
  · rintro rfl; revert h; decide +kernel
  · rintro rfl; revert h; decide

theorem isMark_ne {c : Char} (h : isMark c = true) : c ≠ '\ufffd' ∧ c ≠ '\n' := by
  constructor
  · rintro rfl; revert h; decide
  · rintro rfl; revert h; decide

/-- **The name of what a source begins with** is what it begins with, within a line. -/
theorem front_name {t : Token} (h : (front g rest).1 = some t.shape)
    (spelled : Spells (g :: rest) bytes) :
    Utf8.bytes t.name <+: bytes ∧ 10 ∉ Utf8.bytes t.name := by
  rcases front_cases h with ⟨opens, is⟩ | ⟨mark, is⟩ | no_name
  · let name := g :: rest.takeWhile fun h => continuesIdentifier h.char
    have chars : (Token.name t).toList = name.map Glyph.char := by
      unfold Token.name
      rw [is]
      exact String.toList_ofList
    have sound : ∀ h ∈ name, h.char ≠ '\ufffd' ∧ h.char ≠ '\n' := by
      refine List.forall_mem_cons.mpr ⟨opens_ne opens, fun h hh => continues_ne ?_⟩
      exact List.mem_takeWhile_imp (p := fun h : Glyph => continuesIdentifier h.char) hh
    have whole : g :: rest = name ++ rest.dropWhile fun h => continuesIdentifier h.char := by
      rw [List.cons_append, List.takeWhile_append_dropWhile]
    unfold Utf8.bytes
    rw [chars]
    rw [whole] at spelled
    refine ⟨spelled.encode fun h hh => (sound h hh).1, fun mem => ?_⟩
    obtain ⟨h, hh, is⟩ := List.mem_map.mp (newline_mem_encode mem)
    exact (sound h hh).2 is
  · have chars : (Token.name t).toList = [g].map Glyph.char := by
      unfold Token.name
      rw [is]
      exact String.toList_singleton _
    obtain ⟨sound, no_newline⟩ := isMark_ne mark
    unfold Utf8.bytes
    rw [chars]
    have spelled : Spells ([g] ++ rest) bytes := spelled
    refine ⟨spelled.encode (List.forall_mem_singleton.mpr sound), fun mem => ?_⟩
    exact no_newline (List.mem_singleton.mp (newline_mem_encode mem)).symm
  · rw [name_of_nameless no_name]
    exact ⟨List.nil_prefix, List.not_mem_nil⟩

/-- The token stands where its place says: its name begins there, within a line. -/
def Token.Placed (source : List UInt8) (t : Token) : Prop :=
  ∃ before after, source = before ++ after ∧ t.offset = before.length ∧
    t.start = placeAfter before ∧ Utf8.bytes t.name <+: after ∧ 10 ∉ Utf8.bytes t.name

/-- **Tokens are placed** one after the other. -/
theorem tokensFrom_placed (skip : Nat) (joined : Bool) {offset : Nat} {place : Position}
    {gs : List Glyph} (spelled : Spells gs after) (is : source = before ++ after)
    (at_offset : offset = before.length)
    (at_place : place = placeAfter before) :
    (∀ t ∈ tokensFrom skip joined place offset gs, t.Placed source ∧ offset ≤ t.offset) ∧
      (tokensFrom skip joined place offset gs).Pairwise fun a b => a.offset < b.offset := by
  induction gs generalizing skip offset joined place before after with
  | nil =>
    rw [tokensFrom]
    exact ⟨fun t ht => absurd ht List.not_mem_nil, .nil⟩
  | cons g rest ih =>
    obtain ⟨read, more, after_is, on, some_byte, width, pass⟩ := spelled.pass
    have onward := fun skip joined => ih skip joined on
      (show source = (before ++ read) ++ more by rw [is, after_is, List.append_assoc])
      (show offset + g.width = (before ++ read).length by
        rw [at_offset, width, List.length_append])
      (show place.pass g = placeAfter (before ++ read) by
        rw [pass, at_place]; exact (Position.through_append _ _ _).symm)
    have longer : offset < offset + g.width := by
      have := List.length_pos_iff.mpr some_byte
      omega
    -- tokens that come later have larger offsets
    have later : ∀ skip joined, (∀ t ∈ tokensFrom skip joined (place.pass g) (offset + g.width) rest,
        t.Placed source ∧ offset ≤ t.offset) := fun skip joined t ht =>
      ⟨((onward skip joined).1 t ht).1, Nat.le_trans longer.le ((onward skip joined).1 t ht).2⟩
    have here : ∀ {t : Token} {n : Nat}, front g rest = (some t.shape, n) → t.start = place →
        t.offset = offset → t.Placed source := by
      intro t n hfront hstart hoffset
      obtain ⟨name, no_newline⟩ := front_name (congrArg Prod.fst hfront) spelled
      exact ⟨before, after, is, hoffset.trans at_offset, hstart.trans at_place, name, no_newline⟩
    cases skip with
    | succ skip => exact ⟨later skip joined, (onward skip joined).2⟩
    | zero =>
      rw [tokensFrom]
      split
      · exact ⟨later _ _, (onward _ _).2⟩
      · rename_i hfront
        refine ⟨List.forall_mem_singleton.mpr ⟨here hfront rfl rfl, Nat.le_refl _⟩,
          List.pairwise_singleton _ _⟩
      · rename_i shape n _ hfront
        refine ⟨List.forall_mem_cons.mpr ⟨⟨here hfront rfl rfl, Nat.le_refl _⟩, later _ _⟩,
          List.pairwise_cons.mpr ⟨fun t ht => ?_, (onward _ _).2⟩⟩
        exact Nat.lt_of_lt_of_le longer ((onward _ _).1 t ht).2

theorem tokens_spec (source : List UInt8) : (∀ t ∈ tokens source, t.Placed source) ∧
    (tokens source).Pairwise fun a b => a.offset < b.offset := by
  have spelled := spells_glyphs source
  unfold tokens
  split
  · -- the bytes of a byte order mark come before the first token
    rename_i w rest hglyphs
    rw [hglyphs] at spelled
    obtain ⟨read, more, is, on, -, width, pass⟩ := spelled.pass
    obtain ⟨placed, ordered⟩ := tokensFrom_placed 0 false on is width
      (show (⟨0, w⟩ : Position) = placeAfter read by
        rw [placeAfter, ← pass]; simp [Position.pass])
    exact ⟨fun t ht => (placed t ht).1, ordered⟩
  · obtain ⟨placed, ordered⟩ := tokensFrom_placed 0 false spelled
      (show source = [] ++ source from rfl) rfl rfl
    exact ⟨fun t ht => (placed t ht).1, ordered⟩

/-- **The name of a token** stands at its place. -/
theorem tokens_placed (source : List UInt8) : ∀ t ∈ tokens source, t.Placed source :=
  (tokens_spec source).1

/-- **Tokens come one after the other.** -/
theorem tokens_ordered (source : List UInt8) :
    (tokens source).Pairwise fun a b => a.start.Precedes b.start := by
  refine (List.Pairwise.and_mem.mp (tokens_spec source).2).imp ?_
  rintro a b ⟨ha, hb, hlt⟩
  obtain ⟨before, after, is, offset, start, -, -⟩ := tokens_placed source a ha
  obtain ⟨before', after', is', offset', start', -, -⟩ := tokens_placed source b hb
  obtain ⟨more, rfl⟩ : before <+: before' := by
    refine List.prefix_of_prefix_length_le ⟨after, is.symm⟩ ⟨after', is'.symm⟩ ?_
    omega
  rw [start, start', placeAfter, placeAfter, Position.through_append]
  refine Position.precedes_through _ ?_
  rintro rfl
  rw [List.append_nil] at offset'
  omega

/-- **A name can be found** by its place: in the line of the row, from the column on. -/
theorem Token.Placed.found {t : Token} (h : t.Placed source) :
    ∃ line, (source.splitOn 10)[t.start.row]? = some line ∧
      Utf8.bytes t.name <+: line.drop t.start.column := by
  obtain ⟨before, after, rfl, -, start, ⟨more, rfl⟩, no_newline⟩ := h
  obtain ⟨line, hline, hdrop⟩ := line_at_place before (Utf8.bytes t.name ++ more)
  refine ⟨line, by rw [start]; exact hline, ?_⟩
  rw [start, hdrop, List.takeWhile_append_of_pos]
  · exact List.prefix_append _ _
  · intro b hb
    refine decide_eq_true fun is => no_newline ?_
    rw [← is]; exact hb

end GoWorkbench.Go
