/-
  Text made of lexemes, and the tokens that it is read as.

  1. **Lexemes** — a lexeme is a piece of text that is one token, or blank space within a line.  Text
     is *readable* if each of its lexemes is spelled right, and if nothing that could go on (a word
     or a number) stands right before another such lexeme.
  2. **Cursors** — a cursor knows where the next lexeme begins; passing a lexeme moves it past the
     bytes of the lexeme.  The tokens of lexemes are told by that alone (`tokensAt`).
  3. **ASCII** — the glyphs of ASCII text are its characters, one byte each (`glyphs_encode`).
  4. **Reading** — one lexeme is read as its own token, whatever comes after it (`front_lexeme`,
     `tokensFrom_lexeme`); so readable text is read as the tokens of its lexemes
     (`tokens_of_readable`).
-/
import GoWorkbench.Go.Outline
import GoWorkbench.Proofs.Go.Foresight
import GoWorkbench.Proofs.Go.Places
import GoWorkbench.Proofs.Pattern

namespace GoWorkbench.Go

open Text

/-! ## Lexemes -/

/-- A piece of text that is one token or blank space. -/
inductive Lexeme
  | keyword (w : String)
  /-- A name that is used. -/
  | name (w : String)
  /-- A name that is declared, for a symbol of the kind. -/
  | declared (kind : SymbolKind) (w : String)
  | number (digits : String)
  | mark (c : Char)
  | blank (c : Char)
  | lineEnd

namespace Lexeme

/-- The text of a lexeme. -/
def text : Lexeme → List Char
  | keyword w => w.toList
  | name w => w.toList
  | declared _ w => w.toList
  | number digits => digits.toList
  | mark c => [c]
  | blank c => [c]
  | lineEnd => ['\n']

/-- What a lexeme is read as; blank space is nothing. -/
def shape : Lexeme → Option Shape
  | keyword w => some (.word w)
  | name w => some (.word w)
  | declared _ w => some (.word w)
  | number _ => some .number
  | mark c => some (.mark c)
  | blank _ => none
  | lineEnd => some .lineEnd

/-- The sign of a lexeme. -/
def sign : Lexeme → Option Sign
  | keyword w => some (.word w)
  | name _ => some .name
  | declared _ _ => some .name
  | number _ => some .number
  | mark c => some (.mark c)
  | blank _ => none
  | lineEnd => some .lineEnd

/-- Words and numbers go on as long as they can. -/
def solid : Lexeme → Bool
  | keyword _ => true
  | name _ => true
  | declared _ _ => true
  | number _ => true
  | mark _ => false
  | blank _ => false
  | lineEnd => false

end Lexeme

/-- The text of lexemes. -/
def textOf (lexemes : List Lexeme) : List Char := lexemes.flatMap Lexeme.text

/-- A word of ASCII letters, digits and underscores that does not begin with a digit. -/
def isWord (w : String) : Bool :=
  match w.toList with
  | [] => false
  | c :: rest => (decide (c.toNat < 128) && opensIdentifier c) &&
    rest.all fun d => decide (d.toNat < 128) && continuesIdentifier d

/-- A name that the language has no use of its own for. -/
def isFree (w : String) : Bool := isWord w && decide (w ∉ keywords) && decide (w ∉ operandWords)

theorem isFree_iff {w : String} :
    isFree w = true ↔ isWord w = true ∧ w ∉ keywords ∧ w ∉ operandWords := by
  unfold isFree
  rw [Bool.and_eq_true, Bool.and_eq_true, decide_eq_true_eq, decide_eq_true_eq, and_assoc]

/-- The marks that are lexemes. -/
def plainMarks : List Char := ['(', ')', '\x7b', '\x7d', '=', ',', '*']

/-- The characters of blank space. -/
def blanks : List Char := [' ', '\t']

/-- The lexeme is spelled right. -/
def Lexeme.Sound : Lexeme → Prop
  | keyword w => isWord w = true
  | name w => isFree w = true
  | declared _ w => isFree w = true
  | number digits => Lexical.integer.accepts digits.toList = true
  | mark c => c ∈ plainMarks
  | blank c => c ∈ blanks
  | lineEnd => True

/-- The lexemes do not begin with a word or a number. -/
def Apart : List Lexeme → Prop
  | [] => True
  | l :: _ => l.solid = false

/-- The text of the lexemes can be read as these lexemes. -/
def Readable : List Lexeme → Prop
  | [] => True
  | l :: rest => l.Sound ∧ (l.solid = true → Apart rest) ∧ Readable rest

section

variable {w : String} {kind : SymbolKind} {c : Char} {rest : List Lexeme}

@[simp] theorem apart_nil : Apart [] := trivial

@[simp] theorem readable_nil : Readable [] := trivial

@[simp] theorem apart_mark : Apart (.mark c :: rest) := rfl

@[simp] theorem apart_blank : Apart (.blank c :: rest) := rfl

@[simp] theorem apart_lineEnd : Apart (.lineEnd :: rest) := rfl

@[simp] theorem readable_keyword :
    Readable (.keyword w :: rest) ↔ isWord w = true ∧ Apart rest ∧ Readable rest := by
  simp [Readable, Lexeme.Sound, Lexeme.solid]

@[simp] theorem readable_name :
    Readable (.name w :: rest) ↔ isFree w = true ∧ Apart rest ∧ Readable rest := by
  simp [Readable, Lexeme.Sound, Lexeme.solid]

@[simp] theorem readable_declared :
    Readable (.declared kind w :: rest) ↔ isFree w = true ∧ Apart rest ∧ Readable rest := by
  simp [Readable, Lexeme.Sound, Lexeme.solid]

@[simp] theorem readable_number : Readable (.number w :: rest) ↔
    Lexical.integer.accepts w.toList = true ∧ Apart rest ∧ Readable rest := by
  simp [Readable, Lexeme.Sound, Lexeme.solid]

@[simp] theorem readable_mark : Readable (.mark c :: rest) ↔
    c ∈ ['(', ')', '\x7b', '\x7d', '=', ',', '*'] ∧ Readable rest := by
  simp [Readable, Lexeme.Sound, Lexeme.solid, plainMarks]

@[simp] theorem readable_blank :
    Readable (.blank c :: rest) ↔ c ∈ [' ', '\t'] ∧ Readable rest := by
  simp [Readable, Lexeme.Sound, Lexeme.solid, blanks]

@[simp] theorem readable_lineEnd : Readable (.lineEnd :: rest) ↔ Readable rest := by
  simp [Readable, Lexeme.Sound, Lexeme.solid]

end

/-! ## Cursors -/

/-- Where a lexeme begins. -/
structure Cursor where
  place : Position
  offset : Nat
  /-- The last thing passed was a token. -/
  joined : Bool

/-- The start of a source. -/
def Cursor.start : Cursor := ⟨⟨0, 0⟩, 0, false⟩

/-- The cursor after a lexeme. -/
def Cursor.pass (c : Cursor) (l : Lexeme) : Cursor :=
  ⟨c.place.through (Utf8.encode l.text), c.offset + l.text.length, l.shape.isSome⟩

/-- The cursor after lexemes. -/
def Cursor.passAll (c : Cursor) (lexemes : List Lexeme) : Cursor := lexemes.foldl Cursor.pass c

/-- The token that begins at the cursor. -/
def Cursor.token (c : Cursor) (shape : Shape) : Token := ⟨shape, c.place, c.offset, c.joined⟩

/-- The tokens of lexemes. -/
def tokensAt (c : Cursor) : List Lexeme → List Token
  | [] => []
  | l :: rest => (l.shape.map c.token).toList ++ tokensAt (c.pass l) rest

theorem tokensAt_append (c : Cursor) (left right : List Lexeme) :
    tokensAt c (left ++ right) = tokensAt c left ++ tokensAt (c.passAll left) right := by
  induction left generalizing c with
  | nil => rfl
  | cons l left ih =>
    rw [List.cons_append, tokensAt, tokensAt, ih, List.append_assoc]
    rfl

/-! ## ASCII -/

/-- The characters of a text, one byte each. -/
def plainGlyphs (text : List Char) : List Glyph := text.map fun c => ⟨c, 1⟩

theorem plainGlyphs_append (left right : List Char) :
    plainGlyphs (left ++ right) = plainGlyphs left ++ plainGlyphs right := List.map_append

theorem chars_plainGlyphs (text : List Char) : (plainGlyphs text).map Glyph.char = text := by
  unfold plainGlyphs
  rw [List.map_map]
  exact List.map_id text

/-- All characters of the text are ASCII. -/
def IsAscii (text : List Char) : Prop := ∀ c ∈ text, c.toNat < 128

variable {c : Char} {text rest : List Char}

theorem encode_char (ascii : c.toNat < 128) : String.utf8EncodeChar c = [UInt8.ofNat c.toNat] := by
  have whole := Utf8.encode_ofNat (n := c.toNat) c.valid
  rw [if_pos (by omega), Char.ofNat_toNat] at whole
  exact whole

theorem glyphs_encode (ascii : IsAscii text) : glyphs (Utf8.encode text) = plainGlyphs text := by
  unfold glyphs
  induction text with
  | nil => rfl
  | cons c text ih =>
    obtain ⟨hc, htext⟩ := List.forall_mem_cons.mp ascii
    have byte : (UInt8.ofNat c.toNat).toNat = c.toNat := by
      rw [UInt8.toNat_ofNat']; omega
    have piece : ∀ bytes, Utf8.piece (UInt8.ofNat c.toNat) bytes = .char c 1 := by
      intro bytes
      unfold Utf8.piece
      rw [if_pos (UInt8.lt_iff_toNat_lt.mpr (by rw [byte]; exact hc)), byte, Char.ofNat_toNat]
    have bytes : Utf8.encode (c :: text) = UInt8.ofNat c.toNat :: Utf8.encode text := by
      unfold Utf8.encode
      rw [List.flatMap_cons, encode_char hc]
      rfl
    rw [bytes, Utf8.cut, piece, List.flatMap_cons, Utf8.Piece.width, ih htext]
    rfl

theorem pass_ascii (p : Position) (ascii : c.toNat < 128) :
    p.pass ⟨c, 1⟩ = p.through (String.utf8EncodeChar c) := by
  have passes := pass_char p c
  rw [encode_char ascii] at passes ⊢
  exact passes

/-- Characters that belong to a token are passed. -/
theorem tokensFrom_skip (ascii : IsAscii text) (rest : List Char) (joined : Bool) (p : Position)
    (offset : Nat) :
    tokensFrom text.length joined p offset (plainGlyphs (text ++ rest)) =
      tokensFrom 0 joined (p.through (Utf8.encode text)) (offset + text.length)
        (plainGlyphs rest) := by
  induction text generalizing p offset with
  | nil => rfl
  | cons c text ih =>
    obtain ⟨hc, htext⟩ := List.forall_mem_cons.mp ascii
    have bytes : Utf8.encode (c :: text) = String.utf8EncodeChar c ++ Utf8.encode text :=
      List.flatMap_cons
    rw [List.length_cons, List.cons_append, plainGlyphs, List.map_cons, tokensFrom, bytes,
      Position.through_append, ← pass_ascii p hc]
    have onward := ih htext (p.pass ⟨c, 1⟩) (offset + 1)
    rw [Nat.add_assoc, Nat.add_comm 1] at onward
    exact onward

/-! ## Reading -/

/-- The characters that no word or number goes on with. -/
def separators : List Char := plainMarks ++ blanks ++ ['\n']

theorem ascii_of_separator (h : c ∈ separators) : c.toNat < 128 := by
  have each : separators.all (fun c => decide (c.toNat < 128)) = true := by decide
  exact of_decide_eq_true (List.all_eq_true.mp each c h)

theorem opens_not_blank (h : opensIdentifier c = true) :
    isBlank c = false ∧ (c == '\n') = false ∧ (c == '\x00') = false := by
  refine ⟨?_, ?_, ?_⟩
  · refine Bool.eq_false_iff.mpr fun blank => ?_
    have none : [' ', '\t', '\x0b', '\x0c', '\r'].filter opensIdentifier = [] := by decide
    exact List.filter_eq_nil_iff.mp none c (of_decide_eq_true blank) h
  · refine Bool.eq_false_iff.mpr fun is => ?_
    rw [beq_iff_eq.mp is] at h
    revert h; decide
  · refine Bool.eq_false_iff.mpr fun is => ?_
    rw [beq_iff_eq.mp is] at h
    revert h; decide

/-- A word is read up to the next separator. -/
theorem front_word {w : String} (word : isWord w = true) (apart : ∀ y ∈ rest.head?, y ∈ separators) :
    ∃ c text, w.toList = c :: text ∧
      front ⟨c, 1⟩ (plainGlyphs (text ++ rest)) = (some (.word w), (c :: text).length) := by
  unfold isWord at word
  split at word
  · cases word
  · rename_i c text chars
    simp only [Bool.and_eq_true, decide_eq_true_eq, List.all_eq_true] at word
    obtain ⟨⟨-, opens⟩, continues⟩ := word
    obtain ⟨not_blank, not_newline, not_nul⟩ := opens_not_blank opens
    have stops : (plainGlyphs rest).takeWhile (fun g => continuesIdentifier g.char) = [] := by
      cases rest with
      | nil => rfl
      | cons y rest =>
        have none : separators.filter continuesIdentifier = [] := by decide
        rw [plainGlyphs, List.map_cons, List.takeWhile_cons_of_neg]
        exact List.filter_eq_nil_iff.mp none y (apart y rfl)
    have taken : (plainGlyphs (text ++ rest)).takeWhile (fun g => continuesIdentifier g.char) =
        plainGlyphs text := by
      rw [plainGlyphs_append, List.takeWhile_append_of_pos, stops, List.append_nil]
      intro g hg
      obtain ⟨d, hd, rfl⟩ := List.mem_map.mp hg
      exact (continues d hd).2
    refine ⟨c, text, chars, ?_⟩
    unfold front
    dsimp only
    rw [if_neg (Bool.eq_false_iff.mp not_blank), if_neg (Bool.eq_false_iff.mp not_newline),
      if_neg (Bool.eq_false_iff.mp not_nul), if_pos opens, taken, chars_plainGlyphs, ← chars,
      String.ofList_toList]

/-- An integer begins with a digit. -/
theorem digit_of_integer (integer : Lexical.integer.accepts (c :: text) = true) :
    '0' ≤ c ∧ c ≤ '9' := by
  have each : ∀ set ∈ Lexical.integer.firsts,
      set.inverted = false ∧ ∀ range ∈ set.ranges, '0' ≤ range.1 ∧ range.2 ≤ '9' := by
    decide +kernel
  obtain ⟨set, hset, found⟩ := Pattern.first_of_accepts integer
  exact CharSet.between (each set hset).1 (each set hset).2 found

/-- The characters of an integer are ASCII. -/
theorem ascii_of_integer (integer : Lexical.integer.accepts text = true) : IsAscii text := by
  have each : ∀ set ∈ Lexical.integer.sets,
      set.inverted = false ∧ ∀ range ∈ set.ranges, '\x00' ≤ range.1 ∧ range.2 ≤ '\x7f' := by
    decide +kernel
  intro c hc
  obtain ⟨set, hset, found⟩ := Pattern.contains_of_accepts integer hc
  obtain ⟨-, le⟩ := CharSet.between (each set hset).1 (each set hset).2 found
  have le : c.toNat ≤ 127 := le
  omega

/-- A character that only a number begins with. -/
def OpensNumber (c : Char) : Prop :=
  isBlank c = false ∧ (c == '\n') = false ∧ (c == '\x00') = false ∧ opensIdentifier c = false ∧
    (c == '"') = false ∧ (c == '\x60') = false ∧ (c == '\'') = false ∧ (c == '/') = false ∧
    (c == '.' || c.isDigit) = true

instance (c : Char) : Decidable (OpensNumber c) := by
  unfold OpensNumber
  infer_instance

theorem opensNumber_of_digit (digit : '0' ≤ c ∧ c ≤ '9') : OpensNumber c := by
  have each : ∀ n < 58, 48 ≤ n → OpensNumber (Char.ofNat n) := by decide
  have low : 48 ≤ c.toNat := digit.1
  have high : c.toNat ≤ 57 := digit.2
  rw [← Char.ofNat_toNat c]
  exact each c.toNat (by omega) low

/-- A number is read up to the next separator. -/
theorem front_number {digits : List Char} (integer : Lexical.integer.accepts digits = true)
    (apart : ∀ y ∈ rest.head?, y ∈ separators) :
    ∃ c text, digits = c :: text ∧
      front ⟨c, 1⟩ (plainGlyphs (text ++ rest)) = (some .number, (c :: text).length) := by
  cases digits with
  | nil =>
    have nothing : Lexical.integer.accepts [] = false := by decide
    rw [nothing] at integer
    cases integer
  | cons c text =>
    refine ⟨c, text, rfl, ?_⟩
    have longest : Lexical.number.longest? Glyph.char
        (⟨c, 1⟩ :: plainGlyphs (text ++ rest)) = some (c :: text).length := by
      have split : ⟨c, 1⟩ :: plainGlyphs (text ++ rest) =
          plainGlyphs (c :: text) ++ plainGlyphs rest := plainGlyphs_append (c :: text) rest
      have number := Pattern.accepts_either_left integer
        (Pattern.any Lexical.floating
          [.seq (Pattern.any (Lexical.digits Lexical.decimalDigit)
            [Lexical.integer, Lexical.floating]) (Pattern.char 'i')])
      rw [split, Pattern.longest?_of_accepts (p := Lexical.number)
        (by rw [chars_plainGlyphs]; exact number)]
      · rw [plainGlyphs, List.length_map]
      · have none : ∀ set ∈ Lexical.number.sets, separators.filter set.contains = [] := by
          decide +kernel
        intro y hy
        cases rest with
        | nil => cases hy
        | cons z rest =>
          rw [← Option.some.inj (show some (Glyph.mk z 1) = some y from hy)]
          intro set hset
          exact Bool.eq_false_iff.mpr (List.filter_eq_nil_iff.mp (none set hset) z (apart z rfl))
    obtain ⟨not_blank, not_newline, not_nul, not_word, not_text, not_raw, not_rune, not_slash,
      digit⟩ := opensNumber_of_digit (digit_of_integer integer)
    unfold front
    dsimp only
    rw [not_blank, not_newline, not_nul, not_word, not_text, not_raw, not_rune, not_slash, digit]
    simp only [Bool.false_eq_true, if_false, if_true, longest]

/-- **One lexeme** is read as its own token, up to the next separator. -/
theorem front_lexeme {l : Lexeme} (sound : l.Sound)
    (apart : l.solid = true → ∀ y ∈ rest.head?, y ∈ separators) :
    ∃ c text, l.text = c :: text ∧
      front ⟨c, 1⟩ (plainGlyphs (text ++ rest)) = (l.shape, (c :: text).length) := by
  cases l with
  | keyword w => exact front_word sound (apart rfl)
  | name w | declared _ w =>
    have sound : isFree w = true := sound
    exact front_word (isFree_iff.mp sound).1 (apart rfl)
  | number digits => exact front_number sound (apart rfl)
  | mark c =>
    have sound : c ∈ plainMarks := sound
    refine ⟨c, [], rfl, ?_⟩
    simp only [plainMarks, List.mem_cons, List.not_mem_nil, or_false] at sound
    rcases sound with rfl | rfl | rfl | rfl | rfl | rfl | rfl <;> rfl
  | blank c =>
    have sound : c ∈ blanks := sound
    refine ⟨c, [], rfl, ?_⟩
    simp only [blanks, List.mem_cons, List.not_mem_nil, or_false] at sound
    rcases sound with rfl | rfl <;> rfl
  | lineEnd => exact ⟨'\n', [], rfl, rfl⟩

/-- A lexeme that is neither a word nor a number is a separator. -/
theorem Lexeme.Sound.text_eq {l : Lexeme} (sound : l.Sound) (soft : l.solid = false) :
    ∃ c ∈ separators, l.text = [c] := by
  cases l with
  | mark c => exact ⟨c, List.mem_append_left _ (List.mem_append_left _ sound), rfl⟩
  | blank c => exact ⟨c, List.mem_append_left _ (List.mem_append_right _ sound), rfl⟩
  | lineEnd => exact ⟨'\n', List.mem_append_right _ (List.mem_singleton_self _), rfl⟩
  | _ => cases soft

/-- The text of a lexeme is ASCII. -/
theorem Lexeme.Sound.ascii {l : Lexeme} (sound : l.Sound) : IsAscii l.text := by
  have word : ∀ {w : String}, isWord w = true → IsAscii w.toList := by
    intro w h
    unfold isWord at h
    split at h
    · cases h
    · rename_i chars
      simp only [Bool.and_eq_true, decide_eq_true_eq, List.all_eq_true] at h
      rw [chars]
      exact List.forall_mem_cons.mpr ⟨h.1.1, fun d hd => (h.2 d hd).1⟩
  cases l with
  | keyword w => exact word sound
  | name w | declared _ w =>
    have sound : isFree w = true := sound
    exact word (isFree_iff.mp sound).1
  | number digits => exact ascii_of_integer sound
  | mark | blank | lineEnd =>
    obtain ⟨c, separator, is⟩ := sound.text_eq rfl
    rw [is]
    exact List.forall_mem_singleton.mpr (ascii_of_separator separator)

/-- Reading goes on after a lexeme. -/
theorem tokensFrom_lexeme {l : Lexeme} (sound : l.Sound)
    (apart : l.solid = true → ∀ y ∈ rest.head?, y ∈ separators) (c : Cursor) :
    tokensFrom 0 c.joined c.place c.offset (plainGlyphs (l.text ++ rest)) =
      tokensAt c [l] ++ tokensFrom 0 (c.pass l).joined (c.pass l).place (c.pass l).offset
        (plainGlyphs rest) := by
  obtain ⟨first, text, is, reads⟩ := front_lexeme sound apart
  have ascii := sound.ascii
  rw [is] at ascii
  obtain ⟨hfirst, htext⟩ := List.forall_mem_cons.mp ascii
  have not_stray : l.shape ≠ some .stray := by cases l <;> nofun
  have bytes : Utf8.encode l.text = String.utf8EncodeChar first ++ Utf8.encode text := by
    rw [is]
    exact List.flatMap_cons
  have skip : ∀ joined, tokensFrom text.length joined (c.place.pass ⟨first, 1⟩) (c.offset + 1)
      (plainGlyphs (text ++ rest)) = tokensFrom 0 joined (c.pass l).place (c.pass l).offset
        (plainGlyphs rest) := by
    intro joined
    rw [tokensFrom_skip htext, pass_ascii _ hfirst, ← Position.through_append, ← bytes]
    have length : c.offset + 1 + text.length = (c.pass l).offset := by
      show _ = c.offset + l.text.length
      rw [is, List.length_cons]
      omega
    rw [length]
    rfl
  have glyphs : plainGlyphs (l.text ++ rest) = ⟨first, 1⟩ :: plainGlyphs (text ++ rest) := by
    rw [is]
    rfl
  have joined : (c.pass l).joined = l.shape.isSome := rfl
  rw [glyphs, tokensFrom, reads, joined, tokensAt, tokensAt, List.append_nil]
  cases hshape : l.shape with
  | none => exact skip false
  | some shape =>
    cases shape with
    | stray => cases l <;> cases hshape
    | _ => exact congrArg _ (skip true)

/-- **Readable text** is read as its lexemes. -/
theorem tokensFrom_readable {lexemes : List Lexeme} (readable : Readable lexemes) (c : Cursor) :
    tokensFrom 0 c.joined c.place c.offset (plainGlyphs (textOf lexemes)) =
      tokensAt c lexemes := by
  induction lexemes generalizing c with
  | nil => rfl
  | cons l lexemes ih =>
    obtain ⟨sound, apart, more⟩ := readable
    have text : textOf (l :: lexemes) = l.text ++ textOf lexemes := List.flatMap_cons
    have split : tokensAt c (l :: lexemes) = tokensAt c [l] ++ tokensAt (c.pass l) lexemes :=
      tokensAt_append c [l] lexemes
    rw [text, split, tokensFrom_lexeme sound, ih more]
    intro solid y hy
    cases lexemes with
    | nil => cases hy
    | cons l' lexemes =>
      have soft : l'.solid = false := apart solid
      obtain ⟨c, separator, is⟩ := more.1.text_eq soft
      have begins : textOf (l' :: lexemes) = c :: textOf lexemes := by
        show l'.text ++ textOf lexemes = _
        rw [is]
        rfl
      rw [begins] at hy
      rw [← Option.some.inj hy]
      exact separator

theorem Readable.ascii {lexemes : List Lexeme} (readable : Readable lexemes) :
    IsAscii (textOf lexemes) := by
  induction lexemes with
  | nil => intro c hc; cases hc
  | cons l lexemes ih =>
    obtain ⟨sound, -, more⟩ := readable
    intro c hc
    rcases List.mem_append.mp hc with hc | hc
    · exact sound.ascii c hc
    · exact ih more c hc

/-- **Readable text** is a source of the tokens of its lexemes. -/
theorem tokens_of_readable {lexemes : List Lexeme} (readable : Readable lexemes) :
    tokens (Utf8.encode (textOf lexemes)) = tokensAt .start lexemes := by
  have reads := tokensFrom_readable readable .start
  unfold tokens
  rw [glyphs_encode readable.ascii]
  split
  · -- no ASCII text begins with a byte order mark
    rename_i w rest hglyphs
    have mark : '\ufeff' ∈ (plainGlyphs (textOf lexemes)).map Glyph.char := by
      rw [hglyphs]
      exact List.mem_cons_self
    rw [chars_plainGlyphs] at mark
    exact absurd (readable.ascii _ mark) (by decide)
  · exact reads

/-! ## Signs -/

/-- The signs of lexemes. -/
def signsOf (lexemes : List Lexeme) : List Sign := lexemes.filterMap Lexeme.sign

/-- Each sign is one token. -/
theorem length_tokensAt (c : Cursor) (lexemes : List Lexeme) :
    (tokensAt c lexemes).length = (signsOf lexemes).length := by
  induction lexemes generalizing c with
  | nil => rfl
  | cons l lexemes ih =>
    have same : (tokensAt (c.pass l) lexemes).length = (lexemes.filterMap Lexeme.sign).length :=
      ih (c.pass l)
    rw [tokensAt, List.length_append, same, signsOf, List.filterMap_cons]
    cases l <;> simp [Lexeme.shape, Lexeme.sign, Nat.add_comm 1]

theorem Lexeme.Sound.tells {l : Lexeme} (sound : l.Sound) : (l.sign = none ∧ l.shape = none) ∨
    ∃ sign shape, l.sign = some sign ∧ l.shape = some shape ∧ sign.Tells shape := by
  cases l with
  | name w | declared _ w =>
    have sound : isFree w = true := sound
    exact Or.inr ⟨_, _, rfl, rfl, w, rfl, (isFree_iff.mp sound).2⟩
  | blank c => exact Or.inl ⟨rfl, rfl⟩
  | _ => exact Or.inr ⟨_, _, rfl, rfl, rfl⟩

/-- **The tokens of lexemes** show their signs, and what comes after shows its own. -/
theorem shown_tokensAt {lexemes : List Lexeme} (sound : ∀ l ∈ lexemes, l.Sound) (c : Cursor)
    {signs : List Sign} {more : List Token} (later : Shown signs more) :
    Shown (signsOf lexemes ++ signs) (tokensAt c lexemes ++ more) := by
  induction lexemes generalizing c with
  | nil => exact later
  | cons l lexemes ih =>
    obtain ⟨hl, hlexemes⟩ := List.forall_mem_cons.mp sound
    have on := ih hlexemes (c.pass l)
    unfold signsOf at on ⊢
    rw [tokensAt, List.filterMap_cons, List.append_assoc]
    rcases hl.tells with ⟨hsign, hshape⟩ | ⟨sign, shape, hsign, hshape, tells⟩
    · rw [hsign, hshape]
      exact on
    · rw [hsign, hshape]
      exact .cons tells on

theorem Readable.sound {lexemes : List Lexeme} (readable : Readable lexemes) :
    ∀ l ∈ lexemes, l.Sound := by
  induction lexemes with
  | nil => intro l hl; cases hl
  | cons l lexemes ih => exact List.forall_mem_cons.mpr ⟨readable.1, ih readable.2.2⟩

end GoWorkbench.Go
