/-
  What a TOML reader can give.

  Every reader takes something from the front and leaves the rest as it stands.  What it took is of
  some kind, or the document is malformed, or a decimal integer with too many digits stands in the
  characters it looked at; there is no other outcome.

  1. **Outcomes** — one form for what all readers give (`Reads`), which survives doing one after the
     other (`Reads.bind`).
  2. **Texts and numbers** — what stands for a value of its own (`reads_plain`).
  3. **Keys and values** — what a value is made of (`reads_value`).
  4. **Documents** — what a whole text is read as: definite entries, unless it is malformed or a long
     integer stands in it (`read_cases`).
-/
import Mathlib.Data.List.Infix
import Mathlib.Data.List.TakeWhile
import GoWorkbench.Proofs.Toml.Definite
import GoWorkbench.Toml.Reader

namespace GoWorkbench.Toml

open GoWorkbench.Text

variable {α β : Type} {is : α → Prop} {into : β → Prop} {chars more rest : List Char} {n : Nat}

/-! ## Outcomes -/

/-- A row of `n` digits, perhaps with underscores in it, which are more than are read. -/
def LongRun (n : Nat) (chars : List Char) : Prop :=
  maxDigits < n ∧ ∃ run, run <:+: chars ∧ (∀ c ∈ run, c.isDigit = true ∨ c = '_') ∧
    (run.filter (· ≠ '_')).length = n

theorem LongRun.mono (long : LongRun n chars) (sub : chars <:+: more) : LongRun n more := by
  obtain ⟨many, run, inside, row⟩ := long
  exact ⟨many, run, inside.trans sub, row⟩

/-- What a reader of these characters can give: something of a kind with what is left of them, or
    one of the two faults. -/
inductive Reads (is : α → Prop) (chars : List Char) : Except Fault (α × List Char) → Prop
  | ok (a : α) (rest : List Char) (holds : is a) (left : rest <:+ chars) :
      Reads is chars (.ok (a, rest))
  | malformed : Reads is chars (.error .malformed)
  | long (n : Nat) (run : LongRun n chars) : Reads is chars (.error (.longInteger n))

/-- What goes on behind the front of a text goes on in the text. -/
theorem Reads.mono {outcome : Except Fault (α × List Char)} (reads : Reads is chars outcome)
    (sub : chars <:+ more) : Reads is more outcome := by
  cases reads with
  | ok a rest holds left => exact .ok a rest holds (left.trans sub)
  | malformed => exact .malformed
  | long n run => exact .long n (run.mono sub.isInfix)

theorem Reads.bind {outcome : Except Fault (α × List Char)}
    {next : α × List Char → Except Fault (β × List Char)} (reads : Reads is chars outcome)
    (goes_on : ∀ a rest, is a → rest <:+ chars → Reads into rest (next (a, rest))) :
    Reads into chars (outcome >>= next) := by
  cases reads with
  | ok a rest holds left => exact (goes_on a rest holds left).mono left
  | malformed => exact .malformed
  | long n run => exact .long n run

theorem Reads.map {outcome : Except Fault (α × List Char)} (reads : Reads is chars outcome)
    {f : α → β} (turns : ∀ a, is a → into (f a)) :
    Reads into chars (outcome.map fun (a, rest) => (f a, rest)) := by
  cases reads with
  | ok a rest holds left => exact .ok _ rest (turns a holds) left
  | malformed => exact .malformed
  | long n run => exact .long n run

/-- What leaves out blanks and comments leaves the rest, or finds a fault in a comment. -/
inductive Skips (chars : List Char) : Except Fault (List Char) → Prop
  | ok (rest : List Char) (left : rest <:+ chars) : Skips chars (.ok rest)
  | malformed : Skips chars (.error .malformed)

theorem Skips.mono {outcome : Except Fault (List Char)} (skips : Skips chars outcome)
    (sub : chars <:+ more) : Skips more outcome := by
  cases skips with
  | ok rest left => exact .ok rest (left.trans sub)
  | malformed => exact .malformed

theorem Skips.bind {outcome : Except Fault (List Char)}
    {next : List Char → Except Fault (β × List Char)} (skips : Skips chars outcome)
    (goes_on : ∀ rest, rest <:+ chars → Reads into rest (next rest)) :
    Reads into chars (outcome >>= next) := by
  cases skips with
  | ok rest left => exact (goes_on rest left).mono left
  | malformed => exact .malformed

/-! ## Texts and numbers -/

/-- The characters of a text may be any. -/
abbrev ReadsText := Reads (fun _ : List Char => True)

theorem reads_literal (read chars : List Char) : ReadsText chars (literalFrom read chars) := by
  induction chars generalizing read with
  | nil => exact .malformed
  | cons c rest ih =>
    unfold literalFrom
    split
    · exact .malformed
    · rename_i same
      cases same
      exact .ok _ _ trivial (List.suffix_cons _ _)
    · rename_i same
      cases same
      split
      · exact .malformed
      · exact (ih _).mono (List.suffix_cons _ _)

theorem reads_literalLines (read chars : List Char) :
    ReadsText chars (literalLinesFrom read chars) := by
  induction chars generalizing read with
  | nil => exact .malformed
  | cons c rest ih =>
    rw [literalLinesFrom]
    dsimp only
    split
    · exact .ok _ _ trivial ((List.drop_suffix _ _).trans (List.suffix_cons _ _))
    · split
      · exact .malformed
      · exact (ih _).mono (List.suffix_cons _ _)

/-- What goes on after some characters goes on in the text that begins with them. -/
theorem Reads.behind {outcome : Except Fault (α × List Char)} (reads : Reads is rest outcome)
    (front : List Char) : Reads is (front ++ rest) outcome := reads.mono (List.suffix_append _ _)

theorem reads_basic (multiline : Bool) (joining : Joining) (read chars : List Char) :
    ReadsText chars (basicFrom multiline joining read chars) := by
  fun_induction basicFrom multiline joining read chars
  -- the closing quotes
  case case6 => exact .ok _ _ trivial (List.suffix_cons _ _)
  case case8 => exact .ok _ _ trivial ((List.drop_suffix _ _).trans (List.suffix_cons _ _))
  -- escapes
  case case9 ih => exact ih.behind ['\\', 'u', _, _, _, _]
  case case11 ih => exact ih.behind ['\\', 'U', _, _, _, _, _, _, _, _]
  case case13 ih | case14 ih | case15 ih => exact ih.behind ['\\', _]
  -- one more character, which may be left out
  case case2 ih | case3 ih | case5 ih | case7 ih | case19 ih => exact ih.behind [_]
  all_goals exact .malformed

theorem dropLineEnd_suffix (chars : List Char) : dropLineEnd chars <:+ chars := by
  unfold dropLineEnd
  split
  · exact List.suffix_cons _ _
  · exact List.suffix_refl _

theorem reads_text? {outcome : Reading (List Char)} (is : text? chars = some outcome) :
    ReadsText chars outcome := by
  unfold text? at is
  split at is
  · cases is
    exact ((reads_basic _ _ _ _).mono (dropLineEnd_suffix _)).behind ['"', '"', '"']
  · cases is
    exact (reads_basic _ _ _ _).behind ['"']
  · cases is
    exact ((reads_literalLines _ _).mono (dropLineEnd_suffix _)).behind ['\'', '\'', '\'']
  · cases is
    exact (reads_literal _ _).behind ['\'']
  · cases is

/-- Without underscores, what comes after the sign of a number is what comes after it with them. -/
theorem exists_unsigned (chars : List Char) : ∃ run, run <:+ chars ∧
    run.filter (· ≠ '_') = (signOf (chars.filter (· ≠ '_'))).2 := by
  have behind : ∀ {sign : Char} {rest : List Char}, chars.filter (· ≠ '_') = sign :: rest →
      ∃ run, run <:+ chars ∧ run.filter (· ≠ '_') = rest := by
    intro sign rest signed
    obtain ⟨before, after, rfl, -, -, is⟩ := List.filter_eq_cons_iff.mp signed
    exact ⟨after, ⟨before ++ [sign], by simp⟩, is⟩
  unfold signOf
  split
  · rename_i signed
    exact behind signed
  · rename_i signed
    exact behind signed
  · exact ⟨chars, List.suffix_refl _, rfl⟩

theorem longRun_of_digits (all : ∀ c ∈ (signOf (chars.filter (· ≠ '_'))).2, c.isDigit = true)
    (many : maxDigits < (signOf (chars.filter (· ≠ '_'))).2.length) :
    LongRun (signOf (chars.filter (· ≠ '_'))).2.length chars := by
  obtain ⟨run, left, is⟩ := exists_unsigned chars
  refine ⟨many, run, left.isInfix, fun c listed => ?_, by rw [is]⟩
  by_cases under : c = '_'
  · exact .inr under
  · have kept : c ∈ run.filter (· ≠ '_') := List.mem_filter.mpr ⟨listed, by simpa using under⟩
    exact .inl (all c (is ▸ kept))

/-- The value of a decimal number is a number; a number too long to be read is an integer. -/
theorem decimalValue_cases (chars : List Char) :
    (∃ v, decimalValue chars = .ok v ∧ Definite v) ∨
      ∃ n, decimalValue chars = .error (.longInteger n) ∧ LongRun n chars := by
  unfold decimalValue
  dsimp only
  split
  · rename_i nothing_left
    -- nothing stands behind the digits, so they are all that is left of the number
    have all := List.dropWhile_eq_nil_iff.mp (List.isEmpty_iff.mp nothing_left)
    have whole := List.takeWhile_eq_self_iff.mpr all
    split
    · rename_i many
      rw [whole] at many ⊢
      exact .inr ⟨_, rfl, longRun_of_digits all many⟩
    · exact .inl ⟨_, rfl, .integer _⟩
  · exact .inl ⟨_, rfl, .real _⟩

theorem definite_basedValue {v : Value} (is : basedValue chars = some v) : Definite v := by
  unfold basedValue at is
  obtain ⟨n, -, rfl⟩ := Option.map_eq_some_iff.mp is
  exact .integer _

theorem definite_word? {v : Value} (is : word? chars = some (v, rest)) :
    Definite v ∧ rest <:+ chars := by
  unfold word? at is
  obtain ⟨⟨w, u⟩, found, same⟩ := Option.map_eq_some_iff.mp is
  cases same
  refine ⟨?_, List.drop_suffix _ _⟩
  have listed := List.mem_of_find?_eq_some found
  simp only [List.mem_cons, List.not_mem_nil, or_false, Prod.mk.injEq] at listed
  rcases listed with ⟨-, rfl⟩ | ⟨-, rfl⟩ | ⟨-, rfl⟩ | ⟨-, rfl⟩ | ⟨-, rfl⟩ | ⟨-, rfl⟩ | ⟨-, rfl⟩ |
    ⟨-, rfl⟩
  · exact .bool _
  · exact .bool _
  all_goals exact .real _

/-- **Texts and numbers**: what stands for itself is a definite value. -/
theorem reads_plain (chars : List Char) : Reads Definite chars (plain chars) := by
  unfold plain
  split
  · split
    · exact .ok _ _ .moment (List.drop_suffix _ _)
    · exact .malformed
  · split
    · exact .ok _ _ .moment (List.drop_suffix _ _)
    · split
      · split
        · rename_i v is
          exact .ok _ _ (definite_basedValue is) (List.drop_suffix _ _)
        · exact .malformed
      · split
        · rename_i n _
          obtain ⟨v, is, definite⟩ | ⟨digits, is, run⟩ := decimalValue_cases (chars.take n)
          · rw [is]
            exact .ok _ _ definite (List.drop_suffix _ _)
          · rw [is]
            exact .long _ (run.mono (List.take_prefix _ _).isInfix)
        · split
          · rename_i v rest is
            obtain ⟨definite, left⟩ := definite_word? is
            exact .ok _ _ definite left
          · exact .malformed

/-! ## Keys and values -/

theorem dropBlanks_suffix (chars : List Char) : dropBlanks chars <:+ chars :=
  List.dropWhile_suffix _

theorem skips_comment (chars : List Char) : Skips chars (dropComment chars) := by
  unfold dropComment
  split
  · split
    · exact .malformed
    · exact .ok _ ((List.dropWhile_suffix _).trans (List.suffix_cons _ _))
  · exact .ok _ (List.suffix_refl _)

theorem skips_lines (comment : Bool) (chars : List Char) :
    Skips chars (dropLines comment chars) := by
  induction chars generalizing comment with
  | nil => exact .ok _ (List.suffix_refl _)
  | cons c rest ih =>
    have later : ∀ comment, Skips (c :: rest) (dropLines comment rest) := fun comment =>
      (ih comment).mono (List.suffix_cons _ _)
    rw [dropLines]
    split
    · exact later _
    · split
      · split
        · exact .malformed
        · exact later _
      · split
        · exact later _
        · split
          · exact later _
          · exact .ok _ (List.suffix_refl _)

/-- A key may be any. -/
abbrev ReadsKey := Reads (fun _ : Key => True)

theorem reads_keyPart (chars : List Char) :
    Reads (fun _ : String => True) chars (keyPart chars) := by
  unfold keyPart
  split
  · exact ((reads_literal _ _).behind ['\'']).map fun _ _ => trivial
  · exact ((reads_basic _ _ _ _).behind ['"']).map fun _ _ => trivial
  · split
    · exact .malformed
    · exact .ok _ _ trivial (List.dropWhile_suffix _)

theorem reads_keyParts (fuel : Nat) (chars : List Char) : ReadsKey chars (keyParts fuel chars) := by
  induction fuel generalizing chars with
  | zero => exact .malformed
  | succ fuel ih =>
    refine (reads_keyPart chars).bind fun part rest _ _ => ?_
    have left := dropBlanks_suffix rest
    dsimp only
    split
    · rename_i rest' dotted
      rw [dotted] at left
      refine Reads.mono ?_ ((List.suffix_cons _ _).trans left)
      refine ((ih _).mono (dropBlanks_suffix _)).bind fun parts rest _ _ => ?_
      exact .ok _ _ trivial (List.suffix_refl _)
    · exact .ok _ _ trivial left

theorem reads_key (chars : List Char) : ReadsKey chars (key chars) := reads_keyParts _ _

/-- A value, the items of a list and the entries of a table need one another; each looks only at what
    has less fuel. -/
structure ReadsValues (fuel : Nat) : Prop where
  value : ∀ chars, Reads Definite chars (value fuel chars)
  items : ∀ chars, Reads (fun vs => ∀ v ∈ vs, Definite v) chars (items fuel chars)
  pairs : ∀ d chars, Defines d.entries → Reads Definite chars (pairs fuel d chars)

theorem reads_value_step {fuel : Nat} (less : ReadsValues fuel) (chars : List Char) :
    Reads Definite chars (value (fuel + 1) chars) := by
  unfold value
  split
  · rename_i rest
    refine Reads.behind ?_ ['[']
    refine (skips_lines _ _).bind fun rest _ => ?_
    dsimp only
    split
    · exact .ok _ _ (.list fun v listed => absurd listed List.not_mem_nil) (List.suffix_cons _ _)
    · refine (less.items _).bind fun vs rest each _ => ?_
      exact .ok _ _ (.list each) (List.suffix_refl _)
  · rename_i rest
    refine Reads.behind ?_ ['{']
    have left := dropBlanks_suffix rest
    split
    · rename_i closed
      rw [closed] at left
      exact .ok _ _ defines_nil ((List.suffix_cons _ _).trans left)
    · exact (less.pairs _ _ defines_nil).mono left
  · split
    · rename_i outcome is
      have turns : ∀ cs : List Char, True → Definite (.text (.ofList cs)) := fun _ _ => .text _
      exact (reads_text? is).map turns
    · exact reads_plain _

theorem reads_items_step {fuel : Nat} (less : ReadsValues fuel) (chars : List Char) :
    Reads (fun vs => ∀ v ∈ vs, Definite v) chars (items (fuel + 1) chars) := by
  rw [items]
  refine (less.value _).bind fun v rest definite _ => ?_
  have alone : ∀ u ∈ [v], Definite u := fun u listed => List.mem_singleton.mp listed ▸ definite
  refine (skips_lines _ _).bind fun rest _ => ?_
  dsimp only
  split
  · exact .ok _ _ alone (List.suffix_cons _ _)
  · refine Reads.behind ?_ [',']
    refine (skips_lines _ _).bind fun rest _ => ?_
    split
    · exact .ok _ _ alone (List.suffix_cons _ _)
    · refine (less.items _).bind fun vs rest each _ => ?_
      exact .ok _ _ (List.forall_mem_cons.mpr ⟨definite, each⟩) (List.suffix_refl _)
  · exact .malformed

theorem reads_pairs_step {fuel : Nat} (less : ReadsValues fuel) {d : Document}
    (defines : Defines d.entries) (chars : List Char) :
    Reads Definite chars (pairs (fuel + 1) d chars) := by
  rw [pairs]
  refine (reads_key _).bind fun k rest _ _ => ?_
  dsimp only
  split
  · refine Reads.behind ?_ ['=']
    refine ((less.value _).mono (dropBlanks_suffix _)).bind fun v rest definite _ => ?_
    have left := dropBlanks_suffix rest
    dsimp only
    split
    · exact .malformed
    · rename_i added
      have defines := Document.defines_addInline defines definite added
      split
      · rename_i closed
        rw [closed] at left
        exact .ok _ _ defines ((List.suffix_cons _ _).trans left)
      · rename_i on
        rw [on] at left
        refine Reads.mono ?_ ((List.suffix_cons _ _).trans left)
        exact (less.pairs _ _ defines).mono (dropBlanks_suffix _)
      · exact .malformed
  · exact .malformed

theorem reads_values (fuel : Nat) : ReadsValues fuel := by
  induction fuel with
  | zero =>
    refine ⟨fun _ => ?_, fun _ => ?_, fun _ _ _ => ?_⟩
    · rw [value]
      exact .malformed
    · rw [items]
      exact .malformed
    · rw [pairs]
      exact .malformed
  | succ fuel ih => exact ⟨reads_value_step ih, reads_items_step ih, fun _ chars defines =>
      reads_pairs_step ih defines chars⟩

/-- **Values** are definite. -/
theorem reads_value (fuel : Nat) (chars : List Char) : Reads Definite chars (value fuel chars) :=
  (reads_values fuel).value chars

/-! ## Documents -/

/-- The entries of the document are definite. -/
abbrev ReadsDocument := Reads (fun d : Document => Defines d.entries)

theorem fitted_cases (d : Option Document) :
    (∃ after, d = some after ∧ fitted d = .ok after) ∨ fitted d = .error .malformed := by
  cases d with
  | none => exact .inr rfl
  | some after => exact .inl ⟨after, rfl, rfl⟩

/-- A statement that does not fit leaves nothing; one that fits must have ended. -/
theorem reads_fitted {d : Option Document} {next : Document → Except Fault (Document × List Char)}
    (goes_on : ∀ after, d = some after → ReadsDocument chars (next after)) :
    ReadsDocument chars (fitted d >>= next) := by
  obtain ⟨after, is, fits⟩ | unfit := fitted_cases d
  · rw [fits]
    exact goes_on after is
  · rw [unfit]
    exact .malformed

theorem reads_statement {d : Document} (defines : Defines d.entries) (chars : List Char) :
    ReadsDocument chars (statement d chars) := by
  unfold statement
  split
  · refine Reads.behind ?_ ['[', '[']
    refine ((reads_key _).mono (dropBlanks_suffix _)).bind fun k rest _ _ => ?_
    refine reads_fitted fun after opened => ?_
    split
    · exact .ok _ _ (Document.defines_openElement defines opened) (List.suffix_append [_, _] _)
    · exact .malformed
  · refine Reads.behind ?_ ['[']
    refine ((reads_key _).mono (dropBlanks_suffix _)).bind fun k rest _ _ => ?_
    refine reads_fitted fun after opened => ?_
    split
    · exact .ok _ _ (Document.defines_openTable defines opened) (List.suffix_cons _ _)
    · exact .malformed
  · refine (reads_key _).bind fun k rest _ _ => ?_
    dsimp only
    split
    · refine Reads.behind ?_ ['=']
      refine ((reads_value _ _).mono (dropBlanks_suffix _)).bind fun v rest definite _ => ?_
      refine reads_fitted fun after added => ?_
      exact .ok _ _ (Document.defines_add defines definite added) (List.suffix_refl _)
    · exact .malformed

/-- What comes of a row of statements. -/
inductive Gives (chars : List Char) : Except Fault Document → Prop
  | ok (d : Document) (defines : Defines d.entries) : Gives chars (.ok d)
  | malformed : Gives chars (.error .malformed)
  | long (n : Nat) (run : LongRun n chars) : Gives chars (.error (.longInteger n))

theorem Gives.mono {outcome : Except Fault Document} (gives : Gives chars outcome)
    (sub : chars <:+ more) : Gives more outcome := by
  cases gives with
  | ok d defines => exact .ok d defines
  | malformed => exact .malformed
  | long n run => exact .long n (run.mono sub.isInfix)

theorem Reads.gives {outcome : Except Fault (Document × List Char)}
    {next : Document × List Char → Except Fault Document} (reads : ReadsDocument chars outcome)
    (goes_on : ∀ d rest, Defines d.entries → Gives rest (next (d, rest))) :
    Gives chars (outcome >>= next) := by
  cases reads with
  | ok d rest defines left => exact (goes_on d rest defines).mono left
  | malformed => exact .malformed
  | long n run => exact .long n run

theorem Skips.gives {outcome : Except Fault (List Char)} {next : List Char → Except Fault Document}
    (skips : Skips chars outcome) (goes_on : ∀ rest, Gives rest (next rest)) :
    Gives chars (outcome >>= next) := by
  cases skips with
  | ok rest left => exact (goes_on rest).mono left
  | malformed => exact .malformed

/-- The end of a line: what the line has given, or what the next lines give. -/
def endLine (fuel : Nat) (d : Document) (rest : List Char) : Except Fault Document := do
  match ← dropComment (dropBlanks rest) with
  | [] => return d
  | '\n' :: rest => statements fuel d rest
  | _ => .error .malformed

theorem gives_statements (fuel : Nat) {d : Document} (defines : Defines d.entries)
    (chars : List Char) : Gives chars (statements fuel d chars) := by
  induction fuel generalizing d chars with
  | zero => exact .malformed
  | succ fuel ih =>
    have left := dropBlanks_suffix chars
    have ends : ∀ d rest, Defines d.entries → Gives rest (endLine fuel d rest) := by
      intro d rest defines
      have skips := (skips_comment (dropBlanks rest)).mono (dropBlanks_suffix rest)
      refine skips.gives fun rest => ?_
      split
      · exact .ok d defines
      · exact (ih defines _).mono (List.suffix_cons _ _)
      · exact .malformed
    rw [statements]
    split
    · exact .ok d defines
    · rename_i rest line
      rw [line] at left
      exact (ih defines rest).mono ((List.suffix_cons _ _).trans left)
    · refine Gives.mono ?_ left
      dsimp only
      split
      · exact ends d _ defines
      · exact (reads_statement defines _).gives ends

/-- Joining line ends makes no row of other characters. -/
theorem prefix_of_joined {run text : List Char} (unbroken : '\n' ∉ run)
    (front : run <+: joinLineEnds text) : run <+: text := by
  induction text using joinLineEnds.induct generalizing run with
  | case1 rest ih =>
    rw [joinLineEnds] at front
    cases run with
    | nil => exact List.nil_prefix
    | cons c run =>
      rw [(List.cons_prefix_cons.mp front).1] at unbroken
      exact absurd List.mem_cons_self unbroken
  | case2 c rest no_pair ih =>
    rw [joinLineEnds] at front
    · cases run with
      | nil => exact List.nil_prefix
      | cons c run =>
        obtain ⟨same, later⟩ := List.cons_prefix_cons.mp front
        exact List.cons_prefix_cons.mpr
          ⟨same, ih (fun listed => unbroken (List.mem_cons_of_mem _ listed)) later⟩
    · exact no_pair
  | case3 => exact front

theorem infix_of_joined {run text : List Char} (unbroken : '\n' ∉ run)
    (inside : run <:+: joinLineEnds text) : run <:+: text := by
  induction text using joinLineEnds.induct with
  | case1 rest ih =>
    rw [joinLineEnds, List.infix_cons_iff] at inside
    obtain front | later := inside
    · cases run with
      | nil => exact List.nil_infix
      | cons c run =>
        rw [(List.cons_prefix_cons.mp front).1] at unbroken
        exact absurd List.mem_cons_self unbroken
    · exact (ih later).trans (List.suffix_append ['\r', '\n'] rest).isInfix
  | case2 c rest no_pair ih =>
    have joined : joinLineEnds (c :: rest) = c :: joinLineEnds rest := joinLineEnds.eq_2 c rest no_pair
    have whole : run <+: joinLineEnds (c :: rest) → run <+: c :: rest := prefix_of_joined unbroken
    rw [joined] at inside whole
    rw [List.infix_cons_iff] at inside
    obtain front | later := inside
    · exact (whole front).isInfix
    · exact (ih later).trans (List.suffix_cons c rest).isInfix
  | case3 => exact inside

theorem LongRun.of_joined {text : List Char} (long : LongRun n (joinLineEnds text)) :
    LongRun n text := by
  obtain ⟨many, run, inside, digits, count⟩ := long
  refine ⟨many, run, infix_of_joined (fun listed => ?_) inside, digits, count⟩
  obtain digit | under := digits _ listed
  · cases digit
  · cases under

/-- **Documents**: what a text is read as has no null and no key twice, or it is malformed, or a
    decimal integer of too many digits stands in it. -/
theorem read_cases (text : List Char) :
    (∃ entries, read text = .ok entries ∧ Defines entries) ∨ read text = .error .malformed ∨
      ∃ n, read text = .error (.longInteger n) ∧ LongRun n text := by
  have gives := gives_statements ((joinLineEnds text).length + 1) (d := {}) defines_nil
    (joinLineEnds text)
  unfold read
  dsimp only
  generalize statements _ _ _ = outcome at gives
  cases gives with
  | ok d defines => exact .inl ⟨d.entries, rfl, defines⟩
  | malformed => exact .inr (.inl rfl)
  | long n run => exact .inr (.inr ⟨n, rfl, run.of_joined⟩)

end GoWorkbench.Toml
