/-
  Pieces of text that a rule reads one after the other.

  1. **Names** — the names that lexemes declare at their places, as nodes (`namesAt`).  What is read
     is right if the names found among the nodes that are built are these.
  2. **Pieces** — a rule *takes* a piece if it leads past the tokens of the piece and builds nodes
     with its names (`Takes`).  How a rule goes on may depend on what comes next, so a piece is taken
     only in front of tokens that begin in one of certain ways, and begins so itself.
  3. **Repetition** — so a rule that takes each piece and then stops can be repeated
     (`repeats_pieces`).
-/
import GoWorkbench.Proofs.Go.Leading
import GoWorkbench.Proofs.Go.Lexemes

namespace GoWorkbench.Go

/-! ## Names -/

/-- The node of a declared name. -/
def nameLeaf (w : String) (p : Position) : Node :=
  .mk { kind := .identifier, field := some .name, text := w, start := p } []

/-- The name that a lexeme at the place declares. -/
def Lexeme.names (p : Position) : Lexeme → List (SymbolKind × Node)
  | declared kind w => [(kind, nameLeaf w p)]
  | _ => []

/-- The names that lexemes declare, where the first lexeme begins at the cursor. -/
def namesAt (c : Cursor) : List Lexeme → List (SymbolKind × Node)
  | [] => []
  | l :: rest => l.names c.place ++ namesAt (c.pass l) rest

theorem namesAt_append (c : Cursor) (left right : List Lexeme) :
    namesAt c (left ++ right) = namesAt c left ++ namesAt (c.passAll left) right := by
  induction left generalizing c with
  | nil => rfl
  | cons l left ih =>
    rw [List.cons_append, namesAt, namesAt, ih, List.append_assoc]
    rfl

theorem namesAt_eq_nil {ls : List Lexeme} (nothing : ∀ l ∈ ls, ∀ p, l.names p = []) (c : Cursor) :
    namesAt c ls = [] := by
  induction ls generalizing c with
  | nil => rfl
  | cons l ls ih =>
    obtain ⟨hl, hls⟩ := List.forall_mem_cons.mp nothing
    rw [namesAt, hl, ih hls, List.append_nil]

/-- The end of a line declares nothing. -/
theorem namesAt_line (c : Cursor) (ls : List Lexeme) :
    namesAt c (ls ++ [.lineEnd]) = namesAt c ls := by
  rw [namesAt_append]
  exact List.append_nil _

theorem tokensAt_line (c : Cursor) (ls : List Lexeme) (more : List Token) :
    tokensAt c (ls ++ [.lineEnd]) ++ more =
      tokensAt c ls ++ (c.passAll ls).token .lineEnd :: more := by
  rw [tokensAt_append, List.append_assoc]
  rfl

/-! ## Pieces -/

/-- The tokens begin in one of the ways. -/
def Begins (nexts : List (List Sign)) (tokens : List Token) : Prop :=
  ∃ next ∈ nexts, Shown next tokens

/-- Nothing is asked of the tokens. -/
theorem begins_any (tokens : List Token) : Begins [[]] tokens :=
  ⟨[], List.mem_singleton_self _, .more tokens⟩

/-- The rule leads past the tokens of the piece, and builds nodes with its names. -/
structure Takes (d : Nat) (r : Rule Part) (names : List Node → List (SymbolKind × Node))
    (nexts : List (List Sign)) (ls : List Lexeme) : Prop where
  some_sign : signsOf ls ≠ []
  begins : ∀ c more, Begins nexts (tokensAt c ls ++ more)
  reads : ∀ c more nodes, Begins nexts more →
    ∃ built, Leads d r ⟨nodes, tokensAt c ls ++ more⟩ [⟨built.reverse ++ nodes, more⟩] ∧
      names built = namesAt c ls

variable {d : Nat} {r : Rule Part} {names : List Node → List (SymbolKind × Node)}
  {nexts : List (List Sign)} {ls : List Lexeme} {forest : Forest} {pieces : List (List Lexeme)}
  {rest : List Token}

/-- **A short piece** is taken as foreseen. -/
theorem takes_of_foreseen (readable : Readable ls) (some_sign : signsOf ls ≠ [])
    (begins : ∀ c more, Begins nexts (tokensAt c ls ++ more))
    (foreseen : ∀ next ∈ nexts, r.foresee grammar (signsOf ls ++ next) d 0 =
      some [⟨(signsOf ls).length, forest⟩])
    (found : ∀ c more, names (forest.fill (tokensAt c ls ++ more)) = namesAt c ls) :
    Takes d r names nexts ls := by
  refine ⟨some_sign, begins, ?_⟩
  rintro c more nodes ⟨next, hnext, shown⟩
  have leads := leads_to_end (s := ⟨nodes, tokensAt c ls ++ more⟩) (foreseen next hnext)
    (shown_tokensAt readable.sound c shown)
  rw [End.state, ← length_tokensAt c, List.drop_left] at leads
  exact ⟨_, leads, found c more⟩

/-! ## Repetition -/

theorem begins_pieces (takes : ∀ ls ∈ pieces, Takes d r names nexts ls) (ends : Begins nexts rest)
    (c : Cursor) : Begins nexts (tokensAt c pieces.flatten ++ rest) := by
  cases pieces with
  | nil => exact ends
  | cons ls pieces =>
    rw [List.flatten_cons, tokensAt_append, List.append_assoc]
    exact (takes ls List.mem_cons_self).begins c _

/-- **Pieces** are read one after the other, up to where the rule stops. -/
theorem repeats_pieces (adds : ∀ left right, names (left ++ right) = names left ++ names right)
    (takes : ∀ ls ∈ pieces, Takes d r names nexts ls) (ends : Begins nexts rest)
    (stops : ∀ nodes, Leads d r ⟨nodes, rest⟩ []) (c : Cursor) (nodes : List Node) :
    ∃ built, Repeats d r ⟨nodes, tokensAt c pieces.flatten ++ rest⟩
        ⟨built.reverse ++ nodes, rest⟩ ∧ names built = namesAt c pieces.flatten := by
  induction pieces generalizing c nodes with
  | nil => exact ⟨[], (stops nodes).stops, List.self_eq_append_left.mp (adds [] [])⟩
  | cons ls pieces ih =>
    obtain ⟨here, later⟩ := List.forall_mem_cons.mp takes
    let behind := tokensAt (c.passAll ls) pieces.flatten ++ rest
    have split : tokensAt c (ls ++ pieces.flatten) ++ rest = tokensAt c ls ++ behind := by
      rw [tokensAt_append, List.append_assoc]
    obtain ⟨first, leads, found⟩ := here.reads c behind nodes (begins_pieces later ends _)
    obtain ⟨built, repeats, others⟩ := ih later (c.passAll ls) (first.reverse ++ nodes)
    rw [List.flatten_cons, split, namesAt_append, ← found, ← others, ← adds]
    refine ⟨first ++ built, ?_, rfl⟩
    rw [List.reverse_append, List.append_assoc]
    have some_token : 0 < (tokensAt c ls).length := by
      rw [length_tokensAt]
      exact List.length_pos_of_ne_nil here.some_sign
    have fewer : behind.length < (tokensAt c ls ++ behind).length :=
      Nat.lt_of_lt_of_eq (Nat.lt_add_of_pos_left some_token) List.length_append.symm
    exact leads.repeats fewer repeats

end GoWorkbench.Go
