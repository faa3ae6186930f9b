/-
  Following rules by the signs of tokens.

  What a rule does is decided by few tokens, and by little of each: whether it is a certain reserved
  word, a name, a number, a mark or a line end.  So a rule can be followed once for all tokens that
  look the same.

  1. **Signs** — a sign says what a token is, but neither its name nor its place; signs are shown by
     tokens that begin with such tokens (`Shown`), and anything may come after them.
  2. **Forests** — the nodes that a rule adds, where numbers of tokens stand for names and places.
  3. **Foresight** — `Rule.foresee` follows a rule by signs.  It gives up where it would have to look
     past the last sign, or at more than a sign says.
  4. **Soundness** — what is foreseen is what happens, for all tokens that show the signs
     (`foreseen_follow`).  States are told apart by the offset of the next token, and ends by the
     number of tokens passed; the two agree because offsets increase (`Ordered`).
-/
import GoWorkbench.Go.Grammar

namespace GoWorkbench.Go

/-! ## Signs -/

/-- What is known of a token. -/
inductive Sign
  | word (w : String)
  /-- A word that is neither reserved nor an operand. -/
  | name
  | number
  | mark (c : Char)
  | lineEnd
  /-- No token is left. -/
  | ending
deriving DecidableEq

/-- The sign says what the shape is. -/
def Sign.Tells : Sign → Shape → Prop
  | .word w, shape => shape = .word w
  | .name, shape => ∃ w, shape = .word w ∧ w ∉ keywords ∧ w ∉ operandWords
  | .number, shape => shape = .number
  | .mark c, shape => shape = .mark c
  | .lineEnd, shape => shape = .lineEnd
  | .ending, _ => False

/-- The tokens begin as the signs say. -/
inductive Shown : List Sign → List Token → Prop
  | more (tokens : List Token) : Shown [] tokens
  | ending : Shown [.ending] []
  | cons {sign : Sign} {token : Token} {signs : List Sign} {tokens : List Token}
      (tells : sign.Tells token.shape) (on : Shown signs tokens) :
      Shown (sign :: signs) (token :: tokens)

variable {signs : List Sign} {tokens : List Token}

theorem Shown.drop (h : Shown signs tokens) (k : Nat) : Shown (signs.drop k) (tokens.drop k) := by
  induction k generalizing signs tokens with
  | zero => exact h
  | succ k ih =>
    cases h with
    | more tokens => rw [List.drop_nil]; exact .more _
    | ending => rw [List.drop_succ_cons, List.drop_nil, List.drop_nil]; exact .more _
    | cons tells on => exact ih on

/-- Tokens have increasing offsets. -/
def Ordered (tokens : List Token) : Prop := tokens.Pairwise fun a b => a.offset < b.offset

/-! ## Forests -/

/-- Syntax trees side by side, where tokens are told by their numbers. -/
inductive Forest
  | bare
  | leaf (kind : Kind) (field : Option Field) (named : Bool) (token : Nat) (later : Forest)
  | node (kind : Kind) (field : Option Field) (first : Nat) (below later : Forest)
deriving DecidableEq

namespace Forest

/-- One forest after the other. -/
def append : Forest → Forest → Forest
  | bare, more => more
  | leaf kind field named token later, more => leaf kind field named token (later.append more)
  | node kind field first below later, more => node kind field first below (later.append more)

/-- The same trees in a role. -/
def inField (f : Field) : Forest → Forest
  | bare => bare
  | leaf kind _ named token later => leaf kind (some f) named token (later.inField f)
  | node kind _ first below later => node kind (some f) first below (later.inField f)

end Forest

/-- Where the token of a number starts. -/
def startAt (tokens : List Token) (i : Nat) : Position := (tokens[i]?).elim ⟨0, 0⟩ Token.start

/-- The name of the token of a number. -/
def nameAt (tokens : List Token) (i : Nat) : String := (tokens[i]?).elim "" Token.name

/-- The syntax trees that a forest stands for. -/
def Forest.fill (tokens : List Token) : Forest → List Node
  | bare => []
  | leaf kind field named token later =>
    .mk { kind, field, named, text := nameAt tokens token, start := startAt tokens token } [] ::
      later.fill tokens
  | node kind field first below later =>
    .mk { kind, field, start := startAt tokens first } (below.fill tokens) :: later.fill tokens

theorem Forest.fill_append (left right : Forest) :
    (left.append right).fill tokens = left.fill tokens ++ right.fill tokens := by
  induction left with
  | bare => rfl
  | leaf kind field named token later ih => rw [append, fill, fill, ih]; rfl
  | node kind field first below later _ ih => rw [append, fill, fill, ih]; rfl

theorem Forest.fill_inField (f : Field) (forest : Forest) :
    (forest.inField f).fill tokens = (forest.fill tokens).map (Node.withField f) := by
  induction forest with
  | bare => rfl
  | leaf kind field named token later ih => rw [inField, fill, fill, ih]; rfl
  | node kind field first below later _ ih => rw [inField, fill, fill, ih]; rfl

/-! ## Foresight -/

/-- An end of a rule: how many tokens are passed then, and what is built. -/
structure End where
  passed : Nat
  built : Forest
deriving DecidableEq

/-- How many line ends come first. -/
def lineEnds : List Sign → Option Nat
  | [] => none
  | sign :: signs => if sign = .lineEnd then (lineEnds signs).map (· + 1) else some 0

/-- Whether the marks come next.  What is joined cannot be told by signs. -/
def foreseeMarks : List Char → List Sign → Option Bool
  | [], _ => some true
  | _ :: _, [] => none
  | c :: _, sign :: _ => if sign = .mark c then none else some false

/-- Whether the terminal comes next. -/
def Terminal.foresee (t : Terminal) : List Sign → Option Bool
  | [] => none
  | sign :: signs => match t, sign with
    | .word w, .word v => some (v = w)
    | .word w, .name => if w ∈ keywords || w ∈ operandWords then some false else none
    | .name, .word v => some (v ∉ keywords)
    | .name, .name => some true
    | .operand, .word v => some !(v ∈ keywords || v ∈ operandWords)
    | .operand, .name => some true
    | .number, .number => some true
    | .marks (c :: more), .mark d => if c = d then foreseeMarks more signs else some false
    | _, _ => some false

/-- The number of the token that the terminal cuts off after `k` others, if it comes next. -/
def Terminal.find (t : Terminal) (signs : List Sign) (k : Nat) : Option (Option Nat) := do
  let passed ← lineEnds (signs.drop k)
  let next ← t.foresee (signs.drop (k + passed))
  return if next then some (k + passed) else none

/-- All that is found for the members of a list, one after the other. -/
def collect {α β : Type} (find : α → Option (List β)) : List α → Option (List β)
  | [] => some []
  | a :: rest => do return (← find a) ++ (← collect find rest)

/-- Drops every end that is like an earlier one. -/
def distinctEnds : List End → List End
  | [] => []
  | e :: rest => e :: (distinctEnds rest).filter fun e' => e'.passed != e.passed

/-- Adds an end to a list in order, unless one like it is there. -/
def insertEnd (e : End) : List End → List End
  | [] => [e]
  | e' :: rest =>
    if e.passed = e'.passed then e' :: rest
    else if e.passed < e'.passed then e :: e' :: rest
    else e' :: insertEnd e rest

/-- The ends of a step taken from an end. -/
def onward (step : Nat → Option (List End)) (e : End) : Option (List End) :=
  (step e.passed).map fun ends => ends.map fun e' => ⟨e'.passed, e.built.append e'.built⟩

/-- One rule after the other. -/
def foreseeAll {ν : Type} (step : Rule ν → Nat → Option (List End)) :
    List (Rule ν) → List End → Option (List End)
  | [], ends => some ends
  | r :: rules, ends => do foreseeAll step rules (distinctEnds (← collect (onward (step r)) ends))

/-- A step as often as it can be taken. -/
def saturateEnds (step : Nat → Option (List End)) : Nat → List End → Option (List End)
  | 0, _ => none
  | _ + 1, [] => some []
  | n + 1, e :: pending => do
    match ← onward step e with
    | [] => return e :: (← saturateEnds step n pending)
    | next => saturateEnds step n (next.foldl (fun ends e => insertEnd e ends) pending)

/-- The ends that a rule leads to after `k` tokens, as far as signs tell.  The first number bounds
    the depth of rules within rules. -/
def Rule.foresee {ν : Type} (grammar : ν → Rule ν) (signs : List Sign) :
    Nat → Rule ν → Nat → Option (List End)
  | 0, _, _ => none
  | n + 1, r, k => match r with
    | .token t => (t.find signs k).map fun found =>
      found.toList.map fun i => ⟨i + 1, .bare⟩
    | .leaf kind named t => (t.find signs k).map fun found =>
      found.toList.map fun i => ⟨i + 1, .leaf kind none named i .bare⟩
    | .all rules => foreseeAll (foresee grammar signs n) rules [⟨k, .bare⟩]
    | .any rules => (collect (fun r => foresee grammar signs n r k) rules).map distinctEnds
    | .many r => saturateEnds (foresee grammar signs n r) n [⟨k, .bare⟩]
    | .part p => foresee grammar signs n (grammar p) k
    | .node kind r => do
      let ends ← foresee grammar signs n r k
      let passed ← lineEnds (signs.drop k)
      return ends.map fun e => ⟨e.passed, .node kind none (k + passed) e.built .bare⟩
    | .field f r => (foresee grammar signs n r k).map fun ends =>
      ends.map fun e => ⟨e.passed, e.built.inField f⟩
    | .blind r => (foresee grammar signs n r k).map fun ends => ends.map fun e => ⟨e.passed, .bare⟩
    | .terminator => (signs[k]?).map fun sign =>
      if sign = .lineEnd ∨ sign = .mark ';' then [⟨k + 1, .bare⟩] else []
    | .here => (signs[k]?).map fun sign => if sign = .lineEnd then [] else [⟨k, .bare⟩]
    | .away => (signs[k]?).map fun sign => if sign = .lineEnd then [⟨k, .bare⟩] else []
    | .before ts => (collect (fun t => (t.foresee (signs.drop k)).map fun next => [next]) ts).map
      fun found => if found.any id then [⟨k, .bare⟩] else []
    | .unless r => (foresee grammar signs n r k).map fun ends =>
      if ends.isEmpty then [⟨k, .bare⟩] else []
    | .finish => (lineEnds (signs.drop k)).map fun passed =>
      if signs[k + passed]? = some .ending then [⟨k, .bare⟩] else []

/-! ## What is looked at next -/

theorem Shown.at_sign (h : Shown signs tokens) {k : Nat} {sign : Sign}
    (found : signs[k]? = some sign) :
    (sign = .ending ∧ tokens.drop k = []) ∨
      ∃ token, tokens.drop k = token :: tokens.drop (k + 1) ∧ sign.Tells token.shape := by
  have on := h.drop k
  have is : signs.drop k = sign :: signs.drop (k + 1) := by
    obtain ⟨hk, rfl⟩ := List.getElem?_eq_some_iff.mp found
    exact List.drop_eq_getElem_cons hk
  rw [is] at on
  generalize signs.drop (k + 1) = later at on
  generalize hdrop : tokens.drop k = left at on
  cases on with
  | ending => exact Or.inl ⟨rfl, rfl⟩
  | cons tells on =>
    refine Or.inr ⟨_, ?_, tells⟩
    rw [← List.drop_drop, hdrop, List.drop_succ_cons, List.drop_zero]

theorem Sign.Tells.eq_lineEnd {sign : Sign} {shape : Shape} (h : sign.Tells shape) :
    sign = .lineEnd ↔ shape = .lineEnd := by
  cases sign with
  | name => obtain ⟨w, rfl, -⟩ := h; simp
  | ending => cases h
  | _ => rw [show shape = _ from h]; simp

/-- Line ends are passed over as the signs say. -/
theorem passed_of_lineEnds (h : Shown signs tokens) {n : Nat} (found : lineEnds signs = some n) :
    passLineEnds tokens = tokens.drop n ∧ n ≤ tokens.length := by
  induction h generalizing n with
  | more => cases found
  | ending => rw [← Option.some.inj found]; exact ⟨rfl, Nat.zero_le _⟩
  | cons tells on ih =>
    rw [lineEnds] at found
    rw [passLineEnds]
    split at found
    · rename_i is
      obtain ⟨n, hn, rfl⟩ := Option.map_eq_some_iff.mp found
      obtain ⟨passes, le⟩ := ih hn
      rw [if_pos (tells.eq_lineEnd.mp is), passes, List.drop_succ_cons, List.length_cons]
      exact ⟨rfl, Nat.succ_le_succ le⟩
    · rename_i other
      rw [← Option.some.inj found, if_neg (mt tells.eq_lineEnd.mpr other)]
      exact ⟨rfl, Nat.zero_le _⟩

theorem joined_of_foreseeMarks (h : Shown signs tokens) {marks : List Char} {next : Bool}
    (found : foreseeMarks marks signs = some next) :
    joinedMarks marks tokens = if next then some tokens else none := by
  cases marks with
  | nil => rw [← Option.some.inj found]; rfl
  | cons c marks =>
    cases h with
    | more => cases found
    | ending => rw [← Option.some.inj found]; rfl
    | @cons sign token _ _ tells on =>
      rw [foreseeMarks] at found
      split at found
      · cases found
      · rename_i other
        rw [← Option.some.inj found, joinedMarks, if_neg]
        · rfl
        · intro is
          rw [Bool.and_eq_true, decide_eq_true_eq] at is
          rw [is.1] at tells
          cases sign with
          | mark d => exact other (by rw [Shape.mark.inj tells])
          | name => obtain ⟨w, is, -⟩ := tells; cases is
          | _ => cases tells

/-- A terminal comes next as the signs say, and then it is one token. -/
theorem here_of_foresee (h : Shown signs tokens) (t : Terminal) {next : Bool}
    (found : t.foresee signs = some next) :
    (next = true → tokens ≠ []) ∧
      t.here tokens = if next then tokens.head?.map (·, tokens.tail) else none := by
  cases h with
  | more => cases found
  | ending =>
    have nothing : next = false := by
      unfold Terminal.foresee at found
      dsimp only at found
      split at found <;> first | exact (Option.some.inj found).symm | (rename_i h; cases h)
    rw [nothing]
    exact ⟨nofun, rfl⟩
  | @cons sign token _ _ tells on =>
    refine ⟨fun _ => List.cons_ne_nil _ _, ?_⟩
    obtain ⟨shape, start, offset, joined⟩ := token
    cases sign with
    | word v =>
      cases tells
      cases t with
      | word w => by_cases is : v = w <;> simp_all [Terminal.foresee, Terminal.here]
      | name => by_cases reserved : v ∈ keywords <;> simp_all [Terminal.foresee, Terminal.here]
      | operand =>
        by_cases reserved : v ∈ keywords ∨ v ∈ operandWords
        · rcases reserved with reserved | reserved <;>
            simp_all [Terminal.foresee, Terminal.here]
        · simp_all [Terminal.foresee, Terminal.here]
      | _ => simp_all [Terminal.foresee, Terminal.here]
    | name =>
      obtain ⟨v, rfl, not_keyword, not_operand⟩ := tells
      cases t with
      | word w =>
        have other : v ≠ w := by
          rintro rfl
          simp_all [Terminal.foresee]
        simp_all [Terminal.foresee, Terminal.here]
      | _ => simp_all [Terminal.foresee, Terminal.here]
    | mark d =>
      cases tells
      cases t with
      | marks marks =>
        cases marks with
        | nil => simp_all [Terminal.foresee, Terminal.here]
        | cons c more =>
          simp only [Terminal.foresee, Terminal.here] at found ⊢
          by_cases is : c = d
          · rw [if_pos is] at found
            rw [if_pos is, joined_of_foreseeMarks on found]
            cases next <;> rfl
          · rw [if_neg is] at found
            rw [if_neg is, ← Option.some.inj found]
            rfl
      | _ => simp_all [Terminal.foresee, Terminal.here]
    | number | lineEnd =>
      cases tells
      cases t <;> simp_all [Terminal.foresee, Terminal.here]
    | ending => cases tells

/-- A terminal is found where the signs say. -/
theorem take_of_find (h : Shown signs tokens) (t : Terminal) {k : Nat} {place : Option Nat}
    (found : t.find signs k = some place) :
    (place = none ∧ t.take (tokens.drop k) = none) ∨
      ∃ i token, place = some i ∧ tokens[i]? = some token ∧
        t.take (tokens.drop k) = some (token, tokens.drop (i + 1)) := by
  simp only [Terminal.find, Option.bind_eq_bind, Option.bind_eq_some_iff, Option.pure_def,
    Option.some.injEq] at found
  obtain ⟨passed, hpassed, next, hnext, rfl⟩ := found
  obtain ⟨some_left, here⟩ := here_of_foresee (h.drop (k + passed)) t hnext
  unfold Terminal.take
  rw [(passed_of_lineEnds (h.drop k) hpassed).1, List.drop_drop, here]
  cases next with
  | false => exact Or.inl ⟨rfl, rfl⟩
  | true =>
    have some_token : k + passed < tokens.length := by
      have := mt List.drop_eq_nil_iff.mpr (some_left rfl)
      omega
    have found := List.getElem?_eq_getElem some_token
    rw [if_pos rfl, if_pos rfl, List.head?_drop, List.tail_drop, found]
    exact Or.inr ⟨_, _, rfl, found, rfl⟩

/-! ## Ends and states -/

/-- The state at an end of a rule that has been followed from the nodes. -/
def End.state (tokens : List Token) (nodes : List Node) (e : End) : State :=
  ⟨(e.built.fill tokens).reverse ++ nodes, tokens.drop e.passed⟩

/-- The ends lie among the tokens. -/
def Within (tokens : List Token) (ends : List End) : Prop := ∀ e ∈ ends, e.passed ≤ tokens.length

variable {nodes : List Node} {e e' : End} {ends ends' : List End}

theorem End.place_state (tokens : List Token) (nodes : List Node) (e : End) :
    (e.state tokens nodes).place = tokens[e.passed]?.map Token.offset := by
  unfold End.state State.place
  rw [List.head?_drop]

/-- Fewer tokens passed is an earlier place. -/
theorem Ordered.earlier (ordered : Ordered tokens) {i j : Nat} (lt : i < j)
    (le : j ≤ tokens.length) : ∃ a, tokens[i]?.map Token.offset = some a ∧
      ∀ b, tokens[j]?.map Token.offset = some b → a < b := by
  have hi : i < tokens.length := by omega
  refine ⟨tokens[i].offset, by rw [List.getElem?_eq_getElem hi]; rfl, fun b hb => ?_⟩
  obtain ⟨token, found, rfl⟩ := Option.map_eq_some_iff.mp hb
  obtain ⟨hj, rfl⟩ := List.getElem?_eq_some_iff.mp found
  exact List.pairwise_iff_getElem.mp ordered i j hi hj lt

theorem Ordered.isBefore_state (ordered : Ordered tokens) (lt : e.passed < e'.passed)
    (le : e'.passed ≤ tokens.length) :
    (e.state tokens nodes).isBefore (e'.state tokens nodes) = true ∧
      (e'.state tokens nodes).isBefore (e.state tokens nodes) = false := by
  obtain ⟨a, ha, later⟩ := ordered.earlier lt le
  unfold State.isBefore
  rw [End.place_state, End.place_state, ha]
  cases hb : tokens[e'.passed]?.map Token.offset with
  | none => exact ⟨rfl, rfl⟩
  | some b =>
    have := later b hb
    exact ⟨decide_eq_true this, decide_eq_false (by omega)⟩

theorem Ordered.place_state_eq (ordered : Ordered tokens) (le : e.passed ≤ tokens.length)
    (le' : e'.passed ≤ tokens.length) :
    (e.state tokens nodes).place = (e'.state tokens nodes).place ↔ e.passed = e'.passed := by
  rw [End.place_state, End.place_state]
  refine ⟨fun same => ?_, fun same => by rw [same]⟩
  rcases Nat.lt_trichotomy e.passed e'.passed with lt | eq | lt
  · obtain ⟨a, ha, later⟩ := ordered.earlier lt le'
    exact absurd (later a (by rw [← same, ha])) (Nat.lt_irrefl a)
  · exact eq
  · obtain ⟨a, ha, later⟩ := ordered.earlier lt le
    exact absurd (later a (by rw [same, ha])) (Nat.lt_irrefl a)

theorem distinct_cons (s : State) (states : List State) :
    distinct (s :: states) = s :: (distinct states).filter fun t => t.place != s.place := by
  cases states <;> rfl

theorem mem_distinctEnds (h : e ∈ distinctEnds ends) : e ∈ ends := by
  induction ends with
  | nil => exact h
  | cons e' ends ih =>
    rcases List.mem_cons.mp h with rfl | h
    · exact List.mem_cons_self
    · exact List.mem_cons_of_mem _ (ih (List.mem_filter.mp h).1)

/-- Ends are dropped as states are. -/
theorem distinct_state (ordered : Ordered tokens) (within : Within tokens ends) :
    distinct (ends.map (End.state tokens nodes)) =
      (distinctEnds ends).map (End.state tokens nodes) := by
  induction ends with
  | nil => rfl
  | cons e ends ih =>
    obtain ⟨he, hends⟩ := List.forall_mem_cons.mp within
    rw [List.map_cons, distinct_cons, ih hends, distinctEnds, List.map_cons, List.filter_map]
    congr 2
    refine List.filter_congr fun e' he' => ?_
    rw [Bool.eq_iff_iff, Function.comp_apply, bne_iff_ne, bne_iff_ne, ne_eq, ne_eq,
      ordered.place_state_eq (hends e' (mem_distinctEnds he')) he]

theorem mem_insertEnd {e'' : End} (h : e'' ∈ insertEnd e ends) : e'' = e ∨ e'' ∈ ends := by
  induction ends with
  | nil => exact Or.inl (List.mem_singleton.mp h)
  | cons e' ends ih =>
    rw [insertEnd] at h
    split at h
    · exact Or.inr h
    · split at h
      · exact List.mem_cons.mp h
      · rcases List.mem_cons.mp h with rfl | h
        · exact Or.inr List.mem_cons_self
        · exact (ih h).imp id (List.mem_cons_of_mem _)

/-- Ends are added as states are. -/
theorem insertState_state (ordered : Ordered tokens) (le : e.passed ≤ tokens.length)
    (within : Within tokens ends) :
    insertState (e.state tokens nodes) (ends.map (End.state tokens nodes)) =
      (insertEnd e ends).map (End.state tokens nodes) := by
  induction ends with
  | nil => rfl
  | cons e' ends ih =>
    obtain ⟨he', hends⟩ := List.forall_mem_cons.mp within
    rw [List.map_cons, insertState, insertEnd]
    rcases Nat.lt_trichotomy e.passed e'.passed with lt | eq | lt
    · rw [if_neg (mt (ordered.place_state_eq le he').mp (Nat.ne_of_lt lt)),
        if_pos (ordered.isBefore_state lt he').1, if_neg (Nat.ne_of_lt lt), if_pos lt]
      rfl
    · rw [if_pos ((ordered.place_state_eq le he').mpr eq), if_pos eq]
      rfl
    · rw [if_neg (mt (ordered.place_state_eq le he').mp (Nat.ne_of_gt lt)),
        if_neg (Bool.eq_false_iff.mp (ordered.isBefore_state lt le).2), if_neg (Nat.ne_of_gt lt),
        if_neg (Nat.lt_asymm lt), ih hends]
      rfl

theorem foldl_insertState_state (ordered : Ordered tokens) (within : Within tokens ends)
    (within' : Within tokens ends') :
    Within tokens (ends'.foldl (fun ends e => insertEnd e ends) ends) ∧ ∀ nodes,
      (ends'.map (End.state tokens nodes)).foldl (fun states t => insertState t states)
          (ends.map (End.state tokens nodes)) =
        (ends'.foldl (fun ends e => insertEnd e ends) ends).map (End.state tokens nodes) := by
  induction ends' generalizing ends with
  | nil => exact ⟨within, fun nodes => rfl⟩
  | cons e ends' ih =>
    obtain ⟨he, hends'⟩ := List.forall_mem_cons.mp within'
    have within_both : Within tokens (insertEnd e ends) := by
      intro e' he'
      rcases mem_insertEnd he' with rfl | he'
      · exact he
      · exact within e' he'
    obtain ⟨within_all, inserts⟩ := ih within_both hends'
    refine ⟨within_all, fun nodes => ?_⟩
    rw [List.map_cons, List.foldl_cons, insertState_state ordered he within, inserts]
    rfl

/-! ## Soundness -/

/-- What is foreseen of a step is what happens. -/
def Foreseen (tokens : List Token) (step : Nat → Option (List End)) (follow : State → List State) :
    Prop :=
  ∀ k ends, k ≤ tokens.length → step k = some ends → Within tokens ends ∧
    ∀ nodes, follow ⟨nodes, tokens.drop k⟩ = ends.map (End.state tokens nodes)

variable {step : Nat → Option (List End)} {follow : State → List State}

theorem collect_cons {α β : Type} {find : α → Option (List β)} {a : α} {rest : List α}
    {found : List β} (h : collect find (a :: rest) = some found) :
    ∃ here later, find a = some here ∧ collect find rest = some later ∧ found = here ++ later := by
  simp only [collect, Option.bind_eq_bind, Option.bind_eq_some_iff, Option.pure_def,
    Option.some.injEq] at h
  obtain ⟨here, hhere, later, hlater, rfl⟩ := h
  exact ⟨here, later, hhere, hlater, rfl⟩

theorem within_nil : Within tokens [] := fun _ h => nomatch h

/-- A step taken from an end goes on from its state. -/
theorem Foreseen.onward (foreseen : Foreseen tokens step follow) (le : e.passed ≤ tokens.length)
    (h : onward step e = some ends) : Within tokens ends ∧
      ∀ nodes, follow (e.state tokens nodes) = ends.map (End.state tokens nodes) := by
  obtain ⟨found, hfound, rfl⟩ := Option.map_eq_some_iff.mp h
  obtain ⟨within, follows⟩ := foreseen e.passed found le hfound
  refine ⟨List.forall_mem_map.mpr within, fun nodes => ?_⟩
  rw [End.state, follows, List.map_map]
  refine List.map_congr_left fun e' _ => ?_
  simp only [Function.comp_apply, End.state, Forest.fill_append, List.reverse_append,
    List.append_assoc]

/-- Steps taken from several ends. -/
theorem Foreseen.collect (foreseen : Foreseen tokens step follow) (within : Within tokens ends)
    (h : collect (Go.onward step) ends = some ends') : Within tokens ends' ∧
      ∀ nodes, (ends.map (End.state tokens nodes)).flatMap follow =
        ends'.map (End.state tokens nodes) := by
  induction ends generalizing ends' with
  | nil =>
    rw [← Option.some.inj h]
    exact ⟨within_nil, fun nodes => rfl⟩
  | cons e ends ih =>
    obtain ⟨he, hends⟩ := List.forall_mem_cons.mp within
    obtain ⟨here, later, hhere, hlater, rfl⟩ := collect_cons h
    obtain ⟨within_here, follows⟩ := foreseen.onward he hhere
    obtain ⟨within_later, follows_later⟩ := ih hends hlater
    refine ⟨List.forall_mem_append.mpr ⟨within_here, within_later⟩, fun nodes => ?_⟩
    rw [List.map_cons, List.flatMap_cons, follows, follows_later, List.map_append]

variable {ν : Type}

theorem Within.distinct (h : Within tokens ends) : Within tokens (distinctEnds ends) :=
  fun e he => h e (mem_distinctEnds he)

/-- One rule after the other. -/
theorem foreseen_all (ordered : Ordered tokens) {steps : Rule ν → Nat → Option (List End)}
    {follows : Rule ν → State → List State} (foreseen : ∀ r, Foreseen tokens (steps r) (follows r))
    {rules : List (Rule ν)} (within : Within tokens ends)
    (h : foreseeAll steps rules ends = some ends') : Within tokens ends' ∧
      ∀ nodes, rules.foldl (fun states r => Go.distinct (states.flatMap (follows r)))
        (ends.map (End.state tokens nodes)) = ends'.map (End.state tokens nodes) := by
  induction rules generalizing ends with
  | nil =>
    rw [← Option.some.inj h]
    exact ⟨within, fun nodes => rfl⟩
  | cons r rules ih =>
    obtain ⟨next, hnext, hrules⟩ := Option.bind_eq_some_iff.mp h
    obtain ⟨within_next, goes⟩ := (foreseen r).collect within hnext
    obtain ⟨within_all, go⟩ := ih within_next.distinct hrules
    refine ⟨within_all, fun nodes => ?_⟩
    rw [List.foldl_cons, goes, distinct_state ordered within_next, go]

/-- Any of the rules. -/
theorem foreseen_any {steps : Rule ν → Nat → Option (List End)}
    {follows : Rule ν → State → List State} (foreseen : ∀ r, Foreseen tokens (steps r) (follows r))
    {rules : List (Rule ν)} {k : Nat} (le : k ≤ tokens.length)
    (h : collect (fun r => steps r k) rules = some ends) : Within tokens ends ∧
      ∀ nodes, rules.flatMap (fun r => follows r ⟨nodes, tokens.drop k⟩) =
        ends.map (End.state tokens nodes) := by
  induction rules generalizing ends with
  | nil =>
    rw [← Option.some.inj h]
    exact ⟨within_nil, fun nodes => rfl⟩
  | cons r rules ih =>
    obtain ⟨here, later, hhere, hlater, rfl⟩ := collect_cons h
    obtain ⟨within_here, goes⟩ := foreseen r k here le hhere
    obtain ⟨within_later, go⟩ := ih hlater
    refine ⟨List.forall_mem_append.mpr ⟨within_here, within_later⟩, fun nodes => ?_⟩
    rw [List.flatMap_cons, goes, go, List.map_append]

/-- A step as often as it can be taken, with as many rounds or more. -/
theorem foreseen_many (ordered : Ordered tokens) (foreseen : Foreseen tokens step follow)
    {m n : Nat} (rounds : m ≤ n) {pending : List End} (within : Within tokens pending)
    (h : saturateEnds step m pending = some ends) : Within tokens ends ∧
      ∀ nodes, saturate follow n (pending.map (End.state tokens nodes)) =
        ends.map (End.state tokens nodes) := by
  induction m generalizing n pending ends with
  | zero => cases h
  | succ m ih =>
    obtain ⟨n, rfl⟩ := Nat.exists_eq_add_of_lt rounds
    cases pending with
    | nil =>
      rw [← Option.some.inj h]
      exact ⟨within_nil, fun nodes => rfl⟩
    | cons e pending =>
      obtain ⟨he, hpending⟩ := List.forall_mem_cons.mp within
      rw [saturateEnds] at h
      obtain ⟨next, hnext, h⟩ := Option.bind_eq_some_iff.mp h
      obtain ⟨within_next, follows⟩ := foreseen.onward he hnext
      cases next with
      | nil =>
        obtain ⟨later, hlater, is⟩ := Option.bind_eq_some_iff.mp h
        obtain ⟨within_later, goes⟩ := ih (Nat.le_add_right m n) hpending hlater
        rw [← Option.some.inj is]
        refine ⟨List.forall_mem_cons.mpr ⟨he, within_later⟩, fun nodes => ?_⟩
        rw [List.map_cons, saturate, follows, List.map_nil]
        dsimp only
        rw [goes, List.map_cons]
      | cons e' next =>
        obtain ⟨within_both, inserts⟩ := foldl_insertState_state ordered hpending within_next
        obtain ⟨within_all, goes⟩ := ih (Nat.le_add_right m n) within_both h
        refine ⟨within_all, fun nodes => ?_⟩
        rw [List.map_cons, saturate, follows, ← goes, ← inserts]
        rfl

/-- Where a node starts. -/
theorem nextStart_of_lineEnds (h : Shown signs tokens) {k passed : Nat}
    (found : lineEnds (signs.drop k) = some passed) :
    nextStart (tokens.drop k) = startAt tokens (k + passed) := by
  unfold nextStart startAt
  rw [(passed_of_lineEnds (h.drop k) found).1, List.drop_drop]
  cases is : tokens[k + passed]? with
  | none => rw [List.drop_eq_nil_iff.mpr (List.getElem?_eq_none_iff.mp is)]; rfl
  | some token =>
    obtain ⟨hk, rfl⟩ := List.getElem?_eq_some_iff.mp is
    rw [List.drop_eq_getElem_cons hk]
    rfl

theorem sign_of_lineEnds {n : Nat} (found : lineEnds signs = some n) :
    ∃ sign, signs[n]? = some sign := by
  induction signs generalizing n with
  | nil => cases found
  | cons sign signs ih =>
    rw [lineEnds] at found
    split at found
    · obtain ⟨n, hn, rfl⟩ := Option.map_eq_some_iff.mp found
      exact ih hn
    · rw [← Option.some.inj found]
      exact ⟨sign, rfl⟩

theorem passTerminator_of_sign (h : Shown signs tokens) {k : Nat} {sign : Sign}
    (found : signs[k]? = some sign) :
    passTerminator (tokens.drop k) =
        (if sign = .lineEnd ∨ sign = .mark ';' then some (tokens.drop (k + 1)) else none) ∧
      (sign = .lineEnd ∨ sign = .mark ';' → k + 1 ≤ tokens.length) := by
  rcases h.at_sign found with ⟨rfl, nothing⟩ | ⟨token, is, tells⟩
  · rw [nothing]
    exact ⟨rfl, fun h => by rcases h with h | h <;> cases h⟩
  · have closes : token.shape ∈ [.lineEnd, .nul, .mark ';'] ↔
        sign = .lineEnd ∨ sign = .mark ';' := by
      cases sign with
      | name => obtain ⟨w, is, -⟩ := tells; simp [is]
      | ending => cases tells
      | _ => rw [show token.shape = _ from tells]; simp
    refine ⟨?_, fun _ => ?_⟩
    · rw [is, passTerminator]
      simp only [closes]
    · have some_token : tokens.drop k ≠ [] := by rw [is]; exact List.cons_ne_nil _ _
      have := mt List.drop_eq_nil_iff.mpr some_token
      omega

theorem atLineEnd_of_sign (h : Shown signs tokens) {k : Nat} {sign : Sign}
    (found : signs[k]? = some sign) : atLineEnd (tokens.drop k) = true ↔ sign = .lineEnd := by
  unfold atLineEnd
  rcases h.at_sign found with ⟨rfl, nothing⟩ | ⟨token, is, tells⟩
  · rw [nothing]; decide
  · rw [is, List.head?_cons, Option.map_some, decide_eq_true_eq, Option.some.injEq]
    exact tells.eq_lineEnd.symm

/-- One of the terminals comes next as the signs say. -/
theorem before_of_foresee (h : Shown signs tokens) {ts : List Terminal} {found : List Bool}
    (foreseen : collect (fun t => (t.foresee signs).map fun next => [next]) ts = some found) :
    (ts.any fun t => (t.here tokens).isSome) = found.any id := by
  induction ts generalizing found with
  | nil => rw [← Option.some.inj foreseen]; rfl
  | cons t ts ih =>
    obtain ⟨here, later, hhere, hlater, rfl⟩ := collect_cons foreseen
    obtain ⟨next, hnext, rfl⟩ := Option.map_eq_some_iff.mp hhere
    obtain ⟨some_left, is⟩ := here_of_foresee h t hnext
    rw [List.any_cons, ih hlater, is]
    cases next with
    | false => rfl
    | true =>
      obtain ⟨token, rest, rfl⟩ := List.exists_cons_of_ne_nil (some_left rfl)
      rfl

/-- Only line ends are left where the signs end. -/
theorem finish_of_lineEnds (h : Shown signs tokens) {k passed : Nat}
    (found : lineEnds (signs.drop k) = some passed) :
    passLineEnds (tokens.drop k) = [] ↔ signs[k + passed]? = some .ending := by
  rw [(passed_of_lineEnds (h.drop k) found).1, List.drop_drop]
  obtain ⟨sign, hsign⟩ := sign_of_lineEnds found
  rw [List.getElem?_drop] at hsign
  rw [hsign]
  rcases h.at_sign hsign with ⟨rfl, nothing⟩ | ⟨token, some_token, tells⟩
  · rw [nothing]; simp
  · rw [some_token]
    refine ⟨nofun, fun is => ?_⟩
    rw [Option.some.inj is] at tells
    exact absurd tells id

/-- The states are those of the ends, whatever has been built before. -/
def Reaches (tokens : List Token) (ends : List End) (states : List Node → List State) : Prop :=
  Within tokens ends ∧ ∀ nodes, states nodes = ends.map (End.state tokens nodes)

theorem reaches_nothing : Reaches tokens [] fun _ => [] := ⟨within_nil, fun _ => rfl⟩

theorem reaches_here {k : Nat} (le : k ≤ tokens.length) :
    Reaches tokens [⟨k, .bare⟩] fun nodes => [⟨nodes, tokens.drop k⟩] :=
  ⟨List.forall_mem_singleton.mpr le, fun _ => rfl⟩

/-- A look at what comes next decides the same with signs as with tokens. -/
theorem Reaches.decided {yes no : List End} {states states' : List Node → List State}
    (h : Reaches tokens yes states) (h' : Reaches tokens no states') {p q : Prop} [Decidable p]
    [Decidable q] (same : p ↔ q) :
    Reaches tokens (if q then yes else no)
      fun nodes => if p then states nodes else states' nodes := by
  by_cases is : q
  · simp only [if_pos is, if_pos (same.mpr is)]
    exact h
  · simp only [if_neg is, if_neg (mt same.mp is)]
    exact h'

/-- What is built from the ends becomes something else, with signs as with tokens. -/
theorem Reaches.map {states : List Node → List State} (h : Reaches tokens ends states)
    (change : Forest → Forest) (grow : List Node → List Node → List Node)
    (same : ∀ e ∈ ends, ∀ nodes, grow nodes ((e.built.fill tokens).reverse ++ []) =
      ((change e.built).fill tokens).reverse ++ nodes) :
    Reaches tokens (ends.map fun e => ⟨e.passed, change e.built⟩)
      fun nodes => (states []).map fun t => ⟨grow nodes t.nodes, t.rest⟩ := by
  obtain ⟨within, goes⟩ := h
  refine ⟨List.forall_mem_map.mpr within, fun nodes => ?_⟩
  dsimp only
  rw [goes, List.map_map, List.map_map]
  refine List.map_congr_left fun e he => ?_
  exact congrArg (State.mk · _) (same e he nodes)

/-- A terminal is cut off, and leaves the nodes of its token. -/
theorem reaches_terminal (shown : Shown signs tokens) {t : Terminal} {k : Nat} {place : Option Nat}
    (found : t.find signs k = some place) (build : Nat → Forest) (add : Token → List Node)
    (same : ∀ i token, tokens[i]? = some token → (build i).fill tokens = add token) :
    Reaches tokens (place.toList.map fun i => ⟨i + 1, build i⟩) fun nodes =>
      match t.take (tokens.drop k) with
      | some (first, rest) => [⟨(add first).reverse ++ nodes, rest⟩]
      | none => [] := by
  rcases take_of_find shown t found with ⟨rfl, taken⟩ | ⟨i, token, rfl, there, taken⟩
  · exact ⟨within_nil, fun nodes => by rw [taken]; rfl⟩
  · obtain ⟨hi, -⟩ := List.getElem?_eq_some_iff.mp there
    refine ⟨List.forall_mem_singleton.mpr hi, fun nodes => ?_⟩
    rw [taken]
    dsimp only
    rw [← same i token there]
    rfl

/-- **What is foreseen is what happens**, for all tokens that show the signs and at any depth that
    is not less. -/
theorem foreseen_follow {grammar : ν → Rule ν} (ordered : Ordered tokens)
    (shown : Shown signs tokens) {m n : Nat} (deep : m ≤ n) (r : Rule ν) :
    Foreseen tokens (r.foresee grammar signs m) (r.follow grammar n) := by
  induction m generalizing n r with
  | zero => intro k ends _ h; cases h
  | succ m ih =>
    obtain ⟨n, rfl⟩ : ∃ n', n = n' + 1 := ⟨n - 1, by omega⟩
    have deep : m ≤ n := by omega
    have ih := fun r => ih deep r
    intro k ends le h
    have stays := reaches_here le
    have reached : ∀ {r : Rule ν} {found}, r.foresee grammar signs m k = some found →
        Reaches tokens found fun nodes => r.follow grammar n ⟨nodes, tokens.drop k⟩ :=
      fun hfound => ih _ k _ le hfound
    cases r with
    | token t =>
      rw [Rule.foresee] at h
      obtain ⟨place, hplace, rfl⟩ := Option.map_eq_some_iff.mp h
      exact reaches_terminal shown hplace (fun _ => .bare) (fun _ => []) fun _ _ _ => rfl
    | leaf kind named t =>
      rw [Rule.foresee] at h
      obtain ⟨place, hplace, rfl⟩ := Option.map_eq_some_iff.mp h
      refine reaches_terminal shown hplace (fun i => .leaf kind none named i .bare) (fun first =>
        [.mk { kind, named, text := first.name, start := first.start } []]) fun i token there => ?_
      simp only [Forest.fill, nameAt, startAt, there, Option.elim_some]
    | all rules =>
      rw [Rule.foresee] at h
      obtain ⟨within, goes⟩ := foreseen_all ordered ih stays.1 h
      exact ⟨within, fun nodes => by rw [Rule.follow, ← goes]; rfl⟩
    | any rules =>
      rw [Rule.foresee] at h
      obtain ⟨found, hfound, rfl⟩ := Option.map_eq_some_iff.mp h
      obtain ⟨within, goes⟩ := foreseen_any ih le hfound
      exact ⟨within.distinct, fun nodes => by rw [Rule.follow, goes, distinct_state ordered within]⟩
    | many r =>
      rw [Rule.foresee] at h
      obtain ⟨within, goes⟩ := foreseen_many ordered (ih r) deep stays.1 h
      exact ⟨within, fun nodes => by rw [Rule.follow, ← goes]; rfl⟩
    | part p =>
      rw [Rule.foresee] at h
      exact ih _ k ends le h
    | node kind r =>
      rw [Rule.foresee] at h
      obtain ⟨found, hfound, h⟩ := Option.bind_eq_some_iff.mp h
      obtain ⟨passed, hpassed, is⟩ := Option.bind_eq_some_iff.mp h
      rw [← Option.some.inj is]
      refine (reached hfound).map (fun built => .node kind none (k + passed) built .bare)
        (fun nodes built => .mk { kind, start := nextStart (tokens.drop k) } built.reverse :: nodes)
        fun e _ nodes => ?_
      rw [List.append_nil, List.reverse_reverse, nextStart_of_lineEnds shown hpassed]
      rfl
    | field f r =>
      rw [Rule.foresee] at h
      obtain ⟨found, hfound, rfl⟩ := Option.map_eq_some_iff.mp h
      refine (reached hfound).map (Forest.inField f)
        (fun nodes built => built.map (Node.withField f) ++ nodes) fun e _ nodes => ?_
      rw [List.append_nil, Forest.fill_inField, List.map_reverse]
    | blind r =>
      rw [Rule.foresee] at h
      obtain ⟨found, hfound, rfl⟩ := Option.map_eq_some_iff.mp h
      exact (reached hfound).map (fun _ => .bare) (fun nodes _ => nodes) fun _ _ _ => rfl
    | terminator =>
      rw [Rule.foresee] at h
      obtain ⟨sign, hsign, rfl⟩ := Option.map_eq_some_iff.mp h
      obtain ⟨passes, within⟩ := passTerminator_of_sign shown hsign
      split
      · rename_i closes
        rw [if_pos closes] at passes
        exact ⟨List.forall_mem_singleton.mpr (within closes), fun nodes => by
          rw [Rule.follow, passes]; rfl⟩
      · rename_i other
        rw [if_neg other] at passes
        exact ⟨within_nil, fun nodes => by rw [Rule.follow, passes]; rfl⟩
    | here =>
      rw [Rule.foresee] at h
      obtain ⟨sign, hsign, rfl⟩ := Option.map_eq_some_iff.mp h
      exact reaches_nothing.decided stays (atLineEnd_of_sign shown hsign)
    | away =>
      rw [Rule.foresee] at h
      obtain ⟨sign, hsign, rfl⟩ := Option.map_eq_some_iff.mp h
      exact stays.decided reaches_nothing (atLineEnd_of_sign shown hsign)
    | before ts =>
      rw [Rule.foresee] at h
      obtain ⟨found, hfound, rfl⟩ := Option.map_eq_some_iff.mp h
      have is := before_of_foresee (shown.drop k) hfound
      exact stays.decided reaches_nothing (iff_of_eq (congrArg (· = true) is))
    | «unless» r =>
      rw [Rule.foresee] at h
      obtain ⟨found, hfound, rfl⟩ := Option.map_eq_some_iff.mp h
      obtain ⟨-, goes⟩ := ih r k found le hfound
      have is : (r.follow grammar n ⟨[], tokens.drop k⟩).isEmpty = found.isEmpty := by
        rw [goes, List.isEmpty_map]
      exact stays.decided reaches_nothing (iff_of_eq (congrArg (· = true) is))
    | finish =>
      rw [Rule.foresee] at h
      obtain ⟨passed, hpassed, rfl⟩ := Option.map_eq_some_iff.mp h
      exact stays.decided reaches_nothing (finish_of_lineEnds shown hpassed)

end GoWorkbench.Go
