/-
  How specifications of types, variables and constants are read.

  1. **Families** — types, variables and constants are declared alike: a word, and then one
     specification, or several in parentheses.  What differs is told by a family.
  2. **Lists** — names and numbers with commas between are pieces, so they are read one after the
     other (`leads_names`, `leads_values`).
  3. **Specifications** — each kind of specification is read up to the end of its line
     (`TypeSpec.reads`, `VarSpec.reads`, `ConstSpec.reads`).  Reading constants may also stop in front
     of their `=`, where nothing can go on.
  4. **Groups** — the lines of a group are pieces too (`Family.leads_group`), and so a declaration of
     a family is read up to the end of its line (`Family.leads_rule`).
-/
import GoWorkbench.Proofs.Go.Pieces
import GoWorkbench.Proofs.Go.Rendering

namespace GoWorkbench.Go

open Rule

/-! ## Families -/

/-- What is declared by specifications. -/
inductive Family
  | constants
  | vars
  | types

namespace Family

/-- The word in front. -/
def word : Family → String
  | constants => "const"
  | vars => "var"
  | types => "type"

def kind : Family → Kind
  | constants => .constDeclaration
  | vars => .varDeclaration
  | types => .typeDeclaration

/-- The kind of a group. -/
def list : Family → Kind
  | constants => .constSpecList
  | vars => .varSpecList
  | types => .typeSpecList

def spec : Family → Part
  | constants => .constSpec
  | vars => .varSpec
  | types => .typeSpec

/-- The kinds of specifications. -/
def kinds : Family → List Kind
  | constants => [.constSpec]
  | vars => [.varSpec]
  | types => [.typeSpec, .typeAlias]

/-- What comes after a specification in a group. -/
def closer : Family → Rule Part
  | constants => .terminator
  | vars => .terminator
  | types => .any [.terminator, .before [paren]]

def symbol : Family → SymbolKind
  | constants => .constant
  | vars => .variable
  | types => .struct

/-- The names in a specification. -/
def names : Family → Node → List Node
  | constants => allNames
  | vars => allNames
  | types => firstName

/-- A specification in a group. -/
def line (f : Family) : Rule Part := .all [.part f.spec, f.closer]

def group (f : Family) : Rule Part := .node f.list (.all [op "(", .many f.line, op ")"])

def rule (f : Family) : Rule Part := .node f.kind (.all [kw f.word, .any [.part f.spec, f.group]])

/-- The families that are tried first. -/
def before : Family → List (Rule Part)
  | constants => []
  | vars => [constants.rule]
  | types => [constants.rule, vars.rule]

/-- The families that are tried later. -/
def after : Family → List (Rule Part)
  | constants => [vars.rule, types.rule]
  | vars => [types.rule]
  | types => []

theorem rules (f : Family) : grammar .declaration = .any (f.before ++ f.rule :: f.after) := by
  cases f <;> rfl

/-- The node is a specification of the family with the names. -/
structure Declares (f : Family) (n : Node) (found : List (SymbolKind × Node)) : Prop where
  named : n.label.named = true
  kind : n.label.kind ∈ f.kinds
  names : (f.names n).map (f.symbol, ·) = found

/-- The names in the specifications among nodes. -/
def namesAmong (f : Family) (nodes : List Node) : List (SymbolKind × Node) :=
  (((nodes.filter (·.label.named)).filter (·.label.kind ∈ f.kinds)).flatMap f.names).map
    (f.symbol, ·)

end Family

/-! ## Lists -/

variable {rest more : List Token} {e : Token} {r : Rule Part} {stop : Sign} {forest : Forest}
  {kind : SymbolKind} {signs : List Sign} {lead : List Token}

/-- Line ends that may come in front of a specification. -/
inductive Lead : List Sign → List Token → Prop
  | none : Lead [] []
  | lineEnd {token : Token} (h : token.shape = .lineEnd) : Lead [.lineEnd] [token]

theorem Lead.mem (h : Lead signs lead) : signs ∈ [[], [Sign.lineEnd]] := by
  cases h <;> decide

theorem Lead.shown {later : List Sign} {tokens : List Token} (h : Lead signs lead)
    (on : Shown later tokens) : Shown (signs ++ later) (lead ++ tokens) := by
  cases h with
  | none => exact on
  | lineEnd h => exact .cons h on

theorem shown_name {w : String} (free : isFree w = true) (c : Cursor) (ls : List Lexeme)
    (rest : List Token) : Shown [.name] (tokensAt c (.declared kind w :: ls) ++ rest) :=
  .cons ⟨w, rfl, (isFree_iff.mp free).2⟩ (.more _)

theorem shown_lineEnd (line_end : e.shape = .lineEnd) (more : List Token) :
    Shown [.lineEnd] (e :: more) :=
  .cons line_end (.more more)

/-- What is written after the first of several names or numbers. -/
def later (lexeme : String → Lexeme) (more : List String) : List (List Lexeme) :=
  more.map fun w => [.mark ',', .blank ' ', lexeme w]

theorem listed_eq (lexeme : String → Lexeme) (first : String) (more : List String) :
    listed lexeme first more = lexeme first :: (later lexeme more).flatten := by
  rw [listed, later, List.flatMap_def]

/-- The declared names among nodes. -/
def namesAmong (kind : SymbolKind) (nodes : List Node) : List (SymbolKind × Node) :=
  ((nodes.filter (·.label.field = some .name)).filter (·.label.kind = .identifier)).map (kind, ·)

theorem namesAmong_append (kind : SymbolKind) (left right : List Node) :
    namesAmong kind (left ++ right) = namesAmong kind left ++ namesAmong kind right := by
  unfold namesAmong
  rw [List.filter_append, List.filter_append, List.map_append]

/-- The rule reads a comma and the name after it, and stops at the sign. -/
structure ReadsName (r : Rule Part) (stop : Sign) (forest : Forest) : Prop where
  step : r.foresee grammar [.mark ',', .name] 40 0 = some [⟨2, forest⟩]
  stops : r.foresee grammar [stop] 40 0 = some []
  adds : ∀ kind tokens, namesAmong kind (forest.fill tokens) =
    [(kind, nameLeaf (nameAt tokens 1) (startAt tokens 1))]

/-- **A list of names** is read up to what is no comma. -/
theorem leads_names (reads : ReadsName r stop forest) {first : String} {names : List String}
    (free : ∀ w ∈ first :: names, isFree w = true) (hlead : Lead signs lead)
    (shown : Shown [stop] rest) (c : Cursor) :
    ∃ built, Leads 42 (.all [declaredName, .many r])
        ⟨[], lead ++ (tokensAt c (listed (.declared kind) first names) ++ rest)⟩
        [⟨built.reverse, rest⟩] ∧
      namesAmong kind built = namesAt c (listed (.declared kind) first names) := by
  obtain ⟨hfirst, hnames⟩ := List.forall_mem_cons.mp free
  have step : ∀ signs ∈ [[], [Sign.lineEnd]],
      (Rule.all [declaredName]).foresee grammar (signs ++ [.name]) 40 0 =
        some [⟨signs.length + 1, .leaf .identifier (some .name) true signs.length .bare⟩] := by
    decide +kernel
  have takes : ∀ ls ∈ later (.declared kind) names, Takes 40 r (namesAmong kind) [[]] ls :=
    List.forall_mem_map.mpr fun w hw =>
      takes_of_foreseen (by simp [hnames w hw]) (List.cons_ne_nil _ _) (fun _ _ => begins_any _)
        (List.forall_mem_singleton.mpr reads.step) (fun _ _ => reads.adds kind _)
  obtain ⟨built, repeats, found⟩ := repeats_pieces (namesAmong_append kind) takes
    (begins_any rest) (fun _ => leads_nowhere reads.stops shown) (c.pass (.declared kind first))
    [nameLeaf first c.place]
  rw [listed_eq]
  let behind :=
    tokensAt (c.pass (.declared kind first)) (later (.declared kind) names).flatten ++ rest
  have leads := leads_to_end (step signs hlead.mem)
    (s := ⟨[], lead ++ (tokensAt c [.declared kind first] ++ behind)⟩)
    (hlead.shown (shown_name hfirst c _ behind))
  have begins : Leads 40 (.all [declaredName])
      ⟨[], lead ++ (tokensAt c [.declared kind first] ++ behind)⟩
      [⟨[nameLeaf first c.place], behind⟩] := by
    cases hlead <;> exact leads
  refine ⟨nameLeaf first c.place :: built, ?_, ?_⟩
  · rw [List.reverse_cons]
    exact (begins.mono (by decide)).append (repeats.many (by decide)).last
  · refine (namesAmong_append kind [_] built).trans ?_
    rw [found]
    rfl

/-- A comma and the value after it. -/
def nextValue : Rule Part := .all [hereIf true, op ",", .part (.expression Follow.closing.onwards)]

/-- **A list of numbers** is read up to the end of the line. -/
theorem leads_values {first : String} {values : List String}
    (integers : ∀ w ∈ first :: values, Lexical.integer.accepts w.toList = true)
    (line_end : e.shape = .lineEnd) (more : List Token) (c : Cursor) (nodes : List Node) :
    ∃ nodes', Leads 42 (expressions .closing)
      ⟨nodes, tokensAt c (listed .number first values) ++ e :: more⟩ [⟨nodes', e :: more⟩] := by
  obtain ⟨hfirst, hvalues⟩ := List.forall_mem_cons.mp integers
  -- a number goes on with whatever is no comma and no line end
  let nexts := [[Sign.mark ','], [.lineEnd]]
  have step : ∀ next ∈ nexts, nextValue.foresee grammar ([.mark ',', .number] ++ next) 40 0 =
      some [⟨2, .bare⟩] := by
    decide +kernel
  have first_step : ∀ next ∈ nexts, (Rule.all [.part (.expression .closing)]).foresee grammar
      ([.number] ++ next) 40 0 = some [⟨1, .bare⟩] := by
    decide +kernel
  have stops : nextValue.foresee grammar [.lineEnd] 40 0 = some [] := by decide +kernel
  have ends := shown_lineEnd line_end more
  have takes : ∀ ls ∈ later .number values, Takes 40 nextValue (fun _ => []) nexts ls :=
    List.forall_mem_map.mpr fun w hw =>
      takes_of_foreseen (by simp [hvalues w hw]) (List.cons_ne_nil _ _)
        (fun _ _ => ⟨[.mark ','], by decide, .cons rfl (.more _)⟩) step (fun _ _ => rfl)
  have line_end : Begins nexts (e :: more) := ⟨_, by decide, ends⟩
  let behind := tokensAt (c.pass (.number first)) (later .number values).flatten ++ e :: more
  obtain ⟨next, hnext, shown⟩ : Begins nexts behind := begins_pieces takes line_end _
  obtain ⟨built, repeats, -⟩ := repeats_pieces (fun _ _ => rfl) takes line_end
    (fun _ => leads_nowhere stops ends) (c.pass (.number first)) nodes
  have begins : Leads 40 (.all [.part (.expression .closing)])
      ⟨nodes, tokensAt c [.number first] ++ behind⟩ [⟨nodes, behind⟩] :=
    leads_to_end (first_step next hnext) (.cons rfl shown)
  rw [listed_eq]
  exact ⟨_, (begins.mono (by decide)).append (repeats.many (by decide)).last⟩

/-! ## Specifications -/

/-- The lexemes are read as a specification of the family, after a line end or none, up to the end of
    their line. -/
structure Family.Reads (f : Family) (ls : List Lexeme) : Prop where
  opens : ∀ c rest, Shown [.name] (tokensAt c ls ++ rest)
  leads : ∀ {signs lead} c {e : Token} more nodes, Lead signs lead → e.shape = .lineEnd →
    ∃ node early, Leads 50 (.part f.spec) ⟨nodes, lead ++ (tokensAt c ls ++ e :: more)⟩
        (⟨node :: nodes, e :: more⟩ :: early) ∧
      (∀ t ∈ early, Shown [.mark '='] t.rest) ∧ f.Declares node (namesAt c ls)

/-- **A type** is read up to the end of its line. -/
theorem TypeSpec.reads (spec : TypeSpec) : Family.types.Reads spec.lexemes := by
  obtain ⟨name, isAlias⟩ := spec
  refine ⟨fun c rest => shown_name name.free c _ rest, ?_⟩
  intro signs lead c e more nodes hlead line_end
  have readable : Readable (TypeSpec.lexemes ⟨name, isAlias⟩) := by
    have := TypeSpec.closes ⟨name, isAlias⟩ [] trivial trivial
    rwa [List.append_nil] at this
  have behind := hlead.shown
    (shown_tokensAt readable.sound c (shown_lineEnd line_end more))
  cases isAlias with
  | true =>
    have foreseen : ∀ lead ∈ [[], [Sign.lineEnd]],
        (Rule.part .typeSpec).foresee grammar (lead ++ [.name, .mark '=', .name, .lineEnd]) 40 0 =
          some [⟨lead.length + 3, .node .typeAlias none lead.length
            (.leaf .identifier (some .name) true lead.length .bare) .bare⟩] := by
      decide +kernel
    have leads := leads_to_end (s := ⟨nodes, _⟩) (foreseen signs hlead.mem) behind
    cases hlead <;>
      exact ⟨_, [], leads.mono (by decide), List.forall_mem_nil _, rfl,
        List.mem_of_mem_tail List.mem_cons_self, rfl⟩
  | false =>
    have foreseen : ∀ lead ∈ [[], [Sign.lineEnd]],
        (Rule.part .typeSpec).foresee grammar
            (lead ++ [.name, .word "struct", .mark '\x7b', .mark '\x7d', .lineEnd]) 40 0 =
          some [⟨lead.length + 4, .node .typeSpec none lead.length
            (.leaf .identifier (some .name) true lead.length .bare) .bare⟩] := by
      decide +kernel
    have leads := leads_to_end (s := ⟨nodes, _⟩) (foreseen signs hlead.mem) behind
    cases hlead <;>
      exact ⟨_, [], leads.mono (by decide), List.forall_mem_nil _, rfl, List.mem_cons_self, rfl⟩

theorem readsName_vars : ReadsName (.all [op ",", declaredName]) .name
    (.leaf .identifier (some .name) true 1 .bare) := by
  refine ⟨?_, ?_, fun _ _ => rfl⟩ <;> decide +kernel

/-- What comes after the names of variables. -/
def typeOrValues : Rule Part := .blind (.any [
  .all [lineType, opt (.all [.here, op "=", expressions .closing])],
  .all [op "=", expressions .closing]])

/-- **Variables** are read up to the end of their line. -/
theorem VarSpec.reads (spec : VarSpec) : Family.vars.Reads spec.lexemes := by
  have free := isFree_names spec.first spec.more
  refine ⟨fun c rest => shown_name spec.first.free c _ rest, ?_⟩
  intro signs lead c e more nodes hlead line_end
  let names := listed (.declared .variable) spec.first.text (spec.more.map Identifier.text)
  let behind := tokensAt (c.passAll names) [.blank ' ', .name "int"] ++ e :: more
  have split : tokensAt c spec.lexemes ++ e :: more = tokensAt c names ++ behind := by
    rw [VarSpec.lexemes, tokensAt_append, List.append_assoc]
  have is_name : Sign.Tells .name (.word "int") := ⟨"int", rfl, (isFree_iff.mp isFree_int).2⟩
  have first_name : Shown [.name] behind := .cons is_name (.more _)
  have shown : Shown [.name, .lineEnd] behind := .cons is_name (shown_lineEnd line_end more)
  have step : (Rule.all [typeOrValues]).foresee grammar [.name, .lineEnd] 40 0 =
      some [⟨1, .bare⟩] := by
    decide +kernel
  obtain ⟨built, begins, found⟩ := leads_names readsName_vars free hlead first_name c
  have type : Leads 40 (.all [typeOrValues]) ⟨built.reverse, behind⟩
      [⟨built.reverse, e :: more⟩] := leads_to_end step shown
  have leads := ((begins.last.append (type.mono (by decide))).node .varSpec nodes).part
    (p := .varSpec)
  rw [split]
  refine ⟨_, [], leads.mono (by decide), List.forall_mem_nil _, rfl, List.mem_cons_self, ?_⟩
  show namesAmong _ built.reverse.reverse = _
  rw [List.reverse_reverse, VarSpec.lexemes, namesAt_append]
  exact found.trans (List.append_nil _).symm

/-- A comma and the constant after it. -/
def nextConstant : Rule Part :=
  .all [.here, .field .name (.leaf (.other ",") false (.marks [','])), declaredName]

theorem readsName_consts : ReadsName nextConstant (.mark '=')
    (.leaf (.other ",") (some .name) false 0 (.leaf .identifier (some .name) true 1 .bare)) := by
  refine ⟨?_, ?_, fun _ _ => rfl⟩ <;> decide +kernel

/-- **Constants** are read up to the end of their line, or up to their `=`. -/
theorem ConstSpec.reads (spec : ConstSpec) : Family.constants.Reads spec.lexemes := by
  refine ⟨fun c rest => by
    rw [ConstSpec.lexemes, List.append_assoc]
    exact shown_name spec.first.1.free c _ rest, ?_⟩
  intro signs lead c e more nodes hlead line_end
  let names := listed (.declared .constant) spec.first.1.text
    (spec.more.map fun constant => constant.1.text)
  let equals : List Lexeme := [.blank ' ', .mark '=', .blank ' ']
  let values := listed .number spec.first.2.text (spec.more.map fun constant => constant.2.text)
  let left := tokensAt ((c.passAll names).passAll equals) values ++ e :: more
  let behind := tokensAt (c.passAll names) equals ++ left
  have split : tokensAt c spec.lexemes ++ e :: more = tokensAt c names ++ behind := by
    rw [ConstSpec.lexemes, List.append_assoc, tokensAt_append, tokensAt_append, List.append_assoc,
      List.append_assoc]
  have equals_next : Shown [.mark '='] behind := .cons rfl (.more _)
  have shown : Shown [.mark '=', .number] behind := .cons rfl (.cons rfl (.more _))
  have step : (Rule.all [.here, opt innerType, op "="]).foresee grammar [.mark '=', .number] 40 0 =
      some [⟨1, .bare⟩] := by
    decide +kernel
  obtain ⟨built, begins, found⟩ := leads_names readsName_consts spec.isFree_names hlead equals_next c
  have equal : Leads 40 (.all [.here, opt innerType, op "="]) ⟨[], behind⟩ [⟨[], left⟩] :=
    leads_to_end step shown
  obtain ⟨_, value⟩ := leads_values spec.integers line_end more ((c.passAll names).passAll equals) []
  have ends : Leads 46 (.all [opt (.blind (.all [.here, opt innerType, op "=",
      expressions .closing]))]) ⟨built.reverse, behind⟩
      [⟨built.reverse, e :: more⟩, ⟨built.reverse, behind⟩] := by
    refine (((equal.mono (by decide)).append value.last).blind.opt (by decide) ?_).last
    show more.length + 1 < (tokensAt _ values ++ e :: more).length + 1
    rw [List.length_append, List.length_cons]
    omega
  have leads := (((begins.last.mono (by decide)).append ends).node .constSpec nodes).part
    (p := .constSpec)
  rw [split]
  refine ⟨_, [_], leads.mono (by decide), List.forall_mem_singleton.mpr (.cons rfl (.more _)), rfl,
    List.mem_cons_self, ?_⟩
  have nothing : namesAt (c.passAll names) (equals ++ values) = [] := by
    refine namesAt_eq_nil (List.forall_mem_append.mpr ⟨by simp [equals, Lexeme.names], ?_⟩) _
    simp +contextual [values, listed, Lexeme.names, or_imp]
  show namesAmong _ built.reverse.reverse = _
  rw [List.reverse_reverse, ConstSpec.lexemes, List.append_assoc, namesAt_append, nothing,
    List.append_nil]
  exact found

/-! ## Groups -/

variable {f : Family} {ls : List Lexeme} {α : Type} {lexemes : α → List Lexeme}

theorem Family.namesAmong_append (f : Family) (left right : List Node) :
    f.namesAmong (left ++ right) = f.namesAmong left ++ f.namesAmong right := by
  unfold Family.namesAmong
  rw [List.filter_append, List.filter_append, List.flatMap_append, List.map_append]

theorem Family.Declares.namesAmong {n : Node} {found : List (SymbolKind × Node)}
    (declares : f.Declares n found) : f.namesAmong [n] = found := by
  have named : [n].filter (·.label.named) = [n] := List.filter_cons_of_pos declares.named
  have kind : [n].filter (·.label.kind ∈ f.kinds) = [n] :=
    List.filter_cons_of_pos (decide_eq_true declares.kind)
  rw [Family.namesAmong, named, kind, List.flatMap_singleton, declares.names]

/-- A line is read as its specification. -/
theorem Family.Reads.line (reads : f.Reads ls) (hlead : Lead signs lead) (c : Cursor)
    (more : List Token) (nodes : List Node) :
    ∃ node, Leads 51 f.line ⟨nodes, lead ++ (tokensAt c (lineOf ls) ++ more)⟩
        [⟨node :: nodes, more⟩] ∧ f.namesAmong [node] = namesAt c (lineOf ls) := by
  have ends : f.closer.foresee grammar [.lineEnd] 50 0 = some [⟨1, .bare⟩] := by
    cases f <;> decide +kernel
  have equals : f.closer.foresee grammar [.mark '='] 50 0 = some [] := by
    cases f <;> decide +kernel
  let start := c.pass (.blank '\t')
  let e := (start.passAll ls).token .lineEnd
  obtain ⟨node, early, leads, shown, declares⟩ := reads.leads start (e := e) more nodes hlead rfl
  have split : tokensAt c (lineOf ls) ++ more = tokensAt start ls ++ e :: more :=
    tokensAt_line start ls more
  have names : namesAt c (lineOf ls) = namesAt start ls := namesAt_line start ls
  rw [split, names]
  exact ⟨node, leads.closed (leads_to_end ends (shown_lineEnd rfl more))
    fun t ht => leads_nowhere equals (shown t ht), declares.namesAmong⟩

theorem Family.Reads.takes_line (reads : f.Reads ls) :
    Takes 51 f.line f.namesAmong [[]] (lineOf ls) := by
  refine ⟨?_, fun _ _ => begins_any _, fun c more nodes _ => ?_⟩
  · show (ls ++ [Lexeme.lineEnd]).filterMap Lexeme.sign ≠ []
    rw [List.filterMap_append]
    exact List.append_ne_nil_of_right_ne_nil _ (List.cons_ne_nil _ _)
  · obtain ⟨node, leads, names⟩ := reads.line .none c more nodes
    exact ⟨[node], leads, names⟩

/-- **A group** of specifications is read up to its end. -/
theorem Family.leads_group (reads : ∀ spec, f.Reads (lexemes spec)) (first : α) (more : List α)
    (c : Cursor) (rest : List Token) (nodes : List Node) :
    ∃ built start, Leads 54 f.group
        ⟨nodes, tokensAt c ((Specs.group first more).body lexemes) ++ rest⟩
        [⟨.mk { kind := f.list, start } built :: nodes, rest⟩] ∧
      f.namesAmong built = namesAt c ((Specs.group first more).body lexemes) := by
  let lines : List (List Lexeme) := more.map fun spec => lineOf (lexemes spec)
  let firstLine := lineOf (lexemes first)
  let inside := c.passAll [.mark '(', .lineEnd]
  let onward := inside.passAll firstLine
  let lineEnd := (c.pass (.mark '(')).token .lineEnd
  let close := (onward.passAll lines.flatten).token (.mark ')')
  let behind := tokensAt onward lines.flatten ++ close :: rest
  let tokens := [lineEnd] ++ (tokensAt inside firstLine ++ behind)
  have split : tokensAt c ((Specs.group first more).body lexemes) ++ rest =
      c.token (.mark '(') :: tokens := by
    rw [Specs.body, List.flatMap_cons, List.flatMap_def]
    simp only [tokensAt_append, List.append_assoc]
    rfl
  have names : namesAt c ((Specs.group first more).body lexemes) =
      namesAt inside firstLine ++ namesAt onward lines.flatten := by
    rw [Specs.body, List.flatMap_cons, List.flatMap_def, List.append_assoc, List.append_assoc,
      namesAt_append, namesAt_append, namesAt_append]
    exact congrArg (namesAt inside firstLine ++ ·) (List.append_nil _)
  have opening : (Rule.all [op "("]).foresee grammar [.mark '('] 40 0 = some [⟨1, .bare⟩] := by
    decide +kernel
  have closing : (Rule.all [op ")"]).foresee grammar [.mark ')'] 40 0 = some [⟨1, .bare⟩] := by
    decide +kernel
  have stops : f.line.foresee grammar [.mark ')'] 51 0 = some [] := by
    cases f <;> decide +kernel
  have opened : Shown [.mark '('] (c.token (.mark '(') :: tokens) := .cons rfl (.more tokens)
  have closed : Shown [.mark ')'] (close :: rest) := .cons rfl (.more rest)
  have takes : ∀ ls ∈ lines, Takes 51 f.line f.namesAmong [[]] ls :=
    List.forall_mem_map.mpr fun spec _ => (reads spec).takes_line
  have lead : Lead [.lineEnd] [lineEnd] := .lineEnd rfl
  obtain ⟨node, line, here⟩ := (reads first).line lead inside behind []
  obtain ⟨built, repeats, others⟩ := repeats_pieces f.namesAmong_append takes (begins_any _)
    (fun _ => leads_nowhere stops closed) onward [node]
  have fewer : behind.length < tokens.length :=
    Nat.lt_succ_of_le (List.suffix_append (tokensAt inside firstLine) behind).length_le
  have first : Leads 53 (.all [op "("]) ⟨[], c.token (.mark '(') :: tokens⟩ [⟨[], tokens⟩] :=
    (leads_to_end opening opened).mono (by decide)
  have last : Leads 53 (.all [op ")"]) ⟨built.reverse ++ [node], close :: rest⟩
      [⟨built.reverse ++ [node], rest⟩] := (leads_to_end closing closed).mono (by decide)
  have all := first.append (((line.repeats fewer repeats).many (by decide)).last.append last)
  have children : (built.reverse ++ [node]).reverse = node :: built := by
    rw [List.reverse_append, List.reverse_reverse]
    rfl
  refine ⟨node :: built, nextStart (c.token (.mark '(') :: tokens), ?_, ?_⟩
  · rw [split, ← children]
    exact all.node f.list nodes
  · rw [names, ← here, ← others]
    exact f.namesAmong_append [node] built

/-- The names of a declaration are those in its only child. -/
theorem Family.declaredBy_eq (f : Family) (start : Position) (child : Node)
    (named : child.label.named = true) :
    declaredBy (.mk { kind := f.kind, start } [child]) =
      ((if child.label.kind ∈ f.kinds then [child]
        else if child.label.kind ∈ [.varSpecList, .constSpecList, .typeSpecList] then
          child.namedChildren.filter (·.label.kind ∈ f.kinds)
        else []).flatMap f.names).map (f.symbol, ·) := by
  have only : ∀ l, (Node.mk l [child]).namedChildren = [child] :=
    fun l => List.filter_cons_of_pos named
  have is : declaredBy (.mk { kind := f.kind, start } [child]) =
      ((specs (.mk { kind := f.kind, start } [child]) f.kinds).flatMap f.names).map
        (f.symbol, ·) := by
    cases f <;> rfl
  rw [is, specs, only, List.flatMap_singleton]

theorem Family.Declares.declaredBy {n : Node} {found : List (SymbolKind × Node)}
    (declares : f.Declares n found) (start : Position) :
    declaredBy (.mk { kind := f.kind, start } [n]) = found := by
  rw [f.declaredBy_eq start n declares.named, if_pos declares.kind, List.flatMap_singleton,
    declares.names]

theorem Family.declaredBy_list (f : Family) (start start' : Position) (built : List Node) :
    declaredBy (.mk { kind := f.kind, start } [.mk { kind := f.list, start := start' } built]) =
      f.namesAmong built := by
  let child : Node := .mk { kind := f.list, start := start' } built
  have no_spec : f.list ∉ f.kinds := by cases f <;> decide
  have is_list : f.list ∈ [Kind.varSpecList, .constSpecList, .typeSpecList] := by
    cases f <;> decide
  have no_spec : child.label.kind ∉ f.kinds := no_spec
  have is_list : child.label.kind ∈ [Kind.varSpecList, .constSpecList, .typeSpecList] := is_list
  rw [f.declaredBy_eq start child rfl, if_neg no_spec, if_pos is_list]
  rfl

/-- **Specifications**, one alone or in a group, are read up to the end of the line. -/
theorem Family.leads_specs (reads : ∀ spec, f.Reads (lexemes spec)) (specs : Specs α) (c : Cursor)
    (line_end : e.shape = .lineEnd) (more : List Token) (nodes : List Node) :
    ∃ node early, Leads 55 (.any [.part f.spec, f.group])
        ⟨nodes, tokensAt c (specs.body lexemes) ++ e :: more⟩ (⟨node :: nodes, e :: more⟩ :: early) ∧
      (∀ t ∈ early, Shown [.mark '='] t.rest) ∧
      ∀ start, Go.declaredBy (.mk { kind := f.kind, start } [node]) =
        namesAt c (specs.body lexemes) := by
  cases specs with
  | single spec =>
    have no_group : (Rule.any [f.group]).foresee grammar [.name] 55 0 = some [] := by
      cases f <;> decide +kernel
    obtain ⟨node, early, leads, shown, declares⟩ := (reads spec).leads c more nodes .none line_end
    have others := leads_nowhere (s := ⟨nodes, tokensAt c (lexemes spec) ++ e :: more⟩) no_group
      ((reads spec).opens c (e :: more))
    exact ⟨node, early, Leads.only [] [f.group] (leads.mono (by decide)) others, shown,
      declares.declaredBy⟩
  | group first specs =>
    have no_spec : (Rule.any [.part f.spec]).foresee grammar [.mark '('] 55 0 = some [] := by
      cases f <;> decide +kernel
    obtain ⟨built, start', leads, names⟩ := f.leads_group reads first specs c (e :: more) nodes
    have others := leads_nowhere
      (s := ⟨nodes, tokensAt c ((Specs.group first specs).body lexemes) ++ e :: more⟩) no_spec
      (.cons rfl (.more _))
    exact ⟨_, [], Leads.only [.part f.spec] [] leads others, List.forall_mem_nil _,
      fun start => (f.declaredBy_list start start' built).trans names⟩

/-- **A declaration of a family** is read up to the end of its line. -/
theorem Family.leads_rule (reads : ∀ spec, f.Reads (lexemes spec)) (specs : Specs α) (c : Cursor)
    (line_end : e.shape = .lineEnd) (more : List Token) (nodes : List Node) :
    ∃ node early, Leads 57 f.rule
        ⟨nodes, tokensAt c ([.keyword f.word, .blank ' '] ++ specs.body lexemes) ++ e :: more⟩
        (⟨node :: nodes, e :: more⟩ :: early) ∧
      (∀ t ∈ early, Shown [.mark '='] t.rest) ∧ node.label.named = true ∧
      declaredBy node = namesAt c ([.keyword f.word, .blank ' '] ++ specs.body lexemes) := by
  have word : (Rule.all [kw f.word]).foresee grammar [.word f.word] 40 0 = some [⟨1, .bare⟩] := by
    cases f <;> decide +kernel
  let inside := c.passAll [.keyword f.word, .blank ' ']
  let left := tokensAt inside (specs.body lexemes) ++ e :: more
  let tokens := c.token (.word f.word) :: left
  obtain ⟨child, early, leads, shown, names⟩ := f.leads_specs reads specs inside line_end more []
  have shown_word : Shown [.word f.word] tokens := .cons rfl (.more left)
  have first : Leads 56 (.all [kw f.word]) ⟨[], tokens⟩ [⟨[], left⟩] :=
    (leads_to_end word shown_word).mono (by decide)
  exact ⟨_, _, (first.append leads.last).node f.kind nodes,
    List.forall_mem_map.mpr shown, rfl, names (nextStart tokens)⟩

end GoWorkbench.Go
