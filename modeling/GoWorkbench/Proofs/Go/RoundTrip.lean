/-
  Declarations that are written down and read again.

  1. **Items** — a piece of a rendering *settles* if it is taken as an item at file scope, up to the
     end of its last line, and the item declares the names of the piece at their places (`Settles`).
  2. **Short items** — the package clause, functions and methods have few tokens, so what they are
     read as is foreseen.
  3. **Families** — types, variables and constants may be long.  Their word tells them from all other
     items (`Family.settles`).
  4. **Files** — pieces that settle are read one after the other, so a rendering has a syntax tree
     that declares its names (`parse_render`).
  5. **Round trip** — the outline of a rendering has the declared names at their places, and no
     others (`outline_render`).
-/
import GoWorkbench.Proofs.Go.Specifications

namespace GoWorkbench.Go

open Rule Text

/-! ## Items -/

/-- An item at file scope and the end of its line. -/
def item : Rule Part :=
  .all [.any [.part .package, .part .importing, .part .function, .part .method,
    .part (.statement .item)], .terminator]

/-- The names that nodes at file scope declare. -/
def declaredAmong (nodes : List Node) : List (SymbolKind × Node) :=
  (nodes.filter (·.label.named)).flatMap declaredBy

theorem declaredAmong_append (left right : List Node) :
    declaredAmong (left ++ right) = declaredAmong left ++ declaredAmong right := by
  unfold declaredAmong
  rw [List.filter_append, List.flatMap_append]

/-- The lexemes are read as an item with their names. -/
def Settles (ls : List Lexeme) : Prop := Takes 63 item declaredAmong [[]] ls

/-! ## Short items -/

/-- A short item settles as foreseen. -/
theorem settles_of_foreseen {ls : List Lexeme} {forest : Forest} (readable : Readable ls)
    (some_sign : signsOf ls ≠ [])
    (foreseen : item.foresee grammar (signsOf ls) 63 0 = some [⟨(signsOf ls).length, forest⟩])
    (found : ∀ c more, declaredAmong (forest.fill (tokensAt c ls ++ more)) = namesAt c ls) :
    Settles ls :=
  takes_of_foreseen readable some_sign (fun _ _ => begins_any _)
    (List.forall_mem_singleton.mpr (by rw [List.append_nil]; exact foreseen)) found

/-- **The package clause** settles. -/
theorem settles_packageClause : Settles packageClause := by
  have foreseen : item.foresee grammar [.word "package", .name, .lineEnd] 63 0 =
      some [⟨3, .node (.other "package_clause") none 0 .bare .bare⟩] := by
    decide +kernel
  exact settles_of_foreseen (readable_render []) nofun foreseen fun _ _ => rfl

/-- An empty function or method, where its name is the token of the number. -/
def emptyFunction (kind : Kind) (name : Nat) : Forest :=
  .node kind none 0 (.leaf .identifier (some .name) true name
    (.node (.other "block") none (name + 3) .bare .bare)) .bare

/-- **A function** settles. -/
theorem settles_function (name : Identifier) : Settles (Declaration.function name).lexemes := by
  have foreseen : item.foresee grammar [.word "func", .name, .mark '(', .mark ')', .mark '\x7b',
      .mark '\x7d', .lineEnd] 63 0 = some [⟨7, emptyFunction .functionDeclaration 1⟩] := by
    decide +kernel
  have readable := Declaration.opens (.function name) [] trivial
  exact settles_of_foreseen readable nofun foreseen fun _ _ => rfl

/-- The signs of a receiver. -/
def receiverSigns (named pointer : Bool) : List Sign :=
  (if named then [.name] else []) ++ (if pointer then [.mark '*'] else []) ++ [.name]

/-- **A method** settles, whatever its receiver looks like. -/
theorem settles_method (receiver : Receiver) (name : Identifier) :
    Settles (Declaration.method receiver name).lexemes := by
  obtain ⟨receiverName, pointer, type⟩ := receiver
  have foreseen : ∀ named pointer, item.foresee grammar ([.word "func", .mark '('] ++
      receiverSigns named pointer ++ [.mark ')', .name, .mark '(', .mark ')', .mark '\x7b',
        .mark '\x7d', .lineEnd]) 63 0 =
      some [⟨(receiverSigns named pointer).length + 9,
        emptyFunction .methodDeclaration ((receiverSigns named pointer).length + 3)⟩] := by
    decide +kernel
  have readable := Declaration.opens (.method ⟨receiverName, pointer, type⟩ name) [] trivial
  cases receiverName with
  | none =>
    cases pointer with
    | false => exact settles_of_foreseen readable nofun (foreseen false false) fun _ _ => rfl
    | true => exact settles_of_foreseen readable nofun (foreseen false true) fun _ _ => rfl
  | some receiverName =>
    cases pointer with
    | false => exact settles_of_foreseen readable nofun (foreseen true false) fun _ _ => rfl
    | true => exact settles_of_foreseen readable nofun (foreseen true true) fun _ _ => rfl

/-! ## Families -/

/-- The rules that a choice is between. -/
def alternatives : Rule Part → List (Rule Part)
  | .any rules => rules
  | _ => []

/-- The statements that are no declarations. -/
def otherStatements : List (Rule Part) := (alternatives (grammar (.statement .item))).tail

/-- The items that are no statements. -/
def otherItems : List (Rule Part) :=
  [.part .package, .part .importing, .part .function, .part .method]

/-- The word of a family leaves no other way to read an item. -/
theorem Family.leads_item {α : Type} {lexemes : α → List Lexeme} {e : Token} (f : Family)
    (reads : ∀ spec, f.Reads (lexemes spec)) (specs : Specs α) (c : Cursor)
    (line_end : e.shape = .lineEnd) (more : List Token) (nodes : List Node) :
    ∃ node early, Leads 62 (.any (otherItems ++ [.part (.statement .item)]))
        ⟨nodes, tokensAt c ([.keyword f.word, .blank ' '] ++ specs.body lexemes) ++ e :: more⟩
        (⟨node :: nodes, e :: more⟩ :: early) ∧
      (∀ t ∈ early, Shown [.mark '='] t.rest) ∧ node.label.named = true ∧
      declaredBy node = namesAt c ([.keyword f.word, .blank ' '] ++ specs.body lexemes) := by
  have families : (Rule.any (f.before ++ f.after)).foresee grammar [.word f.word] 58 0 =
      some [] := by
    cases f <;> decide +kernel
  have statements : (Rule.any otherStatements).foresee grammar [.word f.word] 60 0 = some [] := by
    cases f <;> decide +kernel
  have items : (Rule.any otherItems).foresee grammar [.word f.word] 62 0 = some [] := by
    cases f <;> decide +kernel
  let tokens := tokensAt c ([.keyword f.word, .blank ' '] ++ specs.body lexemes) ++ e :: more
  have shown : Shown [.word f.word] tokens := .cons rfl (.more _)
  obtain ⟨node, early, leads, early_shown, named, names⟩ :=
    f.leads_rule reads specs c line_end more nodes
  have declaration : Leads 58 (grammar .declaration) ⟨nodes, tokens⟩
      (⟨node :: nodes, e :: more⟩ :: early) := by
    rw [f.rules]
    exact leads.only _ _ (leads_nowhere families shown)
  have statement : Leads 60 (grammar (.statement .item)) ⟨nodes, tokens⟩
      (⟨node :: nodes, e :: more⟩ :: early) :=
    declaration.part.only [] otherStatements (leads_nowhere statements shown)
  exact ⟨node, early, statement.part.only otherItems [] (leads_nowhere items shown), early_shown,
    named, names⟩

/-- **A declaration of a family** settles if its specifications are read. -/
theorem Family.settles {α : Type} {lexemes : α → List Lexeme} (f : Family)
    (reads : ∀ spec, f.Reads (lexemes spec)) (specs : Specs α) :
    Settles (specs.lexemes f.word lexemes) := by
  refine ⟨nofun, fun _ _ => begins_any _, fun c more nodes _ => ?_⟩
  have ends : Rule.terminator.foresee grammar [.lineEnd] 62 0 = some [⟨1, .bare⟩] := by
    decide +kernel
  have equals : Rule.terminator.foresee grammar [.mark '='] 62 0 = some [] := by decide +kernel
  let inside := [.keyword f.word, .blank ' '] ++ specs.body lexemes
  let e := (c.passAll inside).token .lineEnd
  have line_end : e.shape = .lineEnd := rfl
  obtain ⟨node, early, leads, early_shown, named, names⟩ :=
    f.leads_item reads specs c line_end more nodes
  refine ⟨[node], ?_, ?_⟩
  · show Leads 63 item ⟨nodes, tokensAt c (inside ++ [.lineEnd]) ++ more⟩ [⟨node :: nodes, more⟩]
    rw [tokensAt_line]
    exact leads.closed (leads_to_end ends (shown_lineEnd line_end more))
      fun t ht => leads_nowhere equals (early_shown t ht)
  · show declaredAmong [node] = namesAt c (inside ++ [.lineEnd])
    have kept : [node].filter (·.label.named) = [node] := List.filter_cons_of_pos named
    rw [namesAt_line, declaredAmong, kept, List.flatMap_singleton, names]

theorem Declaration.settles (d : Declaration) : Settles d.lexemes := by
  cases d with
  | function name => exact settles_function name
  | method receiver name => exact settles_method receiver name
  | types specs => exact Family.types.settles TypeSpec.reads specs
  | vars specs => exact Family.vars.settles VarSpec.reads specs
  | consts specs => exact Family.constants.settles ConstSpec.reads specs

/-! ## Files -/

/-- What may come at the end of a file without a line end. -/
def lastItem : Rule Part :=
  opt (.any [.part .package, .part .importing, .part .function, .part .method])

/-- Items that settle are a source. -/
theorem leads_source {pieces : List (List Lexeme)} (settles : ∀ ls ∈ pieces, Settles ls) :
    ∃ items, Leads 66 (.part .source) ⟨[], tokensAt .start pieces.flatten⟩
        [⟨items.reverse, []⟩] ∧ declaredAmong items = namesAt .start pieces.flatten := by
  have stops : item.foresee grammar [.ending] 63 0 = some [] := by decide +kernel
  have ending : (Rule.all [lastItem, .finish]).foresee grammar [.ending] 65 0 =
      some [⟨0, .bare⟩] := by
    decide +kernel
  obtain ⟨items, repeats, names⟩ := repeats_pieces declaredAmong_append settles (begins_any [])
    (fun _ => leads_nowhere stops .ending) .start []
  rw [List.append_nil, List.append_nil] at repeats
  have last : Leads 65 (.all [lastItem, .finish]) ⟨items.reverse, []⟩ [⟨items.reverse, []⟩] :=
    leads_to_end ending .ending
  exact ⟨items, ((repeats.many (by decide)).last.append last).part, names⟩

/-- A source has the items that its rule leads to, and they are free of errors. -/
theorem itemsOf_leads {tokens : List Token} {items : List Node} (ordered : Ordered tokens)
    (leads : Leads 66 (.part .source) ⟨[], tokens⟩ [⟨items.reverse, []⟩]) :
    itemsOf tokens = some items ∧ ∀ n ∈ items, n.hasError = false := by
  have deep : 66 + tokens.length ≤ depth tokens.length := by
    unfold depth
    omega
  obtain ⟨follows, -⟩ := leads ordered _ deep
  have first : ⟨items.reverse, []⟩ ∈ (Rule.part Part.source).follow grammar (depth tokens.length)
      ⟨[], tokens⟩ := by
    rw [follows]
    exact List.mem_singleton_self _
  obtain ⟨-, built, -, same, sound, -⟩ := grown_follow _ _ _ _ first
  have same : items.reverse = built := same.trans (List.append_nil built)
  constructor
  · rw [itemsOf, follows]
    exact congrArg some (List.reverse_reverse items)
  · intro n hn
    refine sound n ?_
    rw [← same]
    exact List.mem_reverse.mpr hn

/-- **A rendering is a source**, and its syntax tree declares the names of the rendering. -/
theorem parse_render (declarations : List Declaration) :
    ∃ items, parse (Utf8.encode (textOf (render declarations))) = .mk { kind := .sourceFile } items ∧
      (∀ n ∈ items, n.hasError = false) ∧
      declaredAmong items = namesAt .start (render declarations) := by
  have is : render declarations =
      (packageClause :: declarations.map Declaration.lexemes).flatten := by
    rw [render, List.flatMap_def]
    rfl
  have settles : ∀ ls ∈ packageClause :: declarations.map Declaration.lexemes, Settles ls :=
    List.forall_mem_cons.mpr ⟨settles_packageClause, List.forall_mem_map.mpr fun d _ => d.settles⟩
  obtain ⟨items, leads, names⟩ := leads_source settles
  rw [← is] at leads names
  have ordered := (tokens_spec (Utf8.encode (textOf (render declarations)))).2
  rw [← tokens_of_readable (readable_render declarations)] at leads
  obtain ⟨found, sound⟩ := itemsOf_leads ordered leads
  exact ⟨items, by rw [parse, found], sound, names⟩

/-! ## Round trip -/

/-- Every name of readable text gives its symbol. -/
theorem symbols_namesAt {ls : List Lexeme} (path : String) (sound : ∀ l ∈ ls, l.Sound) (c : Cursor) :
    (namesAt c ls).filterMap (fun (kind, n) => symbolOf path kind n) =
      symbolsIn path c.place ls := by
  induction ls generalizing c with
  | nil => rfl
  | cons l ls ih =>
    obtain ⟨hl, hls⟩ := List.forall_mem_cons.mp sound
    have here : (l.names c.place).filterMap (fun (kind, n) => symbolOf path kind n) =
        l.symbols path c.place := by
      cases l with
      | declared kind w =>
        have some_text : ¬ w.isEmpty = true := by
          intro nothing
          rw [String.isEmpty_iff.mp nothing] at hl
          exact absurd (isFree_iff.mp hl).1 (by decide)
        have symbol : symbolOf path kind (nameLeaf w c.place) =
            some ⟨w, kind, path, c.place.row + 1, c.place.column + 1⟩ := if_neg some_text
        exact List.filterMap_cons_some symbol
      | _ => rfl
    rw [namesAt, List.filterMap_append, here, ih hls]
    rfl

/-- What the lexeme declares, wherever it stands. -/
def Lexeme.declares : Lexeme → List (SymbolKind × String)
  | declared kind w => [(kind, w)]
  | _ => []

theorem map_symbolsIn (path : String) (p : Position) (ls : List Lexeme) :
    (symbolsIn path p ls).map (fun s => (s.kind, s.name)) = ls.flatMap Lexeme.declares := by
  induction ls generalizing p with
  | nil => rfl
  | cons l ls ih =>
    rw [symbolsIn, List.map_append, ih, List.flatMap_cons]
    cases l <;> rfl

theorem declares_listed (lexeme : String → Lexeme) (first : String) (more : List String) :
    (listed lexeme first more).flatMap Lexeme.declares =
      (first :: more).flatMap fun w => (lexeme w).declares := by
  simp [listed, List.flatMap_assoc, Lexeme.declares]

theorem Specs.declares_lexemes {α : Type} {word : String} {lexemes : α → List Lexeme}
    {declares : α → List (SymbolKind × String)}
    (each : ∀ spec, (lexemes spec).flatMap Lexeme.declares = declares spec) (specs : Specs α) :
    (specs.lexemes word lexemes).flatMap Lexeme.declares = specs.toList.flatMap declares := by
  cases specs <;>
    simp [Specs.lexemes, Specs.body, Specs.toList, lineOf, List.flatMap_assoc, Lexeme.declares, each]

/-- A piece declares what it is written for. -/
theorem Declaration.declares_lexemes (d : Declaration) :
    d.lexemes.flatMap Lexeme.declares = d.declares := by
  cases d with
  | function name => rfl
  | method receiver name =>
    obtain ⟨receiverName, pointer, type⟩ := receiver
    cases receiverName <;> cases pointer <;> rfl
  | types specs =>
    have each : ∀ spec : TypeSpec,
        spec.lexemes.flatMap Lexeme.declares = [(.struct, spec.name.text)] := by
      rintro ⟨name, isAlias⟩
      cases isAlias <;> rfl
    exact (specs.declares_lexemes each).trans List.map_eq_flatMap.symm
  | vars specs =>
    refine specs.declares_lexemes fun spec => ?_
    rw [VarSpec.lexemes, List.flatMap_append, declares_listed]
    simp [Lexeme.declares, ← List.map_eq_flatMap]
  | consts specs =>
    refine specs.declares_lexemes fun spec => ?_
    have no_names : (spec.first.2.text :: spec.more.map fun constant => constant.2.text).flatMap
        (fun w => (Lexeme.number w).declares) = [] := List.flatMap_eq_nil_iff.mpr fun _ _ => rfl
    rw [ConstSpec.lexemes, List.flatMap_append, List.flatMap_append, declares_listed, declares_listed,
      no_names]
    simp [Lexeme.declares, ← List.map_eq_flatMap]

/-- **The outline of a rendering**: exactly the names that are declared, in their order, each with its
    kind and at the place where it is written. -/
theorem outline_render (declarations : List Declaration) (path : String) :
    outline (Utf8.encode (textOf (render declarations))) path =
        symbolsIn path ⟨0, 0⟩ (render declarations) ∧
      (outline (Utf8.encode (textOf (render declarations))) path).map (fun s => (s.kind, s.name)) =
        declarations.flatMap Declaration.declares := by
  obtain ⟨items, parsed, sound, names⟩ := parse_render declarations
  have clean : ¬ (Node.mk { kind := .sourceFile } items).hasError = true :=
    Bool.eq_false_iff.mp (hasError_eq_false rfl sound)
  have declared : (Node.mk { kind := .sourceFile } items).namedChildren.flatMap declaredBy =
      namesAt .start (render declarations) := names
  have is : outline (Utf8.encode (textOf (render declarations))) path =
      symbolsIn path ⟨0, 0⟩ (render declarations) := by
    rw [outline, parsed, symbolsOf, if_neg clean, declared]
    exact symbols_namesAt path (readable_render declarations).sound .start
  refine ⟨is, ?_⟩
  rw [is, map_symbolsIn, render, List.flatMap_append, List.flatMap_assoc]
  simp only [Declaration.declares_lexemes]
  rfl

/-- A function, and a group of constants: the second name of its first line is in the fourth line of
    the file, at the fifth byte. -/
example :
    let a : Identifier := ⟨"a", by decide +kernel⟩
    let b : Identifier := ⟨"b", by decide +kernel⟩
    let one : Literal := ⟨"1", by decide +kernel⟩
    let file := render [.function a, .consts (.group ⟨(a, one), [(b, one)]⟩ [])]
    String.ofList (textOf file) = "package p\nfunc a() {}\nconst (\n\ta, b = 1, 1\n)\n" ∧
      (symbolsIn "m.go" ⟨0, 0⟩ file)[2]? = some ⟨"b", .constant, "m.go", 4, 5⟩ := by
  decide +kernel

end GoWorkbench.Go
