/-
  The list of symbols, as it is written.

  1. **One symbol** — the table of a symbol is a value that JSON holds (`held_symbolTable`), and no
     other symbol has it (`symbolTable_injective`).
  2. **Lines** — texts without line ends, each with one after it, are what is left when the whole is
     cut at the line ends (`splitOn_lines`).
  3. **The list** — the command writes a line for each symbol of the scan, in its order, and each
     line is read as its symbol, as far as the paths are texts (`symbols_listed`).
  4. **Breaking off** — a path that is no text, and a root that stands for a home that is not known,
     break the command off (`symbols_withheld`).
-/
import GoWorkbench.Proofs.CommandLine.Starting
import GoWorkbench.Proofs.Json.Compact
import GoWorkbench.Proofs.Scan.Symbols

namespace GoWorkbench.CommandLine

open FileSystem

variable {limits : Json.Limits} {s s' : Go.Symbol}

/-! ## One symbol -/

/-- The place of a symbol is small enough for the reader. -/
def Countable (limits : Json.Limits) (s : Go.Symbol) : Prop :=
  limits.hugeNumbers = true ∨ s.line < Json.wordSize ∧ s.column < Json.wordSize

theorem Countable.holds (countable : Countable limits s) :
    Json.Held limits 0 (.integer s.line) ∧ Json.Held limits 0 (.integer s.column) := by
  obtain huge | ⟨line, column⟩ := countable
  · exact ⟨.integer 0 _ (.inl huge), .integer 0 _ (.inl huge)⟩
  · exact ⟨.integer 0 _ (.inr (Json.fits_of_lt line)), .integer 0 _ (.inr (Json.fits_of_lt column))⟩

theorem held_symbolTable (countable : Countable limits s) :
    Json.Held limits 1 (symbolTable s) := by
  obtain ⟨line, column⟩ := countable.holds
  refine .table (by decide : ["name", "kind", "path", "line", "column"].Nodup) ?_
  intro e listed
  simp only [List.mem_cons, List.not_mem_nil, or_false] at listed
  rcases listed with rfl | rfl | rfl | rfl | rfl
  · exact .text 0 _
  · exact .text 0 _
  · exact .text 0 _
  · exact line
  · exact column

/-- A line never has a line end within it, whatever the names in it are. -/
theorem newline_not_mem_symbolTable (s : Go.Symbol) :
    '\n' ∉ (Json.compact (symbolTable s)).toList :=
  have countable : Countable ⟨1, true⟩ s := .inl rfl
  Json.newline_not_mem_compact (held_symbolTable countable)

theorem kindName_injective {kind kind' : Go.SymbolKind} (same : kind.name = kind'.name) :
    kind = kind' := by
  cases kind <;> cases kind' <;> first | rfl | exact absurd same (by decide)

/-- No two symbols have one table. -/
theorem symbolTable_injective (same : symbolTable s = symbolTable s') : s = s' := by
  obtain ⟨name, kind, path, line, column⟩ := s
  obtain ⟨name', kind', path', line', column'⟩ := s'
  simp only [symbolTable, Value.table.injEq, List.cons.injEq, Prod.mk.injEq, Value.text.injEq,
    Value.integer.injEq, Int.natCast_inj, true_and, and_true] at same
  obtain ⟨rfl, kinds, rfl, rfl, rfl⟩ := same
  rw [kindName_injective kinds]

/-- The line tells of this symbol and no other: read with room for one table and for the numbers in
    it, it is the table of the symbol. -/
structure Tells (line : List Char) (s : Go.Symbol) : Prop where
  read : ∀ limits : Json.Limits, 0 < limits.depth → Countable limits s →
    Json.read limits line = some (symbolTable s)
  only : ∀ s', symbolTable s' = symbolTable s → s' = s

theorem tells_compact (s : Go.Symbol) : Tells (Json.compact (symbolTable s)).toList s where
  read := fun _ room countable => Json.read_compact (held_symbolTable countable) room
  only := fun _ same => symbolTable_injective same

/-! ## Lines -/

/-- **Lines**: what is cut at the line ends is the texts before them, and nothing is left over. -/
theorem splitOn_lines {lines : List (List Char)} (unbroken : ∀ line ∈ lines, '\n' ∉ line) :
    (lines.flatMap (· ++ ['\n'])).splitOn '\n' = lines ++ [[]] := by
  have ended : ['\n'].intercalate (lines ++ [[]]) = lines.flatMap (· ++ ['\n']) := by
    clear unbroken
    induction lines with
    | nil => rfl
    | cons line lines ih =>
      obtain ⟨next, more, is⟩ := List.exists_cons_of_ne_nil (List.concat_ne_nil [] lines)
      rw [List.cons_append, List.flatMap_cons, ← ih, is, List.intercalate_cons_cons,
        List.append_assoc]
  rw [← ended]
  refine List.splitOn_intercalate '\n' ?_ (List.append_ne_nil_of_right_ne_nil _ (by decide))
  intro line listed
  rcases List.mem_append.mp listed with listed | listed
  · exact unbroken line listed
  · rw [List.mem_singleton.mp listed]
    exact List.not_mem_nil

/-! ## The list -/

/-- A first rebuild goes as its scan goes, and holds what that finds. -/
theorem rebuild_first (h : Host) (options : Scan.Options) (top : String) :
    ∃ index after, SymbolIndex.rebuild { options } h top =
        ((Scan.symbols h options top).map fun _ => true, index, after) ∧
      after.garbled = h.garbled ∧
      ∀ symbols, Scan.symbols h options top = .ok symbols → index.snapshot = symbols := by
  have reported := @Scan.symbols_of_files h
    (h.report .info SymbolIndex.source s!"Indexing symbols in: {Path.plain top}") rfl options top
  unfold SymbolIndex.rebuild SymbolIndex.start SymbolIndex.take
  dsimp only
  rw [reported]
  cases Scan.symbols h options top with
  | error f => exact ⟨_, _, rfl, rfl, nofun⟩
  | ok symbols =>
    refine ⟨_, _, rfl, rfl, ?_⟩
    rintro _ ⟨⟩
    rfl

/-- The symbols before the first one whose path is no text. -/
def shown (h : Host) (symbols : List Go.Symbol) : List Go.Symbol :=
  symbols.takeWhile fun s => h.isText s.path

section
variable {h host : Host} {config : Config} {root top : String} {symbols : List Go.Symbol}

theorem shown_eq (texts : ∀ s ∈ symbols, h.isText s.path = true) : shown h symbols = symbols :=
  List.takeWhile_eq_self_iff.mpr texts

/-- All symbols are written, if their paths are texts. -/
theorem endList_status (texts : ∀ s ∈ symbols, h.isText s.path = true) :
    (endList h symbols).status = .ok 0 := by
  have all : (symbols.takeWhile fun s => h.isText s.path) = symbols := shown_eq texts
  unfold endList
  rw [all]
  exact if_neg (lt_irrefl _)

/-- Otherwise the first path that is no text breaks the list off. -/
theorem endList_broken (listed : s ∈ symbols) (garbled : h.isText s.path = false) :
    (endList h symbols).status = .error .halfCharacter := by
  have fewer : (symbols.takeWhile fun s => h.isText s.path).length < symbols.length := by
    refine lt_of_le_of_ne (List.takeWhile_prefix _).length_le fun same => ?_
    have all := List.takeWhile_eq_self_iff.mp ((List.takeWhile_prefix _).eq_of_length same) s listed
    rw [garbled] at all
    cases all
  exact if_pos fewer

/-- What a list has written is one line for each symbol that is shown. -/
theorem endList_lines : ∃ lines : List (List Char),
    (endList h symbols).output.toList.splitOn '\n' = lines ++ [[]] ∧
      List.Forall₂ Tells lines (shown h symbols) := by
  have spelled : (endList h symbols).output.toList = ((shown h symbols).map fun s =>
      (Json.compact (symbolTable s)).toList).flatMap (· ++ ['\n']) := by
    show (String.join ((shown h symbols).map fun s => jsonLine (symbolTable s))).toList = _
    rw [String.toList_join, List.flatMap_map, List.flatMap_map]
    simp [jsonLine]
  have unbroken : ∀ line ∈ (shown h symbols).map fun s => (Json.compact (symbolTable s)).toList,
      '\n' ∉ line := by
    intro line listed
    obtain ⟨s, -, rfl⟩ := List.mem_map.mp listed
    exact newline_not_mem_symbolTable s
  refine ⟨(shown h symbols).map fun s => (Json.compact (symbolTable s)).toList, ?_, ?_⟩
  · rw [spelled]
    exact splitOn_lines unbroken
  · exact List.forall₂_map_left_iff.mpr (List.forall₂_same.mpr fun s _ => tells_compact s)

/-- Where the scan goes well, its symbols are written, on a host that has the same names. -/
theorem listSymbols_of_scan (leads : (h.expandHome root).bind h.canonical = .ok top)
    (scanned : Scan.symbols h config.index top = .ok symbols) :
    ∃ after : Host, after.garbled = h.garbled ∧
      listSymbols h config root = endList after symbols := by
  obtain ⟨index, after, rebuilt, names, held⟩ := rebuild_first h config.index top
  have found : (do h.canonical (← h.expandHome root)) = Except.ok top := leads
  refine ⟨after, names, ?_⟩
  unfold listSymbols
  rw [found]
  dsimp only
  rw [rebuilt, scanned, ← held symbols scanned]
  rfl

/-- **The list of symbols**: cut at its line ends, what is written is one line for each symbol that
    the scan finds, in the same order, with nothing left over; and every line is read as its symbol,
    whatever characters there are in the names.  Only a name that is no text ends the list before
    the symbols of that file, and breaks the program off. -/
theorem symbols_listed {arguments : List String} {input directory place : String}
    (parsed : Invocation.parse arguments = .ok ⟨directory, .symbols root⟩)
    (configured : configure h directory = .ok (place, config))
    (opens : openLog h config = .ok host)
    (leads : (host.expandHome root).bind host.canonical = .ok top)
    (scanned : Scan.symbols host config.index top = .ok symbols) :
    ∃ (e : Ended) (lines : List (List Char)), (start arguments input h).2 = .ended e ∧
      e.output.toList.splitOn '\n' = lines ++ [[]] ∧
      ((∀ s ∈ symbols, h.isText s.path = true) →
        e.status = .ok 0 ∧ List.Forall₂ Tells lines symbols) ∧
      ((∃ s ∈ symbols, h.isText s.path = false) →
        e.status = .error .halfCharacter ∧ List.Forall₂ Tells lines (shown h symbols)) := by
  -- The host that writes is not the one that was given, but the same names are text on both.
  obtain ⟨after, names, written⟩ := listSymbols_of_scan leads scanned
  have texts : ∀ path, after.isText path = h.isText path := fun path => by
    unfold Host.isText
    rw [names, (openLog_ok opens).1]
  have same : shown after symbols = shown h symbols := by
    unfold shown
    simp only [texts]
  obtain ⟨lines, split, tell⟩ := @endList_lines after symbols
  refine ⟨_, lines, ?_, split, fun all => ⟨?_, ?_⟩, ?_⟩
  · rw [start_configured parsed configured opens]
    exact congrArg Progress.ended written
  · exact endList_status fun s listed => (texts _).trans (all s listed)
  · rw [← shown_eq all, ← same]
    exact tell
  · rintro ⟨s, listed, garbled⟩
    rw [← same]
    exact ⟨endList_broken listed ((texts _).trans garbled), tell⟩

end

/-! A workspace whose only source has a quote and a line end in its name. -/

def oddName : String := "a\"\n.go"

def oddTree : FileSystem :=
  ⟨[("w", .directory [(oddName, .file "package p\nfunc A(){}".toUTF8.toList false)])], .root⟩

theorem sound_oddTree : oddTree.Sound where
  proper := by simp only [oddTree, Entry.Proper]; decide
  free := FileSystem.linkFree_of_countLinks (by simp [oddTree, FileSystem.countLinks])
  stands := FileSystem.stands_root _
  names := fun _ h => absurd h List.not_mem_nil

def oddSymbol : Go.Symbol := ⟨"A", .function, "/w/a\"\n.go", 2, 6⟩

theorem symbols_oddTree :
    Scan.symbols (Service.serving oddTree).host {} "/w" = .ok [oddSymbol] := by
  have leads : LeadsTo "/w" ["w"] := ⟨rfl, rfl, by decide⟩
  have leads_file : LeadsTo "/w/a\"\n.go" ["w", oddName] := ⟨rfl, rfl, by decide⟩
  have absolute : (Service.serving oddTree).host.absolute (Path.plain "/w") = .ok "/w" := rfl
  have path : Scan.pathOf "/w" [oddName] = "/w/a\"\n.go" := rfl
  have passable : Passable (Scan.pathOf "/w" [oddName]) := by
    rw [path]
    exact leads_file.passable (by decide) (by decide)
  have outline : Go.outline "package p\nfunc A(){}".toUTF8.toList "/w/a\"\n.go" =
    [oddSymbol] := by decide +kernel
  rw [Scan.symbols_eq_below rfl absolute leads sound_oddTree,
    Scan.symbolsBelow_of_lone leads rfl (by decide) (by decide) passable, path, outline]

theorem listing_parses : Invocation.parse ["--config-dir", "/w", "symbols", "/w"] =
    .ok ⟨"/w", .symbols "/w"⟩ := rfl

theorem leads_oddTree : ((Service.serving oddTree).host.expandHome "/w").bind
    (Service.serving oddTree).host.canonical = .ok "/w" :=
  canonical_serving sound_oddTree.orderly ⟨_, rfl⟩

theorem symbols_listed_odd : ∃ (e : Ended) (lines : List (List Char)),
    (start ["--config-dir", "/w", "symbols", "/w"] "" (Service.serving oddTree).host).2 =
      .ended e ∧ e.status = .ok 0 ∧ e.output.toList.splitOn '\n' = lines ++ [[]] ∧
      List.Forall₂ Tells lines [oddSymbol] := by
  obtain ⟨e, lines, ended, split, tells, -⟩ := @symbols_listed _ _ {} _ _ _ _ "" _ _
    listing_parses (configure_serving sound_oddTree.orderly ⟨_, rfl⟩ rfl) (openLog_none _)
    leads_oddTree symbols_oddTree
  obtain ⟨status, tell⟩ := tells fun s _ => List.all_eq_true.mpr fun _ _ => rfl
  exact ⟨e, lines, ended, status, split, tell⟩

/-! ## Breaking off -/

/-- A directory of that name with a source in it. -/
def tildeTree : FileSystem :=
  ⟨[("w", .directory []),
    ("~nosuch", .directory [("a.go", .file "package p\nfunc A(){}".toUTF8.toList false)])], .root⟩

theorem sound_tildeTree : tildeTree.Sound where
  proper := by simp only [tildeTree, Entry.Proper]; decide
  free := FileSystem.linkFree_of_countLinks (by simp [tildeTree, FileSystem.countLinks])
  stands := FileSystem.stands_root _
  names := fun _ h => absurd h List.not_mem_nil

theorem symbols_tildeTree : Scan.symbols (Service.serving tildeTree).host {} "~nosuch" =
    .ok [⟨"A", .function, "/~nosuch/a.go", 2, 6⟩] := by
  have leads : LeadsTo "/~nosuch" ["~nosuch"] := ⟨rfl, rfl, by decide⟩
  have leads_file : LeadsTo "/~nosuch/a.go" ["~nosuch", "a.go"] := ⟨rfl, rfl, by decide⟩
  have absolute : (Service.serving tildeTree).host.absolute (Path.plain "~nosuch") =
    .ok "/~nosuch" := rfl
  have path : Scan.pathOf "/~nosuch" ["a.go"] = "/~nosuch/a.go" := rfl
  have passable : Passable (Scan.pathOf "/~nosuch" ["a.go"]) := by
    rw [path]
    exact leads_file.passable (by decide) (by decide)
  have outline : Go.outline "package p\nfunc A(){}".toUTF8.toList "/~nosuch/a.go" =
    [⟨"A", .function, "/~nosuch/a.go", 2, 6⟩] := by decide +kernel
  rw [Scan.symbols_eq_below rfl absolute leads sound_tildeTree,
    Scan.symbolsBelow_of_lone leads rfl (by decide) (by decide) passable, path, outline]

/-- The tree with a quote and a line end in a name, where that name is no text. -/
def garbledHost : Host := { (Service.serving oddTree).host with garbled := [oddName] }

/-- What is configured does not depend on which names are texts. -/
theorem configure_garbled (h : Host) (names : List String) (directory : String) :
    configure { h with garbled := names } directory = configure h directory := by
  have expanded : ∀ path, Host.expandHome { h with garbled := names } path = h.expandHome path :=
    fun _ => rfl
  have canonical : ∀ path, Host.canonical { h with garbled := names } path = h.canonical path :=
    fun _ => rfl
  have probed : ∀ path test, Host.probe { h with garbled := names } path test = h.probe path test :=
    fun _ _ => rfl
  have read : ∀ path, Host.read { h with garbled := names } path = h.read path := fun _ => rfl
  unfold configure Config.load
  simp only [expanded, canonical, probed, read]

/-- **Breaking off**: the command fails for a root that a scan takes, because it stands for a home
    that is not known; and for a file whose name is no text.  Neither writes anything. -/
theorem symbols_withheld :
    (∃ e, Scan.symbols (Service.serving tildeTree).host {} "~nosuch" =
        .ok [⟨"A", .function, "/~nosuch/a.go", 2, 6⟩] ∧
      (start ["--config-dir", "/w", "symbols", "~nosuch"] ""
        (Service.serving tildeTree).host).2 = .ended e ∧
      e.status = .error .homeless ∧ e.output = "") ∧
    ∃ e, Scan.symbols garbledHost {} "/w" = .ok [oddSymbol] ∧
      (start ["--config-dir", "/w", "symbols", "/w"] "" garbledHost).2 = .ended e ∧
      e.status = .error .halfCharacter ∧ e.output = "" := by
  constructor
  · have parses : Invocation.parse ["--config-dir", "/w", "symbols", "~nosuch"] =
      .ok ⟨"/w", .symbols "~nosuch"⟩ := rfl
    have configured := configure_serving sound_tildeTree.orderly ⟨_, rfl⟩ rfl
    refine ⟨_, symbols_tildeTree, start_configured parses configured (openLog_none _), rfl, rfl⟩
  · have configured : configure garbledHost "/w" = .ok ("/w", {}) :=
      (configure_garbled _ _ _).trans (configure_serving sound_oddTree.orderly ⟨_, rfl⟩ rfl)
    have scanned : Scan.symbols garbledHost {} "/w" = .ok [oddSymbol] :=
      (@Scan.symbols_of_files (Service.serving oddTree).host garbledHost rfl {} "/w").trans
        symbols_oddTree
    have leads : (garbledHost.expandHome "/w").bind garbledHost.canonical = .ok "/w" :=
      leads_oddTree
    obtain ⟨after, names, written⟩ := @listSymbols_of_scan _ {} _ _ _ leads scanned
    have garbled : after.isText oddSymbol.path = false := by
      unfold Host.isText
      rw [names]
      decide
    refine ⟨listSymbols garbledHost {} "/w", scanned,
      start_configured listing_parses configured (openLog_none _), ?_, ?_⟩
    · rw [written]
      exact endList_broken (List.mem_singleton_self _) garbled
    · rw [written]
      unfold endList
      rw [List.takeWhile_cons, if_neg (by rw [garbled]; exact Bool.false_ne_true)]
      rfl

end GoWorkbench.CommandLine
