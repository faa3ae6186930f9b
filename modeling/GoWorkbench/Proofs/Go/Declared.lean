/-
  Which names the outline of a tree holds, and in which order.

  1. **Places** — a node is told by its place: which child to take at each level.  Of two nodes on
     different branches, the one on the branch further left comes first (`Before`).
  2. **Declared names** — `Declares root kind place n` says level by level where a declared name
     stands.  Nothing below a body, a type or a value is mentioned, so nothing there declares.
  3. **Listings** — `Lists P xs`: `xs` are the things that `P` says are somewhere, each once, in
     the order of their places.  Choosing among children gives a listing, and so does listing what
     is below each thing listed.
  4. **Exactness** — the declared names with their kinds are a listing (`lists_declared`), and the
     outline takes those that have a text.
-/
import GoWorkbench.Go.Outline
import Mathlib.Tactic.Choose

namespace GoWorkbench.Go

/-! ## Places -/

/-- The node at a place: which child to take at each level. -/
def Node.at? : List Nat → Node → Option Node
  | [], n => some n
  | i :: place, n => n.children[i]?.bind (Node.at? place)

/-- The places part somewhere, and the first goes further left there. -/
inductive Before : List Nat → List Nat → Prop
  | parts {i j : Nat} {a b : List Nat} (left : i < j) : Before (i :: a) (j :: b)
  | shared {i : Nat} {a b : List Nat} (later : Before a b) : Before (i :: a) (i :: b)

/-- What is below two places is in the order of the places. -/
theorem Before.append {a b : List Nat} (h : Before a b) (c d : List Nat) :
    Before (a ++ c) (b ++ d) := by
  induction h with
  | parts left => exact .parts left
  | shared _ ih => exact .shared ih

/-- Places below one place are in the order of what they add. -/
theorem Before.prepend {a b : List Nat} (h : Before a b) (c : List Nat) :
    Before (c ++ a) (c ++ b) := by
  induction c with
  | nil => exact h
  | cons i c ih => exact .shared ih

theorem Before.asymm {a b : List Nat} (h : Before a b) : ¬ Before b a := by
  induction h with
  | parts left =>
    intro h
    cases h with
    | parts right => omega
    | shared _ => exact Nat.lt_irrefl _ left
  | shared _ ih =>
    intro h
    cases h with
    | parts right => exact Nat.lt_irrefl _ right
    | shared h => exact ih h

/-! ## Declared names -/

/-- The `i`-th child, which is not punctuation. -/
structure NamedChild (n : Node) (i : Nat) (c : Node) : Prop where
  found : n.children[i]? = some c
  named : c.label.named = true

/-- The `i`-th child, which is there as a name. -/
structure NameChild (n : Node) (i : Nat) (c : Node) : Prop where
  found : n.children[i]? = some c
  name : c.label.field = some .name

/-- The `i`-th child, which is the first that is there as a name. -/
structure FirstName (n : Node) (i : Nat) (c : Node) : Prop extends NameChild n i c where
  first : ∀ j < i, ∀ d, ¬ NameChild n j d

/-- The kinds of lists that specifications stand in. -/
def specLists : List Kind := [.varSpecList, .constSpecList, .typeSpecList]

/-- A specification of one of the kinds, directly in a declaration or in one list in it. -/
inductive SpecAt (kinds : List Kind) (declaration : Node) : List Nat → Node → Prop
  | direct {i : Nat} {spec : Node} (here : NamedChild declaration i spec)
      (kind : spec.label.kind ∈ kinds) : SpecAt kinds declaration [i] spec
  | listed {i j : Nat} {list spec : Node} (list_here : NamedChild declaration i list)
      (is_list : list.label.kind ∈ specLists) (here : NamedChild list j spec)
      (kind : spec.label.kind ∈ kinds) : SpecAt kinds declaration [i, j] spec

/-- The name at a place below a declaration is declared by it. -/
inductive DeclaredBy (d : Node) : SymbolKind → List Nat → Node → Prop
  | functionName {j : Nat} {n : Node} (kind : d.label.kind = .functionDeclaration)
      (name : FirstName d j n) : DeclaredBy d .function [j] n
  | methodName {j : Nat} {n : Node} (kind : d.label.kind = .methodDeclaration)
      (name : FirstName d j n) : DeclaredBy d .method [j] n
  | typeName {j : Nat} {above : List Nat} {spec n : Node} (kind : d.label.kind = .typeDeclaration)
      (there : SpecAt [.typeSpec, .typeAlias] d above spec) (name : FirstName spec j n) :
      DeclaredBy d .struct (above ++ [j]) n
  | variableName {j : Nat} {above : List Nat} {spec n : Node}
      (kind : d.label.kind = .varDeclaration) (there : SpecAt [.varSpec] d above spec)
      (name : NameChild spec j n) (identifier : n.label.kind = .identifier) :
      DeclaredBy d .variable (above ++ [j]) n
  | constantName {j : Nat} {above : List Nat} {spec n : Node}
      (kind : d.label.kind = .constDeclaration) (there : SpecAt [.constSpec] d above spec)
      (name : NameChild spec j n) (identifier : n.label.kind = .identifier) :
      DeclaredBy d .constant (above ++ [j]) n

/-- The name at the place is declared at file scope: by a child of the root. -/
inductive Declares (root : Node) (kind : SymbolKind) : List Nat → Node → Prop
  | intro {i : Nat} {place : List Nat} {d n : Node} (declaration : NamedChild root i d)
      (name : DeclaredBy d kind place n) : Declares root kind (i :: place) n

theorem Node.at?_child {n c : Node} {i : Nat} (h : n.children[i]? = some c) (place : List Nat) :
    n.at? (i :: place) = c.at? place := by
  show n.children[i]?.bind (Node.at? place) = _
  rw [h]
  rfl

/-- A specification is where it is said to be. -/
theorem SpecAt.at? {kinds : List Kind} {d s : Node} {place : List Nat}
    (h : SpecAt kinds d place s) (rest : List Nat) : d.at? (place ++ rest) = s.at? rest := by
  cases h with
  | direct here _ => exact Node.at?_child here.found rest
  | listed list_here _ here _ =>
    exact (Node.at?_child list_here.found _).trans (Node.at?_child here.found rest)

/-- A declared name is where it is said to be. -/
theorem DeclaredBy.at? {d n : Node} {kind : SymbolKind} {place : List Nat}
    (h : DeclaredBy d kind place n) : d.at? place = some n := by
  cases h with
  | functionName _ name | methodName _ name => exact Node.at?_child name.found []
  | typeName _ there name => exact (there.at? _).trans (Node.at?_child name.found [])
  | variableName _ there name _ | constantName _ there name _ =>
    exact (there.at? _).trans (Node.at?_child name.found [])

theorem Declares.at? {root n : Node} {kind : SymbolKind} {place : List Nat}
    (h : Declares root kind place n) : root.at? place = some n := by
  cases h with
  | intro declaration name => exact (Node.at?_child declaration.found _).trans name.at?

/-! ## Listings -/

/-- The things that `P` says are at some place, each once, in the order of their places. -/
def Lists {α : Type} (P : List Nat → α → Prop) (xs : List α) : Prop :=
  ∃ found : List (List Nat × α), found.map Prod.snd = xs ∧
    (∀ place x, (place, x) ∈ found ↔ P place x) ∧ found.Pairwise fun a b => Before a.1 b.1

section Lists

variable {α β : Type} {P P' : List Nat → α → Prop} {xs : List α}

theorem Lists.congr (h : Lists P xs) (same : ∀ place x, P place x ↔ P' place x) :
    Lists P' xs := by
  obtain ⟨found, hfound, mem, ordered⟩ := h
  exact ⟨found, hfound, fun place x => (mem place x).trans (same place x), ordered⟩

theorem lists_nil (nothing : ∀ place x, ¬ P place x) : Lists P [] := by
  refine ⟨[], rfl, fun place x => ?_, List.Pairwise.nil⟩
  exact ⟨fun h => absurd h List.not_mem_nil, fun h => absurd h (nothing place x)⟩

theorem lists_singleton {a : α} : Lists (fun place x => place = [] ∧ x = a) [a] := by
  refine ⟨[([], a)], rfl, fun place x => ?_, List.pairwise_singleton _ _⟩
  rw [List.mem_singleton, Prod.mk.injEq]

/-- Choosing among the members of a list gives a listing. -/
theorem lists_filter (q : α → Bool) (xs : List α) :
    Lists (fun place x => ∃ i, place = [i] ∧ xs[i]? = some x ∧ q x = true) (xs.filter q) := by
  refine ⟨(xs.zipIdx.filter fun e => q e.1).map fun e => ([e.2], e.1), ?_, fun place x => ?_, ?_⟩
  · have all : (xs.zipIdx.filter (q ∘ Prod.fst)).map Prod.fst = xs.filter q := by
      rw [← List.filter_map, List.zipIdx_map_fst]
    rw [List.map_map]
    exact all
  · rw [List.mem_map]
    constructor
    · rintro ⟨⟨y, i⟩, he, heq⟩
      obtain ⟨rfl, rfl⟩ := Prod.mk.inj heq
      obtain ⟨hmem, hq⟩ := List.mem_filter.mp he
      exact ⟨i, rfl, List.mk_mem_zipIdx_iff_getElem?.mp hmem, hq⟩
    · rintro ⟨i, rfl, hget, hq⟩
      exact ⟨(x, i), List.mem_filter.mpr ⟨List.mk_mem_zipIdx_iff_getElem?.mpr hget, hq⟩, rfl⟩
  · have increasing : xs.zipIdx.Pairwise fun a b => a.2 < b.2 := by
      apply List.pairwise_map.mp
      rw [List.zipIdx_map_snd]
      exact List.pairwise_lt_range'
    exact List.pairwise_map.mpr ((increasing.filter _).imp fun h => .parts h)

/-- The first thing listed is the only one that nothing is before. -/
theorem Lists.take_one (h : Lists P xs) :
    Lists (fun place x => P place x ∧ ∀ other y, P other y → ¬ Before other place)
      (xs.take 1) := by
  obtain ⟨found, rfl, mem, ordered⟩ := h
  cases found with
  | nil => exact lists_nil fun place x h => absurd ((mem place x).mpr h.1) List.not_mem_nil
  | cons first rest =>
    obtain ⟨later, -⟩ := List.pairwise_cons.mp ordered
    refine ⟨[first], rfl, fun place x => ?_, List.pairwise_singleton _ _⟩
    rw [List.mem_singleton]
    constructor
    · rintro rfl
      refine ⟨(mem place x).mp List.mem_cons_self, fun other y hother before => ?_⟩
      rcases List.mem_cons.mp ((mem other y).mpr hother) with heq | hrest
      · rw [(Prod.mk.inj heq).1] at before
        exact before.asymm before
      · exact (later _ hrest).asymm before
    · rintro ⟨hP, least⟩
      rcases List.mem_cons.mp ((mem place x).mpr hP) with heq | hrest
      · exact heq
      · exact absurd (later _ hrest) (least _ _ ((mem _ _).mp List.mem_cons_self))

theorem Lists.map (h : Lists P xs) (f : α → β) :
    Lists (fun place y => ∃ x, P place x ∧ f x = y) (xs.map f) := by
  obtain ⟨found, rfl, mem, ordered⟩ := h
  refine ⟨found.map fun e => (e.1, f e.2), ?_, fun place y => ?_, ?_⟩
  · rw [List.map_map, List.map_map]
    rfl
  · rw [List.mem_map]
    constructor
    · rintro ⟨⟨_, x⟩, he, heq⟩
      obtain ⟨rfl, rfl⟩ := Prod.mk.inj heq
      exact ⟨x, (mem _ _).mp he, rfl⟩
    · rintro ⟨x, hP, rfl⟩
      exact ⟨(place, x), (mem _ _).mpr hP, rfl⟩
  · exact List.pairwise_map.mpr ordered

theorem Lists.filter (h : Lists P xs) (q : α → Bool) :
    Lists (fun place x => P place x ∧ q x = true) (xs.filter q) := by
  obtain ⟨found, rfl, mem, ordered⟩ := h
  refine ⟨found.filter fun e => q e.2, ?_, fun place x => ?_, ordered.filter _⟩
  · rw [List.filter_map]
    rfl
  · rw [List.mem_filter, mem]

/-- What is listed below each of the things listed is a listing. -/
theorem Lists.flatMap {Q : α → List Nat → β → Prop} {f : α → List β} (h : Lists P xs)
    (each : ∀ x, Lists (Q x) (f x)) :
    Lists (fun place y => ∃ above below x, place = above ++ below ∧ P above x ∧ Q x below y)
      (xs.flatMap f) := by
  obtain ⟨found, rfl, mem, ordered⟩ := h
  choose inner hinner inner_mem inner_ordered using each
  refine ⟨found.flatMap fun e => (inner e.2).map fun i => (e.1 ++ i.1, i.2), ?_,
    fun place y => ?_, ?_⟩
  · rw [List.map_flatMap, List.flatMap_map]
    congr 1
    funext e
    rw [List.map_map, ← hinner]
    rfl
  · rw [List.mem_flatMap]
    constructor
    · rintro ⟨⟨above, x⟩, he, hin⟩
      obtain ⟨⟨below, _⟩, hi, heq⟩ := List.mem_map.mp hin
      obtain ⟨rfl, rfl⟩ := Prod.mk.inj heq
      exact ⟨above, below, x, rfl, (mem _ _).mp he, (inner_mem x _ _).mp hi⟩
    · rintro ⟨above, below, x, rfl, hP, hQ⟩
      exact ⟨(above, x), (mem _ _).mpr hP,
        List.mem_map.mpr ⟨(below, y), (inner_mem x _ _).mpr hQ, rfl⟩⟩
  · rw [List.pairwise_flatMap]
    constructor
    · intro e _
      exact List.pairwise_map.mpr ((inner_ordered e.2).imp fun h => h.prepend e.1)
    · refine ordered.imp fun {a b} h => ?_
      intro x hx y hy
      obtain ⟨i, -, rfl⟩ := List.mem_map.mp hx
      obtain ⟨j, -, rfl⟩ := List.mem_map.mp hy
      exact h.append i.1 j.1

end Lists

/-! ## Exactness -/

theorem lists_namedChildren (n : Node) :
    Lists (fun place c => ∃ i, place = [i] ∧ NamedChild n i c) n.namedChildren := by
  refine (lists_filter (·.label.named) n.children).congr fun place c => ?_
  exact exists_congr fun i => and_congr_right fun _ => ⟨fun h => ⟨h.1, h.2⟩, fun h => ⟨h.1, h.2⟩⟩

theorem lists_inField (n : Node) :
    Lists (fun place c => ∃ i, place = [i] ∧ NameChild n i c) (n.inField .name) := by
  refine (lists_filter (fun c => c.label.field = some .name) n.children).congr fun place c => ?_
  refine exists_congr fun i => and_congr_right fun _ => ?_
  exact ⟨fun h => ⟨h.1, of_decide_eq_true h.2⟩, fun h => ⟨h.1, decide_eq_true h.2⟩⟩

theorem lists_firstName (n : Node) :
    Lists (fun place c => ∃ i, place = [i] ∧ FirstName n i c) (firstName n) := by
  refine (lists_inField n).take_one.congr fun place c => ?_
  constructor
  · rintro ⟨⟨i, rfl, child⟩, least⟩
    exact ⟨i, rfl, child, fun j hj d hd => least [j] d ⟨j, rfl, hd⟩ (.parts hj)⟩
  · rintro ⟨i, rfl, child, first⟩
    refine ⟨⟨i, rfl, child⟩, ?_⟩
    rintro _ d ⟨j, rfl, hd⟩ before
    cases before with
    | parts left => exact first j left d hd
    | shared later => cases later

theorem lists_allNames (n : Node) :
    Lists (fun place c => ∃ i, place = [i] ∧ NameChild n i c ∧ c.label.kind = .identifier)
      (allNames n) := by
  refine ((lists_inField n).filter fun c => c.label.kind = .identifier).congr fun place c => ?_
  constructor
  · rintro ⟨⟨i, rfl, child⟩, kind⟩
    exact ⟨i, rfl, child, of_decide_eq_true kind⟩
  · rintro ⟨i, rfl, child, kind⟩
    exact ⟨⟨i, rfl, child⟩, decide_eq_true kind⟩

/-- Specifications are listed, those in lists at their place among the others. -/
theorem lists_specs (declaration : Node) {kinds : List Kind}
    (no_list : ∀ kind ∈ kinds, kind ∉ specLists) :
    Lists (SpecAt kinds declaration) (specs declaration kinds) := by
  -- what is below a child is the child itself, or what a list holds
  have below : ∀ child : Node,
      Lists (fun place spec => (place = [] ∧ spec = child ∧ child.label.kind ∈ kinds) ∨
          (child.label.kind ∈ specLists ∧
            ∃ j, place = [j] ∧ NamedChild child j spec ∧ spec.label.kind ∈ kinds))
        (if child.label.kind ∈ kinds then [child]
         else if child.label.kind ∈ specLists then
           child.namedChildren.filter (·.label.kind ∈ kinds)
         else []) := by
    intro child
    by_cases hkind : child.label.kind ∈ kinds
    · rw [if_pos hkind]
      refine lists_singleton.congr fun place spec => ?_
      constructor
      · rintro ⟨rfl, rfl⟩
        exact Or.inl ⟨rfl, rfl, hkind⟩
      · rintro (⟨rfl, rfl, -⟩ | ⟨hlist, -⟩)
        · exact ⟨rfl, rfl⟩
        · exact absurd hlist (no_list _ hkind)
    · rw [if_neg hkind]
      by_cases hlist : child.label.kind ∈ specLists
      · rw [if_pos hlist]
        refine ((lists_namedChildren child).filter fun c => c.label.kind ∈ kinds).congr
          fun place spec => ?_
        constructor
        · rintro ⟨⟨j, rfl, here⟩, kind⟩
          exact Or.inr ⟨hlist, j, rfl, here, of_decide_eq_true kind⟩
        · rintro (⟨-, -, hno⟩ | ⟨-, j, rfl, here, kind⟩)
          · exact absurd hno hkind
          · exact ⟨⟨j, rfl, here⟩, decide_eq_true kind⟩
      · rw [if_neg hlist]
        refine lists_nil fun place spec => ?_
        rintro (⟨-, -, hno⟩ | ⟨hno, -⟩)
        · exact hkind hno
        · exact hlist hno
  refine ((lists_namedChildren declaration).flatMap below).congr fun place spec => ?_
  constructor
  · rintro ⟨_, _, child, rfl, ⟨i, rfl, here⟩, ⟨rfl, rfl, kind⟩ | ⟨hlist, j, rfl, inside, kind⟩⟩
    · exact .direct here kind
    · exact .listed here hlist inside kind
  · intro h
    cases h with
    | direct here kind => exact ⟨[_], [], _, rfl, ⟨_, rfl, here⟩, Or.inl ⟨rfl, rfl, kind⟩⟩
    | listed list_here is_list here kind =>
      exact ⟨[_], [_], _, rfl, ⟨_, rfl, list_here⟩, Or.inr ⟨is_list, _, rfl, here, kind⟩⟩

/-- The names below the specifications of a declaration are listed. -/
theorem lists_below_specs {Name : Node → Nat → Node → Prop} {names : Node → List Node}
    (each : ∀ spec, Lists (fun place c => ∃ j, place = [j] ∧ Name spec j c) (names spec))
    (declaration : Node) {kinds : List Kind} (no_list : ∀ kind ∈ kinds, kind ∉ specLists)
    (kind : SymbolKind) :
    Lists (fun place (found : SymbolKind × Node) => found.1 = kind ∧
        ∃ above j spec, place = above ++ [j] ∧ SpecAt kinds declaration above spec ∧
          Name spec j found.2)
      (((specs declaration kinds).flatMap names).map (kind, ·)) := by
  refine (((lists_specs declaration no_list).flatMap each).map _).congr fun place found => ?_
  constructor
  · rintro ⟨n, ⟨above, _, spec, rfl, hspec, j, rfl, hname⟩, rfl⟩
    exact ⟨rfl, above, j, spec, rfl, hspec, hname⟩
  · rintro ⟨rfl, above, j, spec, rfl, hspec, hname⟩
    exact ⟨found.2, ⟨above, [j], spec, rfl, hspec, j, rfl, hname⟩, rfl⟩

/-- The names of functions and methods are listed. -/
theorem lists_firstNameOf (d : Node) (kind : SymbolKind) :
    Lists (fun place (found : SymbolKind × Node) => found.1 = kind ∧
        ∃ j, place = [j] ∧ FirstName d j found.2)
      ((firstName d).map (kind, ·)) := by
  refine ((lists_firstName d).map _).congr fun place found => ?_
  constructor
  · rintro ⟨n, hn, rfl⟩
    exact ⟨rfl, hn⟩
  · rintro ⟨rfl, hn⟩
    exact ⟨found.2, hn, rfl⟩

/-- The names that a node at file scope declares are listed. -/
theorem lists_declaredBy (d : Node) :
    Lists (fun place found => DeclaredBy d found.1 place found.2) (declaredBy d) := by
  unfold declaredBy
  -- in each case the kind of the node leaves one way of declaring
  split
  · rename_i kind
    refine (lists_firstNameOf d .function).congr fun place ⟨symbol, n⟩ => ?_
    constructor
    · rintro ⟨rfl, j, rfl, name⟩
      exact .functionName kind name
    · intro h
      cases h with
      | functionName _ name => exact ⟨rfl, _, rfl, name⟩
      | methodName other | typeName other | variableName other | constantName other =>
        rw [kind] at other; cases other
  · rename_i kind
    refine (lists_firstNameOf d .method).congr fun place ⟨symbol, n⟩ => ?_
    constructor
    · rintro ⟨rfl, j, rfl, name⟩
      exact .methodName kind name
    · intro h
      cases h with
      | methodName _ name => exact ⟨rfl, _, rfl, name⟩
      | functionName other | typeName other | variableName other | constantName other =>
        rw [kind] at other; cases other
  · rename_i kind
    refine (lists_below_specs lists_firstName d (by decide) .struct).congr
      fun place ⟨symbol, n⟩ => ?_
    constructor
    · rintro ⟨rfl, above, j, spec, rfl, there, name⟩
      exact .typeName kind there name
    · intro h
      cases h with
      | typeName _ there name => exact ⟨rfl, _, _, _, rfl, there, name⟩
      | functionName other | methodName other | variableName other | constantName other =>
        rw [kind] at other; cases other
  · rename_i kind
    refine (lists_below_specs lists_allNames d (by decide) .variable).congr
      fun place ⟨symbol, n⟩ => ?_
    constructor
    · rintro ⟨rfl, above, j, spec, rfl, there, name, identifier⟩
      exact .variableName kind there name identifier
    · intro h
      cases h with
      | variableName _ there name identifier =>
        exact ⟨rfl, _, _, _, rfl, there, name, identifier⟩
      | functionName other | methodName other | typeName other | constantName other =>
        rw [kind] at other; cases other
  · rename_i kind
    refine (lists_below_specs lists_allNames d (by decide) .constant).congr
      fun place ⟨symbol, n⟩ => ?_
    constructor
    · rintro ⟨rfl, above, j, spec, rfl, there, name, identifier⟩
      exact .constantName kind there name identifier
    · intro h
      cases h with
      | constantName _ there name identifier =>
        exact ⟨rfl, _, _, _, rfl, there, name, identifier⟩
      | functionName other | methodName other | typeName other | variableName other =>
        rw [kind] at other; cases other
  · rename_i hfunction hmethod htype hvar hconst
    refine lists_nil fun place ⟨symbol, n⟩ h => ?_
    cases h with
    | functionName kind => exact hfunction kind
    | methodName kind => exact hmethod kind
    | typeName kind => exact htype kind
    | variableName kind => exact hvar kind
    | constantName kind => exact hconst kind

/-- The names declared at file scope are listed. -/
theorem lists_declared (root : Node) :
    Lists (fun place found => Declares root found.1 place found.2)
      (root.namedChildren.flatMap declaredBy) := by
  refine ((lists_namedChildren root).flatMap lists_declaredBy).congr fun place ⟨symbol, n⟩ => ?_
  constructor
  · rintro ⟨_, below, d, rfl, ⟨i, rfl, declaration⟩, name⟩
    exact .intro declaration name
  · intro h
    cases h with
    | intro declaration name => exact ⟨[_], _, _, rfl, ⟨_, rfl, declaration⟩, name⟩

/-- There is an error in a tree exactly if there is one at some place. -/
theorem hasError_iff (n : Node) :
    n.hasError = true ↔ ∃ place m, n.at? place = some m ∧ m.label.error = true := by
  obtain ⟨l, cs⟩ := n
  rw [Node.hasError, Node.anyError_eq, Bool.or_eq_true, List.any_eq_true]
  constructor
  · rintro (h | ⟨c, hc, h⟩)
    · exact ⟨[], .mk l cs, rfl, h⟩
    · obtain ⟨place, m, hm, herror⟩ := (hasError_iff c).mp h
      obtain ⟨i, hi⟩ := List.mem_iff_getElem?.mp hc
      exact ⟨i :: place, m, (Node.at?_child (n := .mk l cs) hi place).trans hm, herror⟩
  · rintro ⟨place, m, hm, herror⟩
    cases place with
    | nil =>
      rw [← Option.some.inj hm] at herror
      exact Or.inl herror
    | cons i place =>
      obtain ⟨c, hi, hbelow⟩ := Option.bind_eq_some_iff.mp hm
      have hc : c ∈ cs := List.mem_iff_getElem?.mpr ⟨i, hi⟩
      exact Or.inr ⟨c, hc, (hasError_iff c).mpr ⟨place, m, hbelow, herror⟩⟩
termination_by sizeOf n
decreasing_by
  all_goals
    have := List.sizeOf_lt_of_mem hc
    simp only [*, Node.mk.sizeOf_spec]
    omega

/-- The symbol of a name: its text, and its place counted from one. -/
def symbolFor (path : String) (kind : SymbolKind) (n : Node) : Symbol :=
  ⟨n.label.text, kind, path, n.label.start.row + 1, n.label.start.column + 1⟩

/-- The symbols of names are those of the names that have a text. -/
theorem filterMap_symbolOf (path : String) (declared : List (SymbolKind × Node)) :
    declared.filterMap (fun (kind, n) => symbolOf path kind n) =
      (declared.filter fun d => !d.2.label.text.isEmpty).map fun d => symbolFor path d.1 d.2 := by
  induction declared with
  | nil => rfl
  | cons d declared ih =>
    obtain ⟨kind, n⟩ := d
    rw [List.filterMap_cons, ih]
    dsimp only
    by_cases h : n.label.text.isEmpty = true
    · have skipped : symbolOf path kind n = none := if_pos h
      rw [skipped, List.filter_cons_of_neg (by simp [h])]
    · have taken : symbolOf path kind n = some (symbolFor path kind n) := if_neg h
      rw [taken, List.filter_cons_of_pos (by simp [h]), List.map_cons]

/-- **The outline of a tree is exact**: a tree with an error anywhere has none, and any other has
    one symbol for each name with a text that is declared at file scope, in the order of the places,
    and no other. -/
theorem symbolsOf_exact (path : String) (root : Node) :
    ((∃ place n, root.at? place = some n ∧ n.label.error = true) → symbolsOf path root = []) ∧
    ((∀ place n, root.at? place = some n → n.label.error = false) →
      ∃ found : List (List Nat × SymbolKind × Node),
        symbolsOf path root = found.map (fun d => symbolFor path d.2.1 d.2.2) ∧
        (∀ place kind n, (place, kind, n) ∈ found ↔
          Declares root kind place n ∧ n.label.text ≠ "") ∧
        (∀ place kind n, (place, kind, n) ∈ found → root.at? place = some n) ∧
        found.Pairwise fun a b => Before a.1 b.1) := by
  constructor
  · intro error
    unfold symbolsOf
    rw [if_pos ((hasError_iff root).mpr error)]
  · intro sound
    have clean : ¬ root.hasError = true := by
      rw [hasError_iff]
      rintro ⟨place, n, hn, herror⟩
      rw [sound place n hn] at herror
      cases herror
    obtain ⟨found, hfound, mem, ordered⟩ := (lists_declared root).filter
      fun declared => !declared.2.label.text.isEmpty
    have members : ∀ place kind n, (place, kind, n) ∈ found ↔
        Declares root kind place n ∧ n.label.text ≠ "" := by
      intro place kind n
      refine (mem place (kind, n)).trans (and_congr_right fun _ => ?_)
      rw [Bool.not_eq_true', String.isEmpty_eq_false_iff]
    refine ⟨found, ?_, members, fun place kind n h => ((members place kind n).mp h).1.at?, ordered⟩
    unfold symbolsOf
    rw [if_neg clean, filterMap_symbolOf, ← hfound, List.map_map]
    rfl

/-! A source with a function that has declarations in its body, and a group of variables, one of
    which stands with others in one specification. -/

def nameNode (text : String) (start : Position) : Node :=
  .mk { kind := .identifier, field := some .name, text, start } []

def commaNode : Node :=
  .mk { kind := .other ",", field := some .name, named := false, text := "," } []

def nested : Node :=
  .mk { kind := .sourceFile } [
    .mk { kind := .functionDeclaration } [
      nameNode "f" ⟨0, 5⟩,
      .mk { kind := .other "block" } [
        .mk { kind := .varDeclaration } [.mk { kind := .varSpec } [nameNode "inner" ⟨1, 5⟩]]]],
    .mk { kind := .varDeclaration } [
      .mk { kind := .varSpecList } [
        .mk { kind := .varSpec } [nameNode "a" ⟨4, 1⟩, commaNode, nameNode "b" ⟨4, 4⟩]]]]

def broken : Node :=
  .mk { kind := .sourceFile } [nested, .mk { kind := .other "block", error := true } []]

theorem symbolsOf_exact_nested :
    symbolsOf "m.go" broken = [] ∧
    ∃ found : List (List Nat × SymbolKind × Node),
      symbolsOf "m.go" nested = found.map (fun d => symbolFor "m.go" d.2.1 d.2.2) ∧
      ([0, 0], .function, nameNode "f" ⟨0, 5⟩) ∈ found ∧
      ([1, 0, 0, 2], .variable, nameNode "b" ⟨4, 4⟩) ∈ found ∧
      found.Pairwise fun a b => Before a.1 b.1 := by
  have clean : ∀ place n, nested.at? place = some n → n.label.error = false := by
    intro place n hn
    refine Bool.eq_false_iff.mpr fun herror => ?_
    have : nested.hasError = true := (hasError_iff nested).mpr ⟨place, n, hn, herror⟩
    revert this; decide
  obtain ⟨found, hfound, mem, -, ordered⟩ := (symbolsOf_exact "m.go" nested).2 clean
  refine ⟨(symbolsOf_exact "m.go" broken).1 ⟨[1], _, rfl, rfl⟩, found, hfound, ?_, ?_, ordered⟩
  · refine (mem _ _ _).mpr ⟨.intro ⟨rfl, rfl⟩ (.functionName rfl ⟨⟨rfl, rfl⟩, ?_⟩), by decide⟩
    intro j hj
    exact absurd hj (Nat.not_lt_zero j)
  · refine (mem _ _ _).mpr ⟨.intro ⟨rfl, rfl⟩ (@DeclaredBy.variableName _ _ [0, 0] _ _ rfl
      (.listed ⟨rfl, rfl⟩ (by decide) ⟨rfl, rfl⟩ (by decide)) ⟨rfl, rfl⟩ rfl), by decide⟩

end GoWorkbench.Go
