/-
  What rules lead to.

  A rule *leads* from a state to states if it does so at every depth that suffices for the tokens
  left, and no two of the states are alike (`Leads`).  Rules over a few tokens are foreseen
  (`leads_to_end`, `leads_nowhere`); longer ones are put together:

  1. **Sequences** — `Leads.append`, `Leads.last`, and `Leads.closed` where only the furthest of
     several states can go on.
  2. **Alternatives** — `Leads.only` where the others lead nowhere, `Leads.opt` where there may be
     nothing.
  3. **Repetition** — `Repeats` follows a rule step by step to where it stops; rounds and depth are
     bounded apart, because each step takes a round but none of the depth.
  4. **Nodes** — `Leads.node`, `Leads.blind`, `Leads.part`.
-/
import GoWorkbench.Proofs.Go.Foresight
import GoWorkbench.Proofs.Go.Growth

namespace GoWorkbench.Go

open Rule

/-- The rule leads from the state to the states, at any depth beyond `c` for the tokens left. -/
def Leads (c : Nat) (r : Rule Part) (s : State) (found : List State) : Prop :=
  Ordered s.rest → ∀ n, c + s.rest.length ≤ n →
    r.follow grammar n s = found ∧ distinct found = found

variable {c d : Nat} {r r' : Rule Part} {rules before after : List (Rule Part)} {s t u : State}
  {found : List State} {signs : List Sign}

theorem Leads.mono (h : Leads c r s found) (le : c ≤ d) : Leads d r s found :=
  fun ordered n hn => h ordered n (by omega)

/-- **What is foreseen** is led to. -/
theorem leads_to_end {e : End} (foreseen : r.foresee grammar signs c 0 = some [e])
    (shown : Shown signs s.rest) : Leads c r s [e.state s.rest s.nodes] := by
  intro ordered n hn
  have sound := foreseen_follow ordered shown (show c ≤ n by omega) r 0 _ (Nat.zero_le _) foreseen
  exact ⟨sound.2 s.nodes, rfl⟩

/-- A rule that is foreseen to lead nowhere. -/
theorem leads_nowhere (foreseen : r.foresee grammar signs c 0 = some [])
    (shown : Shown signs s.rest) : Leads c r s [] := by
  intro ordered n hn
  have sound := foreseen_follow ordered shown (show c ≤ n by omega) r 0 _ (Nat.zero_le _) foreseen
  exact ⟨sound.2 s.nodes, rfl⟩

/-- The tokens that are left come after others. -/
theorem rest_suffix {n : Nat} (h : t ∈ r.follow grammar n s) : t.rest <:+ s.rest := by
  obtain ⟨passed, -, is, -⟩ := grown_follow n r s t h
  exact ⟨passed, is.symm⟩

theorem Ordered.of_suffix {tokens rest : List Token} (ordered : Ordered tokens)
    (suffix : rest <:+ tokens) : Ordered rest := ordered.sublist suffix.sublist

/-! ## Sequences -/

/-- The last rule of a sequence. -/
theorem Leads.last (h : Leads c r s found) : Leads (c + 1) (.all [r]) s found := by
  intro ordered n hn
  obtain ⟨n, rfl⟩ : ∃ m, n = m + 1 := ⟨n - 1, by omega⟩
  obtain ⟨goes, apart⟩ := h ordered n (by omega)
  refine ⟨?_, apart⟩
  rw [Rule.follow, List.foldl_cons, List.foldl_nil, List.flatMap_singleton, goes, apart]

/-- **A sequence goes on** where its beginning has led. -/
theorem Leads.append (h : Leads c (.all before) s [u]) (on : Leads c (.all after) u found) :
    Leads c (.all (before ++ after)) s found := by
  intro ordered n hn
  obtain ⟨first, -⟩ := h ordered n hn
  obtain ⟨n, rfl⟩ : ∃ m, n = m + 1 := by
    cases n with
    | zero => cases first
    | succ n => exact ⟨n, rfl⟩
  have suffix : u.rest <:+ s.rest := rest_suffix (by rw [first]; exact List.mem_singleton_self _)
  obtain ⟨second, apart⟩ := on (ordered.of_suffix suffix) (n + 1)
    (Nat.le_trans (Nat.add_le_add_left suffix.length_le c) hn)
  refine ⟨?_, apart⟩
  rw [Rule.follow] at first second ⊢
  rw [List.foldl_append, first, second]

/-- **A rule with an end**: of the states that it leads to, only the first can go on. -/
theorem Leads.closed {early : List State} (h : Leads c r s (u :: early)) (on : Leads c r' u [t])
    (off : ∀ e ∈ early, Leads c r' e []) : Leads (c + 1) (.all [r, r']) s [t] := by
  intro ordered n hn
  obtain ⟨n, rfl⟩ : ∃ m, n = m + 1 := ⟨n - 1, by omega⟩
  obtain ⟨first, apart⟩ := h ordered n (by omega)
  have goes : ∀ e ∈ u :: early, ∀ found, Leads c r' e found → r'.follow grammar n e = found := by
    intro e he found leads
    have suffix : e.rest <:+ s.rest := rest_suffix (by rw [first]; exact he)
    have := suffix.length_le
    exact (leads (ordered.of_suffix suffix) n (by omega)).1
  have nothing : early.flatMap (r'.follow grammar n) = [] :=
    List.flatMap_eq_nil_iff.mpr fun e he => goes e (List.mem_cons_of_mem _ he) [] (off e he)
  refine ⟨?_, rfl⟩
  rw [Rule.follow, List.foldl_cons, List.foldl_cons, List.foldl_nil, List.flatMap_singleton, first,
    apart, List.flatMap_cons, goes u List.mem_cons_self _ on, nothing, List.append_nil]
  rfl

/-! ## Alternatives -/

theorem distinct_eq_nil {states : List State} (h : distinct states = []) : states = [] := by
  cases states with
  | nil => rfl
  | cons s states => rw [distinct_cons] at h; cases h

/-- **The only alternative** that leads anywhere. -/
theorem Leads.only (before after : List (Rule Part)) (h : Leads c r s found)
    (others : Leads (c + 1) (.any (before ++ after)) s []) :
    Leads (c + 1) (.any (before ++ r :: after)) s found := by
  intro ordered n hn
  obtain ⟨n, rfl⟩ : ∃ m, n = m + 1 := ⟨n - 1, by omega⟩
  obtain ⟨goes, apart⟩ := h ordered n (by omega)
  obtain ⟨nothing, -⟩ := others ordered (n + 1) hn
  refine ⟨?_, apart⟩
  rw [Rule.follow] at nothing ⊢
  have nothing := distinct_eq_nil nothing
  rw [List.flatMap_append, List.append_eq_nil_iff] at nothing
  rw [List.flatMap_append, List.flatMap_cons, nothing.1, nothing.2, goes, List.nil_append,
    List.append_nil, apart]

/-- A state with fewer tokens left is in another place. -/
theorem distinct_pair (ordered : Ordered s.rest) (suffix : u.rest <:+ s.rest)
    (fewer : u.rest.length < s.rest.length) : distinct [u, s] = [u, s] := by
  have other : s.place ≠ u.place := by
    obtain ⟨passed, is⟩ := suffix
    rw [← is] at ordered fewer
    unfold State.place
    rw [← is]
    rw [List.length_append] at fewer
    cases passed with
    | nil => simp at fewer
    | cons token passed =>
      intro same
      obtain ⟨token', hrest, hoffset⟩ := Option.map_eq_some_iff.mp same.symm
      obtain ⟨more, hmore⟩ := List.head?_eq_some_iff.mp hrest
      have lt := (List.pairwise_cons.mp ordered).1 token'
        (List.mem_append_right _ (by rw [hmore]; exact List.mem_cons_self))
      omega
  have kept : [s].filter (fun t => t.place != u.place) = [s] :=
    List.filter_eq_self.mpr (List.forall_mem_singleton.mpr (bne_iff_ne.mpr other))
  rw [distinct_cons, distinct, kept]

/-- The rule or nothing. -/
theorem Leads.opt (h : Leads c r s [u]) (some_depth : 0 < c)
    (fewer : u.rest.length < s.rest.length) : Leads (c + 1) (opt r) s [u, s] := by
  intro ordered n hn
  obtain ⟨n, rfl⟩ : ∃ m, n = m + 2 := ⟨n - 2, by omega⟩
  obtain ⟨first, -⟩ := h ordered (n + 1) (by omega)
  have suffix : u.rest <:+ s.rest := rest_suffix (by rw [first]; exact List.mem_singleton_self _)
  have apart := distinct_pair ordered suffix fewer
  refine ⟨?_, apart⟩
  have nothing : (Rule.all []).follow grammar (n + 1) s = [s] := rfl
  unfold Rule.opt
  rw [Rule.follow, List.flatMap_cons, List.flatMap_cons, List.flatMap_nil, first, nothing]
  exact apart

/-! ## Repetition -/

/-- Repeating the rule leads from the state to the other one. -/
def Repeats (c : Nat) (r : Rule Part) (s t : State) : Prop :=
  Ordered s.rest → ∀ n, c + s.rest.length ≤ n → ∀ rounds, s.rest.length < rounds →
    saturate (r.follow grammar n) rounds [s] = [t]

/-- Where the rule leads nowhere, repeating it stops. -/
theorem Leads.stops (h : Leads c r s []) : Repeats c r s s := by
  intro ordered n hn rounds hrounds
  obtain ⟨rounds, rfl⟩ : ∃ m, rounds = m + 1 := ⟨rounds - 1, by omega⟩
  rw [saturate, (h ordered n hn).1]
  cases rounds <;> rfl

/-- **One step more.** -/
theorem Leads.repeats (h : Leads c r s [u]) (fewer : u.rest.length < s.rest.length)
    (on : Repeats c r u t) : Repeats c r s t := by
  intro ordered n hn rounds hrounds
  obtain ⟨first, -⟩ := h ordered n hn
  have suffix : u.rest <:+ s.rest := rest_suffix (by rw [first]; exact List.mem_singleton_self _)
  obtain ⟨rounds, rfl⟩ : ∃ m, rounds = m + 1 := ⟨rounds - 1, by omega⟩
  rw [saturate, first]
  exact on (ordered.of_suffix suffix) n (by omega) rounds (by omega)

theorem Repeats.many (h : Repeats c r s t) (some_depth : 0 < c) : Leads (c + 1) (.many r) s [t] := by
  intro ordered n hn
  obtain ⟨n, rfl⟩ : ∃ m, n = m + 1 := ⟨n - 1, by omega⟩
  rw [Rule.follow]
  exact ⟨h ordered n (by omega) n (by omega), rfl⟩

/-! ## Nodes -/

theorem Leads.part {p : Part} (h : Leads c (grammar p) s found) :
    Leads (c + 1) (.part p) s found := by
  intro ordered n hn
  obtain ⟨n, rfl⟩ : ∃ m, n = m + 1 := ⟨n - 1, by omega⟩
  rw [Rule.follow]
  exact h ordered n (by omega)

/-- States are alike by the tokens left, whatever the nodes. -/
theorem distinct_map (nodes : State → List Node) (states : List State) :
    distinct (states.map fun t => ⟨nodes t, t.rest⟩) =
      (distinct states).map fun t => ⟨nodes t, t.rest⟩ := by
  induction states with
  | nil => rfl
  | cons s states ih =>
    rw [List.map_cons, distinct_cons, ih, distinct_cons, List.map_cons, List.filter_map]
    rfl

/-- A rule that does what another one does from no nodes, and makes something of the nodes built. -/
theorem Leads.rebuilds {r' : Rule Part} {nodes : List Node} {tokens : List Token}
    {made : State → List Node} (h : Leads c r ⟨[], tokens⟩ found)
    (follows : ∀ n, r'.follow grammar (n + 1) ⟨nodes, tokens⟩ =
      (r.follow grammar n ⟨[], tokens⟩).map fun t => ⟨made t, t.rest⟩) :
    Leads (c + 1) r' ⟨nodes, tokens⟩ (found.map fun t => ⟨made t, t.rest⟩) := by
  intro ordered n hn
  obtain ⟨n, rfl⟩ : ∃ m, n = m + 1 := ⟨n - 1, by omega⟩
  have hn : c + 1 + tokens.length ≤ n + 1 := hn
  obtain ⟨goes, apart⟩ := h ordered n (show c + tokens.length ≤ n by omega)
  rw [follows, goes, distinct_map, apart]
  exact ⟨rfl, rfl⟩

/-- What has been built becomes one node. -/
theorem Leads.node {tokens : List Token} (h : Leads c r ⟨[], tokens⟩ found) (kind : Kind)
    (nodes : List Node) : Leads (c + 1) (.node kind r) ⟨nodes, tokens⟩
      (found.map fun t =>
        ⟨.mk { kind, start := nextStart tokens } t.nodes.reverse :: nodes, t.rest⟩) :=
  h.rebuilds fun n => by rw [Rule.follow]

/-- What has been built is dropped. -/
theorem Leads.blind {nodes : List Node} {tokens : List Token} (h : Leads c r ⟨[], tokens⟩ found) :
    Leads (c + 1) (.blind r) ⟨nodes, tokens⟩ (found.map fun t => ⟨nodes, t.rest⟩) :=
  h.rebuilds fun n => by rw [Rule.follow]

end GoWorkbench.Go
