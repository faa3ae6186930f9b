/-
  Where the words of a syntax tree come from.

  Following a rule cuts tokens off from the left and adds nodes on the right.  The nodes are free of
  errors, and the words in them are words of the tokens that were cut off, in their order (`Grown`).
  One lemma for each kind of rule says so, and the induction is on the depth of rules within rules
  (`grown_follow`).
-/
import GoWorkbench.Go.Grammar

namespace GoWorkbench.Go

/-! ## Words -/

/-- The word of a token, with its place. -/
def Token.word (t : Token) : List (String × Position) :=
  if t.name.isEmpty then [] else [(t.name, t.start)]

/-- The word at a node itself. -/
def Label.word (l : Label) : List (String × Position) :=
  if l.text.isEmpty then [] else [(l.text, l.start)]

mutual

/-- The words in a tree, from left to right. -/
def Node.words : Node → List (String × Position)
  | .mk l cs => l.word ++ wordsOf cs

/-- The words in trees side by side. -/
def wordsOf : List Node → List (String × Position)
  | [] => []
  | c :: cs => c.words ++ wordsOf cs

end

theorem wordsOf_eq (nodes : List Node) : wordsOf nodes = nodes.flatMap Node.words := by
  induction nodes with
  | nil => rw [wordsOf, List.flatMap_nil]
  | cons c cs ih => rw [wordsOf, ih, List.flatMap_cons]

theorem wordsOf_append (left right : List Node) :
    wordsOf (left ++ right) = wordsOf left ++ wordsOf right := by
  rw [wordsOf_eq, wordsOf_eq, wordsOf_eq, List.flatMap_append]

theorem words_withField (f : Field) (n : Node) : (n.withField f).words = n.words := by
  cases n
  rw [Node.withField, Node.words, Node.words]
  rfl

theorem hasError_withField (f : Field) (n : Node) : (n.withField f).hasError = n.hasError := by
  cases n
  rw [Node.withField, Node.hasError, Node.hasError]

/-- A node is free of errors if it is none itself and there is none below it. -/
theorem hasError_eq_false {l : Label} {cs : List Node} (own : l.error = false)
    (below : ∀ n ∈ cs, n.hasError = false) : (Node.mk l cs).hasError = false := by
  rw [Node.hasError, Node.anyError_eq, own, Bool.false_or, List.any_eq_false]
  intro n hn
  rw [below n hn]
  exact Bool.false_ne_true

theorem wordsOf_withField (f : Field) (nodes : List Node) :
    wordsOf (nodes.map (Node.withField f)) = wordsOf nodes := by
  rw [wordsOf_eq, wordsOf_eq, List.flatMap_map]
  simp only [words_withField]

/-! ## Growth -/

/-- Tokens have been cut off and nodes added, which are free of errors and whose words are words of
    the tokens. -/
def Grown (s t : State) : Prop :=
  ∃ passed built, s.rest = passed ++ t.rest ∧ t.nodes = built ++ s.nodes ∧
    (∀ n ∈ built, n.hasError = false) ∧
    (wordsOf built.reverse).Sublist (passed.flatMap Token.word)

variable {s t u : State} {tokens rest : List Token}

theorem Grown.refl (s : State) : Grown s s :=
  ⟨[], [], rfl, rfl, (fun _ h => nomatch h), List.nil_sublist _⟩

theorem Grown.trans (h : Grown s t) (h' : Grown t u) : Grown s u := by
  obtain ⟨passed, built, hrest, hnodes, hsound, hwords⟩ := h
  obtain ⟨passed', built', hrest', hnodes', hsound', hwords'⟩ := h'
  refine ⟨passed ++ passed', built' ++ built, ?_, ?_,
    List.forall_mem_append.mpr ⟨hsound', hsound⟩, ?_⟩
  · rw [hrest, hrest', List.append_assoc]
  · rw [hnodes', hnodes, List.append_assoc]
  · rw [List.reverse_append, wordsOf_append, List.flatMap_append]
    exact hwords.append hwords'

/-- Tokens that are passed over leave no nodes. -/
theorem grown_of_suffix (h : t.rest <:+ s.rest) (same : t.nodes = s.nodes) : Grown s t := by
  obtain ⟨passed, is⟩ := h
  refine ⟨passed, [], is.symm, by rw [same]; rfl, (fun _ h => nomatch h), ?_⟩
  rw [List.reverse_nil, wordsOf]
  exact List.nil_sublist _

/-! ## Terminals -/

theorem passLineEnds_suffix (tokens : List Token) : passLineEnds tokens <:+ tokens := by
  induction tokens with
  | nil => exact List.suffix_refl _
  | cons t rest ih =>
    rw [passLineEnds]
    split
    · exact ih.trans (List.suffix_cons t rest)
    · exact List.suffix_refl _

theorem joinedMarks_suffix {marks : List Char} (h : joinedMarks marks tokens = some rest) :
    rest <:+ tokens := by
  induction marks generalizing tokens with
  | nil =>
    cases h
    exact List.suffix_refl _
  | cons c marks ih =>
    cases tokens with
    | nil => cases h
    | cons t tokens =>
      rw [joinedMarks] at h
      split at h
      · exact (ih h).trans (List.suffix_cons t tokens)
      · cases h

/-- A terminal is the first token, perhaps with marks joined to it. -/
theorem here_cons {terminal : Terminal} {first : Token}
    (h : terminal.here tokens = some (first, rest)) :
    ∃ more, tokens = first :: more ∧ rest <:+ more := by
  unfold Terminal.here at h
  split at h
  · cases h
  · rename_i token more
    refine ⟨more, ?_⟩
    split at h
    all_goals try split at h
    all_goals first
      | (cases h; done)
      | (cases h; exact ⟨rfl, List.suffix_refl _⟩)
      | skip
    obtain ⟨after, joined, is⟩ := Option.map_eq_some_iff.mp h
    cases is
    exact ⟨rfl, joinedMarks_suffix joined⟩

theorem take_cons {terminal : Terminal} {first : Token}
    (h : terminal.take tokens = some (first, rest)) :
    ∃ ends middle, tokens = ends ++ first :: middle ++ rest := by
  obtain ⟨more, is, passed, hpassed⟩ := here_cons h
  obtain ⟨ends, hends⟩ := passLineEnds_suffix tokens
  refine ⟨ends, passed, ?_⟩
  rw [← hends, is, ← hpassed]
  simp

theorem passTerminator_suffix (h : passTerminator tokens = some rest) : rest <:+ tokens := by
  unfold passTerminator at h
  split at h
  · cases h
  · split at h
    · rw [← Option.some.inj h]; exact List.suffix_cons _ _
    · cases h

/-! ## Rules -/

theorem mem_distinct {states : List State} (h : t ∈ distinct states) : t ∈ states := by
  fun_induction distinct states with
  | case1 => exact h
  | case2 s => exact h
  | case3 s rest _ ih =>
    rcases List.mem_cons.mp h with rfl | h
    · exact List.mem_cons_self
    · exact List.mem_cons_of_mem _ (ih (List.mem_filter.mp h).1)

theorem mem_insertState {states : List State} (h : t ∈ insertState s states) :
    t = s ∨ t ∈ states := by
  induction states with
  | nil => exact Or.inl (List.mem_singleton.mp h)
  | cons u states ih =>
    rw [insertState] at h
    split at h
    · exact Or.inr h
    · split at h
      · exact List.mem_cons.mp h
      · rcases List.mem_cons.mp h with rfl | h
        · exact Or.inr List.mem_cons_self
        · exact (ih h).imp id (List.mem_cons_of_mem _)

theorem mem_foldl_insertState {next states : List State}
    (h : t ∈ next.foldl (fun states t => insertState t states) states) : t ∈ next ∨ t ∈ states := by
  induction next generalizing states with
  | nil => exact Or.inr h
  | cons u next ih =>
    rcases ih h with h | h
    · exact Or.inl (List.mem_cons_of_mem _ h)
    · exact (mem_insertState h).imp (fun is => by rw [is]; exact List.mem_cons_self) id

/-- What is repeated has grown from one of the states that it began with. -/
theorem grown_saturate {step : State → List State} (grows : ∀ s t, t ∈ step s → Grown s t)
    (n : Nat) (pending : List State) (h : t ∈ saturate step n pending) :
    ∃ s ∈ pending, Grown s t := by
  induction n generalizing pending with
  | zero => cases h
  | succ n ih =>
    cases pending with
    | nil => cases h
    | cons s pending =>
      rw [saturate] at h
      split at h
      · rcases List.mem_cons.mp h with rfl | h
        · exact ⟨t, List.mem_cons_self, .refl t⟩
        · obtain ⟨u, hu, grown⟩ := ih _ h
          exact ⟨u, List.mem_cons_of_mem _ hu, grown⟩
      · obtain ⟨u, hu, grown⟩ := ih _ h
        rcases mem_foldl_insertState hu with hu | hu
        · exact ⟨s, List.mem_cons_self, (grows s u hu).trans grown⟩
        · exact ⟨u, List.mem_cons_of_mem _ hu, grown⟩

/-- One rule after the other grows on. -/
theorem grown_foldl {ν : Type} {follow : Rule ν → State → List State} {rules : List (Rule ν)}
    (grows : ∀ r s t, t ∈ follow r s → Grown s t) (states : List State)
    (h : t ∈ rules.foldl (fun states r => distinct (states.flatMap (follow r))) states) :
    ∃ s ∈ states, Grown s t := by
  induction rules generalizing states with
  | nil => exact ⟨t, h, .refl t⟩
  | cons r rules ih =>
    obtain ⟨u, hu, grown⟩ := ih _ h
    obtain ⟨s, hs, hstep⟩ := List.mem_flatMap.mp (mem_distinct hu)
    exact ⟨s, hs, (grows r s u hstep).trans grown⟩

theorem grown_leaf {terminal : Terminal} {kind : Kind} {named : Bool} {first : Token}
    (h : terminal.take s.rest = some (first, rest)) :
    Grown s ⟨.mk { kind, named, text := first.name, start := first.start } [] :: s.nodes, rest⟩ := by
  obtain ⟨ends, middle, is⟩ := take_cons h
  refine ⟨ends ++ first :: middle, [_], is, rfl,
    List.forall_mem_singleton.mpr (hasError_eq_false rfl (List.forall_mem_nil _)), ?_⟩
  have word : wordsOf [Node.mk { kind, named, text := first.name, start := first.start } []] =
      first.word := by
    simp only [wordsOf, Node.words, List.append_nil]
    rfl
  rw [List.reverse_singleton, word, List.flatMap_append, List.flatMap_cons]
  exact (List.sublist_append_left _ _).trans (List.sublist_append_right _ _)

/-- What has been built apart becomes one node, gets a role or is dropped. -/
theorem Grown.apart (h : Grown ⟨[], s.rest⟩ t) (built : List Node)
    (sound : (∀ n ∈ t.nodes, n.hasError = false) → ∀ n ∈ built, n.hasError = false)
    (words : (wordsOf built.reverse).Sublist (wordsOf t.nodes.reverse)) :
    Grown s ⟨built ++ s.nodes, t.rest⟩ := by
  obtain ⟨passed, inside, hrest, hnodes, hsound, hwords⟩ := h
  rw [List.append_nil] at hnodes
  rw [hnodes] at sound words
  exact ⟨passed, built, hrest, rfl, sound hsound, words.trans hwords⟩

/-- **Following a rule** cuts off tokens and adds nodes with words of them. -/
theorem grown_follow {ν : Type} {grammar : ν → Rule ν} (n : Nat) (r : Rule ν) (s t : State)
    (h : t ∈ r.follow grammar n s) : Grown s t := by
  induction n generalizing r s t with
  | zero => cases h
  | succ n ih =>
    cases r with
    | token terminal =>
      rw [Rule.follow] at h
      split at h
      · rename_i first rest taken
        rw [List.mem_singleton.mp h]
        obtain ⟨ends, middle, is⟩ := take_cons taken
        exact grown_of_suffix ⟨ends ++ first :: middle, is.symm⟩ rfl
      · cases h
    | leaf kind named terminal =>
      rw [Rule.follow] at h
      split at h
      · rename_i first rest taken
        rw [List.mem_singleton.mp h]
        exact grown_leaf taken
      · cases h
    | all rules =>
      rw [Rule.follow] at h
      obtain ⟨u, hu, grown⟩ := grown_foldl ih _ h
      rw [List.mem_singleton.mp hu] at grown
      exact grown
    | any rules =>
      rw [Rule.follow] at h
      obtain ⟨r, -, hr⟩ := List.mem_flatMap.mp (mem_distinct h)
      exact ih r s t hr
    | many r =>
      rw [Rule.follow] at h
      obtain ⟨u, hu, grown⟩ := grown_saturate (ih r) _ _ h
      rw [List.mem_singleton.mp hu] at grown
      exact grown
    | part p =>
      rw [Rule.follow] at h
      exact ih _ _ _ h
    | node kind r =>
      rw [Rule.follow] at h
      obtain ⟨u, hu, rfl⟩ := List.mem_map.mp h
      refine (ih _ _ _ hu).apart [_] (fun sound => List.forall_mem_singleton.mpr ?_) ?_
      · exact hasError_eq_false rfl fun n hn => sound n (List.mem_reverse.mp hn)
      rw [List.reverse_singleton, wordsOf, wordsOf, Node.words, List.append_nil]
      exact List.Sublist.refl _
    | field f r =>
      rw [Rule.follow] at h
      obtain ⟨u, hu, rfl⟩ := List.mem_map.mp h
      refine (ih _ _ _ hu).apart _ (fun sound => List.forall_mem_map.mpr fun n hn => ?_) ?_
      · rw [hasError_withField]
        exact sound n hn
      have same : wordsOf (u.nodes.map (Node.withField f)).reverse = wordsOf u.nodes.reverse := by
        rw [← List.map_reverse, wordsOf_withField]
      exact same ▸ List.Sublist.refl _
    | blind r =>
      rw [Rule.follow] at h
      obtain ⟨u, hu, rfl⟩ := List.mem_map.mp h
      refine (ih _ _ _ hu).apart [] (fun _ _ h => nomatch h) ?_
      rw [List.reverse_nil, wordsOf]
      exact List.nil_sublist _
    | terminator =>
      rw [Rule.follow] at h
      split at h
      · rename_i rest passed
        rw [List.mem_singleton.mp h]
        exact grown_of_suffix (passTerminator_suffix passed) rfl
      · cases h
    | here | away | before | «unless» | finish =>
      -- a look at what comes next changes nothing
      rw [Rule.follow] at h
      split at h
      all_goals first
        | (cases h; done)
        | (rw [List.mem_singleton.mp h]; exact .refl s)

/-- **The words of a syntax tree** are words of the source, in their order. -/
theorem words_parse (source : List UInt8) :
    (parse source).words.Sublist ((Go.tokens source).flatMap Token.word) := by
  unfold parse
  split
  · rename_i items found
    unfold itemsOf at found
    split at found
    · cases found
    · rename_i s more followed
      have first : s ∈ (Rule.part Part.source).follow grammar (depth (Go.tokens source).length)
          ⟨[], Go.tokens source⟩ := by rw [followed]; exact List.mem_cons_self
      obtain ⟨passed, built, hrest, hnodes, -, hwords⟩ := grown_follow _ _ _ _ first
      rw [List.append_nil] at hnodes
      rw [← Option.some.inj found, Node.words, hnodes]
      refine hwords.trans ?_
      have hrest : Go.tokens source = passed ++ s.rest := hrest
      rw [hrest, List.flatMap_append]
      exact List.sublist_append_left _ _
  · rw [Node.words, wordsOf]
    exact List.nil_sublist _

end GoWorkbench.Go
