/-
  The algebra of checks.

  A check gives a value or complaints.  How checks are put together says two things at once: which
  value comes of the whole, and which complaints.

  1. **Values** — a check made of others gives a value if all of them do (`both_eq_ok`,
     `field_eq_ok`, `noOthers_eq_ok`).
  2. **Complaints** — its complaints are theirs, one after the other (`complaints_both`,
     `complaints_field`, `complaints_noOthers`).
  3. **Simple values** — which values stand for texts, lists of texts and numbers (`texts_eq_ok`,
     `optionalAtLeast_eq_ok`).
  4. **Reasons** — no check refuses a value without a complaint (`Grounded`).
-/
import GoWorkbench.Schema

namespace GoWorkbench

variable {α β : Type} {a : α} {b : β} {c : Checked α} {d : Checked β}
  {entries : List (String × Value)} {key : String} {v : Value}

namespace Checked

/-! ## Values -/

theorem both_eq_ok : both c d = .ok (a, b) ↔ c = .ok a ∧ d = .ok b := by
  cases c <;> cases d <;> simp [both]

theorem map_eq_ok {f : α → β} : c.map f = .ok b ↔ ∃ a, c = .ok a ∧ f a = b := by
  cases c <;> simp [Except.map]

theorem within_eq_ok {step : Step} : within step c = .ok a ↔ c = .ok a := by
  cases c <;> simp [within]

/-! ## Complaints -/

/-- What is complained about. -/
def complaints : Checked α → List Complaint
  | .ok _ => []
  | .error es => es

/-- The complaint, about what `step` leads to. -/
def inside (step : Step) (e : Complaint) : Complaint := { e with place := step :: e.place }

theorem complaints_both : (both c d).complaints = c.complaints ++ d.complaints := by
  cases c <;> cases d <;> simp [both, complaints]

theorem complaints_map (f : α → β) : complaints (c.map f) = c.complaints := by
  cases c <;> rfl

theorem complaints_within (step : Step) :
    (within step c).complaints = c.complaints.map (inside step) := by
  cases c <;> rfl

/-- A check that gives no value complains. -/
theorem eq_error_of_not_ok (none_ok : ¬ ∃ a, c = .ok a) : c = .error c.complaints := by
  cases c with
  | ok a => exact absurd ⟨a, rfl⟩ none_ok
  | error es => rfl

end Checked

namespace Schema

open Checked

/-! ### Fields -/

/-- A field holds `a`: what its value stands for, or its default if it is absent. -/
def Given (entries : List (String × Value)) (key : String) (absent : α)
    (stands : Value → α → Prop) (a : α) : Prop :=
  match Value.get? key entries with
  | some v => stands v a
  | none => a = absent

theorem field_eq_ok {absent : α} {check : Value → Checked α} {stands : Value → α → Prop}
    (checks : ∀ v, Value.get? key entries = some v → ∀ a, check v = .ok a ↔ stands v a) :
    field entries key absent check = .ok a ↔ Given entries key absent stands a := by
  unfold field Given
  cases found : Value.get? key entries with
  | some v =>
    rw [within_eq_ok]
    exact checks v found a
  | none =>
    rw [Except.ok.injEq]
    exact eq_comm

theorem noOthers_eq_ok {known : List String} :
    noOthers entries known = .ok () ↔ ∀ e ∈ entries, e.1 ∈ known := by
  have all_known : entries.filter (fun e => e.1 ∉ known) = [] ↔ ∀ e ∈ entries, e.1 ∈ known := by
    simp [List.filter_eq_nil_iff]
  rw [← all_known]
  unfold noOthers
  split
  · rename_i none_left
    exact ⟨fun _ => none_left, fun _ => rfl⟩
  · rename_i some_left
    exact ⟨nofun, fun none_left => absurd none_left some_left⟩

theorem model_complains {name : String} {check : List (String × Value) → Checked α}
    (no_table : ∀ inner, v ≠ .table inner) : model name check v = complain (.notModel name) := by
  unfold model
  split
  · rename_i inner
    exact absurd rfl (no_table inner)
  · rfl

theorem model_eq_ok {name : String} {check : List (String × Value) → Checked α}
    {stands : List (String × Value) → α → Prop}
    (checks : ∀ inner, v = .table inner → (check inner = .ok a ↔ stands inner a)) :
    model name check v = .ok a ↔ ∃ inner, v = .table inner ∧ stands inner a := by
  by_cases table : ∃ inner, v = .table inner
  · obtain ⟨inner, rfl⟩ := table
    rw [show model name check (.table inner) = check inner from rfl, checks inner rfl]
    exact ⟨fun stands => ⟨inner, rfl, stands⟩, fun ⟨_, same, stands⟩ => by cases same; exact stands⟩
  · rw [model_complains fun inner is => table ⟨inner, is⟩]
    exact iff_of_false nofun fun ⟨inner, is, _⟩ => table ⟨inner, is⟩

/-- The complaints about one field. -/
def fieldComplaints (entries : List (String × Value)) (key : String) (check : Value → Checked α) :
    List Complaint :=
  match Value.get? key entries with
  | some v => (check v).complaints.map (inside (.key key))
  | none => []

theorem complaints_field {absent : α} {check : Value → Checked α} :
    (field entries key absent check).complaints = fieldComplaints entries key check := by
  unfold field fieldComplaints
  cases Value.get? key entries with
  | some v => exact complaints_within _
  | none => rfl

/-- One complaint for each key that is not known. -/
def strangers (entries : List (String × Value)) (known : List String) : List Complaint :=
  (entries.filter fun e => e.1 ∉ known).map fun e => ⟨[.key e.1], .unknown⟩

theorem complaints_noOthers {known : List String} :
    (noOthers entries known).complaints = strangers entries known := by
  unfold noOthers strangers
  split
  · rename_i none_left
    rw [none_left]
    rfl
  · rfl

/-! ### Simple values -/

theorem text_eq_ok {s : String} : text v = .ok s ↔ v = .text s := by
  cases v <;> simp [text, complain]

theorem optionalText_eq_ok {s? : Option String} (not_null : v ≠ .null) :
    optionalText v = .ok s? ↔ ∃ s, v = .text s ∧ s? = some s := by
  cases v <;> simp [optionalText, text, complain, Except.map, eq_comm] at not_null ⊢

theorem every_texts_eq_ok {items : List Value} {names : List String} (first : Nat) :
    every ((items.zipIdx first).map fun (v, i) => (text v).within (.index i)) = .ok names ↔
      items = names.map .text := by
  induction items generalizing names first with
  | nil => cases names <;> simp [every]
  | cons v items ih =>
    rw [List.zipIdx_cons, List.map_cons, every, map_eq_ok]
    constructor
    · rintro ⟨⟨s, rest⟩, is, rfl⟩
      obtain ⟨here, later⟩ := both_eq_ok.mp is
      rw [text_eq_ok.mp (within_eq_ok.mp here), (ih _).mp later, List.map_cons]
    · intro is
      cases names with
      | nil => cases is
      | cons s names =>
        obtain ⟨rfl, rfl⟩ := List.cons.inj is
        exact ⟨(s, names), both_eq_ok.mpr ⟨rfl, (ih _).mpr rfl⟩, rfl⟩

theorem texts_eq_ok {names : List String} : texts v = .ok names ↔ v = .list (names.map .text) := by
  unfold texts
  split
  · rename_i items
    rw [every_texts_eq_ok 0, Value.list.injEq]
  · rename_i no_list
    constructor
    · nofun
    · rintro rfl
      exact absurd rfl (no_list _)

theorem optionalAtLeast_eq_ok {least : Int} {n? : Option Int} (not_null : v ≠ .null) :
    optionalAtLeast least v = .ok n? ↔ ∃ n, integer v = .ok n ∧ least ≤ n ∧ n? = some n := by
  unfold optionalAtLeast
  split
  · exact absurd rfl not_null
  · split
    · rename_i n is
      rw [is]
      split
      · rename_i small
        constructor
        · nofun
        · rintro ⟨_, ⟨⟩, large, -⟩
          omega
      · rename_i large
        constructor
        · rintro ⟨⟩
          exact ⟨n, rfl, by omega, rfl⟩
        · rintro ⟨_, ⟨⟩, -, rfl⟩
          rfl
    · rename_i es is
      rw [is]
      constructor
      · nofun
      · rintro ⟨_, ⟨⟩, -⟩

end Schema

/-! ## Reasons -/

/-- A check that gives no value says why. -/
def Checked.Grounded (c : Checked α) : Prop := c ≠ .error []

namespace Checked

theorem grounded_ok (a : α) : Grounded (.ok a) := nofun

theorem grounded_complain (p : Problem) : Grounded (complain p : Checked α) := nofun

theorem Grounded.map (grounded : Grounded c) (f : α → β) : Grounded (c.map f) := by
  cases c with
  | ok a => nofun
  | error es =>
    rintro ⟨⟩
    exact grounded rfl

theorem Grounded.within (grounded : Grounded c) (step : Step) : Grounded (within step c) := by
  cases c with
  | ok a => nofun
  | error es =>
    cases es with
    | nil => exact absurd rfl grounded
    | cons e es => nofun

theorem Grounded.both (grounded : Grounded c) (also : Grounded d) : Grounded (both c d) := by
  cases c with
  | ok a => cases d with
    | ok b => nofun
    | error fs =>
      rintro ⟨⟩
      exact also rfl
  | error es => cases d with
    | ok b =>
      rintro ⟨⟩
      exact grounded rfl
    | error fs =>
      -- the complaints of both are none only if those of the first are none
      cases es with
      | nil => exact absurd rfl grounded
      | cons e es => nofun

theorem grounded_every {checks : List (Checked α)} (each : ∀ c ∈ checks, Grounded c) :
    Grounded (every checks) := by
  induction checks with
  | nil => exact grounded_ok []
  | cons c checks ih =>
    obtain ⟨here, later⟩ := List.forall_mem_cons.mp each
    exact (here.both (ih later)).map _

end Checked

namespace Schema

open Checked

theorem grounded_field {absent : α} {check : Value → Checked α} (each : ∀ v, Grounded (check v)) :
    Grounded (field entries key absent check) := by
  unfold field
  split
  · exact (each _).within _
  · exact grounded_ok _

theorem grounded_noOthers {known : List String} : Grounded (noOthers entries known) := by
  unfold noOthers
  split
  · exact grounded_ok _
  · rename_i some_left
    intro is
    exact some_left (List.map_eq_nil_iff.mp (Except.error.inj is))

theorem grounded_model {name : String} {check : List (String × Value) → Checked α}
    (each : ∀ entries, Grounded (check entries)) : Grounded (model name check v) := by
  unfold model
  split
  · exact each _
  · exact grounded_complain _

theorem grounded_text : Grounded (text v) := by
  cases v <;> nofun

theorem grounded_optionalText : Grounded (optionalText v) := by
  unfold optionalText
  split
  · exact grounded_ok _
  · exact grounded_text.map _

theorem grounded_boolOfInteger (n : Int) : Grounded (boolOfInteger n) := by
  unfold boolOfInteger
  repeat' split
  all_goals nofun

theorem grounded_bool : Grounded (bool v) := by
  unfold bool
  repeat' split
  all_goals first | exact grounded_boolOfInteger _ | nofun

theorem grounded_integerOfText (s : String) : Grounded (integerOfText s) := by
  unfold integerOfText
  dsimp only
  repeat' split
  all_goals first | exact grounded_ok _ | exact grounded_complain _

theorem grounded_integer : Grounded (integer v) := by
  unfold integer
  repeat' split
  all_goals first | exact grounded_integerOfText _ | nofun

theorem grounded_optionalAtLeast (least : Int) : Grounded (optionalAtLeast least v) := by
  unfold optionalAtLeast
  split
  · nofun
  · have grounded := @grounded_integer v
    split
    · split <;> nofun
    · rename_i is
      rw [is] at grounded
      exact fun none => grounded (congrArg Except.error (Except.error.inj none))

theorem grounded_texts : Grounded (texts v) := by
  unfold texts
  split
  · refine grounded_every fun c listed => ?_
    obtain ⟨⟨v, i⟩, -, rfl⟩ := List.mem_map.mp listed
    exact grounded_text.within _
  · exact grounded_complain _

end Schema

end GoWorkbench
