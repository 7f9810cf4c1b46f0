import Mathlib.Data.List.Forall2
import SqlSelect.Criterion
import SqlSelect.Proofs.Form

/-!
What a criterion asks for, entry by entry. A single comparison is a group of one
entry, and a criterion is accepted when each of its entries is a comparison that is.
-/

namespace SqlSelect

theorem Operator.spelling_mem_of_lookup {candidate : String} {extra : List String}
    {op : Operator} (h : lookup candidate extra = some op) : op.spelling ∈ catalog ++ extra := by
  obtain ⟨spelling, hfind, rfl⟩ := Option.map_eq_some_iff.mp h
  have hmem := List.mem_of_find?_eq_some hfind
  rw [List.append_assoc, List.mem_append, List.mem_append] at hmem
  rcases hmem with hmem | hmem | hmem
  · exact List.mem_append_left _ hmem
  · exact List.mem_append_left _ (bitwiseCatalog_subset hmem)
  · exact List.mem_append_right _ hmem

theorem Operator.isBitwise_iff {op : Operator} :
    op.isBitwise = true ↔ op.spelling ∈ bitwiseCatalog := by
  simp [isBitwise]

theorem Operator.comparesNull_iff {op : Operator} :
    op.comparesNull = true ↔ op.spelling ∈ ["=", "<>", "!="] := by
  cases op
  simp [comparesNull, equal, unequal, notEqual]

theorem bind_eq_ok_iff {ε α β : Type} {x : Except ε α} {f : α → Except ε β} {b : β} :
    (x >>= f) = .ok b ↔ ∃ a, x = .ok a ∧ f a = .ok b := by
  cases x with
  | error error => simp [bind, Except.bind]
  | ok a => simp [bind, Except.bind]

theorem bind_eq_error_iff {ε α β : Type} {x : Except ε α} {f : α → Except ε β} {error : ε} :
    (x >>= f) = .error error ↔ x = .error error ∨ ∃ a, x = .ok a ∧ f a = .error error := by
  cases x with
  | error error => simp [bind, Except.bind]
  | ok a => simp [bind, Except.bind]

theorem exists_error_iff {ε α : Type} {x : Except ε α} :
    (∃ error, x = .error error) ↔ ¬ ∃ a, x = .ok a := by
  cases x with
  | error error => simp
  | ok a => simp

theorem exists_mem_of_forall₂ {α β : Type} {R : α → β → Prop} {as : List α} {bs : List β}
    (h : List.Forall₂ R as bs) {b : β} (hb : b ∈ bs) : ∃ a ∈ as, R a b := by
  induction h with
  | nil => cases hb
  | cons hab _ ih =>
      rcases List.mem_cons.mp hb with rfl | hb
      · exact ⟨_, List.mem_cons_self, hab⟩
      · obtain ⟨a, ha, hR⟩ := ih hb
        exact ⟨a, List.mem_cons_of_mem _ ha, hR⟩

/-- Where two lists are related, so are two lists that go with them entry by entry. -/
theorem forall₂_of_forall₂ {α β γ δ : Type} {R : α → β → Prop} {S : α → γ → Prop}
    {T : β → δ → Prop} {U : γ → δ → Prop} {as : List α} {bs : List β} {cs : List γ} {ds : List δ}
    (h : List.Forall₂ R as bs) (hS : List.Forall₂ S as cs) (hT : List.Forall₂ T bs ds)
    (hU : ∀ {a b c d}, R a b → S a c → T b d → U c d) : List.Forall₂ U cs ds := by
  induction h generalizing cs ds with
  | nil =>
      cases hS
      cases hT
      exact .nil
  | cons hab _ ih =>
      cases hS with
      | cons hac hS =>
          cases hT with
          | cons hbd hT => exact .cons (hU hab hac hbd) (ih hS hT)

namespace Criterion

/-- The ways in which an operator slot and a value give an operator and a bound value. -/
inductive Resolves (operators : List String) : Option Value → Value → Operator → Value → Prop where
  | default (value : Value) : Resolves operators none value .equal value
  | unknown {given : Value} (value : Value)
      (hgiven : given.text?.bind (Operator.lookup · operators) = none) :
      Resolves operators (some given) value .equal given
  | known {candidate : String} {op : Operator} {value : Value}
      (hop : Operator.lookup candidate operators = some op) (hvalue : op.refuses value = false) :
      Resolves operators (some (.text candidate)) value op value

section Resolve

variable {operators : List String} {operator : Option Value} {value : Value} {op : Operator}

/-- Only a text can be found among the operators. -/
theorem slot_eq_some_iff {given : Value} :
    given.text?.bind (Operator.lookup · operators) = some op ↔
      ∃ candidate, given = .text candidate ∧ Operator.lookup candidate operators = some op := by
  cases given <;> simp [Value.text?]

theorem resolve_of_lookup {candidate : String} (h : Operator.lookup candidate operators = some op)
    (value : Value) :
    resolve operators (some (.text candidate)) value =
      if op.refuses value then .error (.argument .nullComparison) else .ok (op, value) := by
  simp only [resolve, Value.text?, Option.bind_some, h]

theorem resolve_of_unknown {given : Value}
    (h : given.text?.bind (Operator.lookup · operators) = none) (value : Value) :
    resolve operators (some given) value = .ok (.equal, given) := by
  simp only [resolve, h]

theorem resolve_eq_ok_iff {bound : Value} :
    resolve operators operator value = .ok (op, bound) ↔
      Resolves operators operator value op bound := by
  constructor
  · intro h
    cases operator with
    | none =>
        cases h
        exact .default value
    | some given =>
        cases hlookup : given.text?.bind (Operator.lookup · operators) with
        | none =>
            rw [resolve_of_unknown hlookup] at h
            cases h
            exact .unknown value hlookup
        | some known =>
            obtain ⟨candidate, rfl, hop⟩ := slot_eq_some_iff.mp hlookup
            rw [resolve_of_lookup hop] at h
            split at h
            · cases h
            · rename_i hrefuses
              cases h
              exact .known hop (by simpa using hrefuses)
  · intro h
    cases h with
    | default => rfl
    | unknown _ hgiven => exact resolve_of_unknown hgiven value
    | known hop hvalue => simp [resolve_of_lookup hop, hvalue]

theorem resolve_eq_error_iff {error : Error} :
    resolve operators operator value = .error error ↔
      error = .argument .nullComparison ∧
        ∃ candidate op, operator = some (.text candidate) ∧
          Operator.lookup candidate operators = some op ∧ op.refuses value = true := by
  constructor
  · intro h
    cases operator with
    | none => cases h
    | some given =>
        cases hlookup : given.text?.bind (Operator.lookup · operators) with
        | none =>
            rw [resolve_of_unknown hlookup] at h
            cases h
        | some known =>
            obtain ⟨candidate, rfl, hop⟩ := slot_eq_some_iff.mp hlookup
            rw [resolve_of_lookup hop] at h
            split at h
            · rename_i hrefuses
              cases h
              exact ⟨rfl, candidate, known, rfl, hop, hrefuses⟩
            · cases h
  · rintro ⟨rfl, candidate, op, rfl, hop, hrefuses⟩
    rw [resolve_of_lookup hop, if_pos hrefuses]

end Resolve

/-- The entries of a criterion. A single comparison is one entry. -/
def entries : Criterion → List (List Value)
  | single column operator value => [.text column :: (operator.toList ++ [value])]
  | group entries => entries

/-- The condition that an entry of a criterion asks for. -/
inductive Compares (operators : List String) (connector : Connector) :
    List Value → Condition → Prop where
  | intro (column : String) {operator : Option Value} {value bound : Value} {op : Operator}
      (hop : Resolves operators operator value.firstScalar op bound) :
      Compares operators connector (.text column :: (operator.toList ++ [value]))
        ⟨column, if op.isBitwise then .bitwise op bound else .compare op bound, connector⟩

/-- A comparison binds its one value in a test of either kind. -/
theorem bindings_comparison (column : String) (op : Operator) (bound : Value)
    (connector : Connector) :
    Condition.bindings
      ⟨column, if op.isBitwise then .bitwise op bound else .compare op bound, connector⟩ =
        [bound] := by
  rw [Condition.bindings]
  split <;> rfl

theorem splitEntry_eq_ok_iff {index : Nat} {entry : List Value} {column : String}
    {operator : Option Value} {value : Value} :
    splitEntry index entry = .ok (column, operator, value) ↔
      entry = .text column :: (operator.toList ++ [value]) := by
  constructor
  · intro h
    unfold splitEntry at h
    split at h
    · cases h
      rfl
    · cases h
      rfl
    · cases h
    · cases h
    · cases h
  · rintro rfl
    cases operator <;> rfl

variable {operators : List String} {connector : Connector}

theorem comparison_eq_ok_iff {column : String} {operator : Option Value} {value : Value}
    {c : Condition} :
    comparison operators connector column operator value = .ok c ↔
      ∃ op bound, Resolves operators operator value.firstScalar op bound ∧
        c = ⟨column, if op.isBitwise then .bitwise op bound else .compare op bound,
          connector⟩ := by
  rw [comparison, bind_eq_ok_iff]
  constructor
  · rintro ⟨⟨op, bound⟩, hresolve, h⟩
    cases h
    exact ⟨op, bound, resolve_eq_ok_iff.mp hresolve, rfl⟩
  · rintro ⟨op, bound, hop, rfl⟩
    exact ⟨(op, bound), resolve_eq_ok_iff.mpr hop, rfl⟩

theorem compares_iff {entry : List Value} {c : Condition} :
    Compares operators connector entry c ↔
      ∃ column operator value, entry = .text column :: (operator.toList ++ [value]) ∧
        comparison operators connector column operator value = .ok c := by
  constructor
  · rintro ⟨column, hop⟩
    exact ⟨column, _, _, rfl, comparison_eq_ok_iff.mpr ⟨_, _, hop, rfl⟩⟩
  · rintro ⟨column, operator, value, rfl, h⟩
    obtain ⟨op, bound, hop, rfl⟩ := comparison_eq_ok_iff.mp h
    exact .intro column hop

/-- The entries of a group are accepted together, one condition for each. -/
theorem entryConditions_eq_ok_iff {index : Nat} {entries : List (List Value)}
    {cs : List Condition} :
    entryConditions operators connector index entries = .ok cs ↔
      List.Forall₂ (Compares operators connector) entries cs := by
  induction entries generalizing index cs with
  | nil =>
      rw [List.forall₂_nil_left_iff, entryConditions]
      exact ⟨fun h => (Except.ok.inj h).symm, fun h => h ▸ rfl⟩
  | cons entry entries ih =>
      rw [List.forall₂_cons_left_iff, entryConditions, bind_eq_ok_iff]
      constructor
      · rintro ⟨⟨column, operator, value⟩, hsplit, h⟩
        obtain ⟨first, hfirst, h⟩ := bind_eq_ok_iff.mp h
        obtain ⟨others, hothers, h⟩ := bind_eq_ok_iff.mp h
        cases h
        have hentry := splitEntry_eq_ok_iff.mp hsplit
        exact ⟨first, others, compares_iff.mpr ⟨column, operator, value, hentry, hfirst⟩,
          ih.mp hothers, rfl⟩
      · rintro ⟨first, others, hfirst, hothers, rfl⟩
        obtain ⟨column, operator, value, hentry, hcomparison⟩ := compares_iff.mp hfirst
        refine ⟨(column, operator, value), splitEntry_eq_ok_iff.mpr hentry, ?_⟩
        refine bind_eq_ok_iff.mpr ⟨first, hcomparison, ?_⟩
        exact bind_eq_ok_iff.mpr ⟨others, ih.mpr hothers, rfl⟩

/-- A criterion is accepted when all its entries are, and asks for their conditions
in their order. -/
theorem conditions_eq_ok_iff {criterion : Criterion} {cs : List Condition} :
    criterion.conditions operators connector = .ok cs ↔
      List.Forall₂ (Compares operators connector) criterion.entries cs := by
  cases criterion with
  | group entries => exact entryConditions_eq_ok_iff
  | single column operator value =>
      rw [conditions, bind_eq_ok_iff]
      constructor
      · rintro ⟨c, hc, h⟩
        cases h
        exact .cons (compares_iff.mpr ⟨column, operator, value, rfl, hc⟩) .nil
      · intro h
        obtain ⟨c, others, hc, hothers, rfl⟩ := List.forall₂_cons_left_iff.mp h
        cases hothers
        obtain ⟨column', operator', value', hentry, hcomparison⟩ := compares_iff.mp hc
        have hsplit := (@splitEntry_eq_ok_iff 0 _ column operator value).mpr rfl
        rw [splitEntry_eq_ok_iff.mpr hentry] at hsplit
        cases hsplit
        exact ⟨c, hcomparison, rfl⟩

theorem Resolves.spelling_mem {operator : Option Value} {value bound : Value} {op : Operator}
    (h : Resolves operators operator value op bound) :
    op.spelling ∈ Operator.catalog ++ operators := by
  have hequal : Operator.equal.spelling ∈ Operator.catalog := List.mem_cons_self
  cases h with
  | default => exact List.mem_append_left _ hequal
  | unknown => exact List.mem_append_left _ hequal
  | known hop => exact Operator.spelling_mem_of_lookup hop

theorem Compares.listed {entry : List Value} {c : Condition}
    (h : Compares operators connector entry c) : c.form.Listed operators := by
  obtain ⟨column, hop⟩ := h
  rw [Condition.form]
  split
  · rename_i hbitwise
    exact ⟨hop.spelling_mem, hbitwise⟩
  · rename_i hbitwise
    exact ⟨hop.spelling_mem, by simpa using hbitwise⟩

end Criterion

end SqlSelect
