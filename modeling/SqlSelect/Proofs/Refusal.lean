import SqlSelect.Proofs.Group
import SqlSelect.Proofs.Lookup

/-!
Which criteria are refused. A comparison is refused for `NULL` next to an operator that cannot
compare with it, and a group also for the form of its entries. Whatever is accepted appends one
condition and one bound value for each comparison.
-/

namespace SqlSelect

/-! ### Operators that compare with `NULL` -/

namespace Operator

/-- The three operators are not written in letters, so that they have one spelling only. -/
theorem eq_of_alike_of_comparesNull {op : Operator} {spelling : String}
    (hop : op.comparesNull = true) (h : Text.alike spelling op.spelling = true) :
    spelling = op.spelling := by
  have hsymbols : ∀ symbols ∈ ["=", "<>", "!="], ∀ c ∈ symbols.toList, c.toNat < 65 := by simp
  exact Text.eq_of_alike (hsymbols _ (comparesNull_iff.mp hop)) h

/-- An operator that is found is none of the three just when a candidate is like a listed
spelling other than theirs. -/
theorem exists_lookup_not_comparesNull_iff {candidate : String} {extra : List String} :
    (∃ op, lookup candidate extra = some op ∧ op.comparesNull = false) ↔
      ∃ spelling ∈ catalog ++ extra, spelling ∉ ["=", "<>", "!="] ∧
        Text.alike spelling (Text.trim candidate) = true := by
  constructor
  · rintro ⟨op, hop, hnull⟩
    refine ⟨op.spelling, spelling_mem_of_lookup hop, ?_, alike_of_lookup hop⟩
    rw [← comparesNull_iff, hnull]
    simp
  · rintro ⟨spelling, hmem, hnull, halike⟩
    cases hop : lookup candidate extra with
    | none =>
        have hnone := lookup_eq_none_iff.mp hop spelling hmem
        rw [halike] at hnone
        cases hnone
    | some op =>
        refine ⟨op, rfl, ?_⟩
        by_contra hcompares
        rw [Bool.not_eq_false] at hcompares
        have hsame : Text.alike spelling op.spelling = true := by
          rw [Text.alike_congr_right (alike_of_lookup hop), halike]
        rw [eq_of_alike_of_comparesNull hcompares hsame] at hnull
        exact hnull (comparesNull_iff.mp hcompares)

end Operator

theorem Value.isNull_firstScalar_iff {value : Value} :
    value.firstScalar.isNull = true ↔
      value.flatten = [] ∨ ∃ rest, value.flatten = .null :: rest := by
  rw [firstScalar]
  cases value.flatten with
  | nil => simp [isNull]
  | cons first rest => cases first <;> simp [isNull]

namespace Criterion

/-! ### Single comparisons -/

/-- An operator slot with the text of a listed operator, in whatever case and between whatever
blanks, that is none of the three that compare with `NULL`, and a value slot without a scalar or
with `NULL` as the first one. -/
structure NullClash (operators : List String) (given value : Value) : Prop where
  operator : ∃ candidate, given = .text candidate ∧
    ∃ spelling ∈ Operator.catalog ++ operators, spelling ∉ ["=", "<>", "!="] ∧
      Text.alike spelling (Text.trim candidate) = true
  value : value.flatten = [] ∨ ∃ rest, value.flatten = .null :: rest

/-- What is wrong with an entry of a group. -/
inductive Faulty (operators : List String) : List Value → Prop where
  | arity {entry : List Value} (htwo : entry.length ≠ 2) (hthree : entry.length ≠ 3) :
      Faulty operators entry
  | column {column : Value} {rest : List Value} (htext : column.text? = none) :
      Faulty operators (column :: rest)
  | comparison {column given value : Value} (h : NullClash operators given value) :
      Faulty operators [column, given, value]

variable {operators : List String} {operator : Option Value} {value : Value}

theorem exists_resolve_eq_error_iff :
    (∃ error, resolve operators operator value.firstScalar = .error error) ↔
      ∃ given, operator = some given ∧ NullClash operators given value := by
  simp only [resolve_eq_error_iff]
  constructor
  · rintro ⟨-, -, candidate, op, rfl, hop, hrefuses⟩
    obtain ⟨hnull, hcompares⟩ := Bool.and_eq_true_iff.mp hrefuses
    rw [Bool.not_eq_true'] at hcompares
    exact ⟨_, rfl, ⟨candidate, rfl, Operator.exists_lookup_not_comparesNull_iff.mp
      ⟨op, hop, hcompares⟩⟩, Value.isNull_firstScalar_iff.mp hnull⟩
  · rintro ⟨given, rfl, ⟨candidate, rfl, hspelling⟩, hvalue⟩
    obtain ⟨op, hop, hcompares⟩ := Operator.exists_lookup_not_comparesNull_iff.mpr hspelling
    refine ⟨_, rfl, candidate, op, rfl, hop, ?_⟩
    rw [Operator.refuses, Value.isNull_firstScalar_iff.mpr hvalue, hcompares]
    rfl

/-- Of the entries that spell out a comparison only those with an operator can be faulty. -/
theorem faulty_iff {column : String} :
    Faulty operators (.text column :: (operator.toList ++ [value])) ↔
      ∃ given, operator = some given ∧ NullClash operators given value := by
  constructor
  · intro h
    cases operator with
    | none =>
        cases h with
        | arity htwo _ => exact absurd rfl htwo
        | column htext => cases htext
    | some given =>
        cases h with
        | arity _ hthree => exact absurd rfl hthree
        | column htext => cases htext
        | comparison h => exact ⟨given, rfl, h⟩
  · rintro ⟨given, rfl, h⟩
    exact .comparison h

end Criterion

namespace Query

variable {q : Query} {operators : List String} {connector : Connector}

theorem exists_filter_single_eq_error_iff {column : String} {operator : Option Value}
    {value : Value} :
    (∃ error, q.filter operators (.single column operator value) connector = .error error) ↔
      ∃ given, operator = some given ∧ Criterion.NullClash operators given value := by
  simp only [filter_eq_error_iff, Criterion.conditions_single_eq_error_iff]
  exact Criterion.exists_resolve_eq_error_iff

theorem accepts_iff {entry : List Value} :
    q.Accepts operators connector entry ↔ ¬ Criterion.Faulty operators entry := by
  cases hentry : Criterion.ofEntry? entry with
  | none =>
      have hfaulty : Criterion.Faulty operators entry := by
        obtain ⟨error, hsplit⟩ := Criterion.exists_splitEntry_eq_error 0 hentry
        rcases Criterion.splitEntry_eq_error_iff.mp hsplit with
          ⟨htwo, hthree, -⟩ | ⟨column, rest, rfl, -, htext, -⟩
        · exact .arity htwo hthree
        · exact .column htext
      simp [Accepts, hentry, hfaulty]
  | some single =>
      obtain ⟨column, operator, value, rfl, rfl⟩ := Criterion.ofEntry?_eq_some_iff.mp hentry
      have hsingle :
          (∃ next, q.filter operators (.single column operator value) connector = .ok next) ↔
            ¬ Criterion.Faulty operators (.text column :: (operator.toList ++ [value])) := by
        rw [Criterion.faulty_iff, ← exists_filter_single_eq_error_iff, exists_error_iff, not_not]
      simp [Accepts, hentry, hsingle]

theorem exists_filter_group_eq_error_iff {entries : List (List Value)} :
    (∃ error, q.filter operators (.group entries) connector = .error error) ↔
      ∃ entry ∈ entries, Criterion.Faulty operators entry := by
  have hgroup : q.filter operators (.group entries) connector =
      q.filterFrom operators connector 0 entries := rfl
  rw [exists_error_iff, hgroup, exists_filterFrom_eq_ok_iff]
  simp only [accepts_iff]
  simp

theorem isRefusal_of_filter {criterion : Criterion} {error : Error}
    (h : q.filter operators criterion connector = .error error) : error.isRefusal = true := by
  cases criterion with
  | single column operator value =>
      cases Criterion.conditions_single_eq_error (filter_eq_error_iff.mp h)
      rfl
  | group entries =>
      obtain ⟨_, _, _, _, _, hfault⟩ := filterFrom_eq_error_iff.mp h
      cases hfault <;> rfl

end Query

/-! ### What is appended -/

namespace Criterion

variable {operators : List String} {connector : Connector}

/-- The condition that an entry appends, and the value that is bound for it. -/
inductive Appends (operators : List String) (connector : Connector) :
    List Value → Condition × Value → Prop where
  | equality (column : String) (value : Value) :
      Appends operators connector [.text column, value]
        (⟨column, .compare .equal value.firstScalar, connector⟩, value.firstScalar)
  | listed (column : String) {candidate : String} {op : Operator} (value : Value)
      (hop : Operator.lookup candidate operators = some op) :
      Appends operators connector [.text column, .text candidate, value]
        (⟨column, if op.isBitwise then .bitwise op value.firstScalar
          else .compare op value.firstScalar, connector⟩, value.firstScalar)
  | unlisted (column : String) {given : Value} (value : Value)
      (hgiven : ∀ candidate, given = .text candidate →
        Operator.lookup candidate operators = none) :
      Appends operators connector [.text column, given, value]
        (⟨column, .compare .equal given, connector⟩, given)

theorem Appends.bindings {entry : List Value} {c : Condition} {v : Value}
    (h : Appends operators connector entry (c, v)) : c.bindings = [v] := by
  cases h with
  | equality => rfl
  | unlisted => rfl
  | listed => exact bindings_comparison _ _ _ _

theorem Compares.exists_appends {entry : List Value} {c : Condition}
    (h : Compares operators connector entry c) :
    ∃ v, Appends operators connector entry (c, v) := by
  obtain ⟨column, hop⟩ := h
  rename_i value bound op
  cases hop with
  | default => exact ⟨_, .equality column value⟩
  | known hop _ => exact ⟨_, .listed column value hop⟩
  | unknown _ hgiven =>
      refine ⟨_, .unlisted column value ?_⟩
      rintro candidate rfl
      simpa only [Value.text?, Option.bind_some] using hgiven

theorem exists_appended {entries : List (List Value)} {cs : List Condition}
    (h : List.Forall₂ (Compares operators connector) entries cs) :
    ∃ appended, List.Forall₂ (Appends operators connector) entries appended ∧
      cs = appended.map Prod.fst ∧ cs.flatMap Condition.bindings = appended.map Prod.snd := by
  induction h with
  | nil => exact ⟨[], .nil, rfl, rfl⟩
  | cons hentry _ ih =>
      obtain ⟨v, hv⟩ := hentry.exists_appends
      obtain ⟨appended, happended, hcs, hbindings⟩ := ih
      refine ⟨(_, v) :: appended, .cons hv happended, ?_, ?_⟩
      · rw [List.map_cons, ← hcs]
      · rw [List.flatMap_cons, hv.bindings, hbindings]
        rfl

end Criterion

/-- A single comparison is refused just for `NULL` next to an operator that cannot compare with
it, and a group just for an entry that is faulty. Every refusal is told as one. What is
accepted appends one condition and one bound value for each comparison and changes nothing
else. -/
theorem filter_refused_iff (d : Dialect) (q : Query) (connector : Connector) :
    (∀ column operator value,
      (∃ error, q.filter d.operators (.single column operator value) connector =
          .error error) ↔
        ∃ given, operator = some given ∧ Criterion.NullClash d.operators given value) ∧
    (∀ entries,
      (∃ error, q.filter d.operators (.group entries) connector = .error error) ↔
        ∃ entry ∈ entries, Criterion.Faulty d.operators entry) ∧
    ∀ criterion,
      (∀ error, q.filter d.operators criterion connector = .error error →
        error.isRefusal = true) ∧
      ∀ next, q.filter d.operators criterion connector = .ok next →
        ∃ appended,
          List.Forall₂ (Criterion.Appends d.operators connector) criterion.entries appended ∧
          next.table = q.table ∧ next.columns = q.columns ∧
          next.conditions = q.conditions ++ appended.map Prod.fst ∧
          next.bindings.toList = q.bindings.toList ++ appended.map Prod.snd := by
  refine ⟨fun column operator value => Query.exists_filter_single_eq_error_iff,
    fun entries => Query.exists_filter_group_eq_error_iff, ?_⟩
  intro criterion
  refine ⟨fun error => Query.isRefusal_of_filter, ?_⟩
  intro next hnext
  obtain ⟨cs, hcs, rfl⟩ := Query.filter_eq_ok_iff.mp hnext
  obtain ⟨appended, happended, hconditions, hbindings⟩ :=
    Criterion.exists_appended (Criterion.conditions_eq_ok_iff.mp hcs)
  refine ⟨appended, happended, q.table_pushAll cs, q.columns_pushAll cs, ?_, ?_⟩
  · rw [Query.conditions_pushAll, hconditions]
  · rw [Query.bindings_pushAll, hbindings]

/-- A group whose second entry has `NULL` as its first scalar, behind an empty array. -/
def nullSecond (operator : String) : List (List Value) :=
  [[.text "a", .int32 1],
    [.text "b", .text operator, .array [.array [], .array [.null, .int32 2]]]]

/-- With a text that is no operator the group is accepted, and the text is bound. -/
theorem filter_refused_iff_nullSecond :
    ({} : Query).filter (Dialect.mysql "").operators (.group (nullSecond " SOUNDS like")) .or =
        .error (.argument .nullComparison) ∧
      (Error.argument .nullComparison).isRefusal = true ∧
      ∃ next,
        ({} : Query).filter (Dialect.mysql "").operators (.group (nullSecond "sounds")) .or =
          .ok next ∧
        ∃ appended,
          List.Forall₂ (Criterion.Appends (Dialect.mysql "").operators .or)
            (nullSecond "sounds") appended ∧
          next.conditions = appended.map Prod.fst ∧
          next.bindings.toList = appended.map Prod.snd := by
  obtain ⟨-, -, houtcome⟩ := filter_refused_iff (Dialect.mysql "") {} .or
  obtain ⟨hrefusal, -⟩ := houtcome (.group (nullSecond " SOUNDS like"))
  obtain ⟨-, haccepted⟩ := houtcome (.group (nullSecond "sounds"))
  obtain ⟨appended, happended, -, -, hconditions, hbindings⟩ := haccepted _ rfl
  exact ⟨rfl, hrefusal _ rfl, _, rfl, appended, happended, hconditions, hbindings⟩

end SqlSelect
