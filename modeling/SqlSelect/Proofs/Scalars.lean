import SqlSelect.Dialect.Known
import SqlSelect.Proofs.Run

/-!
Which bound values are scalars. Values and lists of values are flattened before they
are bound. The operator slot of a comparison is not: an array in it is no known
operator, and as the value to compare with it is bound as it was given.
-/

namespace SqlSelect

namespace Value

mutual

theorem isArray_of_mem_flatten (value : Value) {scalar : Value} (h : scalar ∈ value.flatten) :
    scalar.isArray = false := by
  cases value with
  | array items => exact isArray_of_mem_flattenAll items h
  | _ =>
      cases List.mem_singleton.mp h
      rfl

theorem isArray_of_mem_flattenAll (values : List Value) {scalar : Value}
    (h : scalar ∈ flattenAll values) : scalar.isArray = false := by
  cases values with
  | nil => cases h
  | cons value values =>
      rw [flattenAll_cons, List.mem_append] at h
      rcases h with h | h
      · exact isArray_of_mem_flatten value h
      · exact isArray_of_mem_flattenAll values h

end

theorem isArray_firstScalar (value : Value) : value.firstScalar.isArray = false := by
  rw [firstScalar]
  cases hflatten : value.flatten with
  | nil => rfl
  | cons scalar scalars =>
      apply isArray_of_mem_flatten value
      rw [hflatten]
      exact List.mem_cons_self

theorem isArray_iff {value : Value} : value.isArray = true ↔ ∃ items, value = array items := by
  cases value <;> simp [isArray]

end Value

theorem exists_mem_iff_of_forall₂ {α β : Type} {R : α → β → Prop} {P : α → Prop} {Q : β → Prop}
    {as : List α} {bs : List β} (h : List.Forall₂ R as bs)
    (hR : ∀ {a b}, R a b → (P a ↔ Q b)) : (∃ a ∈ as, P a) ↔ ∃ b ∈ bs, Q b := by
  induction h with
  | nil => simp
  | cons hab _ ih => rw [List.exists_mem_cons_iff, List.exists_mem_cons_iff, hR hab, ih]

theorem exists_mem_flatMap_iff {α β : Type} {P : β → Prop} {as : List α} {f : α → List β} :
    (∃ b ∈ as.flatMap f, P b) ↔ ∃ a ∈ as, ∃ b ∈ f a, P b := by
  constructor
  · rintro ⟨b, hb, hP⟩
    obtain ⟨a, ha, hb⟩ := List.mem_flatMap.mp hb
    exact ⟨a, ha, b, hb, hP⟩
  · rintro ⟨a, ha, b, hb, hP⟩
    exact ⟨b, List.mem_flatMap.mpr ⟨a, ha, hb⟩, hP⟩

namespace Criterion

variable {operators : List String} {connector : Connector}

/-- An entry with an array in the operator slot. -/
def OperatorArray (entry : List Value) : Prop :=
  ∃ column items value, entry = [column, .array items, value]

theorem Resolves.isArray_iff {operator : Option Value} {value bound : Value} {op : Operator}
    (h : Resolves operators operator value op bound) (hvalue : value.isArray = false) :
    bound.isArray = true ↔ ∃ items, operator = some (.array items) := by
  cases h with
  | default => simp [hvalue]
  | unknown => simp [Value.isArray_iff]
  | known => simp [hvalue]

theorem Compares.exists_isArray_iff {entry : List Value} {c : Condition}
    (h : Compares operators connector entry c) :
    OperatorArray entry ↔ ∃ v ∈ c.bindings, v.isArray = true := by
  obtain ⟨column, hop⟩ := h
  rename_i operator value bound op
  have hbound := hop.isArray_iff value.isArray_firstScalar
  simp only [bindings_comparison, List.mem_singleton, exists_eq_left, hbound]
  cases operator with
  | none => simp [OperatorArray]
  | some given => simp [OperatorArray]

end Criterion

namespace Call

variable (operators : List String)

/-- A call that is accepted, although it has an array in an operator slot. -/
def BindsArray : Call → Prop
  | filter criterion connector =>
      (∃ cs, criterion.conditions operators connector = .ok cs) ∧
        ∃ entry ∈ criterion.entries, Criterion.OperatorArray entry
  | _ => False

theorem exists_isArray_added_iff (call : Call) :
    (∃ c ∈ call.added operators, ∃ v ∈ c.bindings, v.isArray = true) ↔
      call.BindsArray operators := by
  cases call with
  | filter criterion connector =>
      rw [added, BindsArray]
      cases hcs : criterion.conditions operators connector with
      | ok cs =>
          have hentries := Criterion.conditions_eq_ok_iff.mp hcs
          rw [← exists_mem_iff_of_forall₂ hentries Criterion.Compares.exists_isArray_iff]
          simp
      | error error => simp
  | among column values negated connector =>
      have hscalars : ∀ v ∈ Value.flattenAll values, v.isArray = false :=
        fun v hv => Value.isArray_of_mem_flattenAll values hv
      simpa [added, BindsArray, Condition.bindings, Test.bindings] using hscalars
  | between column low high negated connector =>
      have hlow := low.isArray_firstScalar
      have hhigh := high.isArray_firstScalar
      simp [added, BindsArray, Condition.bindings, Test.bindings, hlow, hhigh]
  | null column negated connector => simp [added, BindsArray, Condition.bindings, Test.bindings]
  | _ => simp [added, BindsArray]

theorem exists_isArray_bound_iff (call : Call) :
    (∃ v ∈ call.bound operators, v.isArray = true) ↔ call.BindsArray operators := by
  cases call with
  | bind value category =>
      have hscalars : ∀ v ∈ value.flatten, v.isArray = false :=
        fun v hv => Value.isArray_of_mem_flatten value hv
      rw [bound]
      cases Category.ofName? category with
      | ok category => simpa [BindsArray] using hscalars
      | error error => simp [BindsArray]
  | _ => rw [bound_of_not_isBind operators rfl, exists_mem_flatMap_iff, exists_isArray_added_iff]

end Call

/-- An array is bound, and is kept in a condition, just when one of the calls is a
comparison that was accepted with an array in an operator slot. -/
theorem exists_isArray_build_iff (d : Dialect) (calls : List Call) :
    ((∃ v ∈ (d.build calls).bindings.toList, v.isArray = true) ↔
      ∃ call ∈ calls, call.BindsArray d.operators) ∧
    ((∃ c ∈ (d.build calls).conditions, ∃ v ∈ c.bindings, v.isArray = true) ↔
      ∃ call ∈ calls, call.BindsArray d.operators) := by
  have hbindings : (d.build calls).bindings.toList = calls.flatMap (Call.bound d.operators) :=
    Call.bindings_run d.operators {} calls
  have hconditions : (d.build calls).conditions = calls.flatMap (Call.added d.operators) :=
    Call.conditions_run d.operators {} calls
  constructor
  · rw [hbindings, exists_mem_flatMap_iff]
    simp only [Call.exists_isArray_bound_iff]
  · rw [hconditions, exists_mem_flatMap_iff]
    simp only [Call.exists_isArray_added_iff]

/-- The array of one value in the operator slot is bound, though the value slot of the
same comparison gives a scalar. -/
theorem isArray_build_operator :
    ¬ ((∀ v ∈ ((Dialect.mysql "").build [.table "t",
          .filter (.single "a" (some (.array [.bool true])) (.int32 1)) .and]).bindings.toList,
        v.isArray = false) ∧
      ∀ c ∈ ((Dialect.mysql "").build [.table "t",
          .filter (.single "a" (some (.array [.bool true])) (.int32 1)) .and]).conditions,
        ∀ v ∈ c.bindings, v.isArray = false) := by
  rintro ⟨hbindings, -⟩
  have harray := hbindings (.array [.bool true]) List.mem_cons_self
  cases harray

end SqlSelect
