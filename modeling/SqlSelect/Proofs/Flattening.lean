import SqlSelect.Proofs.Scalars

/-!
What a call takes of the values it is given. Of a value that is compared with it takes
the first scalar, of a bound value and of a list of values all scalars: in every case two
values with the same scalars, however they are nested, have the same outcome.
-/

namespace SqlSelect

namespace Value

theorem flatten_of_isArray_eq_false {value : Value} (h : value.isArray = false) :
    value.flatten = [value] := by
  cases value with
  | array items => cases h
  | _ => rfl

theorem flattenAll_of_forall_isArray_eq_false {values : List Value}
    (h : ∀ value ∈ values, value.isArray = false) : flattenAll values = values := by
  induction values with
  | nil => rfl
  | cons value values ih =>
      rw [List.forall_mem_cons] at h
      rw [flattenAll_cons, flatten_of_isArray_eq_false h.1, ih h.2, List.singleton_append]

/-- Scalars have nothing left to flatten. -/
theorem flatten_array_flatten (value : Value) : (array value.flatten).flatten = value.flatten := by
  rw [flatten_array]
  exact flattenAll_of_forall_isArray_eq_false fun _ hscalar => isArray_of_mem_flatten value hscalar

theorem firstScalar_congr {value value' : Value} (h : value.flatten = value'.flatten) :
    value.firstScalar = value'.firstScalar := by
  rw [firstScalar, firstScalar, h]

end Value

namespace Criterion

/-- Entries of a group that agree but for how the value in their last slot is nested. -/
inductive SameEntryScalars : List Value → List Value → Prop where
  | empty : SameEntryScalars [] []
  | slots (front : List Value) {value value' : Value} (h : value.flatten = value'.flatten) :
      SameEntryScalars (front ++ [value]) (front ++ [value'])

/-- Criteria that agree but for how the values in their value slots are nested. -/
inductive SameScalars : Criterion → Criterion → Prop where
  | single (column : String) (operator : Option Value) {value value' : Value}
      (h : value.flatten = value'.flatten) :
      SameScalars (.single column operator value) (.single column operator value')
  | group {entries entries' : List (List Value)}
      (h : List.Forall₂ SameEntryScalars entries entries') :
      SameScalars (.group entries) (.group entries')

variable {operators : List String} {connector : Connector}

theorem comparison_congr {column : String} {operator : Option Value} {value value' : Value}
    (h : value.flatten = value'.flatten) :
    comparison operators connector column operator value =
      comparison operators connector column operator value' := by
  rw [comparison, comparison, Value.firstScalar_congr h]

/-- Whether an entry is split, and for what it is not, is up to the slots in front of its
value. -/
theorem exists_splitEntry_eq_map (index : Nat) (front : List Value) :
    ∃ slots : Except Error (String × Option Value), ∀ value,
      splitEntry index (front ++ [value]) =
        slots.map fun (column, operator) => (column, operator, value) := by
  match front with
  | [] => exact ⟨.error (.malformedGroup index 1), fun value => by cases value <;> rfl⟩
  | [column] =>
      cases column with
      | text column => exact ⟨.ok (column, none), fun _ => rfl⟩
      | _ => exact ⟨.error (.argument (.columnNotText index _)), fun _ => rfl⟩
  | [column, operator] =>
      cases column with
      | text column => exact ⟨.ok (column, some operator), fun _ => rfl⟩
      | _ => exact ⟨.error (.argument (.columnNotText index _)), fun _ => rfl⟩
  | first :: second :: third :: others =>
      refine ⟨.error (.malformedGroup index (others.length + 4)), fun value => ?_⟩
      simp [splitEntry, Except.map]

theorem entryConditions_congr {entries entries' : List (List Value)}
    (h : List.Forall₂ SameEntryScalars entries entries') (index : Nat) :
    entryConditions operators connector index entries =
      entryConditions operators connector index entries' := by
  induction h generalizing index with
  | nil => rfl
  | cons hentry _ ih =>
      rw [entryConditions, entryConditions, ih]
      cases hentry with
      | empty => rfl
      | slots front hvalue =>
          obtain ⟨slots, hslots⟩ := exists_splitEntry_eq_map index front
          rw [hslots, hslots]
          cases slots with
          | error error => rfl
          | ok slots =>
              simp only [Except.map, bind, Except.bind, comparison_congr hvalue]

theorem SameScalars.conditions_eq {criterion criterion' : Criterion}
    (h : criterion.SameScalars criterion') :
    criterion.conditions operators connector = criterion'.conditions operators connector := by
  cases h with
  | single column operator hvalue => rw [conditions, conditions, comparison_congr hvalue]
  | group hentries => exact entryConditions_congr hentries 0

end Criterion

namespace Call

/-- Calls that agree but for how the values given to them are nested. -/
inductive SameScalars : Call → Call → Prop where
  | table (name : String) : SameScalars (.table name) (.table name)
  | aliasedTable (name label : String) :
      SameScalars (.aliasedTable name label) (.aliasedTable name label)
  | select (columns : List String) : SameScalars (.select columns) (.select columns)
  | selectAlso (columns : List String) : SameScalars (.selectAlso columns) (.selectAlso columns)
  | filter {criterion criterion' : Criterion} (h : criterion.SameScalars criterion')
      (connector : Connector) :
      SameScalars (.filter criterion connector) (.filter criterion' connector)
  | among (column : String) {values values' : List Value}
      (h : values.flatMap Value.flatten = values'.flatMap Value.flatten) (negated : Bool)
      (connector : Connector) :
      SameScalars (.among column values negated connector)
        (.among column values' negated connector)
  | null (column : String) (negated : Bool) (connector : Connector) :
      SameScalars (.null column negated connector) (.null column negated connector)
  | between (column : String) {low low' high high' : Value} (hlow : low.flatten = low'.flatten)
      (hhigh : high.flatten = high'.flatten) (negated : Bool) (connector : Connector) :
      SameScalars (.between column low high negated connector)
        (.between column low' high' negated connector)
  | bind {value value' : Value} (h : value.flatten = value'.flatten) (category : String) :
      SameScalars (.bind value category) (.bind value' category)

/-- Calls given values with the same scalars have the same outcome on every query, the
same next one or the same error. Flattening leaves no array, goes through the items of an
array in their order and changes nothing when it is done again. -/
theorem apply_eq_of_sameScalars (operators : List String) (q : Query) {call call' : Call}
    (hcall : call.SameScalars call') :
    call.apply operators q = call'.apply operators q ∧
      (∀ value : Value, (∀ scalar ∈ value.flatten, scalar.isArray = false) ∧
        (Value.array value.flatten).flatten = value.flatten) ∧
      ∀ items : List Value, (Value.array items).flatten = items.flatMap Value.flatten := by
  refine ⟨?_, fun value => ⟨fun _ => value.isArray_of_mem_flatten, value.flatten_array_flatten⟩,
    Value.flattenAll_eq_flatMap⟩
  cases hcall with
  | filter hcriterion connector =>
      rw [apply, apply, Query.filter, Query.filter, hcriterion.conditions_eq]
  | among column hvalues negated connector =>
      rw [apply, apply, Query.among, Query.among, Value.flattenAll_eq_flatMap,
        Value.flattenAll_eq_flatMap, hvalues]
  | between column hlow hhigh negated connector =>
      rw [apply, apply, Query.between, Query.between, Value.firstScalar_congr hlow,
        Value.firstScalar_congr hhigh]
  | bind hvalue category =>
      simp only [apply, Query.bind, hvalue]
  | _ => rfl

/-- A group of two entries, of which one has an operator. -/
def ageOrName (age name : Value) : Call :=
  .filter (.group [[.text "age", .text ">", age], [.text "name", name]]) .or

/-- Brackets around the first scalar, an array of nothing in front of it and a text in an
array of its own do not show. -/
theorem apply_eq_ageOrName :
    SameScalars (ageOrName (.array [.array [], .int32 18, .null]) (.text "ann"))
        (ageOrName (.array [.array [.int32 18], .null]) (.array [.text "ann"])) ∧
      apply [] {} (ageOrName (.array [.array [], .int32 18, .null]) (.text "ann")) =
        apply [] {} (ageOrName (.array [.array [.int32 18], .null]) (.array [.text "ann"])) := by
  have hage : Criterion.SameEntryScalars
      [.text "age", .text ">", .array [.array [], .int32 18, .null]]
      [.text "age", .text ">", .array [.array [.int32 18], .null]] :=
    .slots [.text "age", .text ">"] rfl
  have hname : Criterion.SameEntryScalars [.text "name", .text "ann"]
      [.text "name", .array [.text "ann"]] := .slots [.text "name"] rfl
  have hcall : SameScalars (ageOrName (.array [.array [], .int32 18, .null]) (.text "ann"))
      (ageOrName (.array [.array [.int32 18], .null]) (.array [.text "ann"])) :=
    .filter (.group (.cons hage (.cons hname .nil))) .or
  exact ⟨hcall, (apply_eq_of_sameScalars [] {} hcall).1⟩

end Call

end SqlSelect
