import SqlSelect.Call
import SqlSelect.Proofs.Comparison

/-!
Runs of calls. What a call appends to the conditions and to the bound values does
not depend on the query it is made on, so that a run appends what its calls do, one
after another.
-/

namespace SqlSelect

namespace Query

theorem conditions_pushAll (q : Query) (cs : List Condition) :
    (q.pushAll cs).conditions = q.conditions ++ cs := by
  induction cs generalizing q with
  | nil => simp
  | cons c cs ih => rw [pushAll_cons, ih, conditions_push, List.append_assoc]; rfl

theorem bindings_pushAll (q : Query) (cs : List Condition) :
    (q.pushAll cs).bindings.toList = q.bindings.toList ++ cs.flatMap Condition.bindings := by
  induction cs generalizing q with
  | nil => simp
  | cons c cs ih =>
      rw [pushAll_cons, ih, bindings_push, List.append_assoc, List.flatMap_cons]

@[simp] theorem columns_pushAll (q : Query) (cs : List Condition) :
    (q.pushAll cs).columns = q.columns := by
  induction cs generalizing q with
  | nil => rfl
  | cons c cs ih => exact ih (q.push c)

@[simp] theorem table_pushAll (q : Query) (cs : List Condition) :
    (q.pushAll cs).table = q.table := by
  induction cs generalizing q with
  | nil => rfl
  | cons c cs ih => exact ih (q.push c)

section Filter

variable {q next : Query} {operators : List String} {criterion : Criterion}
  {connector : Connector}

theorem filter_eq_ok_iff :
    q.filter operators criterion connector = .ok next ↔
      ∃ cs, criterion.conditions operators connector = .ok cs ∧ next = q.pushAll cs := by
  rw [filter, bind_eq_ok_iff]
  constructor
  · rintro ⟨cs, hcs, h⟩
    cases h
    exact ⟨cs, hcs, rfl⟩
  · rintro ⟨cs, hcs, rfl⟩
    exact ⟨cs, hcs, rfl⟩

theorem filter_eq_error_iff {error : Error} :
    q.filter operators criterion connector = .error error ↔
      criterion.conditions operators connector = .error error := by
  rw [filter, bind_eq_error_iff]
  constructor
  · rintro (h | ⟨cs, -, h⟩)
    · exact h
    · cases h
  · exact .inl

end Filter

end Query

namespace Call

/-- The conditions that a call appends, none where it is refused. -/
def added (operators : List String) : Call → List Condition
  | filter criterion connector =>
      match criterion.conditions operators connector with
      | .ok cs => cs
      | .error _ => []
  | among column values negated connector =>
      [⟨column, .among (Value.flattenAll values) negated, connector⟩]
  | null column negated connector => [⟨column, .null negated, connector⟩]
  | between column low high negated connector =>
      [⟨column, .between low.firstScalar high.firstScalar negated, connector⟩]
  | _ => []

/-- The values that a call binds, none where it is refused. -/
def bound (operators : List String) : Call → List Value
  | bind value category =>
      match Category.ofName? category with
      | .ok _ => value.flatten
      | .error _ => []
  | call => (call.added operators).flatMap Condition.bindings

def isBind : Call → Bool
  | bind _ _ => true
  | _ => false

variable (operators : List String) (q : Query)

theorem bound_of_not_isBind {call : Call} (h : call.isBind = false) :
    call.bound operators = (call.added operators).flatMap Condition.bindings := by
  cases call with
  | bind value category => cases h
  | _ => rfl

/-- A refused criterion appends no conditions, which leaves the query as it was. -/
theorem step_filter (criterion : Criterion) (connector : Connector) :
    (filter criterion connector).step operators q =
      q.pushAll ((filter criterion connector).added operators) := by
  simp only [step, apply, Query.filter, added]
  cases criterion.conditions operators connector with
  | ok cs => rfl
  | error error => rfl

theorem step_bind (value : Value) (category : String) :
    (bind value category).step operators q =
      { q with bindings := q.bindings.append ((bind value category).bound operators) .filter } := by
  simp only [step, apply, bound]
  cases Category.ofName? category with
  | ok category =>
      cases category
      rfl
  | error error => simp [Bindings.append]

theorem conditions_step (call : Call) :
    (call.step operators q).conditions = q.conditions ++ call.added operators := by
  cases call with
  | filter criterion connector => rw [step_filter, Query.conditions_pushAll]
  | among column values negated connector => rfl
  | null column negated connector => rfl
  | between column low high negated connector => rfl
  | bind value category =>
      rw [step_bind]
      exact (List.append_nil _).symm
  | _ => exact (List.append_nil _).symm

theorem bindings_step (call : Call) :
    (call.step operators q).bindings.toList = q.bindings.toList ++ call.bound operators := by
  cases call with
  | filter criterion connector => rw [step_filter, Query.bindings_pushAll]; rfl
  | bind value category => rw [step_bind, Bindings.toList_append]
  | among column values negated connector =>
      simp [step, apply, Query.among, bound, added]
  | null column negated connector => simp [step, apply, Query.null, bound, added]
  | between column low high negated connector =>
      simp [step, apply, Query.between, bound, added]
  | _ => exact (List.append_nil _).symm

theorem run_cons (call : Call) (calls : List Call) :
    run operators q (call :: calls) = run operators (call.step operators q) calls := rfl

theorem conditions_run (calls : List Call) :
    (run operators q calls).conditions = q.conditions ++ calls.flatMap (added operators) := by
  induction calls generalizing q with
  | nil => simp [run]
  | cons call calls ih =>
      rw [run_cons, ih, conditions_step, List.append_assoc, List.flatMap_cons]

theorem bindings_run (calls : List Call) :
    (run operators q calls).bindings.toList =
      q.bindings.toList ++ calls.flatMap (bound operators) := by
  induction calls generalizing q with
  | nil => simp [run]
  | cons call calls ih =>
      rw [run_cons, ih, bindings_step, List.append_assoc, List.flatMap_cons]

variable {operators}

/-- A condition that a call appends compares as an entry of a criterion asks for, or has
no operator at all. -/
theorem compares_or_operator?_eq_none {call : Call} {c : Condition}
    (hc : c ∈ call.added operators) :
    (∃ connector entry, Criterion.Compares operators connector entry c) ∨
      c.test.operator? = none := by
  cases call with
  | filter criterion connector =>
      rw [added] at hc
      cases hcs : criterion.conditions operators connector with
      | ok cs =>
          rw [hcs] at hc
          have hentries := Criterion.conditions_eq_ok_iff.mp hcs
          obtain ⟨entry, -, hentry⟩ := exists_mem_of_forall₂ hentries hc
          exact .inl ⟨connector, entry, hentry⟩
      | error error =>
          rw [hcs] at hc
          cases hc
  | among column values negated connector =>
      cases List.mem_singleton.mp hc
      exact .inr rfl
  | null column negated connector =>
      cases List.mem_singleton.mp hc
      exact .inr rfl
  | between column low high negated connector =>
      cases List.mem_singleton.mp hc
      exact .inr rfl
  | _ => cases hc

theorem listed_added {call : Call} {c : Condition} (hc : c ∈ call.added operators) :
    c.form.Listed operators := by
  rcases compares_or_operator?_eq_none hc with ⟨connector, entry, hentry⟩ | hnone
  · exact hentry.listed
  · exact c.test.listed_form_of_operator?_eq_none hnone

/-- Every condition of a query has a listed operator, whatever the calls were given. -/
theorem listed_run {calls : List Call} {c : Condition}
    (hc : c ∈ (run operators {} calls).conditions) : c.form.Listed operators := by
  rw [conditions_run] at hc
  obtain ⟨call, -, hadded⟩ := List.mem_flatMap.mp hc
  exact listed_added hadded

end Call

/-- The query that calls build in a dialect. -/
def Dialect.build (d : Dialect) (calls : List Call) : Query := Call.run d.operators {} calls

theorem Dialect.build_concat (d : Dialect) (calls : List Call) (call : Call) :
    d.build (calls ++ [call]) = call.step d.operators (d.build calls) := by
  simp [build, Call.run]

theorem Dialect.listed_build (d : Dialect) (calls : List Call) :
    ∀ c ∈ (d.build calls).conditions, c.form.Listed d.operators := by
  intro c hc
  exact Call.listed_run hc

end SqlSelect
