import SqlSelect.Dialect.Known
import SqlSelect.Proofs.Run

/-!
Calls on different parts of a query. A call changes one part, the table, the columns or the
conditions with their bound values, and what it makes of that part is up to that part alone.
In which order calls on different parts were made does not show in a query.
-/

namespace SqlSelect

/-! ### Interleaved lists -/

/-- Three lists merged into one that keeps the order of each. -/
inductive Interleaved {α : Type} : List α → List α → List α → List α → Prop where
  | nil : Interleaved [] [] [] []
  | first (a : α) {as bs cs merged : List α} (h : Interleaved as bs cs merged) :
      Interleaved (a :: as) bs cs (a :: merged)
  | second (b : α) {as bs cs merged : List α} (h : Interleaved as bs cs merged) :
      Interleaved as (b :: bs) cs (b :: merged)
  | third (c : α) {as bs cs merged : List α} (h : Interleaved as bs cs merged) :
      Interleaved as bs (c :: cs) (c :: merged)

namespace Interleaved

variable {α : Type} {as bs cs merged : List α} {p : α → Bool}

theorem rotate (h : Interleaved as bs cs merged) : Interleaved bs cs as merged := by
  induction h with
  | nil => exact .nil
  | first a _ ih => exact .third a ih
  | second b _ ih => exact .first b ih
  | third c _ ih => exact .second c ih

/-- A list is found again among the others by what is true of it alone. -/
theorem filter_eq_first (h : Interleaved as bs cs merged) (has : ∀ a ∈ as, p a = true)
    (hbs : ∀ b ∈ bs, p b = false) (hcs : ∀ c ∈ cs, p c = false) : merged.filter p = as := by
  induction h with
  | nil => rfl
  | first a _ ih =>
      rw [List.forall_mem_cons] at has
      rw [List.filter_cons_of_pos has.1, ih has.2 hbs hcs]
  | second b _ ih =>
      rw [List.forall_mem_cons] at hbs
      rw [List.filter_cons_of_neg (by simp [hbs.1]), ih has hbs.2 hcs]
  | third c _ ih =>
      rw [List.forall_mem_cons] at hcs
      rw [List.filter_cons_of_neg (by simp [hcs.1]), ih has hbs hcs.2]

end Interleaved

/-! ### Parts of a query -/

/-- What a call is made on. The bound values go with the conditions. -/
inductive Part where
  | table
  | columns
  | conditions
  deriving DecidableEq, Repr

def Call.part : Call → Part
  | table _ => .table
  | aliasedTable _ _ => .table
  | select _ => .columns
  | selectAlso _ => .columns
  | filter _ _ => .conditions
  | among _ _ _ _ => .conditions
  | null _ _ _ => .conditions
  | between _ _ _ _ _ => .conditions
  | bind _ _ => .conditions

namespace Query

/-- A query with one part of this one and nothing else. -/
def only (q : Query) : Part → Query
  | .table => { table := q.table }
  | .columns => { columns := q.columns }
  | .conditions => { conditions := q.conditions, bindings := q.bindings }

theorem eq_of_only_eq {q q' : Query} (h : ∀ part, q.only part = q'.only part) : q = q' := by
  obtain ⟨table, columns, conditions, bindings⟩ := q
  obtain ⟨table', columns', conditions', bindings'⟩ := q'
  have htable : table = table' := congrArg Query.table (h .table)
  have hcolumns : columns = columns' := congrArg Query.columns (h .columns)
  have hconditions : conditions = conditions' := congrArg Query.conditions (h .conditions)
  have hbindings : bindings = bindings' := congrArg Query.bindings (h .conditions)
  rw [htable, hcolumns, hconditions, hbindings]

/-- Conditions appended to a query show in the part that they belong to. -/
theorem only_pushAll (q : Query) (cs : List Condition) (part : Part) :
    (q.pushAll cs).only part =
      if .conditions = part then (q.only part).pushAll cs else q.only part := by
  cases part with
  | table => simp [only]
  | columns => simp [only]
  | conditions =>
      rw [if_pos rfl]
      induction cs generalizing q with
      | nil => rfl
      | cons c cs ih => exact ih (q.push c)

end Query

namespace Call

/-! ### Calls on one part -/

variable (operators : List String) (q : Query)

/-- A call, refused or not, makes of its part what it makes of the part alone, and leaves the
other parts as they are. -/
theorem only_step (call : Call) (part : Part) :
    (call.step operators q).only part =
      if call.part = part then call.step operators (q.only part) else q.only part := by
  cases call with
  | filter criterion connector => rw [step_filter, step_filter, Query.only_pushAll]; rfl
  | bind value category =>
      rw [step_bind, step_bind]
      cases part with
      | _ => rfl
  | _ =>
      cases part with
      | _ => rfl

/-- A part of a query after a run is what the calls on it make of it, the other calls left
out. -/
theorem only_run (part : Part) (calls : List Call) :
    (run operators q calls).only part =
      run operators (q.only part) (calls.filter (·.part = part)) := by
  induction calls generalizing q with
  | nil => rfl
  | cons call calls ih =>
      rw [run_cons, ih, only_step]
      by_cases h : call.part = part
      · rw [if_pos h, List.filter_cons_of_pos (by simpa using h), run_cons]
      · rw [if_neg h, List.filter_cons_of_neg (by simpa using h)]

/-! ### Refusals -/

/-- The error that a call on a query is refused with, if it is. -/
def refusal? (call : Call) : Option Error :=
  match call.apply operators q with
  | .ok _ => none
  | .error error => some error

/-- Whether a call is refused, and why, does not depend on what a query holds already. -/
theorem refusal?_eq (q' : Query) (call : Call) :
    call.refusal? operators q = call.refusal? operators q' := by
  cases call with
  | filter criterion connector =>
      simp only [refusal?, apply, Query.filter]
      cases criterion.conditions operators connector with
      | ok cs => rfl
      | error error => rfl
  | bind value category =>
      simp only [refusal?, apply]
      cases Category.ofName? category with
      | ok category => rfl
      | error error => rfl
  | _ => rfl

/-- The calls of a run, each with the error that it is refused with, if it is. -/
def outcomes (q : Query) : List Call → List (Call × Option Error)
  | [] => []
  | call :: calls => (call, call.refusal? operators q) :: outcomes (call.step operators q) calls

theorem outcomes_eq_map (calls : List Call) :
    outcomes operators q calls = calls.map fun call => (call, call.refusal? operators {}) := by
  induction calls generalizing q with
  | nil => rfl
  | cons call calls ih => rw [outcomes, ih, refusal?_eq operators q {}, List.map_cons]

theorem filter_outcomes (part : Part) (calls : List Call) :
    (outcomes operators q calls).filter (·.1.part = part) =
      outcomes operators q (calls.filter (·.part = part)) := by
  rw [outcomes_eq_map, outcomes_eq_map, List.filter_map]
  rfl

/-! ### Calls on all parts -/

variable {tables selections conditions calls calls' : List Call}

/-- The calls on a part are found again in every interleaving, in their order. -/
theorem filter_part (htables : ∀ call ∈ tables, call.part = .table)
    (hselections : ∀ call ∈ selections, call.part = .columns)
    (hconditions : ∀ call ∈ conditions, call.part = .conditions)
    (h : Interleaved tables selections conditions calls) (part : Part) :
    calls.filter (·.part = part) =
      match part with
      | .table => tables
      | .columns => selections
      | .conditions => conditions := by
  have hown {own : List Call} {part : Part} (hcalls : ∀ call ∈ own, call.part = part) :
      ∀ call ∈ own, decide (call.part = part) = true :=
    fun call hcall => decide_eq_true (hcalls call hcall)
  have hother {others : List Call} {part other : Part}
      (hcalls : ∀ call ∈ others, call.part = other) (hne : other ≠ part) :
      ∀ call ∈ others, decide (call.part = part) = false := by
    intro call hcall
    rw [hcalls call hcall]
    exact decide_eq_false hne
  cases part with
  | table =>
      exact h.filter_eq_first (hown htables) (hother hselections nofun)
        (hother hconditions nofun)
  | columns =>
      exact h.rotate.filter_eq_first (hown hselections) (hother hconditions nofun)
        (hother htables nofun)
  | conditions =>
      exact h.rotate.rotate.filter_eq_first (hown hconditions) (hother htables nofun)
        (hother hselections nofun)

/-- Calls on the table, on the columns and on the conditions may be interleaved in any way:
they end in the same query and the same statement, and each call on a part is refused with
the same error or is accepted as before. -/
theorem run_eq_of_interleaved (d : Dialect) (q : Query)
    (htables : ∀ call ∈ tables, call.part = .table)
    (hselections : ∀ call ∈ selections, call.part = .columns)
    (hconditions : ∀ call ∈ conditions, call.part = .conditions)
    (h : Interleaved tables selections conditions calls)
    (h' : Interleaved tables selections conditions calls') :
    run d.operators q calls = run d.operators q calls' ∧
      (run d.operators q calls).compile d = (run d.operators q calls').compile d ∧
      ∀ part, (outcomes d.operators q calls).filter (·.1.part = part) =
        (outcomes d.operators q calls').filter (·.1.part = part) := by
  have hfilter (part : Part) :
      calls.filter (·.part = part) = calls'.filter (·.part = part) :=
    (filter_part htables hselections hconditions h part).trans
      (filter_part htables hselections hconditions h' part).symm
  have hrun : run d.operators q calls = run d.operators q calls' := by
    apply Query.eq_of_only_eq
    intro part
    rw [only_run, only_run, hfilter]
  refine ⟨hrun, by rw [hrun], fun part => ?_⟩
  rw [filter_outcomes, filter_outcomes, hfilter]

def openOrders : Query := (Query.ofTable "orders").null "closed" false .and

def orderTables : List Call := [.table "shop.orders", .aliasedTable "shop.orders" "o"]

def orderColumns : List Call := [.select ["o.id"], .selectAlso ["o.total", "o.id"]]

/-- The first and the last of these calls are refused. -/
def orderConditions : List Call :=
  [.filter (.single "o.total" (some (.text " > ")) (.array [.null])) .and,
    .filter (.group [[.text "o.kind", .text "a"], [.text "o.total", .text ">", .int32 5]]) .or,
    .bind (.int32 7) "having"]

def orderCalls : List Call := orderTables ++ (orderColumns ++ orderConditions)

/-- The same calls in turns, beginning with one that is refused. -/
def mixedOrderCalls : List Call :=
  [.filter (.single "o.total" (some (.text " > ")) (.array [.null])) .and,
    .select ["o.id"], .table "shop.orders",
    .filter (.group [[.text "o.kind", .text "a"], [.text "o.total", .text ">", .int32 5]]) .or,
    .selectAlso ["o.total", "o.id"], .bind (.int32 7) "having",
    .aliasedTable "shop.orders" "o"]

theorem run_eq_of_interleaved_orders :
    (∀ call ∈ orderTables, call.part = .table) ∧
      (∀ call ∈ orderColumns, call.part = .columns) ∧
      (∀ call ∈ orderConditions, call.part = .conditions) ∧
      Interleaved orderTables orderColumns orderConditions orderCalls ∧
      Interleaved orderTables orderColumns orderConditions mixedOrderCalls ∧
      run (Dialect.mysql "p_").operators openOrders orderCalls =
        run (Dialect.mysql "p_").operators openOrders mixedOrderCalls ∧
      (run (Dialect.mysql "p_").operators openOrders orderCalls).compile (.mysql "p_") =
        (run (Dialect.mysql "p_").operators openOrders mixedOrderCalls).compile (.mysql "p_") ∧
      (∀ part, (outcomes (Dialect.mysql "p_").operators openOrders orderCalls).filter
          (·.1.part = part) =
        (outcomes (Dialect.mysql "p_").operators openOrders mixedOrderCalls).filter
          (·.1.part = part)) ∧
      (outcomes (Dialect.mysql "p_").operators openOrders mixedOrderCalls).map (·.2) =
        [some (.argument .nullComparison), none, none, none, none,
          some (.argument (.unknownCategory "having")), none] := by
  have htables : ∀ call ∈ orderTables, call.part = .table := by simp [orderTables, part]
  have hcolumns : ∀ call ∈ orderColumns, call.part = .columns := by simp [orderColumns, part]
  have hconditions : ∀ call ∈ orderConditions, call.part = .conditions := by
    simp [orderConditions, part]
  have h : Interleaved orderTables orderColumns orderConditions orderCalls :=
    .first _ (.first _ (.second _ (.second _ (.third _ (.third _ (.third _ .nil))))))
  have h' : Interleaved orderTables orderColumns orderConditions mixedOrderCalls :=
    .third _ (.second _ (.first _ (.third _ (.second _ (.third _ (.first _ .nil))))))
  obtain ⟨hrun, hsql, houtcomes⟩ :=
    run_eq_of_interleaved (.mysql "p_") openOrders htables hcolumns hconditions h h'
  exact ⟨htables, hcolumns, hconditions, h, h', hrun, hsql, houtcomes, rfl⟩

end Call

end SqlSelect
