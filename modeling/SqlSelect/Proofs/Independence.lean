import SqlSelect.Proofs.Run

/-!
Independence of the bound values. Two runs of the same calls that differ in their values
end in queries that differ in their values only, however the values took part in the
calls, and both are written as one and the same statement. The sizes of the lists that a
column is looked for in are the one thing about the values that shows.
-/

namespace SqlSelect

/-! ### Calls that differ in their values -/

/-- Entries of a group that differ in the value slot only, which is the last one. -/
structure SameEntry (entry entry' : List Value) : Prop where
  length : entry.length = entry'.length
  slots : entry.dropLast = entry'.dropLast

inductive Criterion.SameUpToValues : Criterion → Criterion → Prop where
  | single (column : String) (operator : Option Value) (value value' : Value) :
      SameUpToValues (.single column operator value) (.single column operator value')
  | group {entries entries' : List (List Value)} (h : List.Forall₂ SameEntry entries entries') :
      SameUpToValues (.group entries) (.group entries')

/-- One call with two choices of its values. The lists of an `in` have equally many scalars. -/
inductive Call.SameUpToValues : Call → Call → Prop where
  | table (name : String) : SameUpToValues (.table name) (.table name)
  | aliasedTable (name label : String) :
      SameUpToValues (.aliasedTable name label) (.aliasedTable name label)
  | select (columns : List String) : SameUpToValues (.select columns) (.select columns)
  | selectAlso (columns : List String) :
      SameUpToValues (.selectAlso columns) (.selectAlso columns)
  | filter {criterion criterion' : Criterion} (h : criterion.SameUpToValues criterion')
      (connector : Connector) :
      SameUpToValues (.filter criterion connector) (.filter criterion' connector)
  | among (column : String) {values values' : List Value}
      (h : (Value.flattenAll values).length = (Value.flattenAll values').length)
      (negated : Bool) (connector : Connector) :
      SameUpToValues (.among column values negated connector)
        (.among column values' negated connector)
  | null (column : String) (negated : Bool) (connector : Connector) :
      SameUpToValues (.null column negated connector) (.null column negated connector)
  | between (column : String) (low low' high high' : Value) (negated : Bool)
      (connector : Connector) :
      SameUpToValues (.between column low high negated connector)
        (.between column low' high' negated connector)
  | bind (value value' : Value) (category : String) :
      SameUpToValues (.bind value category) (.bind value' category)

/-- The query after calls that are all accepted, or why the first of them that is not
was refused. -/
def Call.chain (operators : List String) (q : Query) (calls : List Call) : Except Error Query :=
  calls.foldlM (apply operators) q

/-! ### Queries that differ in their values -/

/-- Conditions that are the same but for their values. -/
structure Condition.SameUpToValues (c c' : Condition) : Prop where
  column : c.column = c'.column
  form : c.form = c'.form
  connector : c.connector = c'.connector

structure Query.SameUpToValues (q q' : Query) : Prop where
  table : q.table = q'.table
  columns : q.columns = q'.columns
  conditions : List.Forall₂ Condition.SameUpToValues q.conditions q'.conditions

namespace Criterion

variable {operators : List String} {connector : Connector}

/-- The operator slot alone decides on the operator: the value is only ever refused. -/
theorem Resolves.operator_eq {operator : Option Value} {value value' bound bound' : Value}
    {op op' : Operator} (h : Resolves operators operator value op bound)
    (h' : Resolves operators operator value' op' bound') : op = op' := by
  cases h with
  | default => cases h'; rfl
  | unknown _ hgiven =>
      cases h' with
      | unknown => rfl
      | known hop => simp [Value.text?, hop] at hgiven
  | known hop =>
      cases h' with
      | unknown _ hgiven => simp [Value.text?, hop] at hgiven
      | known hop' => exact Option.some.inj (hop.symm.trans hop')

theorem slots_eq {column column' : String} {operator operator' : Option Value}
    {value value' : Value}
    (h : SameEntry (.text column :: (operator.toList ++ [value]))
      (.text column' :: (operator'.toList ++ [value']))) :
    column = column' ∧ operator = operator' := by
  have hslots := h.slots
  rw [← List.cons_append, ← List.cons_append, List.dropLast_concat, List.dropLast_concat,
    List.cons.injEq, Value.text.injEq] at hslots
  refine ⟨hslots.1, ?_⟩
  cases operator <;> cases operator' <;> simp_all

theorem Compares.sameUpToValues {entry entry' : List Value} {c c' : Condition}
    (h : Compares operators connector entry c) (h' : Compares operators connector entry' c')
    (hentry : SameEntry entry entry') : c.SameUpToValues c' := by
  obtain ⟨column, hop⟩ := h
  obtain ⟨column', hop'⟩ := h'
  obtain ⟨rfl, rfl⟩ := slots_eq hentry
  cases hop.operator_eq hop'
  -- The kind of the test depends on the operator alone.
  refine ⟨rfl, ?_, rfl⟩
  simp only [Condition.form]
  split <;> rfl

theorem SameUpToValues.entries {criterion criterion' : Criterion}
    (h : criterion.SameUpToValues criterion') :
    List.Forall₂ SameEntry criterion.entries criterion'.entries := by
  cases h with
  | single column operator value value' =>
      refine .cons ⟨?_, ?_⟩ .nil
      · simp
      · rw [← List.cons_append, ← List.cons_append, List.dropLast_concat, List.dropLast_concat]
  | group h => exact h

/-- What two criteria ask for is the same up to values, entry by entry. -/
theorem SameUpToValues.conditions {criterion criterion' : Criterion}
    (h : criterion.SameUpToValues criterion') {cs cs' : List Condition}
    (hcs : criterion.conditions operators connector = .ok cs)
    (hcs' : criterion'.conditions operators connector = .ok cs') :
    List.Forall₂ Condition.SameUpToValues cs cs' :=
  forall₂_of_forall₂ h.entries (conditions_eq_ok_iff.mp hcs) (conditions_eq_ok_iff.mp hcs')
    fun hentry hc hc' => hc.sameUpToValues hc' hentry

end Criterion

namespace Query

variable {q q' : Query}

theorem SameUpToValues.push (h : q.SameUpToValues q') {c c' : Condition}
    (hc : c.SameUpToValues c') : (q.push c).SameUpToValues (q'.push c') where
  table := h.table
  columns := h.columns
  conditions := List.rel_append h.conditions (.cons hc .nil)

theorem SameUpToValues.pushAll (h : q.SameUpToValues q') {cs cs' : List Condition}
    (hcs : List.Forall₂ Condition.SameUpToValues cs cs') :
    (q.pushAll cs).SameUpToValues (q'.pushAll cs') := by
  induction hcs generalizing q q' with
  | nil => exact h
  | cons hc _ ih => exact ih (h.push hc)

end Query

namespace Call

variable {operators : List String} {call call' : Call} {calls calls' : List Call}
  {q q' next next' : Query}

/-- A call that is accepted with either choice of its values keeps two queries the same
but for the values. -/
theorem SameUpToValues.apply (hcall : call.SameUpToValues call') (hq : q.SameUpToValues q')
    (h : call.apply operators q = .ok next) (h' : call'.apply operators q' = .ok next') :
    next.SameUpToValues next' := by
  cases hcall with
  | table name =>
      cases h; cases h'
      exact ⟨rfl, hq.columns, hq.conditions⟩
  | aliasedTable name label =>
      cases h; cases h'
      exact ⟨rfl, hq.columns, hq.conditions⟩
  | select columns =>
      cases h; cases h'
      exact ⟨hq.table, rfl, hq.conditions⟩
  | selectAlso columns =>
      cases h; cases h'
      refine ⟨hq.table, ?_, hq.conditions⟩
      simp only [Query.selectAlso, Query.select, hq.columns]
  | filter hcriterion connector =>
      obtain ⟨cs, hcs, rfl⟩ := Query.filter_eq_ok_iff.mp h
      obtain ⟨cs', hcs', rfl⟩ := Query.filter_eq_ok_iff.mp h'
      exact hq.pushAll (hcriterion.conditions hcs hcs')
  | among column hsize negated connector =>
      cases h; cases h'
      refine hq.push ⟨rfl, ?_, rfl⟩
      simp only [Condition.form, Test.form, hsize]
  | null column negated connector =>
      cases h; cases h'
      exact hq.push ⟨rfl, rfl, rfl⟩
  | between column low low' high high' negated connector =>
      cases h; cases h'
      exact hq.push ⟨rfl, rfl, rfl⟩
  | bind value value' category =>
      obtain ⟨known, -, h⟩ := bind_eq_ok_iff.mp h
      obtain ⟨known', -, h'⟩ := bind_eq_ok_iff.mp h'
      cases h; cases h'
      exact ⟨hq.table, hq.columns, hq.conditions⟩

theorem sameUpToValues_chain (hcalls : List.Forall₂ SameUpToValues calls calls')
    (hq : q.SameUpToValues q') (h : chain operators q calls = .ok next)
    (h' : chain operators q' calls' = .ok next') : next.SameUpToValues next' := by
  induction hcalls generalizing q q' with
  | nil =>
      cases h; cases h'
      exact hq
  | cons hcall _ ih =>
      rw [chain, List.foldlM_cons] at h h'
      obtain ⟨middle, hmiddle, h⟩ := bind_eq_ok_iff.mp h
      obtain ⟨middle', hmiddle', h'⟩ := bind_eq_ok_iff.mp h'
      exact ih (hcall.apply hq hmiddle hmiddle') h h'

end Call

/-! ### Statements -/

namespace Frame

variable (f : Frame)

/-- The frame with the placeholders and the phrases of conditions left as they are, over its
own columns. -/
def phrased : Frame := { f with condition := Phrase.condition f.column fun _ => "?" }

/-- The dialects that leave the phrases alone have such a frame. -/
theorem phrased_common (n : Naming) (operators : List String) :
    (Dialect.common n operators).frame.phrased = (Dialect.common n operators).frame := by
  refine Frame.ext rfl rfl rfl ?_ rfl rfl
  funext c
  exact (condition_eq_phrase n operators c).symm

theorem phrased_condition (c : Condition) :
    f.phrased.condition c =
      match c.form.constant? with
      | some clause => clause
      | none => f.column c.column ++ c.form.phrase :=
  Phrase.condition_common f.column c

theorem condition_congr {c c' : Condition} (h : c.SameUpToValues c') :
    f.phrased.condition c = f.phrased.condition c' := by
  rw [phrased_condition, phrased_condition, h.form, h.column]

theorem whereClause_congr {conditions conditions' : List Condition}
    (h : List.Forall₂ Condition.SameUpToValues conditions conditions') :
    f.phrased.whereClause conditions = f.phrased.whereClause conditions' := by
  -- The same list of texts, clause by clause, though the conditions differ.
  have htexts : (conditions.map fun c => c.connector.word ++ " " ++ f.phrased.condition c) =
      conditions'.map fun c => c.connector.word ++ " " ++ f.phrased.condition c := by
    rw [← List.forall₂_eq_eq_eq, List.forall₂_map_left_iff, List.forall₂_map_right_iff]
    refine h.imp fun c c' hc => ?_
    rw [hc.connector, f.condition_congr hc]
  have hempty : conditions.isEmpty = conditions'.isEmpty := by
    cases h <;> rfl
  rw [whereClause, whereClause, htexts, hempty]

theorem compile_congr {q q' : Query} (h : q.SameUpToValues q') :
    f.phrased.compile q = f.phrased.compile q' := by
  rw [compile, compile, h.table, h.columns, f.whereClause_congr h.conditions]

end Frame

/-- Two runs of the same calls, all of them accepted, that differ in their values end in
queries that differ in their values only. Every dialect and every frame that leaves the
placeholders and the phrases of conditions as they are writes both as the same statement. -/
theorem compile_eq_of_sameUpToValues (operators : List String) (calls calls' : List Call)
    (q q' : Query) (hcalls : List.Forall₂ Call.SameUpToValues calls calls')
    (h : Call.chain operators {} calls = .ok q)
    (h' : Call.chain operators {} calls' = .ok q') :
    q.SameUpToValues q' ∧
      (∀ n : Naming, q.compile (.common n operators) = q'.compile (.common n operators)) ∧
      ∀ f : Frame, f.phrased.compile q = f.phrased.compile q' := by
  have hq : q.SameUpToValues q' := Call.sameUpToValues_chain hcalls ⟨rfl, rfl, .nil⟩ h h'
  refine ⟨hq, ?_, fun f => f.compile_congr hq⟩
  intro n
  rw [Query.compile, Query.compile, ← Frame.phrased_common]
  exact Frame.compile_congr _ hq

/-- A search for what a user typed. The first operator of its group is no operator. -/
def searchCalls (age name : Value) (ids : List Value) : List Call :=
  [.table "users as u", .selectAlso ["u.id"],
    .filter (.single "age" (some (.text " >= ")) age) .and,
    .filter (.group [[.text "name", .text "name is", name], [.text "kind", name]]) .or,
    .among "u.id" ids false .and, .between "born" name age true .or, .bind name "where"]

/-- The values of a search do not show, not even a `NULL` and a placeholder among them. -/
theorem compile_eq_searchCalls :
    ∃ q q', Call.chain [] {} (searchCalls (.int32 18) .null [.bool true, .bool false]) = .ok q ∧
      Call.chain [] {} (searchCalls (.array [.text "? or 1"]) (.array [.array [], .text "b"])
        [.array [.null, .array [.text "?"]]]) = .ok q' ∧
      q.SameUpToValues q' ∧
      (∀ n : Naming, q.compile (.common n []) = q'.compile (.common n [])) ∧
      ∀ f : Frame, f.phrased.compile q = f.phrased.compile q' := by
  have hentries (name name' : Value) : List.Forall₂ SameEntry
      [[.text "name", .text "name is", name], [.text "kind", name]]
      [[.text "name", .text "name is", name'], [.text "kind", name']] :=
    .cons ⟨rfl, rfl⟩ (.cons ⟨rfl, rfl⟩ .nil)
  have hsize : (Value.flattenAll [.bool true, .bool false]).length =
      (Value.flattenAll [.array [.null, .array [.text "?"]]]).length := rfl
  have hcalls : List.Forall₂ Call.SameUpToValues
      (searchCalls (.int32 18) .null [.bool true, .bool false])
      (searchCalls (.array [.text "? or 1"]) (.array [.array [], .text "b"])
        [.array [.null, .array [.text "?"]]]) :=
    .cons (.table _) (.cons (.selectAlso _) (.cons (.filter (.single _ _ _ _) _)
      (.cons (.filter (.group (hentries _ _)) _) (.cons (.among _ hsize _ _)
        (.cons (.between _ _ _ _ _ _ _) (.cons (.bind _ _ _) .nil))))))
  exact ⟨_, _, rfl, rfl, compile_eq_of_sameUpToValues [] _ _ _ _ hcalls rfl rfl⟩

end SqlSelect
