import SqlSelect.Query

/-!
The shape of statements in every dialect: which texts the clauses of a statement
consist of, and which words stand between them.
-/

namespace SqlSelect

namespace Dialect

theorem dropConnector_word (connector : Connector) (text : String) :
    dropConnector (connector.word ++ (" " ++ text)) = text := by
  cases connector with
  | and => simp [dropConnector, Connector.word, Text.afterWord?]
  | or => simp [dropConnector, Connector.word, Text.afterWord?]

/-- A condition behind the first one, with the connector that joins it to the one before. -/
def joined (d : Dialect) (c : Condition) : String :=
  " " ++ c.connector.word ++ " " ++ d.condition c

theorem intercalate_connectors (d : Dialect) (first : Condition) (rest : List Condition) :
    " ".intercalate ((first :: rest).map fun c => c.connector.word ++ " " ++ d.condition c) =
      first.connector.word ++ (" " ++ (d.condition first ++ String.join (rest.map d.joined))) := by
  induction rest generalizing first with
  | nil => simp [String.append_assoc]
  | cons second rest ih =>
      have hrest := ih second
      rw [List.map_cons] at hrest
      rw [List.map_cons, List.map_cons, String.intercalate_cons_cons, hrest]
      simp [joined, String.append_assoc]

theorem whereClause_cons (d : Dialect) (first : Condition) (rest : List Condition) :
    d.whereClause (first :: rest) =
      "where " ++ (d.condition first ++ String.join (rest.map d.joined)) := by
  have hclause : d.whereClause (first :: rest) = "where " ++ dropConnector (" ".intercalate
      ((first :: rest).map fun c => c.connector.word ++ " " ++ d.condition c)) := rfl
  rw [hclause, intercalate_connectors, dropConnector_word]

/-- The where clause as it stands behind the table. -/
def filtered (d : Dialect) (conditions : List Condition) : String :=
  match conditions with
  | [] => ""
  | first :: rest => " where " ++ (d.condition first ++ String.join (rest.map d.joined))

/-- The where clause stands behind a space. -/
theorem filtered_eq (d : Dialect) (conditions : List Condition) :
    d.filtered conditions =
      if conditions = [] then "" else " " ++ d.whereClause conditions := by
  cases conditions with
  | nil => rfl
  | cons first rest =>
      have hspace (s : String) : " where " ++ s = " " ++ ("where " ++ s) := by
        rw [← String.append_assoc]
        rfl
      rw [if_neg (by simp), whereClause_cons, filtered, hspace]

end Dialect

namespace Query

theorem compile_of_table {q : Query} {table : String} (h : q.table = some table) (d : Dialect) :
    q.compile d =
      .ok ("select " ++ (d.columns q.columns ++
        (" from " ++ (d.table table ++ d.filtered q.conditions)))) := by
  have hselect : ("select " ++ d.columns q.columns).isEmpty = false := by simp
  have hfrom : ("from " ++ d.table table).isEmpty = false := by simp
  have hspace (s : String) : " from " ++ s = " " ++ ("from " ++ s) := by
    rw [← String.append_assoc]
    rfl
  have hcompile : q.compile d = .ok (Dialect.joinClauses
      ["select " ++ d.columns q.columns, "from " ++ d.table table,
        d.whereClause q.conditions]) := Frame.compile_of_table h d.frame
  simp only [hcompile, hspace, Dialect.joinClauses, Dialect.filtered_eq]
  congr 1
  cases q.conditions with
  | nil =>
      have hwhere : d.whereClause [] = "" := rfl
      simp [hselect, hfrom, hwhere, String.append_assoc]
  | cons first rest =>
      have hwhere : (d.whereClause (first :: rest)).isEmpty = false := by
        rw [Dialect.whereClause_cons]
        simp
      rw [List.filter_cons_of_pos (by simp [hselect]), List.filter_cons_of_pos (by simp [hfrom]),
        List.filter_cons_of_pos (by simp [hwhere])]
      simp [String.append_assoc]

/-- A query can be compiled once it has a table. -/
theorem compile_eq_ok_iff {q : Query} {d : Dialect} {sql : String} :
    q.compile d = .ok sql ↔
      ∃ table, q.table = some table ∧
        sql = "select " ++ (d.columns q.columns ++
          (" from " ++ (d.table table ++ d.filtered q.conditions))) := by
  cases htable : q.table with
  | none => simp [compile, Frame.compile_of_tableless htable]
  | some table =>
      rw [compile_of_table htable]
      constructor
      · intro h
        exact ⟨table, rfl, (Except.ok.inj h).symm⟩
      · rintro ⟨table', heq, rfl⟩
        cases heq
        rfl

end Query

/-- In every dialect the where clause has the phrases of all conditions as they are, the
first one without its connector, and a statement has the columns, the table and the where
clause, if there are conditions. Only a query without a table has no statement. -/
theorem statement_shape (d : Dialect) :
    (∀ first rest, d.whereClause (first :: rest) =
      "where " ++ d.condition first ++
        String.join (rest.map fun c => " " ++ c.connector.word ++ " " ++ d.condition c)) ∧
    ∀ q : Query,
      (∀ error, q.compile d = .error error ↔ q.table = none ∧ error = .missingTable) ∧
      ∀ sql, q.compile d = .ok sql ↔
        ∃ table, q.table = some table ∧
          sql = "select " ++ d.columns q.columns ++ " from " ++ d.table table ++
            if q.conditions = [] then "" else " " ++ d.whereClause q.conditions := by
  refine ⟨?_, fun q => ⟨?_, ?_⟩⟩
  · intro first rest
    rw [Dialect.whereClause_cons, String.append_assoc]
    rfl
  · intro error
    cases htable : q.table with
    | none => simp [Query.compile, Frame.compile_of_tableless htable, eq_comm]
    | some table => simp [Query.compile_of_table htable]
  · intro sql
    simp only [Query.compile_eq_ok_iff, Dialect.filtered_eq, String.append_assoc]

/-- Phrases may begin like connectors themselves. -/
example : ({ quote := id, null := fun column _ => "OR " ++ column } : Dialect).whereClause
    [⟨"a", .null false, .and⟩, ⟨"b", .null true, .or⟩] = "where OR a or OR b" := by decide

end SqlSelect
