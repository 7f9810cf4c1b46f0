import SqlSelect.Proofs.Form
import SqlSelect.Proofs.Shape

/-!
Whole statements as lexemes. The lexemes of a MySQL statement are put together from
those of its columns, its table and its clauses, with fixed words between them.
-/

namespace SqlSelect

open Lexeme

namespace Lexeme

section Parts

variable {α β : Type}

/-- Clauses behind the first one, each with its connector. -/
def joined : List (Connector × List (Lexeme α)) → List (Lexeme α)
  | [] => []
  | (connector, clause) :: rest =>
      ofPlain (" " ++ connector.word ++ " ") ++ (clause ++ joined rest)

/-- What stands behind the table. The connector of the first clause is left out. -/
def filtered : List (Connector × List (Lexeme α)) → List (Lexeme α)
  | [] => []
  | (_, first) :: rest => ofPlain " where " ++ (first ++ joined rest)

def statement (columns : List (List (Lexeme α))) (table : List (Lexeme α))
    (clauses : List (Connector × List (Lexeme α))) : List (Lexeme α) :=
  ofPlain "select " ++ ((ofPlain ", ").intercalate columns ++
    (ofPlain " from " ++ (table ++ filtered clauses)))

theorem mem_intercalate {l : Lexeme α} {s : String} {lss : List (List (Lexeme α))}
    (h : l ∈ (ofPlain s).intercalate lss) :
    l ∈ (ofPlain s : List (Lexeme α)) ∨ ∃ ls ∈ lss, l ∈ ls := by
  induction lss with
  | nil => cases h
  | cons ls lss ih =>
      cases lss with
      | nil => exact .inr ⟨ls, List.mem_cons_self, by simpa using h⟩
      | cons ms lss =>
          rw [List.intercalate_cons_cons, List.mem_append, List.mem_append] at h
          rcases h with (h | h) | h
          · exact .inr ⟨ls, List.mem_cons_self, h⟩
          · exact .inl h
          · rcases ih h with h | ⟨ks, hks, h⟩
            · exact .inl h
            · exact .inr ⟨ks, List.mem_cons_of_mem _ hks, h⟩

end Parts

theorem Separated.joined {clauses : List (Connector × List (Lexeme (List Char)))}
    (h : ∀ clause ∈ clauses, Separated clause.2) {ls : List (Lexeme (List Char))}
    (hls : Separated ls) : Separated (ls ++ joined clauses) := by
  induction clauses generalizing ls with
  | nil => simpa [Lexeme.joined] using hls
  | cons clause clauses ih =>
      obtain ⟨connector, clause⟩ := clause
      have hclause : Separated clause := h _ List.mem_cons_self
      have hrest := ih (fun c hc => h c (List.mem_cons_of_mem _ hc)) hclause
      exact hls.join hrest (by cases connector <;> decide) (by cases connector <;> decide)

theorem separated_statement {columns : List (List (Lexeme (List Char)))}
    {table : List (Lexeme (List Char))} {clauses : List (Connector × List (Lexeme (List Char)))}
    (hcolumns : ∀ column ∈ columns, Separated column) (htable : Separated table)
    (hclauses : ∀ clause ∈ clauses, Separated clause.2) :
    Separated (statement columns table clauses) := by
  have hlist := separated_intercalate hcolumns (s := ", ") (by decide) (by decide)
  have hfiltered : Separated (table ++ filtered clauses) := by
    cases clauses with
    | nil => simpa [filtered] using htable
    | cons first rest =>
        have hrest := Separated.joined (fun c hc => hclauses c (List.mem_cons_of_mem _ hc))
          (hclauses first List.mem_cons_self)
        exact htable.join hrest (by decide) (by decide)
  exact (hlist.join hfiltered (by decide) (by decide)).ofPlain_append (by decide)

end Lexeme

section MySql

variable (tablePrefix : String)

/-- The lexemes of a query on a table. -/
def Query.lexemes (q : Query) (table : String) : List (Lexeme (List Char)) :=
  statement (q.columns.map fun column => ofText ((Dialect.mysql tablePrefix).column column))
    (ofText ((Dialect.mysql tablePrefix).table table))
    (q.conditions.map fun c => (c.connector, clauseOf tablePrefix c))

/-- The lexemes of a list of columns. -/
def columnList (columns : List String) : List (Lexeme (List Char)) :=
  (ofPlain ", ").intercalate
    (columns.map fun column => ofText ((Dialect.mysql tablePrefix).column column))

theorem plain_notMem_columnList {columns : List String} {c : Char}
    (hc : c ∉ [',', '*', '.', ' ', 'a', 's']) : plain c ∉ columnList tablePrefix columns := by
  intro hmem
  rcases mem_intercalate hmem with hmem | ⟨ls, hls, hmem⟩
  · have hcomma : c ∈ [',', ' '] := plain_mem_ofPlain.mp hmem
    simp only [List.mem_cons, List.not_mem_nil, or_false] at hcomma
    rcases hcomma with rfl | rfl <;> simp at hc
  · obtain ⟨column, -, rfl⟩ := List.mem_map.mp hls
    have hname := (writtenName_column tablePrefix column).1
    exact hc (List.mem_cons_of_mem _ (hname.plain_mem hmem))

theorem writeAll_joined (conditions : List Condition) :
    writeAll (joined (conditions.map fun c => (c.connector, clauseOf tablePrefix c))) =
      (String.join (conditions.map (Dialect.mysql tablePrefix).joined)).toList := by
  induction conditions with
  | nil => rfl
  | cons c conditions ih =>
      rw [List.map_cons, joined, writeAll_append, writeAll_append, ih, writeAll_clauseOf]
      simp [Dialect.joined]

theorem writeAll_filtered (conditions : List Condition) :
    writeAll (filtered (conditions.map fun c => (c.connector, clauseOf tablePrefix c))) =
      ((Dialect.mysql tablePrefix).filtered conditions).toList := by
  cases conditions with
  | nil => rfl
  | cons first rest =>
      rw [List.map_cons, filtered, writeAll_append, writeAll_append, writeAll_joined,
        writeAll_clauseOf]
      simp [Dialect.filtered]

theorem Query.writeAll_lexemes (q : Query) (table : String) :
    writeAll (q.lexemes tablePrefix table) =
      ("select " ++ ((Dialect.mysql tablePrefix).columns q.columns ++
        (" from " ++ ((Dialect.mysql tablePrefix).table table ++
          (Dialect.mysql tablePrefix).filtered q.conditions)))).toList := by
  have hcolumns : (q.columns.map fun column =>
      writeAll (ofText ((Dialect.mysql tablePrefix).column column))) =
        q.columns.map fun column => ((Dialect.mysql tablePrefix).column column).toList := by
    apply List.map_congr_left
    intro column _
    exact (writtenName_column tablePrefix column).2
  have htable := (writtenName_table tablePrefix table).2
  simp only [Query.lexemes, statement, writeAll_append, writeAll_ofPlain, writeAll_intercalate,
    writeAll_filtered, htable, List.map_map, Function.comp_def, hcolumns, Naming.columns,
    String.toList_append, String.toList_intercalate]

/-- A MySQL statement is read as the lexemes of its query, if the operators in its
conditions are listed ones. -/
theorem Query.read?_compile {q : Query} {sql : String}
    (hq : ∀ c ∈ q.conditions, c.form.Listed (Dialect.mysql tablePrefix).operators)
    (h : q.compile (Dialect.mysql tablePrefix) = .ok sql) :
    ∃ table, q.table = some table ∧ read? sql = some (q.lexemes tablePrefix table) := by
  obtain ⟨table, htable, rfl⟩ := Query.compile_eq_ok_iff.mp h
  refine ⟨table, htable, read?_eq_some ?_ (q.writeAll_lexemes tablePrefix table)⟩
  apply separated_statement
  · intro column hcolumn
    obtain ⟨name, -, rfl⟩ := List.mem_map.mp hcolumn
    exact (writtenName_column tablePrefix name).1.separated
  · exact (writtenName_table tablePrefix table).1.separated
  · intro clause hclause
    obtain ⟨c, hc, rfl⟩ := List.mem_map.mp hclause
    exact separated_clauseOf (hq c hc)

end MySql

end SqlSelect
