import SqlSelect.Proofs.Run
import SqlSelect.Proofs.Statement

/-!
Skeletons of MySQL statements. Names reach a statement inside quoted identifiers
only, and values and operators as given do not reach it at all: the text around the
identifiers consists of the words of the statement, of stars and of phrases that are
fixed by the forms of the conditions.
-/

namespace SqlSelect

open Lexeme

theorem skeleton?_eq_some {s : String} {ls : List (Lexeme (List Char))} (h : Separated ls)
    (hs : writeAll ls = s.toList) : skeleton? s = some (outline ls) := by
  rw [skeleton?, read?_eq_some h hs, Option.map_some]

section Outline

variable (columns : List (List (Lexeme (List Char)))) (table : List (Lexeme (List Char)))
  (clauses : List (Connector × List (Lexeme (List Char))))

theorem outline_append (ls ms : List (Lexeme (List Char))) :
    outline (ls ++ ms) = outline ls ++ outline ms := List.map_append

theorem outline_ofPlain (s : String) : outline (ofPlain s) = ofPlain s := mapName_ofPlain _ s

theorem outline_intercalate (s : String) :
    outline ((ofPlain s).intercalate columns) = (ofPlain s).intercalate (columns.map outline) := by
  induction columns with
  | nil => rfl
  | cons ls columns ih =>
      cases columns with
      | nil => simp
      | cons ms columns =>
          rw [List.intercalate_cons_cons, outline_append, outline_append, ih, outline_ofPlain]
          simp

theorem outline_joined :
    outline (joined clauses) = joined (clauses.map fun clause => (clause.1, outline clause.2)) := by
  induction clauses with
  | nil => rfl
  | cons clause clauses ih =>
      rw [List.map_cons, joined, outline_append, outline_append, ih, outline_ofPlain, joined]

theorem outline_statement :
    outline (statement columns table clauses) =
      statement (columns.map outline) (outline table)
        (clauses.map fun clause => (clause.1, outline clause.2)) := by
  cases clauses with
  | nil =>
      simp only [statement, filtered, outline_append, outline_ofPlain, outline_intercalate]
      rfl
  | cons first rest =>
      simp only [statement, filtered, outline_append, outline_ofPlain, outline_intercalate,
        outline_joined, List.map_cons]

end Outline

/-- The skeleton of a clause is one of two constants, or that of its column with a
phrase behind it that is fixed by the form of the condition. -/
inductive ClauseSkeleton (d : Dialect) (c : Condition) : List (Lexeme Unit) → Prop where
  | constant {negated : Bool} (hform : c.form = .among 0 negated) :
      ClauseSkeleton d c (ofPlain (if negated then "1 = 1" else "0 = 1"))
  | phrase {column : List (Lexeme Unit)} (hform : ∀ negated, c.form ≠ .among 0 negated)
      (hcolumn : skeleton? (d.column c.column) = some column) (hname : WrittenName column) :
      ClauseSkeleton d c (column ++ ofPlain c.form.phrase)

/-- The skeletons of the names and the clauses of a query, each as it is written on its own. -/
structure QuerySkeleton (d : Dialect) (q : Query) (columns : List (List (Lexeme Unit)))
    (table : List (Lexeme Unit)) (clauses : List (Connector × List (Lexeme Unit))) : Prop where
  columns : List.Forall₂ (fun name column =>
    skeleton? (d.column name) = some column ∧ WrittenName column) q.columns columns
  table : ∃ name, q.table = some name ∧ skeleton? (d.table name) = some table ∧ WrittenName table
  clauses : List.Forall₂ (fun c clause =>
    clause.1 = c.connector ∧ skeleton? (d.condition c) = some clause.2 ∧
      ClauseSkeleton d c clause.2 ∧ c.form.Listed d.operators) q.conditions clauses

section MySql

variable (tablePrefix : String)

theorem skeleton?_column (name : String) :
    skeleton? ((Dialect.mysql tablePrefix).column name) =
        some (outline (ofText ((Dialect.mysql tablePrefix).column name))) ∧
      WrittenName (outline (ofText ((Dialect.mysql tablePrefix).column name))) := by
  obtain ⟨hname, hwrite⟩ := writtenName_column tablePrefix name
  exact ⟨skeleton?_eq_some hname.separated hwrite, hname.map _⟩

theorem skeleton?_table (name : String) :
    skeleton? ((Dialect.mysql tablePrefix).table name) =
        some (outline (ofText ((Dialect.mysql tablePrefix).table name))) ∧
      WrittenName (outline (ofText ((Dialect.mysql tablePrefix).table name))) := by
  obtain ⟨hname, hwrite⟩ := writtenName_table tablePrefix name
  exact ⟨skeleton?_eq_some hname.separated hwrite, hname.map _⟩

theorem clauseSkeleton_clauseOf (c : Condition) :
    ClauseSkeleton (Dialect.mysql tablePrefix) c (outline (clauseOf tablePrefix c)) := by
  rw [clauseOf]
  cases hconst : c.form.constant? with
  | some clause =>
      obtain ⟨negated, hform, rfl⟩ := Form.constant?_eq_some_iff.mp hconst
      rw [outline_ofPlain]
      exact .constant hform
  | none =>
      obtain ⟨hcolumn, hname⟩ := skeleton?_column tablePrefix c.column
      rw [outline_append, outline_ofPlain]
      refine .phrase ?_ hcolumn hname
      intro negated hform
      rw [hform] at hconst
      cases hconst

theorem skeleton?_condition {c : Condition}
    (hc : c.form.Listed (Dialect.mysql tablePrefix).operators) :
    skeleton? ((Dialect.mysql tablePrefix).condition c) =
      some (outline (clauseOf tablePrefix c)) :=
  skeleton?_eq_some (separated_clauseOf hc) (writeAll_clauseOf tablePrefix c)

theorem querySkeleton_outline {q : Query} {name : String}
    (hq : ∀ c ∈ q.conditions, c.form.Listed (Dialect.mysql tablePrefix).operators)
    (hname : q.table = some name) :
    QuerySkeleton (Dialect.mysql tablePrefix) q
      (q.columns.map fun column => outline (ofText ((Dialect.mysql tablePrefix).column column)))
      (outline (ofText ((Dialect.mysql tablePrefix).table name)))
      (q.conditions.map fun c => (c.connector, outline (clauseOf tablePrefix c))) where
  columns := by
    rw [List.forall₂_map_right_iff, List.forall₂_same]
    intro column _
    exact skeleton?_column tablePrefix column
  table := ⟨name, hname, skeleton?_table tablePrefix name⟩
  clauses := by
    rw [List.forall₂_map_right_iff, List.forall₂_same]
    intro c hc
    exact ⟨rfl, skeleton?_condition tablePrefix (hq c hc),
      clauseSkeleton_clauseOf tablePrefix c, hq c hc⟩

/-- However its calls were made, a query that can be compiled is written as a
statement that ends outside of quoted identifiers and whose skeleton is put
together, with fixed words, from the skeletons of its names and its clauses. -/
theorem skeleton_compile (calls : List Call) (sql : String)
    (h : ((Dialect.mysql tablePrefix).build calls).compile (Dialect.mysql tablePrefix) =
      .ok sql) :
    ∃ columns table clauses,
      QuerySkeleton (Dialect.mysql tablePrefix) ((Dialect.mysql tablePrefix).build calls)
        columns table clauses ∧
      skeleton? sql = some (statement columns table clauses) := by
  have hlisted := Dialect.listed_build (Dialect.mysql tablePrefix) calls
  obtain ⟨name, hname, hread⟩ := Query.read?_compile tablePrefix hlisted h
  refine ⟨_, _, _, querySkeleton_outline tablePrefix hlisted hname, ?_⟩
  rw [skeleton?, hread, Option.map_some, Query.lexemes, outline_statement]
  simp only [List.map_map, Function.comp_def]

end MySql

/-- Names full of backticks and of words of the statement, an operator in another
case, and a text and an array that are no operators. -/
theorem skeleton_compile_backticks :
    ∃ q sql,
      q = (Dialect.mysql "p\x60").build
        [.table "a\x60, \x60b as x", .select ["*", "t.c\x60 ? as \x60"],
          .filter (.group [[.text "from \x60", .text " LIKE ", .text "' or 1=1"],
            [.text "d", .text "; drop", .null]]) .or,
          .among "e" [.array []] true .and] ∧
      q.compile (Dialect.mysql "p\x60") = .ok sql ∧
      ∃ columns table clauses,
        QuerySkeleton (Dialect.mysql "p\x60") q columns table clauses ∧
        skeleton? sql = some (statement columns table clauses) :=
  ⟨_, _, rfl, rfl, skeleton_compile "p\x60" _ _ rfl⟩

end SqlSelect
