import SqlSelect.Proofs.Run
import SqlSelect.Proofs.Statement

/-!
Placeholders and bound values. The bound values of a query are what its calls
contributed, in their order. In a MySQL statement the placeholders outside of quoted
identifiers are split by the conditions as their own bindings are, so that without
directly bound values the placeholders and the bound values go in step.
-/

namespace SqlSelect

open Lexeme

namespace Call

/-- The conditions that are new after a call. -/
def pushed (operators : List String) (q : Query) (call : Call) : List Condition :=
  (call.step operators q).conditions.drop q.conditions.length

/-- What a successful call adds to the bound values: the bindings of the conditions
it pushed, or the scalars that were given to it. -/
def contribution (operators : List String) (q : Query) (call : Call) : List Value :=
  match call.apply operators q, call with
  | .error _, _ => []
  | .ok _, bind value _ => value.flatten
  | .ok _, call => (call.pushed operators q).flatMap Condition.bindings

/-- What the calls of a run yield, one after another, each on the query before it. -/
def along {α : Type} (f : Query → Call → List α) (operators : List String) :
    Query → List Call → List α
  | _, [] => []
  | q, call :: calls => f q call ++ along f operators (call.step operators q) calls

variable (operators : List String) (q : Query)

theorem pushed_eq_added (call : Call) : call.pushed operators q = call.added operators := by
  rw [pushed, conditions_step, List.drop_left]

theorem contribution_eq_bound (call : Call) :
    call.contribution operators q = call.bound operators := by
  cases call with
  | filter criterion connector =>
      cases hcs : criterion.conditions operators connector with
      | ok cs =>
          have happly : (filter criterion connector).apply operators q = .ok (q.pushAll cs) := by
            rw [apply, Query.filter, hcs]
            rfl
          simp only [contribution, happly, pushed_eq_added, bound]
      | error error =>
          have happly : (filter criterion connector).apply operators q = .error error := by
            rw [apply, Query.filter, hcs]
            rfl
          simp [contribution, happly, bound, added, hcs]
  | bind value category =>
      cases hcategory : Category.ofName? category with
      | ok known =>
          have happly : (bind value category).apply operators q = .ok (q.bind value known) := by
            rw [apply, hcategory]
            rfl
          simp only [contribution, happly, bound, hcategory]
      | error error =>
          have happly : (bind value category).apply operators q = .error error := by
            rw [apply, hcategory]
            rfl
          simp only [contribution, happly, bound, hcategory]
  | _ => simp only [contribution, apply, bound, pushed_eq_added]

theorem along_eq_flatMap {α : Type} {f : Query → Call → List α} {g : Call → List α}
    (h : ∀ q call, f q call = g call) (calls : List Call) :
    along f operators q calls = calls.flatMap g := by
  induction calls generalizing q with
  | nil => rfl
  | cons call calls ih => rw [along, ih, h, List.flatMap_cons]

/-- Where nothing is bound directly, the bound values are those of the conditions. -/
theorem bindings_run_eq_flatMap {calls : List Call} (h : ∀ call ∈ calls, call.isBind = false) :
    (run operators {} calls).bindings.toList =
      (run operators {} calls).conditions.flatMap Condition.bindings := by
  have hbound : calls.flatMap (bound operators) =
      calls.flatMap fun call => (call.added operators).flatMap Condition.bindings := by
    apply List.flatMap_congr
    intro call hcall
    exact bound_of_not_isBind operators (h call hcall)
  rw [bindings_run, conditions_run, hbound]
  simp [List.flatMap_assoc]

end Call

/-! ### Where the placeholders stand -/

/-- The places of the placeholders outside of quoted identifiers. -/
def holes (ls : List (Lexeme (List Char))) : List Nat := ls.findIdxs (· = plain '?')

theorem length_holes (ls : List (Lexeme (List Char))) :
    (holes ls).length = ls.count (plain '?') := by
  simp [holes, List.count]
  rfl

theorem holes_append (ls ms : List (Lexeme (List Char))) :
    holes (ls ++ ms) = holes ls ++ (holes ms).map (· + ls.length) := by
  rw [holes, holes, holes, List.findIdxs_append, Nat.zero_add]
  congr 1
  exact List.findIdxs_start

theorem holes_eq_nil_iff {ls : List (Lexeme (List Char))} :
    holes ls = [] ↔ plain '?' ∉ ls := by
  rw [← List.length_eq_zero_iff, length_holes, List.count_eq_zero]

/-- A placeholder of a piece has as many placeholders before it in the whole as there
are before its piece and before it in the piece. -/
theorem getElem?_holes {before piece after : List (Lexeme (List Char))} {j place : Nat}
    (h : (holes piece)[j]? = some place) :
    (holes (before ++ (piece ++ after)))[(holes before).length + j]? =
      some (before.length + place) := by
  have hj : j < (holes piece).length := (List.getElem?_eq_some_iff.mp h).1
  rw [holes_append, holes_append, List.getElem?_append_right (Nat.le_add_right _ _),
    Nat.add_sub_cancel_left, List.getElem?_map, List.getElem?_append_left hj, h, Option.map_some,
    Nat.add_comm]

/-- What stands somewhere in a concatenation stands somewhere in one of its lists. -/
theorem exists_position {α : Type} {xss : List (List α)} {k : Nat} {v : α}
    (h : xss.flatten[k]? = some v) :
    ∃ i j xs, xss[i]? = some xs ∧ xs[j]? = some v ∧ k = (xss.take i).flatten.length + j := by
  induction xss generalizing k with
  | nil => simp at h
  | cons xs xss ih =>
      rw [List.flatten_cons] at h
      by_cases hk : k < xs.length
      · rw [List.getElem?_append_left hk] at h
        exact ⟨0, k, xs, rfl, h, by simp⟩
      · rw [List.getElem?_append_right (by omega)] at h
        obtain ⟨i, j, ys, hys, hv, hij⟩ := ih h
        refine ⟨i + 1, j, ys, hys, hv, ?_⟩
        rw [List.take_succ_cons, List.flatten_cons, List.length_append]
        omega

/-- The part of a statement that belongs to a condition: the word in front of the
clause and the clause, which has one placeholder for each value the condition binds. -/
structure Piece (d : Dialect) (c : Condition) (piece : List (Lexeme (List Char))) : Prop where
  text : ∃ word ∈ [" where ", " and ", " or "], ∃ clause,
    read? (d.condition c) = some clause ∧ piece = ofPlain word ++ clause
  holes : (holes piece).length = c.bindings.length

/-- A statement in pieces, one for each condition in their order, behind a part
without placeholders. -/
structure Split (d : Dialect) (conditions : List Condition)
    (ls lead : List (Lexeme (List Char))) (pieces : List (List (Lexeme (List Char)))) :
    Prop where
  whole : ls = lead ++ pieces.flatten
  lead : holes lead = []
  pieces : List.Forall₂ (Piece d) conditions pieces

/-- There are as many placeholders as bound values, and the placeholder of a value
stands in the piece of the condition that binds the value, and there where the value
stands among those of its condition. -/
structure InStep (conditions : List Condition) (values : List Value)
    (ls lead : List (Lexeme (List Char))) (pieces : List (List (Lexeme (List Char)))) :
    Prop where
  length : (holes ls).length = values.length
  each : ∀ (k : Nat) (v : Value), values[k]? = some v →
    ∃ (i j : Nat) (c : Condition) (piece : List (Lexeme (List Char))) (place : Nat),
      conditions[i]? = some c ∧ c.bindings[j]? = some v ∧
      k = ((conditions.take i).flatMap Condition.bindings).length + j ∧
      pieces[i]? = some piece ∧ (holes piece)[j]? = some place ∧
      (holes ls)[k]? = some ((lead ++ (pieces.take i).flatten).length + place)

section Pieces

variable {d : Dialect} {conditions : List Condition} {pieces : List (List (Lexeme (List Char)))}

theorem length_holes_flatten (h : List.Forall₂ (Piece d) conditions pieces) :
    (holes pieces.flatten).length = (conditions.flatMap Condition.bindings).length := by
  induction h with
  | nil => rfl
  | cons hpiece _ ih =>
      rw [List.flatten_cons, holes_append, List.length_append, List.length_map, ih,
        hpiece.holes, List.flatMap_cons, List.length_append]

theorem exists_piece (h : List.Forall₂ (Piece d) conditions pieces) {i : Nat} {c : Condition}
    (hc : conditions[i]? = some c) :
    ∃ piece, pieces[i]? = some piece ∧ Piece d c piece ∧
      pieces.flatten = (pieces.take i).flatten ++ (piece ++ (pieces.drop (i + 1)).flatten) := by
  induction h generalizing i with
  | nil => simp at hc
  | cons hpiece _ ih =>
      cases i with
      | zero =>
          cases hc
          exact ⟨_, rfl, hpiece, rfl⟩
      | succ i =>
          obtain ⟨piece, hi, hpiece', hflatten⟩ := ih hc
          refine ⟨piece, hi, hpiece', ?_⟩
          rw [List.flatten_cons, hflatten, List.take_succ_cons, List.flatten_cons,
            List.append_assoc, List.drop_succ_cons]

theorem Split.inStep {ls lead : List (Lexeme (List Char))}
    (h : Split d conditions ls lead pieces) :
    InStep conditions (conditions.flatMap Condition.bindings) ls lead pieces where
  length := by
    rw [h.whole, holes_append, h.lead, List.nil_append, List.length_map,
      length_holes_flatten h.pieces]
  each := by
    intro k v hv
    rw [List.flatMap_def] at hv
    obtain ⟨i, j, values, hi, hj, hk⟩ := exists_position hv
    rw [List.getElem?_map, Option.map_eq_some_iff] at hi
    obtain ⟨c, hc, rfl⟩ := hi
    obtain ⟨piece, hpiece, hholes, hflatten⟩ := exists_piece h.pieces hc
    have hlt : j < (holes piece).length := by
      rw [hholes.holes]
      exact (List.getElem?_eq_some_iff.mp hj).1
    have hplace : (holes piece)[j]? = some (holes piece)[j] := List.getElem?_eq_getElem hlt
    rw [← List.map_take, ← List.flatMap_def] at hk
    -- Before the piece there are the placeholders of the conditions before its own.
    have hbefore : (holes (lead ++ (pieces.take i).flatten)).length =
        ((conditions.take i).flatMap Condition.bindings).length := by
      rw [holes_append, h.lead, List.nil_append, List.length_map,
        length_holes_flatten (List.forall₂_take i h.pieces)]
    refine ⟨i, j, c, piece, _, hc, hj, hk, hpiece, hplace, ?_⟩
    rw [h.whole, hflatten, hk, ← hbefore, ← List.append_assoc]
    exact getElem?_holes hplace

end Pieces

section MySql

variable (tablePrefix : String)

/-- The part of a statement in front of the where clause. -/
def Query.head (q : Query) (table : String) : List (Lexeme (List Char)) :=
  ofPlain "select " ++ (columnList tablePrefix q.columns ++
    (ofPlain " from " ++ ofText ((Dialect.mysql tablePrefix).table table)))

def Query.pieces (q : Query) : List (List (Lexeme (List Char))) :=
  match q.conditions with
  | [] => []
  | first :: rest =>
      (ofPlain " where " ++ clauseOf tablePrefix first) ::
        rest.map fun c => ofPlain (" " ++ c.connector.word ++ " ") ++ clauseOf tablePrefix c

theorem joined_eq_flatten (conditions : List Condition) :
    joined (conditions.map fun c => (c.connector, clauseOf tablePrefix c)) =
      (conditions.map fun c =>
        ofPlain (" " ++ c.connector.word ++ " ") ++ clauseOf tablePrefix c).flatten := by
  induction conditions with
  | nil => rfl
  | cons c conditions ih =>
      rw [List.map_cons, joined, ih, List.map_cons, List.flatten_cons, List.append_assoc]

theorem Query.lexemes_eq_head_append (q : Query) (table : String) :
    q.lexemes tablePrefix table = q.head tablePrefix table ++ (q.pieces tablePrefix).flatten := by
  rw [lexemes, statement, head, pieces, columnList]
  cases q.conditions with
  | nil => simp [filtered]
  | cons first rest => simp [filtered, joined_eq_flatten]

theorem Query.holes_head (q : Query) (table : String) : holes (q.head tablePrefix table) = [] := by
  have htable : plain '?' ∉ ofText ((Dialect.mysql tablePrefix).table table) :=
    (writtenName_table tablePrefix table).1.plain_notMem (by decide)
  have hcolumns : plain '?' ∉ columnList tablePrefix q.columns :=
    plain_notMem_columnList tablePrefix (by decide)
  rw [holes_eq_nil_iff]
  simp [head, htable, hcolumns]

variable {tablePrefix}

theorem piece_clauseOf {c : Condition}
    (hc : c.form.Listed (Dialect.mysql tablePrefix).operators) {word : String}
    (hword : word ∈ [" where ", " and ", " or "]) :
    Piece (Dialect.mysql tablePrefix) c (ofPlain word ++ clauseOf tablePrefix c) where
  text := ⟨word, hword, clauseOf tablePrefix c,
    read?_eq_some (separated_clauseOf hc) (writeAll_clauseOf tablePrefix c), rfl⟩
  holes := by
    have hplain : ∀ word ∈ [" where ", " and ", " or "], word.toList.count '?' = 0 := by decide
    rw [length_holes, List.count_append, count_ofPlain, hplain word hword, count_clauseOf hc,
      Nat.zero_add]

theorem Query.split_lexemes {q : Query}
    (hq : ∀ c ∈ q.conditions, c.form.Listed (Dialect.mysql tablePrefix).operators)
    (table : String) :
    Split (Dialect.mysql tablePrefix) q.conditions (q.lexemes tablePrefix table)
      (q.head tablePrefix table) (q.pieces tablePrefix) where
  whole := q.lexemes_eq_head_append tablePrefix table
  lead := q.holes_head tablePrefix table
  pieces := by
    rw [Query.pieces]
    cases hconditions : q.conditions with
    | nil => exact .nil
    | cons first rest =>
        rw [hconditions] at hq
        refine .cons (piece_clauseOf (hq first List.mem_cons_self) (by simp)) ?_
        rw [List.forall₂_map_right_iff, List.forall₂_same]
        intro c hc
        refine piece_clauseOf (hq c (List.mem_cons_of_mem _ hc)) ?_
        cases c.connector <;> decide

/-- Whatever calls a query was built by, its bound values are what the calls
contributed, and, once it has a table, the placeholders of its statement are split by
its conditions as their own bindings are. Unless a value was bound directly, the
placeholders and the bound values go in step. -/
theorem placeholders_build (tablePrefix : String) (calls : List Call) :
    ((Dialect.mysql tablePrefix).build calls).conditions =
        Call.along (Call.pushed (Dialect.mysql tablePrefix).operators)
          (Dialect.mysql tablePrefix).operators {} calls ∧
      ((Dialect.mysql tablePrefix).build calls).bindings.toList =
        Call.along (Call.contribution (Dialect.mysql tablePrefix).operators)
          (Dialect.mysql tablePrefix).operators {} calls ∧
      (((Dialect.mysql tablePrefix).build calls).table = none ∧
          ((Dialect.mysql tablePrefix).build calls).compile (Dialect.mysql tablePrefix) =
            .error .missingTable ∨
        ∃ sql ls lead pieces,
          ((Dialect.mysql tablePrefix).build calls).compile (Dialect.mysql tablePrefix) =
            .ok sql ∧
          read? sql = some ls ∧
          Split (Dialect.mysql tablePrefix) ((Dialect.mysql tablePrefix).build calls).conditions
            ls lead pieces ∧
          ((∀ call ∈ calls, call.isBind = false) →
            InStep ((Dialect.mysql tablePrefix).build calls).conditions
              ((Dialect.mysql tablePrefix).build calls).bindings.toList ls lead pieces)) := by
  refine ⟨?_, ?_, ?_⟩
  · rw [Dialect.build, Call.conditions_run, Call.along_eq_flatMap _ _ (Call.pushed_eq_added _)]
    rfl
  · rw [Dialect.build, Call.bindings_run, Call.along_eq_flatMap _ _ (Call.contribution_eq_bound _)]
    rfl
  · cases htable : ((Dialect.mysql tablePrefix).build calls).table with
    | none => exact .inl ⟨rfl, Frame.compile_of_tableless htable _⟩
    | some table =>
        have hlisted := Dialect.listed_build (Dialect.mysql tablePrefix) calls
        have hsplit := Query.split_lexemes hlisted table
        have hsql := Query.compile_of_table htable (Dialect.mysql tablePrefix)
        obtain ⟨table', htable', hread⟩ := Query.read?_compile tablePrefix hlisted hsql
        obtain rfl : table = table' := Option.some.inj (htable.symm.trans htable')
        refine .inr ⟨_, _, _, _, hsql, hread, hsplit, ?_⟩
        intro hcalls
        have hbindings := Call.bindings_run_eq_flatMap (Dialect.mysql tablePrefix).operators hcalls
        rw [Dialect.build, hbindings]
        exact hsplit.inStep

end MySql

/-- Calls with marks in every name, with no values and nested ones, one call refused. -/
def markedCalls : List Call :=
  [.aliasedTable "t\x60?" "?", .select ["?.*", "a ? b as ?"], .among "? in" [] true .and,
    .filter (.group [[.text "?"]]) .or,
    .among "c" [.array [.bool true, .array [.null]]] false .or,
    .between "?\x60 ?" (.array []) (.text "?") true .and,
    .filter (.group [[.text "x", .text "?", .null], [.text "y", .text "&", .text "?"]]) .or]

theorem placeholders_build_markedCalls :
    ((Dialect.mysql "?").build markedCalls).bindings.toList.length = 6 ∧
      ∃ sql ls lead pieces,
        ((Dialect.mysql "?").build markedCalls).compile (Dialect.mysql "?") = .ok sql ∧
        read? sql = some ls ∧
        InStep ((Dialect.mysql "?").build markedCalls).conditions
          ((Dialect.mysql "?").build markedCalls).bindings.toList ls lead pieces := by
  refine ⟨rfl, ?_⟩
  obtain ⟨-, -, ⟨htable, -⟩ | ⟨sql, ls, lead, pieces, hsql, hread, -, hstep⟩⟩ :=
    placeholders_build "?" markedCalls
  · cases htable
  · exact ⟨sql, ls, lead, pieces, hsql, hread, hstep (by decide)⟩

end SqlSelect
