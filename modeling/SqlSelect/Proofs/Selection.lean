import Mathlib.Data.List.DropRight
import Mathlib.Data.List.Nodup
import SqlSelect.Dialect.Known
import SqlSelect.Proofs.Run

/-!
The columns of a query over a run of calls. They are what the last selection asks for and
what is added after it, each column once and where it is asked for first, however often the
list has been cleared of repetitions on the way.
-/

namespace SqlSelect

/-! ### First occurrences -/

section FirstOccurrences

variable {α : Type} [DecidableEq α]

theorem eraseDups_concat (as : List α) (a : α) :
    (as ++ [a]).eraseDups = if a ∈ as then as.eraseDups else as.eraseDups ++ [a] := by
  rw [List.eraseDups_append]
  split
  · simp [List.removeAll, *]
  · simp [List.removeAll, List.eraseDups_cons, *]

theorem eraseDups_ne_nil {as : List α} (h : as ≠ []) : as.eraseDups ≠ [] := by
  obtain ⟨a, rest, rfl⟩ := List.exists_cons_of_ne_nil h
  rw [List.eraseDups_cons]
  exact List.cons_ne_nil _ _

theorem nodup_eraseDups (as : List α) : as.eraseDups.Nodup := by
  induction as using List.reverseRecOn with
  | nil => exact List.nodup_nil
  | append_singleton as a ih =>
      rw [eraseDups_concat]
      split
      · exact ih
      · rename_i ha
        rw [← List.concat_eq_append, List.nodup_concat]
        exact ⟨fun h => ha (List.mem_eraseDups.mp h), ih⟩

theorem eraseDups_eq_self {as : List α} (h : as.Nodup) : as.eraseDups = as := by
  induction as using List.reverseRecOn with
  | nil => rfl
  | append_singleton as a ih =>
      rw [← List.concat_eq_append, List.nodup_concat] at h
      rw [eraseDups_concat, if_neg h.1, ih h.2]

/-- What is listed already adds nothing. -/
theorem eraseDups_append_of_subset (as : List α) {bs : List α} (h : bs ⊆ as) :
    (as ++ bs).eraseDups = as.eraseDups := by
  induction bs using List.reverseRecOn with
  | nil => rw [List.append_nil]
  | append_singleton bs b ih =>
      have hb : b ∈ as ++ bs := List.mem_append_left bs (h (by simp))
      rw [← List.append_assoc, eraseDups_concat, if_pos hb]
      exact ih fun c hc => h (List.mem_append_left [b] hc)

/-- Repetitions may be dropped from the front of a list before the whole of it is looked at. -/
theorem eraseDups_eraseDups_append (as bs : List α) :
    (as.eraseDups ++ bs).eraseDups = (as ++ bs).eraseDups := by
  induction bs using List.reverseRecOn with
  | nil => rw [List.append_nil, List.append_nil, eraseDups_eq_self (nodup_eraseDups as)]
  | append_singleton bs b ih =>
      have hmem : b ∈ as.eraseDups ++ bs ↔ b ∈ as ++ bs := by
        rw [List.mem_append, List.mem_append, List.mem_eraseDups]
      rw [← List.append_assoc, ← List.append_assoc, eraseDups_concat, eraseDups_concat, ih]
      simp only [hmem]

end FirstOccurrences

namespace Query

theorem keepFirst_eq_eraseDups (columns : List String) : keepFirst columns = columns.eraseDups := by
  induction columns using List.reverseRecOn with
  | nil => rfl
  | append_singleton columns column ih =>
      rw [keepFirst, List.foldl_append, List.foldl_cons, List.foldl_nil, ← keepFirst, ih,
        eraseDups_concat]
      simp only [List.mem_eraseDups]

/-- The columns that a list of them stands for. -/
def orAll (columns : List String) : List String := if columns = [] then ["*"] else columns

theorem orAll_ne_nil (columns : List String) : orAll columns ≠ [] := by
  rw [orAll]
  split
  · simp
  · assumption

theorem orAll_of_ne_nil {columns : List String} (h : columns ≠ []) : orAll columns = columns :=
  if_neg h

theorem select_eq (q : Query) (columns : List String) :
    q.select columns = { q with columns := (orAll columns).eraseDups } := by
  cases columns with
  | nil => rfl
  | cons column columns => rw [← keepFirst_eq_eraseDups]; rfl

/-- There is at least one column, and none twice. -/
structure Selects (q : Query) : Prop where
  ne_nil : q.columns ≠ []
  nodup : q.columns.Nodup

theorem selects_of_columns_eq {q : Query} {columns : List String} (hne : columns ≠ [])
    (h : q.columns = columns.eraseDups) : q.Selects where
  ne_nil := h ▸ eraseDups_ne_nil hne
  nodup := h ▸ nodup_eraseDups columns

theorem selects_select (q : Query) (columns : List String) : (q.select columns).Selects := by
  apply selects_of_columns_eq (orAll_ne_nil columns)
  rw [select_eq]

section Selects

variable {q : Query} (hq : q.Selects)

include hq

theorem Selects.selectAlso_eq (columns : List String) :
    q.selectAlso columns = { q with columns := (q.columns ++ columns).eraseDups } := by
  have hne : q.columns ++ columns ≠ [] := by simp [hq.ne_nil]
  rw [selectAlso, select_eq, orAll_of_ne_nil hne]

theorem Selects.selectAlso_selectAlso (columns columns' : List String) :
    (q.selectAlso columns).selectAlso columns' = q.selectAlso (columns ++ columns') := by
  have hselects : (q.selectAlso columns).Selects := q.selects_select _
  rw [hselects.selectAlso_eq, hq.selectAlso_eq, hq.selectAlso_eq, eraseDups_eraseDups_append,
    List.append_assoc]

theorem Selects.selectAlso_of_subset {columns : List String} (h : columns ⊆ q.columns) :
    q.selectAlso columns = q := by
  rw [hq.selectAlso_eq, eraseDups_append_of_subset _ h, eraseDups_eq_self hq.nodup]

end Selects

theorem selectAlso_select (q : Query) {columns : List String} (h : columns ≠ [])
    (columns' : List String) :
    (q.select columns).selectAlso columns' = q.select (columns ++ columns') := by
  have hne : columns ++ columns' ≠ [] := by simp [h]
  rw [(q.selects_select columns).selectAlso_eq, select_eq, select_eq, orAll_of_ne_nil h,
    orAll_of_ne_nil hne, eraseDups_eraseDups_append]

end Query

namespace Call

/-! ### Runs of calls -/

/-- The columns that a selection asks for. -/
def selected? : Call → Option (List String)
  | select columns => some columns
  | _ => none

/-- The columns that a call asks for besides those that are selected. -/
def alsoSelected : Call → List String
  | selectAlso columns => columns
  | _ => []

/-- The columns that the last selection of a run asks for, none where there is no selection. -/
def lastSelected (calls : List Call) : List String := (calls.findSomeRev? selected?).getD []

/-- The calls behind the last selection of a run, all of them where there is none. -/
def behindSelection (calls : List Call) : List Call := calls.rtakeWhile (·.selected?.isNone)

/-- The columns of the last selection, or all columns where it names none, and behind them the
columns that are added later. -/
def asked (calls : List Call) : List String :=
  Query.orAll (lastSelected calls) ++ (behindSelection calls).flatMap alsoSelected

theorem asked_ne_nil (calls : List Call) : asked calls ≠ [] := by
  simp [asked, Query.orAll_ne_nil]

theorem asked_concat (calls : List Call) (call : Call) :
    asked (calls ++ [call]) =
      match call.selected? with
      | some columns => Query.orAll columns
      | none => asked calls ++ call.alsoSelected := by
  simp only [asked, lastSelected, behindSelection, List.findSomeRev?_eq_findSome?_reverse,
    List.reverse_append, List.reverse_singleton, List.singleton_append, List.findSome?_cons,
    List.rtakeWhile_concat]
  cases call.selected? with
  | some columns => simp
  | none => simp

/-- A call that does not select leaves the columns as they are but for those that it adds, be
it accepted or refused. -/
theorem columns_step {operators : List String} {q : Query} (hq : q.Selects) (call : Call) :
    (call.step operators q).columns =
      match call.selected? with
      | some columns => (Query.orAll columns).eraseDups
      | none => (q.columns ++ call.alsoSelected).eraseDups := by
  have hself : (q.columns ++ []).eraseDups = q.columns := by
    rw [List.append_nil, eraseDups_eq_self hq.nodup]
  cases call with
  | select columns => exact congrArg Query.columns (q.select_eq columns)
  | selectAlso columns => exact congrArg Query.columns (hq.selectAlso_eq columns)
  | filter criterion connector =>
      rw [step_filter, Query.columns_pushAll]
      exact hself.symm
  | bind value category =>
      rw [step_bind]
      exact hself.symm
  | _ => exact hself.symm

end Call

theorem Dialect.columns_build (d : Dialect) (calls : List Call) :
    (d.build calls).columns = (Call.asked calls).eraseDups := by
  induction calls using List.reverseRecOn with
  | nil => rfl
  | append_singleton calls call ih =>
      have hselects := Query.selects_of_columns_eq (Call.asked_ne_nil calls) ih
      rw [build_concat, Call.columns_step hselects, Call.asked_concat]
      cases call.selected? with
      | some columns => rfl
      | none => rw [ih, eraseDups_eraseDups_append]

theorem Dialect.selects_build (d : Dialect) (calls : List Call) : (d.build calls).Selects :=
  Query.selects_of_columns_eq (Call.asked_ne_nil calls) (d.columns_build calls)

/-- A query that calls build has at least one column and none twice: what the calls ask for,
each column where it is asked for first. Adding columns in two calls adds them in one, adding
them to a selection selects them along with it, and adding none but listed ones does nothing. -/
theorem build_selects_asked (d : Dialect) (calls : List Call) :
    ((d.build calls).columns ≠ [] ∧ (d.build calls).columns.Nodup) ∧
    (d.build calls).columns = (Call.asked calls).eraseDups ∧
    (∀ columns columns',
      ((d.build calls).selectAlso columns).selectAlso columns' =
        (d.build calls).selectAlso (columns ++ columns')) ∧
    (∀ columns columns', columns ≠ [] →
      ((d.build calls).select columns).selectAlso columns' =
        (d.build calls).select (columns ++ columns')) ∧
    ∀ columns, columns ⊆ (d.build calls).columns →
      (d.build calls).selectAlso columns = d.build calls := by
  have hselects := d.selects_build calls
  refine ⟨⟨hselects.ne_nil, hselects.nodup⟩, d.columns_build calls,
    hselects.selectAlso_selectAlso, ?_, ?_⟩
  · intro columns columns' hne
    exact (d.build calls).selectAlso_select hne columns'
  · intro columns hsubset
    exact hselects.selectAlso_of_subset hsubset

/-- The empty selection drops `id`, and `*` is not listed a second time behind it. -/
def clearedCalls : List Call :=
  [.selectAlso ["id"], .select [], .table "users", .selectAlso ["name", "*"]]

theorem build_selects_asked_clearedCalls :
    ((Dialect.mysql "").build clearedCalls).columns = ["*", "name"] ∧
      ["name", "*"] ⊆ ((Dialect.mysql "").build clearedCalls).columns ∧
      ((Dialect.mysql "").build clearedCalls).selectAlso ["name", "*"] =
        (Dialect.mysql "").build clearedCalls ∧
      ["b", "a", "b"] ≠ [] ∧
      (((Dialect.mysql "").build clearedCalls).select ["b", "a", "b"]).selectAlso ["a", "c"] =
        ((Dialect.mysql "").build clearedCalls).select ["b", "a", "b", "a", "c"] := by
  obtain ⟨-, -, -, hselect, hlisted⟩ := build_selects_asked (Dialect.mysql "") clearedCalls
  have hnames : ["name", "*"] ⊆ ((Dialect.mysql "").build clearedCalls).columns := by decide
  have hne : ["b", "a", "b"] ≠ [] := by simp
  exact ⟨rfl, hnames, hlisted _ hnames, hne, hselect _ ["a", "c"] hne⟩

end SqlSelect
