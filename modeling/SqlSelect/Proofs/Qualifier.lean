import SqlSelect.Proofs.Name

/-!
Qualified columns. A column behind a table, or behind the alias of one, is written with
the name that the table has in the statement. The exception are dotted tables under a
prefix: a table has the prefix on its last part, the qualifier of a column on its first.
-/

namespace SqlSelect

open Lexeme

namespace Alias

/-- A point is no part of the separator of an alias. -/
theorem afterKeyword?_append_point {cs ds : List Char} (h : afterKeyword? cs = none) :
    afterKeyword? (cs ++ '.' :: ds) = none := by
  -- The word and its blank are three characters; the point is none of them.
  match cs with
  | [] => cases ds with
    | nil => rfl
    | cons d ds => cases ds <;> simp [afterKeyword?]
  | [a] => cases ds with
    | nil => rfl
    | cons d ds => simp [afterKeyword?, isLetterS]
  | [a, s] =>
      have hpoint : Text.isBlank '.' = false := rfl
      simp [afterKeyword?, hpoint]
  | a :: s :: blank :: cs =>
      simpa [afterKeyword?] using h

theorem trimStart_append_point (cs ds : List Char) :
    Text.trimStart (cs ++ '.' :: ds) = Text.trimStart cs ++ '.' :: ds := by
  have hpoint : Text.isBlank '.' = false := rfl
  simp only [Text.trimStart]
  rw [List.dropWhile_append]
  split
  · simp_all
  · rfl

theorem splitChars?_append_point {cs ds : List Char} (hcs : splitChars? cs = none)
    (hds : splitChars? ds = none) : splitChars? (cs ++ '.' :: ds) = none := by
  induction cs with
  | nil =>
      have hpoint : Text.isBlank '.' = false := rfl
      exact splitChars?_cons_eq_none.mpr ⟨by simp [hpoint], hds⟩
  | cons c cs ih =>
      obtain ⟨hword, hcs⟩ := splitChars?_cons_eq_none.mp hcs
      rw [List.cons_append]
      refine splitChars?_cons_eq_none.mpr ⟨?_, ih hcs⟩
      intro hc
      rw [trimStart_append_point]
      exact afterKeyword?_append_point (hword hc)

/-- Two names without alias have none with a point between them. -/
theorem split?_append_point {s t : String} (hs : split? s = none) (ht : split? t = none) :
    split? (s ++ "." ++ t) = none := by
  have hs' : splitChars? s.toList = none := Option.map_eq_none_iff.mp hs
  have ht' : splitChars? t.toList = none := Option.map_eq_none_iff.mp ht
  have htext : (s ++ "." ++ t).toList = s.toList ++ '.' :: t.toList := by simp
  rw [split?, htext, splitChars?_append_point hs' ht', Option.map_none]

end Alias

namespace Naming

theorem parts_append_point (s t : String) : parts (s ++ "." ++ t) = parts s ++ parts t := by
  have htext : (s ++ "." ++ t).toList = s.toList ++ '.' :: t.toList := by simp
  rw [parts, htext, List.splitOn_append_cons_self, List.map_append]
  rfl

variable (n : Naming)

/-- The qualifier of a column has the prefix on its first part. -/
theorem column_append_point {table column first : String} {rest : List String}
    (htable : Alias.split? table = none) (hcolumn : Alias.split? column = none)
    (hpoint : '.' ∉ column.toList) (hparts : parts table = first :: rest) :
    n.column (table ++ "." ++ column) =
      n.dotted ((n.tablePrefix ++ first) :: (rest ++ [column])) := by
  have hall : parts (table ++ "." ++ column) = first :: (rest ++ [column]) := by
    rw [parts_append_point, parts_of_notMem hpoint, hparts, List.cons_append]
  rw [column_of_split?_eq_none n (Alias.split?_append_point htable hcolumn),
    columnParts_of_parts n hall (by simp)]

/-- A table has the prefix where `tableParts` puts it, in front of its last part. -/
theorem table_append_point {table : String} (htable : Alias.split? table = none)
    (column : String) :
    n.table table ++ "." ++ n.quote column = n.dotted (n.tableParts table ++ [column]) := by
  rw [table_of_split?_eq_none n htable, dotted, dotted, List.map_append,
    String.intercalate_append_of_ne_nil (by simp [tableParts_ne_nil]) (by simp),
    List.map_singleton, String.intercalate_singleton]

/-- Without points in the table the two agree. -/
theorem column_of_notMem {table column : String} (htable : Alias.split? table = none)
    (hcolumn : Alias.split? column = none) (hpoint : '.' ∉ column.toList)
    (hdot : '.' ∉ table.toList) :
    n.column (table ++ "." ++ column) = n.table table ++ "." ++ n.quote column := by
  rw [column_append_point n htable hcolumn hpoint (parts_of_notMem hdot),
    table_append_point n htable, tableParts_of_notMem n hdot]
  rfl

/-- A name without points names a table by itself, as the alias of one does. -/
theorem column_of_label {label column : String} (hlabel : Alias.split? label = none)
    (hcolumn : Alias.split? column = none) (hpoint : '.' ∉ column.toList)
    (hdot : '.' ∉ label.toList) :
    n.column (label ++ "." ++ column) =
      n.quote (n.tablePrefix ++ label) ++ "." ++ n.quote column := by
  rw [column_of_notMem n hlabel hcolumn hpoint hdot, table_of_notMem n hlabel hdot]

/-- Without a prefix all parts of a table stay as they are. -/
theorem tableParts_of_prefix_eq_empty (h : n.tablePrefix = "") (table : String) :
    n.tableParts table = parts table := by
  by_cases hdot : '.' ∈ table.toList
  · obtain ⟨first, rest, last, hparts⟩ := exists_parts_of_mem hdot
    have hmem : last ∈ parts table := by simp [hparts]
    have hlast : '.' ∉ last.toList := notMem_of_mem_parts hmem
    rw [tableParts_of_parts n hparts (by simp), h, String.empty_append, parts_of_notMem hlast,
      hparts]
  · rw [tableParts_of_notMem n hdot, parts_of_notMem hdot, h, String.empty_append]

theorem column_of_prefix_eq_empty (h : n.tablePrefix = "") {table column : String}
    (htable : Alias.split? table = none) (hcolumn : Alias.split? column = none)
    (hpoint : '.' ∉ column.toList) :
    n.column (table ++ "." ++ column) = n.table table ++ "." ++ n.quote column := by
  obtain ⟨first, rest, hparts⟩ := List.exists_cons_of_ne_nil (parts_ne_nil table)
  rw [column_append_point n htable hcolumn hpoint hparts, table_append_point n htable,
    tableParts_of_prefix_eq_empty n h, hparts, h, String.empty_append, List.cons_append]

end Naming

/-- The parts of a name can be read off its text. -/
theorem Naming.dotted_inj {n : Naming} (hn : n.quote = Identifier.backticked)
    {names names' : List String} (hne : names ≠ []) (hne' : names' ≠ [])
    (h : n.dotted names = n.dotted names') : names = names' := by
  apply pathOf_inj hne hne'
  apply writeAll_inj (path_pathOf hne).separated (path_pathOf hne').separated
  rw [writeAll_pathOf, writeAll_pathOf, ← hn]
  exact congrArg String.toList h

theorem prefix_eq_empty_of_append_eq {s t : String} (h : s ++ t = t) : s = "" := by
  rw [← String.toList_inj, String.toList_append] at h
  exact String.toList_eq_nil_iff.mp (List.append_left_eq_self.mp h)

section MySql

variable (tablePrefix : String)

/-- With a prefix, a dotted table and the qualifier of its columns begin with different
parts. -/
theorem column_ne_of_mem {table column : String} (hempty : tablePrefix ≠ "")
    (htable : Alias.split? table = none) (hcolumn : Alias.split? column = none)
    (hpoint : '.' ∉ column.toList) (hdot : '.' ∈ table.toList) :
    (Dialect.mysql tablePrefix).column (table ++ "." ++ column) ≠
      (Dialect.mysql tablePrefix).table table ++ "." ++
        (Dialect.mysql tablePrefix).quote column := by
  intro h
  obtain ⟨first, rest, last, hparts⟩ := Naming.exists_parts_of_mem hdot
  have hqualified := Naming.column_append_point (Dialect.mysql tablePrefix).toNaming htable
    hcolumn hpoint hparts
  have hpath := Naming.table_append_point (Dialect.mysql tablePrefix).toNaming htable column
  rw [Naming.tableParts_of_parts _ hparts (List.cons_ne_nil first rest)] at hpath
  rw [hqualified, hpath] at h
  have hfirst : tablePrefix ++ first = first :=
    List.head_eq_of_cons_eq (Naming.dotted_inj rfl (by simp) (by simp) h)
  exact hempty (prefix_eq_empty_of_append_eq hfirst)

theorem column_eq_iff {table column : String} (htable : Alias.split? table = none)
    (hcolumn : Alias.split? column = none) (hpoint : '.' ∉ column.toList) :
    (Dialect.mysql tablePrefix).column (table ++ "." ++ column) =
        (Dialect.mysql tablePrefix).table table ++ "." ++
          (Dialect.mysql tablePrefix).quote column ↔
      tablePrefix = "" ∨ '.' ∉ table.toList := by
  constructor
  · intro h
    by_contra hneither
    push Not at hneither
    exact column_ne_of_mem tablePrefix hneither.1 htable hcolumn hpoint hneither.2 h
  · rintro (hempty | hdot)
    · exact Naming.column_of_prefix_eq_empty _ hempty htable hcolumn hpoint
    · exact Naming.column_of_notMem _ htable hcolumn hpoint hdot

end MySql

/-- A column behind a table without alias is written with the name of the table just when
there is no prefix or the table has no points. Behind the alias of a table it is written
with the alias, which has the prefix in both places. -/
theorem column_qualified_iff (tablePrefix table column : String)
    (htable : Alias.split? table = none) (hcolumn : Alias.split? column = none)
    (hpoint : '.' ∉ column.toList) :
    ((Dialect.mysql tablePrefix).column (table ++ "." ++ column) =
          (Dialect.mysql tablePrefix).table table ++ "." ++
            (Dialect.mysql tablePrefix).quote column ↔
        tablePrefix = "" ∨ '.' ∉ table.toList) ∧
      ∀ aliased base label, Alias.split? aliased = some (base, label) →
        Alias.split? label = none → '.' ∉ label.toList →
        ∃ written, (Dialect.mysql tablePrefix).table aliased =
            (Dialect.mysql tablePrefix).table base ++ " as " ++ written ∧
          (Dialect.mysql tablePrefix).column (label ++ "." ++ column) =
            written ++ "." ++ (Dialect.mysql tablePrefix).quote column := by
  refine ⟨column_eq_iff tablePrefix htable hcolumn hpoint, ?_⟩
  intro aliased base label hsplit hlabel hdot
  exact ⟨_, Naming.table_of_split?_eq_some _ hsplit,
    Naming.column_of_label _ hlabel hcolumn hpoint hdot⟩

theorem column_qualified_shop_users :
    Alias.split? "shop.users  AS u" = some ("shop.users", "u") ∧
      ((Dialect.mysql "p_").column "users.id" =
          (Dialect.mysql "p_").table "users" ++ "." ++ (Dialect.mysql "p_").quote "id" ↔
        "p_" = "" ∨ '.' ∉ "users".toList) ∧
      ∃ written, (Dialect.mysql "p_").table "shop.users  AS u" =
          (Dialect.mysql "p_").table "shop.users" ++ " as " ++ written ∧
        (Dialect.mysql "p_").column "u.id" =
          written ++ "." ++ (Dialect.mysql "p_").quote "id" := by
  have hsplit : Alias.split? "shop.users  AS u" = some ("shop.users", "u") := rfl
  obtain ⟨hiff, halias⟩ := column_qualified_iff "p_" "users" "id" rfl rfl (by decide)
  exact ⟨hsplit, hiff, halias _ _ _ hsplit rfl (by decide)⟩

/-- A column that names a table which the from clause does not have. -/
theorem column_ne_shop_orders :
    Alias.split? "shop.orders" = none ∧ Alias.split? "id" = none ∧ '.' ∉ "id".toList ∧
      (Dialect.mysql "p_").column ("shop.orders" ++ "." ++ "id") =
        "\x60p_shop\x60.\x60orders\x60.\x60id\x60" ∧
      (Dialect.mysql "p_").table "shop.orders" = "\x60shop\x60.\x60p_orders\x60" ∧
      (Dialect.mysql "p_").column ("shop.orders" ++ "." ++ "id") ≠
        (Dialect.mysql "p_").table "shop.orders" ++ "." ++ (Dialect.mysql "p_").quote "id" := by
  decide

end SqlSelect
