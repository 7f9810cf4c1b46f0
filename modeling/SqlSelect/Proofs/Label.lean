import SqlSelect.Dialect.Known
import SqlSelect.Proofs.Parts

/-!
Aliased names as they are written. The base of an aliased name is written part by part, as
it has no alias itself, and the whole label becomes one identifier.
-/

namespace SqlSelect

namespace Alias

/-- The rule for aliased names, by which the base of a name is written by the same rule
again. The depth is the number of times that a base is taken. -/
inductive WrittenBy (bare mark : String → String) : Nat → String → String → Prop where
  | bare {name : String} (h : split? name = none) : WrittenBy bare mark 0 name (bare name)
  | aliased {depth : Nat} {name base label written : String}
      (h : split? name = some (base, label)) (hbase : WrittenBy bare mark depth base written) :
      WrittenBy bare mark (depth + 1) name (written ++ " as " ++ mark label)

section WrittenBy

variable {bare mark : String → String} {depth : Nat} {name base label written : String}

theorem writtenBy_of_eq_none (h : split? name = none) :
    WrittenBy bare mark depth name written ↔ depth = 0 ∧ written = bare name := by
  constructor
  · intro hwritten
    cases hwritten with
    | bare _ => exact ⟨rfl, rfl⟩
    | aliased hsome _ =>
        rw [h] at hsome
        cases hsome
  · rintro ⟨rfl, rfl⟩
    exact .bare h

/-- The base of an aliased name has no alias, so that the rule is not taken up a second time. -/
theorem writtenBy_of_eq_some (h : split? name = some (base, label)) :
    WrittenBy bare mark depth name written ↔
      depth = 1 ∧ written = bare base ++ " as " ++ mark label := by
  constructor
  · intro hwritten
    cases hwritten with
    | bare hnone =>
        rw [h] at hnone
        cases hnone
    | aliased hsome hbase =>
        rw [h] at hsome
        cases hsome
        obtain ⟨rfl, rfl⟩ := (writtenBy_of_eq_none (split?_base h)).mp hbase
        exact ⟨rfl, rfl⟩
  · rintro ⟨rfl, rfl⟩
    exact .aliased h (.bare (split?_base h))

theorem writtenBy_iff :
    WrittenBy bare mark depth name written ↔
      depth = (if (split? name).isSome then 1 else 0) ∧
        written = match split? name with
          | some (base, label) => bare base ++ " as " ++ mark label
          | none => bare name := by
  cases h : split? name with
  | none => rw [writtenBy_of_eq_none h, Option.isSome_none, if_neg Bool.false_ne_true]
  | some split => rw [writtenBy_of_eq_some h, Option.isSome_some, if_pos rfl]

end WrittenBy

end Alias

open Alias

/-- A name is split into its factors with the shortest base, and is not split just when it
has no separator. The base has none, so that it is written by its parts, and the whole label
becomes one identifier; by the rule for aliased names a base is taken at most once. -/
theorem split?_iff_and_written (name : String) :
    (∀ base label,
      split? name = some (base, label) ↔ IsSplit name.toList base.toList label.toList) ∧
    (split? name = none ↔ ¬ HasSeparator name.toList) ∧
    (∀ base label, split? name = some (base, label) →
      ¬ HasSeparator base.toList ∧
      ∀ d : Dialect,
        d.column name = d.dotted (d.columnParts base) ++ " as " ++ d.quote label ∧
        d.table name =
          d.dotted (d.tableParts base) ++ " as " ++ d.quote (d.tablePrefix ++ label)) ∧
    ∀ (d : Dialect) (depth : Nat) (written : String),
      (WrittenBy (fun base => d.path (Naming.parts base)) d.quote depth name written ↔
        depth = (if (split? name).isSome then 1 else 0) ∧ written = d.column name) ∧
      (WrittenBy d.bareTable (fun label => d.quote (d.tablePrefix ++ label)) depth name written ↔
        depth = (if (split? name).isSome then 1 else 0) ∧ written = d.table name) := by
  refine ⟨fun base label => split?_eq_some_iff, split?_eq_none_iff, ?_, ?_⟩
  · intro base label hsplit
    have hbase : split? base = none := split?_base hsplit
    refine ⟨split?_eq_none_iff.mp hbase, fun d => ⟨?_, ?_⟩⟩
    · exact d.writtenInParts_column.aliased hsplit
    · exact d.writtenInParts_table.aliased hsplit
  · intro d depth written
    exact ⟨writtenBy_iff, writtenBy_iff⟩

theorem column_table_shop_users :
    split? "shop.users \u2003AſA as u.v  AS w" = some ("shop.users \u2003AſA", "u.v  AS w") ∧
      (Dialect.mysql "p_").column "shop.users \u2003AſA as u.v  AS w" =
        (Dialect.mysql "p_").dotted ["p_shop", "users \u2003AſA"] ++ " as " ++
          (Dialect.mysql "p_").quote "u.v  AS w" ∧
      (Dialect.mysql "p_").table "shop.users \u2003AſA as u.v  AS w" =
        (Dialect.mysql "p_").dotted ["shop", "p_users \u2003AſA"] ++ " as " ++
          (Dialect.mysql "p_").quote "p_u.v  AS w" := by
  obtain ⟨-, -, haliased, -⟩ := split?_iff_and_written "shop.users \u2003AſA as u.v  AS w"
  obtain ⟨-, hwritten⟩ := haliased "shop.users \u2003AſA" "u.v  AS w" rfl
  exact ⟨rfl, hwritten (Dialect.mysql "p_")⟩

end SqlSelect
