import SqlSelect.Proofs.Run

/-!
Well-formed conditions. Whatever the calls of a run are given in their operator and
value slots, the operators of its conditions are listed spellings, the bitwise tests are
those with a bitwise operator, and `NULL` is compared with by equality only.
-/

namespace SqlSelect

/-- An operator that is spelled as a list has it, and that can compare with the value. -/
structure Operator.Fits (operators : List String) (op : Operator) (value : Value) : Prop where
  listed : op.spelling ∈ catalog ∨ op.spelling ∈ operators
  null : value = .null → op.spelling ∈ ["=", "<>", "!="]

def Test.WellFormed (operators : List String) : Test → Prop
  | .compare op value => op.Fits operators value ∧ op.spelling ∉ Operator.bitwiseCatalog
  | .bitwise op value => op.Fits operators value ∧ op.spelling ∈ Operator.bitwiseCatalog
  | _ => True

def Query.WellFormed (operators : List String) (q : Query) : Prop :=
  ∀ c ∈ q.conditions, c.test.WellFormed operators

variable {operators : List String}

theorem Test.wellFormed_of_operator?_eq_none (t : Test) (h : t.operator? = none) :
    t.WellFormed operators := by
  cases t with
  | compare op value => cases h
  | bitwise op value => cases h
  | _ => trivial

namespace Criterion

theorem Resolves.fits {operator : Option Value} {value bound : Value} {op : Operator}
    (h : Resolves operators operator value op bound) : op.Fits operators bound where
  listed := List.mem_append.mp h.spelling_mem
  null := by
    rintro rfl
    cases h with
    | default => exact Operator.comparesNull_iff.mp rfl
    | unknown => exact Operator.comparesNull_iff.mp rfl
    | known hop hvalue =>
        have hcompares : op.comparesNull = true := by
          simpa [Operator.refuses, Value.isNull] using hvalue
        exact Operator.comparesNull_iff.mp hcompares

theorem Compares.wellFormed {connector : Connector} {entry : List Value} {c : Condition}
    (h : Compares operators connector entry c) : c.test.WellFormed operators := by
  obtain ⟨column, hop⟩ := h
  dsimp only
  split
  · rename_i hbitwise
    exact ⟨hop.fits, Operator.isBitwise_iff.mp hbitwise⟩
  · rename_i hbitwise
    exact ⟨hop.fits, fun hmem => hbitwise (Operator.isBitwise_iff.mpr hmem)⟩

end Criterion

namespace Call

theorem wellFormed_added {call : Call} {c : Condition} (hc : c ∈ call.added operators) :
    c.test.WellFormed operators := by
  rcases compares_or_operator?_eq_none hc with ⟨connector, entry, hentry⟩ | hnone
  · exact hentry.wellFormed
  · exact c.test.wellFormed_of_operator?_eq_none hnone

/-- A call keeps a query well formed, be it accepted or refused. -/
theorem wellFormed_step {q : Query} (hq : q.WellFormed operators) (call : Call) :
    (call.step operators q).WellFormed operators := by
  intro c hc
  rw [conditions_step, List.mem_append] at hc
  rcases hc with hc | hc
  · exact hq c hc
  · exact wellFormed_added hc

theorem wellFormed_run {q : Query} (hq : q.WellFormed operators) (calls : List Call) :
    (run operators q calls).WellFormed operators := by
  induction calls generalizing q with
  | nil => exact hq
  | cons call calls ih => exact ih (wellFormed_step hq call)

end Call

/-- Every query that calls build is well formed, under the operators of its dialect. -/
theorem wellFormed_build (d : Dialect) (calls : List Call) :
    (d.build calls).WellFormed d.operators := by
  apply Call.wellFormed_run
  intro c hc
  cases hc

end SqlSelect
