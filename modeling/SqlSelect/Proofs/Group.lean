import SqlSelect.Proofs.Run
import SqlSelect.Value.Conversion

/-!
Groups of comparisons. A group does what its entries do as single comparisons, made one
after another in their order, or else nothing at all: then the first entry that is at
fault says why, whatever comes after it.
-/

namespace SqlSelect

namespace Criterion

/-- The single comparison that an entry of a group spells out. -/
def ofEntry? : List Value → Option Criterion
  | [.text column, value] => some (.single column none value)
  | [.text column, operator, value] => some (.single column (some operator) value)
  | _ => none

theorem ofEntry?_eq_some_iff {entry : List Value} {single : Criterion} :
    ofEntry? entry = some single ↔
      ∃ column operator value, single = .single column operator value ∧
        entry = .text column :: (operator.toList ++ [value]) := by
  constructor
  · intro h
    unfold ofEntry? at h
    split at h
    · cases h
      exact ⟨_, none, _, rfl, rfl⟩
    · cases h
      exact ⟨_, some _, _, rfl, rfl⟩
    · cases h
  · rintro ⟨column, operator, value, rfl, rfl⟩
    cases operator <;> rfl

theorem mapM_ofEntry?_triples (triples : List (String × Value × Value)) :
    (triples.map fun (column, operator, value) => [.text column, operator, value]).mapM ofEntry? =
      some (triples.map fun (column, operator, value) =>
        .single column (some operator) value) := by
  induction triples with
  | nil => rfl
  | cons triple triples ih =>
      rw [List.map_cons, List.mapM_cons, ih]
      rfl

theorem splitEntry_eq_error_iff {index : Nat} {entry : List Value} {error : Error} :
    splitEntry index entry = .error error ↔
      (entry.length ≠ 2 ∧ entry.length ≠ 3 ∧ error = .malformedGroup index entry.length) ∨
        ∃ column rest, entry = column :: rest ∧ (rest.length = 1 ∨ rest.length = 2) ∧
          column.text? = none ∧ error = .argument (.columnNotText index column.typeName) := by
  match entry with
  | [] => simp [splitEntry, eq_comm]
  | [_] => simp [splitEntry, eq_comm]
  | [column, _] => cases column <;> simp [splitEntry, Value.text?, eq_comm]
  | [column, _, _] => cases column <;> simp [splitEntry, Value.text?, eq_comm]
  | _ :: _ :: _ :: _ :: _ => simp [splitEntry, eq_comm]

theorem exists_splitEntry_eq_error (index : Nat) {entry : List Value}
    (hentry : ofEntry? entry = none) : ∃ error, splitEntry index entry = .error error := by
  cases hsplit : splitEntry index entry with
  | error error => exact ⟨error, rfl⟩
  | ok split =>
      have hspelled := splitEntry_eq_ok_iff.mp hsplit
      have hsome := ofEntry?_eq_some_iff.mpr ⟨_, _, _, rfl, hspelled⟩
      rw [hentry] at hsome
      cases hsome

variable {operators : List String} {connector : Connector} {operator : Option Value}
  {value : Value} {error : Error}

/-- A single comparison is refused for what is in its operator and value slots. -/
theorem conditions_single_eq_error_iff {column : String} :
    (single column operator value).conditions operators connector = .error error ↔
      resolve operators operator value.firstScalar = .error error := by
  rw [conditions, bind_eq_error_iff, comparison, bind_eq_error_iff]
  constructor
  · rintro ((h | ⟨_, -, h⟩) | ⟨_, -, h⟩)
    · exact h
    · cases h
    · cases h
  · exact fun h => .inl (.inl h)

/-- There is one reason only to refuse a single comparison. -/
theorem conditions_single_eq_error {column : String}
    (h : (single column operator value).conditions operators connector = .error error) :
    error = .argument .nullComparison :=
  (resolve_eq_error_iff.mp (conditions_single_eq_error_iff.mp h)).1

end Criterion

namespace Query

/-- Single comparisons one after another, up to the first that is refused. -/
def filterEach (q : Query) (operators : List String) (singles : List Criterion)
    (connector : Connector) : Except Error Query :=
  singles.foldlM (fun q single => q.filter operators single connector) q

/-- An entry of a group that spells out a comparison, and one that is accepted. -/
def Accepts (q : Query) (operators : List String) (connector : Connector)
    (entry : List Value) : Prop :=
  ∃ single next, Criterion.ofEntry? entry = some single ∧
    q.filter operators single connector = .ok next

/-- What is wrong with the entry at `index` of a group: how many elements it has, or
else its column, or else the comparison that it spells out. -/
inductive Fault (q : Query) (operators : List String) (connector : Connector) (index : Nat) :
    List Value → Error → Prop where
  | arity {entry : List Value} (htwo : entry.length ≠ 2) (hthree : entry.length ≠ 3) :
      Fault q operators connector index entry (.malformedGroup index entry.length)
  | column {column : Value} {rest : List Value} (harity : rest.length = 1 ∨ rest.length = 2)
      (htext : column.text? = none) :
      Fault q operators connector index (column :: rest)
        (.argument (.columnNotText index column.typeName))
  | comparison {entry : List Value} {single : Criterion}
      (hentry : Criterion.ofEntry? entry = some single)
      (hsingle : q.filter operators single connector = .error (.argument .nullComparison)) :
      Fault q operators connector index entry (.argument .nullComparison)

variable {q : Query} {operators : List String} {connector : Connector} {index : Nat}
  {entry : List Value} {entries : List (List Value)} {error : Error}

/-- Whether an entry is accepted does not depend on what a query holds already. -/
theorem Accepts.of_query (h : q.Accepts operators connector entry) (q' : Query) :
    q'.Accepts operators connector entry := by
  obtain ⟨single, next, hentry, hnext⟩ := h
  obtain ⟨cs, hcs, -⟩ := filter_eq_ok_iff.mp hnext
  exact ⟨single, q'.pushAll cs, hentry, filter_eq_ok_iff.mpr ⟨cs, hcs, rfl⟩⟩

theorem Fault.of_query (h : q.Fault operators connector index entry error) (q' : Query) :
    q'.Fault operators connector index entry error := by
  cases h with
  | arity htwo hthree => exact .arity htwo hthree
  | column harity htext => exact .column harity htext
  | comparison hentry hsingle =>
      exact .comparison hentry (filter_eq_error_iff.mpr (filter_eq_error_iff.mp hsingle))

theorem Fault.of_splitEntry (h : Criterion.splitEntry index entry = .error error) :
    q.Fault operators connector index entry error := by
  rcases Criterion.splitEntry_eq_error_iff.mp h with
    ⟨htwo, hthree, rfl⟩ | ⟨column, rest, rfl, harity, htext, rfl⟩
  · exact .arity htwo hthree
  · exact .column harity htext

theorem Fault.of_filter {single : Criterion} (hentry : Criterion.ofEntry? entry = some single)
    (h : q.filter operators single connector = .error error) :
    q.Fault operators connector index entry error := by
  obtain ⟨column, operator, value, rfl, -⟩ := Criterion.ofEntry?_eq_some_iff.mp hentry
  cases Criterion.conditions_single_eq_error (filter_eq_error_iff.mp h)
  exact .comparison hentry h

/-! ### Groups entry by entry -/

/-- The query after a group whose first entry is at `index`. -/
def filterFrom (q : Query) (operators : List String) (connector : Connector) (index : Nat)
    (entries : List (List Value)) : Except Error Query := do
  let conditions ← Criterion.entryConditions operators connector index entries
  return q.pushAll conditions

theorem filterFrom_cons {single : Criterion} (hentry : Criterion.ofEntry? entry = some single) :
    q.filterFrom operators connector index (entry :: entries) =
      (q.filter operators single connector >>= fun next =>
        next.filterFrom operators connector (index + 1) entries) := by
  obtain ⟨column, operator, value, rfl, rfl⟩ := Criterion.ofEntry?_eq_some_iff.mp hentry
  have hsplit : Criterion.splitEntry index (.text column :: (operator.toList ++ [value])) =
      pure (column, operator, value) := Criterion.splitEntry_eq_ok_iff.mpr rfl
  -- Both sides read the first comparison and then the others; only the first is pushed
  -- before they are read on the right.
  simp only [filterFrom, Criterion.entryConditions, hsplit, filter, Criterion.conditions,
    pure_bind, bind_assoc, pushAll_cons, pushAll_nil]

theorem filterFrom_cons_of_splitEntry (h : Criterion.splitEntry index entry = .error error) :
    q.filterFrom operators connector index (entry :: entries) = .error error := by
  rw [filterFrom, Criterion.entryConditions, h]
  rfl

/-- A group is refused for a fault of its first entry, whatever its other entries are. -/
theorem Fault.filterFrom_eq_error (h : q.Fault operators connector index entry error) :
    q.filterFrom operators connector index (entry :: entries) = .error error := by
  cases h with
  | arity htwo hthree =>
      exact filterFrom_cons_of_splitEntry
        (Criterion.splitEntry_eq_error_iff.mpr (.inl ⟨htwo, hthree, rfl⟩))
  | column harity htext =>
      exact filterFrom_cons_of_splitEntry
        (Criterion.splitEntry_eq_error_iff.mpr (.inr ⟨_, _, rfl, harity, htext, rfl⟩))
  | comparison hentry hsingle =>
      rw [filterFrom_cons hentry, hsingle]
      rfl

/-- Where all entries spell out comparisons, the group and the comparisons one after
another have the same outcome, errors included. -/
theorem filterFrom_eq_filterEach {singles : List Criterion}
    (h : entries.mapM Criterion.ofEntry? = some singles) :
    q.filterFrom operators connector index entries = q.filterEach operators singles connector := by
  induction entries generalizing q index singles with
  | nil =>
      cases h
      rfl
  | cons entry entries ih =>
      rw [List.mapM_cons] at h
      obtain ⟨single, hentry, h⟩ := Option.bind_eq_some_iff.mp h
      obtain ⟨others, hothers, h⟩ := Option.bind_eq_some_iff.mp h
      cases h
      rw [filterFrom_cons hentry, filterEach, List.foldlM_cons]
      congr 1
      funext next
      exact ih hothers

theorem exists_mapM_of_accepts (h : ∀ entry ∈ entries, q.Accepts operators connector entry) :
    ∃ singles, entries.mapM Criterion.ofEntry? = some singles := by
  induction entries with
  | nil => exact ⟨[], rfl⟩
  | cons entry entries ih =>
      rw [List.forall_mem_cons] at h
      obtain ⟨⟨single, -, hentry, -⟩, hentries⟩ := h
      obtain ⟨singles, hsingles⟩ := ih hentries
      refine ⟨single :: singles, ?_⟩
      rw [List.mapM_cons, hentry, hsingles]
      rfl

theorem exists_filterFrom_eq_ok_iff :
    (∃ last, q.filterFrom operators connector index entries = .ok last) ↔
      ∀ entry ∈ entries, q.Accepts operators connector entry := by
  induction entries generalizing q index with
  | nil => simp [filterFrom, Criterion.entryConditions]
  | cons entry entries ih =>
      rw [List.forall_mem_cons]
      constructor
      · rintro ⟨last, hlast⟩
        cases hentry : Criterion.ofEntry? entry with
        | none =>
            obtain ⟨error, hsplit⟩ := Criterion.exists_splitEntry_eq_error index hentry
            rw [filterFrom_cons_of_splitEntry hsplit] at hlast
            cases hlast
        | some single =>
            rw [filterFrom_cons hentry, bind_eq_ok_iff] at hlast
            obtain ⟨next, hnext, hlast⟩ := hlast
            have hentries := ih.mp ⟨last, hlast⟩
            exact ⟨⟨single, next, hentry, hnext⟩,
              fun other hother => (hentries other hother).of_query q⟩
      · rintro ⟨⟨single, next, hentry, hnext⟩, hentries⟩
        obtain ⟨last, hlast⟩ := ih.mpr fun other hother => (hentries other hother).of_query next
        refine ⟨last, ?_⟩
        rw [filterFrom_cons hentry, bind_eq_ok_iff]
        exact ⟨next, hnext, hlast⟩

/-- A group is refused for the first of its entries that is at fault. -/
theorem filterFrom_eq_error_iff :
    q.filterFrom operators connector index entries = .error error ↔
      ∃ before entry after, entries = before ++ entry :: after ∧
        (∀ earlier ∈ before, q.Accepts operators connector earlier) ∧
        q.Fault operators connector (index + before.length) entry error := by
  constructor
  · intro h
    -- The query and the index move on with the entries, so both are general.
    induction entries generalizing q index with
    | nil => cases h
    | cons entry entries ih =>
        cases hentry : Criterion.ofEntry? entry with
        | none =>
            obtain ⟨error', hsplit⟩ := Criterion.exists_splitEntry_eq_error index hentry
            rw [filterFrom_cons_of_splitEntry hsplit] at h
            cases h
            exact ⟨[], entry, entries, rfl, by simp, .of_splitEntry hsplit⟩
        | some single =>
            rw [filterFrom_cons hentry, bind_eq_error_iff] at h
            rcases h with h | ⟨next, hnext, h⟩
            · exact ⟨[], entry, entries, rfl, by simp, .of_filter hentry h⟩
            · obtain ⟨before, other, after, rfl, hbefore, hfault⟩ := ih h
              refine ⟨entry :: before, other, after, rfl, ?_, ?_⟩
              · rw [List.forall_mem_cons]
                exact ⟨⟨single, next, hentry, hnext⟩,
                  fun earlier hearlier => (hbefore earlier hearlier).of_query q⟩
              · rw [List.length_cons, Nat.add_comm before.length 1, ← Nat.add_assoc]
                exact hfault.of_query q
  · rintro ⟨before, entry, after, rfl, hbefore, hfault⟩
    induction before generalizing q index with
    | nil => exact hfault.filterFrom_eq_error
    | cons first before ih =>
        rw [List.forall_mem_cons] at hbefore
        obtain ⟨⟨single, next, hentry, hnext⟩, hbefore⟩ := hbefore
        rw [List.cons_append, filterFrom_cons hentry, hnext]
        apply ih
        · exact fun earlier hearlier => (hbefore earlier hearlier).of_query next
        · rw [Nat.add_assoc, Nat.add_comm 1]
          exact hfault.of_query next

/-- A group is accepted just when each of its entries spells out a comparison that is, and
then gives the query that these comparisons give one after another. It is refused just for
its first entry at fault. A typed group has the outcome of its comparisons in every case. -/
theorem filter_group (d : Dialect) (q : Query) (entries : List (List Value))
    (connector : Connector) :
    ((∃ next, q.filter d.operators (.group entries) connector = .ok next) ↔
        ∀ entry ∈ entries, q.Accepts d.operators connector entry) ∧
      (∀ next, q.filter d.operators (.group entries) connector = .ok next ↔
        ∃ singles, entries.mapM Criterion.ofEntry? = some singles ∧
          q.filterEach d.operators singles connector = .ok next) ∧
      (∀ error, q.filter d.operators (.group entries) connector = .error error ↔
        ∃ before entry after, entries = before ++ entry :: after ∧
          (∀ earlier ∈ before, q.Accepts d.operators connector earlier) ∧
          q.Fault d.operators connector before.length entry error) ∧
      ∀ (α β : Type) [ToValue α] [ToValue β] (triples : List (String × α × β)),
        q.filter d.operators (.ofTriples (triples.map fun (column, operator, value) =>
            (column, toValue operator, toValue value))) connector =
          q.filterEach d.operators (triples.map fun (column, operator, value) =>
            .single column (some (toValue operator)) (toValue value)) connector := by
  have hgroup (entries : List (List Value)) :
      q.filter d.operators (.group entries) connector =
        q.filterFrom d.operators connector 0 entries := rfl
  simp only [hgroup]
  refine ⟨exists_filterFrom_eq_ok_iff, ?_, ?_, ?_⟩
  · intro next
    constructor
    · intro h
      obtain ⟨singles, hsingles⟩ :=
        exists_mapM_of_accepts (exists_filterFrom_eq_ok_iff.mp ⟨next, h⟩)
      rw [filterFrom_eq_filterEach hsingles] at h
      exact ⟨singles, hsingles, h⟩
    · rintro ⟨singles, hsingles, h⟩
      rw [filterFrom_eq_filterEach hsingles, h]
  · intro error
    rw [filterFrom_eq_error_iff]
    simp only [Nat.zero_add]
  · intro α β _ _ triples
    have htriples := Criterion.mapM_ofEntry?_triples
      (triples.map fun (column, operator, value) => (column, toValue operator, toValue value))
    rw [Criterion.ofTriples, hgroup, filterFrom_eq_filterEach htriples, List.map_map]
    rfl

end Query

end SqlSelect
