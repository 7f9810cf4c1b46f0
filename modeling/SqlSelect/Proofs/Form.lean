import Mathlib.Data.List.Count
import SqlSelect.Proofs.Name

/-!
The form of a test is what is left of it without its values: the kind of test, its
operator or its negation, and how many values it binds. In the dialects that leave
the tests to the common phrases nothing else of a test reaches the text.
-/

namespace SqlSelect

open Lexeme

inductive Form where
  | compare (op : Operator)
  | bitwise (op : Operator)
  | among (size : Nat) (negated : Bool)
  | null (negated : Bool)
  | between (negated : Bool)
  deriving DecidableEq, Repr

def Test.form : Test → Form
  | .compare op _ => .compare op
  | .bitwise op _ => .bitwise op
  | .among values negated => .among values.length negated
  | .null negated => .null negated
  | .between _ _ negated => .between negated

def Condition.form (c : Condition) : Form := c.test.form

namespace Form

/-- How many values a test of this form binds. -/
def size : Form → Nat
  | compare _ => 1
  | bitwise _ => 1
  | among size _ => size
  | null _ => 0
  | between _ => 2

/-- The clause that a test of this form is, where its column does not matter. -/
def constant? : Form → Option String
  | among 0 negated => some (if negated then "1 = 1" else "0 = 1")
  | _ => none

def placeholders (size : Nat) : String := ", ".intercalate (List.replicate size "?")

/-- What stands behind the column. -/
def phrase : Form → String
  | compare op => " " ++ op.spelling ++ " ?"
  | bitwise op => " " ++ op.spelling ++ " ?"
  | among size negated =>
      " " ++ Phrase.negation negated ++ "in (" ++ placeholders size ++ ")"
  | null negated => " is " ++ Phrase.negation negated ++ "null"
  | between negated => " " ++ Phrase.negation negated ++ "between ? and ?"

/-- The operator is a listed one, and a bitwise test has a bitwise operator. -/
def Listed (operators : List String) : Form → Prop
  | compare op => op.spelling ∈ Operator.catalog ++ operators ∧ op.isBitwise = false
  | bitwise op => op.spelling ∈ Operator.catalog ++ operators ∧ op.isBitwise = true
  | _ => True

end Form

def Test.operator? : Test → Option Operator
  | .compare op _ => some op
  | .bitwise op _ => some op
  | _ => none

theorem Test.listed_form_of_operator?_eq_none {operators : List String} (t : Test)
    (h : t.operator? = none) : t.form.Listed operators := by
  cases t with
  | compare op value => cases h
  | bitwise op value => cases h
  | _ => trivial

@[simp] theorem Condition.length_bindings (c : Condition) : c.bindings.length = c.form.size := by
  obtain ⟨column, test, connector⟩ := c
  cases test <;> rfl

/-- A condition in the common phrases, without its connector. -/
def Phrase.condition (column : String → String) (placeholder : Value → String)
    (c : Condition) : String :=
  match c.test with
  | .compare op value => compare column placeholder c.column op value
  | .bitwise op value => compare column placeholder c.column op value
  | .among values negated => among column placeholder c.column values negated
  | .null negated => null column c.column negated
  | .between low high negated => between column placeholder c.column low high negated

section Common

variable (column : String → String) (n : Naming) (operators : List String)

theorem placeholders_common (values : List Value) :
    Phrase.placeholders (fun _ => "?") values = Form.placeholders values.length := by
  rw [Phrase.placeholders, List.map_const', Form.placeholders]

theorem Phrase.compare_common (name : String) (op : Operator) (value : Value) :
    Phrase.compare column (fun _ => "?") name op value =
      column name ++ (" " ++ op.spelling ++ " ?") := by
  simp [Phrase.compare, String.append_assoc]

/-- The text of a condition, read off its column and the form of its test. -/
theorem Phrase.condition_common (c : Condition) :
    Phrase.condition column (fun _ => "?") c =
      match c.form.constant? with
      | some clause => clause
      | none => column c.column ++ c.form.phrase := by
  obtain ⟨name, test, connector⟩ := c
  cases test with
  | compare op value => exact Phrase.compare_common column name op value
  | bitwise op value => exact Phrase.compare_common column name op value
  | among values negated =>
      cases values with
      | nil => rfl
      | cons value values =>
          simp [Phrase.condition, Phrase.among, placeholders_common, Condition.form, Test.form,
            Form.constant?, Form.phrase, String.append_assoc]
  | null negated =>
      simp [Phrase.condition, Phrase.null, Condition.form, Test.form, Form.constant?,
        Form.phrase, String.append_assoc]
  | between low high negated =>
      simp [Phrase.condition, Phrase.between, Condition.form, Test.form, Form.constant?,
        Form.phrase, String.append_assoc]

theorem condition_eq_phrase (c : Condition) :
    (Dialect.common n operators).condition c =
      Phrase.condition n.column (fun _ => "?") c := by
  obtain ⟨name, test, connector⟩ := c
  cases test <;> rfl

theorem condition_common (c : Condition) :
    (Dialect.common n operators).condition c =
      match c.form.constant? with
      | some clause => clause
      | none => n.column c.column ++ c.form.phrase := by
  rw [condition_eq_phrase, Phrase.condition_common]

end Common

/-! ### What stands behind a column -/

namespace Form

theorem placeholders_succ_succ (size : Nat) :
    placeholders (size + 2) = "?, " ++ placeholders (size + 1) := by
  rw [placeholders, List.replicate_succ, List.replicate_succ, String.intercalate_cons_cons,
    ← List.replicate_succ, placeholders]
  rfl

theorem count_placeholders (size : Nat) : (placeholders size).toList.count '?' = size := by
  induction size with
  | zero => rfl
  | succ size ih =>
      cases size with
      | zero => rfl
      | succ size =>
          rw [placeholders_succ_succ, String.toList_append, List.count_append, ih]
          exact Nat.add_comm 1 (size + 1)

theorem mem_placeholders {size : Nat} {c : Char} (hc : c ∈ (placeholders size).toList) :
    c ∈ ['?', ',', ' '] := by
  induction size with
  | zero => simp [placeholders] at hc
  | succ size ih =>
      cases size with
      | zero =>
          have hmark : c = '?' := by simpa [placeholders] using hc
          simp [hmark]
      | succ size =>
          rw [placeholders_succ_succ, String.toList_append, List.mem_append] at hc
          rcases hc with hc | hc
          · exact hc
          · exact ih hc

/-- The spellings an operator of a MySQL query can have. -/
def spellings : List String := Operator.catalog ++ ["sounds like"]

variable {tablePrefix : String} {form : Form}

theorem spellings_plain : ∀ s ∈ spellings, '\x60' ∉ s.toList ∧ '?' ∉ s.toList := by decide

theorem backtick_notMem_phrase (h : form.Listed (Dialect.mysql tablePrefix).operators) :
    '\x60' ∉ form.phrase.toList := by
  cases form with
  | compare op => simpa [phrase] using (spellings_plain op.spelling h.1).1
  | bitwise op => simpa [phrase] using (spellings_plain op.spelling h.1).1
  | among size negated =>
      have hmarks : '\x60' ∉ (placeholders size).toList := by
        intro hc
        simpa using mem_placeholders hc
      cases negated <;> simpa [phrase, Phrase.negation] using hmarks
  | null negated => cases negated <;> decide
  | between negated => cases negated <;> decide

theorem count_phrase (h : form.Listed (Dialect.mysql tablePrefix).operators) :
    form.phrase.toList.count '?' = form.size := by
  cases form with
  | compare op =>
      have hspelling := List.count_eq_zero.mpr (spellings_plain op.spelling h.1).2
      simpa [phrase, size] using hspelling
  | bitwise op =>
      have hspelling := List.count_eq_zero.mpr (spellings_plain op.spelling h.1).2
      simpa [phrase, size] using hspelling
  | among size negated =>
      cases negated <;> simp [phrase, Phrase.negation, Form.size, count_placeholders]
  | null negated => cases negated <;> decide
  | between negated => cases negated <;> decide

theorem constant?_eq_some_iff {clause : String} :
    form.constant? = some clause ↔
      ∃ negated, form = among 0 negated ∧ clause = if negated then "1 = 1" else "0 = 1" := by
  constructor
  · intro h
    match form with
    | among 0 negated => exact ⟨negated, rfl, (Option.some.inj h).symm⟩
  · rintro ⟨negated, rfl, rfl⟩
    rfl

/-- A constant clause holds no backtick and no placeholder. -/
theorem constant?_plain {clause : String} (h : form.constant? = some clause) :
    '\x60' ∉ clause.toList ∧ clause.toList.count '?' = form.size := by
  obtain ⟨negated, rfl, rfl⟩ := constant?_eq_some_iff.mp h
  cases negated <;> decide

end Form

/-! ### Conditions as lexemes -/

theorem count_ofPlain {α : Type} [DecidableEq α] (c : Char) (s : String) :
    (ofPlain s : List (Lexeme α)).count (plain c) = s.toList.count c :=
  List.count_map_of_injective _ _ (fun _ _ h => by injection h) _

section MySql

variable (tablePrefix : String)

/-- The lexemes of a condition, without its connector. -/
def clauseOf (c : Condition) : List (Lexeme (List Char)) :=
  match c.form.constant? with
  | some clause => ofPlain clause
  | none => ofText ((Dialect.mysql tablePrefix).column c.column) ++ ofPlain c.form.phrase

theorem writeAll_clauseOf (c : Condition) :
    writeAll (clauseOf tablePrefix c) = ((Dialect.mysql tablePrefix).condition c).toList := by
  have hcondition : (Dialect.mysql tablePrefix).condition c = _ :=
    condition_common (Dialect.mysql tablePrefix).toNaming _ c
  have hcolumn := (writtenName_column tablePrefix c.column).2
  rw [clauseOf, hcondition]
  cases c.form.constant? with
  | some clause => exact writeAll_ofPlain clause
  | none => rw [writeAll_append, hcolumn, writeAll_ofPlain, String.toList_append]

variable {tablePrefix} {c : Condition}

theorem separated_clauseOf (hc : c.form.Listed (Dialect.mysql tablePrefix).operators) :
    Separated (clauseOf tablePrefix c) := by
  rw [clauseOf]
  cases hconst : c.form.constant? with
  | some clause => exact separated_ofPlain (Form.constant?_plain hconst).1
  | none =>
      have hcolumn := (writtenName_column tablePrefix c.column).1
      have hphrase := separated_ofPlain (Form.backtick_notMem_phrase hc)
      refine hcolumn.separated.append hphrase ?_
      intro text htext
      exact name_notMem_ofPlain text _ (List.mem_of_head? htext)

/-- A condition has as many placeholders as it binds values. -/
theorem count_clauseOf (hc : c.form.Listed (Dialect.mysql tablePrefix).operators) :
    (clauseOf tablePrefix c).count (plain '?') = c.bindings.length := by
  rw [clauseOf, Condition.length_bindings]
  cases hconst : c.form.constant? with
  | some clause => rw [count_ofPlain, (Form.constant?_plain hconst).2]
  | none =>
      have hname := (writtenName_column tablePrefix c.column).1
      have hcolumn : plain '?' ∉ ofText ((Dialect.mysql tablePrefix).column c.column) :=
        hname.plain_notMem (by decide)
      rw [List.count_append, List.count_eq_zero.mpr hcolumn, count_ofPlain,
        Form.count_phrase hc, Nat.zero_add]

end MySql

end SqlSelect
