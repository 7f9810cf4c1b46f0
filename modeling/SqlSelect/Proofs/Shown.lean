import Mathlib.Data.List.Forall2
import SqlSelect.Number.Digits
import SqlSelect.Proofs.Escape
import SqlSelect.Settings.Inspect

/-!
What a shown record tells. The texts of its fields stand one behind another, and each of them
is told apart from what follows it, so that a record tells the text of every field. Settings
that are shown alike differ in their password at most, and all passwords are shown alike.
-/

namespace SqlSelect

namespace Inspect

/-! ### Texts that are told apart from what follows -/

/-- Two texts neither of which is taken for a beginning of the other, as long as no digit
follows. -/
def Delimited (x y : String) : Prop :=
  ∀ ⦃rest rest' : List Char⦄, (∀ c ∈ rest.head?, c.isDigit = false) →
    (∀ c ∈ rest'.head?, c.isDigit = false) → x.toList ++ rest = y.toList ++ rest' →
    x = y ∧ rest = rest'

theorem delimited_self (x : String) : Delimited x x :=
  fun _ _ _ _ h => ⟨rfl, List.append_cancel_left h⟩

theorem delimited_quoted (s t : String) : Delimited (Text.quoted s) (Text.quoted t) := by
  intro rest rest' _ _ h
  obtain ⟨rfl, hrest⟩ := Text.quoted_append_inj h
  exact ⟨rfl, hrest⟩

theorem toList_toString (n : Nat) : (toString n).toList = Digits.ofNat n := by
  simp [Digits.ofNat, Nat.toString_eq_repr]

/-- A number ends where no more digits follow. -/
theorem delimited_nat (m n : Nat) : Delimited (toString m) (toString n) := by
  intro rest rest' hrest hrest' h
  rw [toList_toString, toList_toString] at h
  obtain ⟨hdigits, hrests⟩ := Digits.append_inj (fun _ => Digits.isDigit_of_mem_ofNat) hrest
    (fun _ => Digits.isDigit_of_mem_ofNat) hrest' h
  rw [← toList_toString, ← toList_toString] at hdigits
  exact ⟨String.toList_inj.mp hdigits, hrests⟩

theorem toString_eq_iff {m n : Nat} : toString m = toString n ↔ m = n := by
  constructor
  · intro h
    rw [← Digits.toNat_ofNat m, ← toList_toString, h, toList_toString, Digits.toNat_ofNat]
  · exact fun h => by rw [h]

/-! ### Optional values -/

section Optional

variable {α : Type} {inspect : α → String} {a b : Option α}

theorem optional_some_append (inspect : α → String) (a : α) (rest : List Char) :
    (optional inspect (some a)).toList ++ rest =
      "Some(".toList ++ ((inspect a).toList ++ ')' :: rest) := by
  simp [optional, tagged]

theorem optional_congr (h : a.map inspect = b.map inspect) :
    optional inspect a = optional inspect b := by
  have hmap (a : Option α) : optional inspect a = optional id (a.map inspect) := by
    cases a <;> rfl
  rw [hmap, h, ← hmap]

variable (h : ∀ a b, Delimited (inspect a) (inspect b))

include h

theorem optional_append_inj {rest rest' : List Char}
    (hrest : ∀ c ∈ rest.head?, c.isDigit = false)
    (hrest' : ∀ c ∈ rest'.head?, c.isDigit = false)
    (happend : (optional inspect a).toList ++ rest = (optional inspect b).toList ++ rest') :
    a.map inspect = b.map inspect ∧ rest = rest' := by
  cases a with
  | none =>
      cases b with
      | none => exact ⟨rfl, (delimited_self _ hrest hrest' happend).2⟩
      | some b => simp [optional, tagged] at happend
  | some a =>
      cases b with
      | none => simp [optional, tagged] at happend
      | some b =>
          rw [optional_some_append, optional_some_append, List.append_cancel_left_eq] at happend
          -- The parenthesis behind the text is no digit.
          obtain ⟨htext, hclosed⟩ := h a b (by simp) (by simp) happend
          exact ⟨congrArg some htext, List.tail_eq_of_cons_eq hclosed⟩

theorem delimited_optional (a b : Option α) :
    Delimited (optional inspect a) (optional inspect b) := by
  intro rest rest' hrest hrest' happend
  obtain ⟨hmap, hrests⟩ := optional_append_inj h hrest hrest' happend
  exact ⟨optional_congr hmap, hrests⟩

theorem optional_eq_iff :
    optional inspect a = optional inspect b ↔ a.map inspect = b.map inspect := by
  constructor
  · intro hoptional
    have happend : (optional inspect a).toList ++ [] = (optional inspect b).toList ++ [] := by
      rw [hoptional]
    exact (optional_append_inj h (by simp) (by simp) happend).1
  · exact optional_congr

end Optional

/-! ### Records -/

theorem Delimited.append_front {x y : String} (h : Delimited x y) (front : String) :
    Delimited (front ++ x) (front ++ y) := by
  intro rest rest' hrest hrest' happend
  rw [String.toList_append, String.toList_append, List.append_assoc, List.append_assoc,
    List.append_cancel_left_eq] at happend
  obtain ⟨rfl, hrests⟩ := h hrest hrest' happend
  exact ⟨rfl, hrests⟩

theorem intercalate_cons_cons_append (x y : String) (xs : List String) (rest : List Char) :
    (", ".intercalate (x :: y :: xs)).toList ++ rest =
      x.toList ++ (", ".toList ++ ((", ".intercalate (y :: xs)).toList ++ rest)) := by
  rw [String.intercalate_cons_cons, String.toList_append, String.toList_append,
    List.append_assoc, List.append_assoc]

/-- Texts in a list are told apart, and so is what follows the list. -/
theorem intercalate_inj {xs ys : List String} (h : List.Forall₂ Delimited xs ys)
    {rest rest' : List Char} (hrest : ∀ c ∈ rest.head?, c.isDigit = false)
    (hrest' : ∀ c ∈ rest'.head?, c.isDigit = false)
    (happend : (", ".intercalate xs).toList ++ rest = (", ".intercalate ys).toList ++ rest') :
    xs = ys ∧ rest = rest' := by
  induction h with
  | nil => exact ⟨rfl, by simpa using happend⟩
  | @cons x y xs ys hxy hxys ih =>
      cases hxys with
      | nil =>
          rw [String.intercalate_singleton, String.intercalate_singleton] at happend
          obtain ⟨rfl, hrests⟩ := hxy hrest hrest' happend
          exact ⟨rfl, hrests⟩
      | cons hnext hothers =>
          rw [intercalate_cons_cons_append, intercalate_cons_cons_append] at happend
          -- The comma behind a text is no digit.
          obtain ⟨rfl, hothers⟩ := hxy (by simp) (by simp) happend
          obtain ⟨hxys, hrests⟩ := ih (List.append_cancel_left hothers)
          exact ⟨by rw [hxys], hrests⟩

/-- A field as it stands in a record. -/
def fieldText (field : String × String) : String := field.1 ++ ": " ++ field.2

theorem toList_record (name : String) (fields : List (String × String)) :
    (record name fields).toList = (name ++ " \x7b ").toList ++
      ((", ".intercalate (fields.map fieldText)).toList ++ " \x7d".toList) := by
  rw [record, String.toList_append, String.toList_append, List.append_assoc]
  rfl

/-- Fields of one name with texts that are told apart from what follows. -/
structure DelimitedField (field field' : String × String) : Prop where
  name : field.1 = field'.1
  text : Delimited field.2 field'.2

theorem DelimitedField.fieldText {field field' : String × String}
    (h : DelimitedField field field') :
    Delimited (fieldText field) (Inspect.fieldText field') := by
  rw [Inspect.fieldText, Inspect.fieldText, h.name]
  exact h.text.append_front _

theorem DelimitedField.fieldText_inj {field field' : String × String}
    (h : DelimitedField field field') (htext : Inspect.fieldText field = Inspect.fieldText field') :
    field = field' := by
  rw [Inspect.fieldText, Inspect.fieldText, h.name, String.append_right_inj] at htext
  exact Prod.ext h.name htext

/-- A record tells the text of each of its fields. -/
theorem record_inj {name : String} {fields fields' : List (String × String)}
    (h : List.Forall₂ DelimitedField fields fields')
    (hrecord : record name fields = record name fields') : fields = fields' := by
  have hshown : List.Forall₂ Delimited (fields.map fieldText) (fields'.map fieldText) := by
    rw [List.forall₂_map_left_iff, List.forall₂_map_right_iff]
    exact h.imp fun _ _ hfield => hfield.fieldText
  have hlists := congrArg String.toList hrecord
  rw [toList_record, toList_record, List.append_cancel_left_eq] at hlists
  have htexts := (intercalate_inj hshown (by simp) (by simp) hlists).1
  clear hshown hrecord hlists
  induction h with
  | nil => rfl
  | cons hfield _ ih =>
      rw [List.map_cons, List.map_cons, List.cons.injEq] at htexts
      rw [ih htexts.2, hfield.fieldText_inj htexts.1]

end Inspect

namespace Settings

open Inspect (DelimitedField record delimited_nat delimited_optional delimited_quoted
  delimited_self optional_eq_iff record_inj toString_eq_iff)

/-- The fields that settings are shown with. -/
def shownFields (s : Settings) : List (String × String) :=
  [("host", Text.quoted s.host),
    ("port", toString s.port.toNat),
    ("user", Text.quoted s.user),
    ("password", Inspect.optional (fun _ => Text.quoted "***") s.password),
    ("database", Inspect.optional Text.quoted s.database),
    ("table_prefix", Text.quoted s.tablePrefix),
    ("max_connections", toString s.maxConnections.toNat)]

theorem inspect_eq_record (s : Settings) :
    s.inspect = record "ConnectionConfig" s.shownFields := rfl

theorem delimited_shownFields (a b : Settings) :
    List.Forall₂ DelimitedField a.shownFields b.shownFields := by
  simp only [shownFields, List.forall₂_cons, List.Forall₂.nil, and_true]
  refine ⟨⟨rfl, ?_⟩, ⟨rfl, ?_⟩, ⟨rfl, ?_⟩, ⟨rfl, ?_⟩, ⟨rfl, ?_⟩, ⟨rfl, ?_⟩, ⟨rfl, ?_⟩⟩
  · exact delimited_quoted a.host b.host
  · exact delimited_nat a.port.toNat b.port.toNat
  · exact delimited_quoted a.user b.user
  · exact delimited_optional (fun _ _ => delimited_self _) a.password b.password
  · exact delimited_optional delimited_quoted a.database b.database
  · exact delimited_quoted a.tablePrefix b.tablePrefix
  · exact delimited_nat a.maxConnections.toNat b.maxConnections.toNat

/-- Of a password nothing is shown but whether there is one. -/
theorem shownPassword_eq_iff {password password' : Option String} :
    Inspect.optional (fun _ => Text.quoted "***") password =
        Inspect.optional (fun _ => Text.quoted "***") password' ↔
      password.isSome = password'.isSome := by
  rw [optional_eq_iff fun _ _ => delimited_self _]
  cases password <;> cases password' <;> simp

theorem shownDatabase_eq_iff {database database' : Option String} :
    Inspect.optional Text.quoted database = Inspect.optional Text.quoted database' ↔
      database = database' := by
  rw [optional_eq_iff delimited_quoted, (Option.map_injective Text.quoted_injective).eq_iff]

/-- Two settings are shown alike just when they agree in everything but the password, and
both have one or neither has. No password is told from another. -/
theorem inspect_eq_iff (a b : Settings) :
    (a.inspect = b.inspect ↔ a.host = b.host ∧ a.port = b.port ∧ a.user = b.user ∧
      a.password.isSome = b.password.isSome ∧ a.database = b.database ∧
      a.tablePrefix = b.tablePrefix ∧ a.maxConnections = b.maxConnections) ∧
    ∀ password password' : String, { a with password := some password }.inspect =
      { a with password := some password' }.inspect := by
  have hfields : a.inspect = b.inspect ↔ a.shownFields = b.shownFields := by
    rw [inspect_eq_record, inspect_eq_record]
    exact ⟨record_inj (delimited_shownFields a b), fun h => by rw [h]⟩
  refine ⟨?_, fun _ _ => rfl⟩
  rw [hfields]
  simp only [shownFields, List.cons.injEq, Prod.mk.injEq, true_and, and_true, toString_eq_iff,
    Text.quoted_injective.eq_iff, shownPassword_eq_iff, shownDatabase_eq_iff, UInt16.toNat_inj,
    UInt32.toNat_inj]

end Settings

end SqlSelect
