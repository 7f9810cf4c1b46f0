import SqlSelect.Dialect.Known
import SqlSelect.Proofs.Lexeme
import SqlSelect.Proofs.Parts

/-!
Names as they stand in a MySQL statement. Whatever the characters of a name are,
it is written as identifiers and stars between points, with at most one alias
behind them.
-/

namespace SqlSelect

theorem Identifier.doubled_injective (mark : Char) : Function.Injective (doubled mark) := by
  intro cs
  induction cs with
  | nil =>
      intro ds h
      cases ds with
      | nil => rfl
      | cons d ds =>
          rw [doubled_nil, doubled_cons] at h
          split at h <;> simp at h
  | cons c cs ih =>
      intro ds h
      cases ds with
      | nil =>
          rw [doubled_nil, doubled_cons] at h
          split at h <;> simp at h
      | cons d ds =>
          rw [doubled_cons, doubled_cons] at h
          have hhead : c = d := by
            split at h <;> split at h <;> simp_all
          subst hhead
          rw [ih (List.append_cancel_left h)]

namespace Lexeme

/-- An identifier, or the star that stands for all columns. -/
def IsPart {α : Type} : Lexeme α → Prop
  | name _ => True
  | plain c => c = '*'

inductive Path {α : Type} : List (Lexeme α) → Prop where
  | last {l : Lexeme α} (hl : IsPart l) : Path [l]
  | point {l : Lexeme α} {ls : List (Lexeme α)} (hl : IsPart l) (hls : Path ls) :
      Path (l :: plain '.' :: ls)

inductive WrittenName {α : Type} : List (Lexeme α) → Prop where
  | bare {ls : List (Lexeme α)} (hls : Path ls) : WrittenName ls
  | labelled {ls : List (Lexeme α)} {l : Lexeme α} (hls : Path ls) (hl : IsPart l) :
      WrittenName (ls ++ (ofPlain " as " ++ [l]))

section Grammar

variable {α β : Type}

theorem IsPart.map {l : Lexeme α} (f : α → β) (hl : IsPart l) : IsPart (l.mapName f) := by
  cases l with
  | name a => trivial
  | plain c => exact hl

theorem Path.map {ls : List (Lexeme α)} (f : α → β) (hls : Path ls) :
    Path (ls.map (mapName f)) := by
  induction hls with
  | last hl => exact .last (hl.map f)
  | point hl _ ih => exact .point (hl.map f) ih

theorem WrittenName.map {ls : List (Lexeme α)} (f : α → β) (hls : WrittenName ls) :
    WrittenName (ls.map (mapName f)) := by
  cases hls with
  | bare hls => exact .bare (hls.map f)
  | labelled hls hl =>
      rw [List.map_append, List.map_append, mapName_ofPlain]
      exact .labelled (hls.map f) (hl.map f)

theorem Path.plain_mem {ls : List (Lexeme α)} (hls : Path ls) {c : Char}
    (hc : plain c ∈ ls) : c = '*' ∨ c = '.' := by
  induction hls with
  | last hl =>
      rw [List.mem_singleton] at hc
      subst hc
      exact .inl hl
  | point hl _ ih =>
      rcases List.mem_cons.mp hc with hc | hc
      · subst hc
        exact .inl hl
      · rcases List.mem_cons.mp hc with hc | hc
        · cases hc
          exact .inr rfl
        · exact ih hc

/-- The characters that a written name has outside of its identifiers. -/
theorem WrittenName.plain_mem {ls : List (Lexeme α)} (hls : WrittenName ls) {c : Char}
    (hc : plain c ∈ ls) : c ∈ ['*', '.', ' ', 'a', 's'] := by
  cases hls with
  | bare hls => rcases hls.plain_mem hc with rfl | rfl <;> simp
  | labelled hls hl =>
      simp only [List.mem_append, plain_mem_ofPlain, List.mem_singleton] at hc
      rcases hc with hc | hc | hc
      · rcases hls.plain_mem hc with rfl | rfl <;> simp
      · have hword : c ∈ [' ', 'a', 's', ' '] := hc
        simp only [List.mem_cons, List.not_mem_nil, or_false] at hword
        rcases hword with rfl | rfl | rfl | rfl <;> simp
      · subst hc
        cases hl
        simp

theorem WrittenName.plain_notMem {ls : List (Lexeme α)} (hls : WrittenName ls) {c : Char}
    (hc : c ∉ ['*', '.', ' ', 'a', 's']) : plain c ∉ ls := fun hmem => hc (hls.plain_mem hmem)

end Grammar

theorem IsPart.separated {l : Lexeme (List Char)} (hl : IsPart l) : Separated [l] := by
  cases l with
  | name text => simp [Separated]
  | plain c =>
      cases hl
      exact ⟨by decide, trivial⟩

theorem Path.separated {ls : List (Lexeme (List Char))} (hls : Path ls) : Separated ls := by
  induction hls with
  | last hl => exact hl.separated
  | point hl _ ih => exact hl.separated.join (s := ".") ih (by decide) (by decide)

theorem WrittenName.separated {ls : List (Lexeme (List Char))} (hls : WrittenName ls) :
    Separated ls := by
  cases hls with
  | bare hls => exact hls.separated
  | labelled hls hl => exact hls.separated.join hl.separated (by decide) (by decide)

/-! ### Names of the MySQL dialect -/

/-- An identifier of the dialect as one lexeme. -/
def part (s : String) : Lexeme (List Char) :=
  if s = "*" then plain '*' else name (Identifier.doubled '"' s.toList)

theorem isPart_part (s : String) : IsPart (part s) := by
  rw [part]
  split
  · rfl
  · trivial

theorem write_part (s : String) : (part s).write = (Identifier.backticked s).toList := by
  rw [part, Identifier.backticked]
  split
  · simp [write, *]
  · simp [write]

theorem part_injective : Function.Injective part := by
  intro s t h
  simp only [part] at h
  split at h
  · split at h
    · simp_all
    · cases h
  · split at h
    · cases h
    · exact String.toList_inj.mp (Identifier.doubled_injective '"' (Lexeme.name.inj h))

def pathOf (parts : List String) : List (Lexeme (List Char)) :=
  (ofPlain ".").intercalate (parts.map fun s => [part s])

theorem path_pathOf {parts : List String} (h : parts ≠ []) : Path (pathOf parts) := by
  induction parts with
  | nil => contradiction
  | cons s parts ih =>
      cases parts with
      | nil => simpa [pathOf] using Path.last (isPart_part s)
      | cons t parts => exact .point (isPart_part s) (ih (by simp))

theorem head?_pathOf (s : String) (parts : List String) :
    (pathOf (s :: parts)).head? = some (part s) := by
  cases parts with
  | nil => simp [pathOf]
  | cons t parts => rfl

theorem pathOf_inj {names names' : List String} (hne : names ≠ []) (hne' : names' ≠ [])
    (h : pathOf names = pathOf names') : names = names' := by
  induction names generalizing names' with
  | nil => contradiction
  | cons s names ih =>
      cases names' with
      | nil => contradiction
      | cons t names' =>
          have hhead : part s = part t := by
            rw [← Option.some_inj, ← head?_pathOf s names, h, head?_pathOf]
          obtain rfl := part_injective hhead
          cases names with
          | nil =>
              cases names' with
              | nil => rfl
              | cons t' names' => simp [pathOf] at h
          | cons s' names =>
              cases names' with
              | nil => simp [pathOf] at h
              | cons t' names' =>
                  have hrest : pathOf (s' :: names) = pathOf (t' :: names') :=
                    (List.cons.inj (List.cons.inj h).2).2
                  rw [ih (by simp) (by simp) hrest]

theorem writeAll_pathOf (parts : List String) :
    writeAll (pathOf parts) = (".".intercalate (parts.map Identifier.backticked)).toList := by
  rw [pathOf, writeAll_intercalate, String.toList_intercalate]
  simp [Function.comp_def, write_part]

/-- The lexemes of a name with these parts and, if it has one, this label. -/
def nameOf (names : List String) : Option String → List (Lexeme (List Char))
  | none => pathOf names
  | some label => pathOf names ++ (ofPlain " as " ++ [part label])

theorem writtenName_nameOf {names : List String} (hne : names ≠ []) (label? : Option String) :
    WrittenName (nameOf names label?) := by
  cases label? with
  | none => exact .bare (path_pathOf hne)
  | some label => exact .labelled (path_pathOf hne) (isPart_part label)

/-- The lexemes of a text that does not end inside a quoted identifier. -/
def ofText (s : String) : List (Lexeme (List Char)) := (read? s).getD []

theorem ofText_eq {s : String} {ls : List (Lexeme (List Char))} (h : Separated ls)
    (hs : writeAll ls = s.toList) : ofText s = ls := by
  rw [ofText, read?_eq_some h hs, Option.getD_some]

end Lexeme

open Lexeme

section Backticks

variable {n : Naming} (hn : n.quote = Identifier.backticked)

include hn

theorem writeAll_nameOf (names : List String) (label? : Option String) :
    writeAll (nameOf names label?) = (n.labelled names label?).toList := by
  cases label? with
  | none => rw [nameOf, writeAll_pathOf, Naming.labelled, Naming.dotted, hn]
  | some label =>
      rw [nameOf, writeAll_append, writeAll_pathOf, Naming.labelled, Naming.dotted, hn]
      simp [write_part]

/-- A reader finds a written name in the text of a name. -/
theorem writtenName_ofText {write : String → String} {partsOf : String → List String}
    {mark : String → String} (h : n.WrittenInParts write partsOf mark) (name : String) :
    WrittenName (ofText (write name)) ∧ writeAll (ofText (write name)) = (write name).toList := by
  obtain ⟨names, label?, hne, hwrite⟩ := h.exists_labelled name
  have hname := writtenName_nameOf hne label?
  have htext := writeAll_nameOf hn names label?
  rw [hwrite, ofText_eq hname.separated htext]
  exact ⟨hname, htext⟩

end Backticks

variable (tablePrefix : String)

theorem writtenName_column (name : String) :
    WrittenName (ofText ((Dialect.mysql tablePrefix).column name)) ∧
      writeAll (ofText ((Dialect.mysql tablePrefix).column name)) =
        ((Dialect.mysql tablePrefix).column name).toList :=
  writtenName_ofText rfl (Naming.writtenInParts_column _) name

theorem writtenName_table (name : String) :
    WrittenName (ofText ((Dialect.mysql tablePrefix).table name)) ∧
      writeAll (ofText ((Dialect.mysql tablePrefix).table name)) =
        ((Dialect.mysql tablePrefix).table name).toList :=
  writtenName_ofText rfl (Naming.writtenInParts_table _) name

end SqlSelect
