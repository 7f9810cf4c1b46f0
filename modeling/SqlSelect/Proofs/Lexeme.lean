import SqlSelect.Identifier

/-!
Statements read as lexemes. A backtick opens a quoted identifier, a backtick in
it that is written twice belongs to the identifier, and one that stands alone
closes it. Everything outside of quoted identifiers is read character by
character. What is written from lexemes in which no two identifiers touch is read
back as these lexemes.
-/

namespace SqlSelect

/-- A quoted identifier, of which a reader keeps `α`, or a character outside of
all quoted identifiers. -/
inductive Lexeme (α : Type) where
  | name (a : α)
  | plain (c : Char)
  deriving DecidableEq, Repr

namespace Lexeme

def mapName {α β : Type} (f : α → β) : Lexeme α → Lexeme β
  | name a => name (f a)
  | plain c => plain c

def ofPlain {α : Type} (s : String) : List (Lexeme α) := s.toList.map plain

/-- Where a reader stands: outside of quoted identifiers, inside one, or behind a
backtick inside one, which closes it unless a second backtick follows. -/
inductive Position where
  | outside
  | inside (text : List Char)
  | closing (text : List Char)

/-- The lexemes of a text, or nothing where the text ends inside a quoted identifier. -/
def scan? : Position → List Char → Option (List (Lexeme (List Char)))
  | .outside, [] => some []
  | .inside _, [] => none
  | .closing text, [] => some [name text]
  | .outside, c :: cs =>
      if c = '\x60' then scan? (.inside []) cs else (scan? .outside cs).map (plain c :: ·)
  | .inside text, c :: cs =>
      if c = '\x60' then scan? (.closing text) cs else scan? (.inside (text ++ [c])) cs
  | .closing text, c :: cs =>
      if c = '\x60' then scan? (.inside (text ++ [c])) cs
      else (scan? .outside cs).map ([name text, plain c] ++ ·)

def read? (s : String) : Option (List (Lexeme (List Char))) := scan? .outside s.toList

/-- Every quoted identifier replaced by one and the same marker. -/
def outline (ls : List (Lexeme (List Char))) : List (Lexeme Unit) := ls.map (mapName fun _ => ())

def skeleton? (s : String) : Option (List (Lexeme Unit)) := (read? s).map outline

def write : Lexeme (List Char) → List Char
  | name text => '\x60' :: Identifier.doubled '\x60' text ++ ['\x60']
  | plain c => [c]

def writeAll (ls : List (Lexeme (List Char))) : List Char := ls.flatMap write

section Plain

variable {α β : Type}

@[simp] theorem mapName_ofPlain (f : α → β) (s : String) :
    (ofPlain s).map (mapName f) = ofPlain s := by
  simp [ofPlain, mapName]

@[simp] theorem ofPlain_append (s t : String) :
    (ofPlain (s ++ t) : List (Lexeme α)) = ofPlain s ++ ofPlain t := by
  simp [ofPlain]

@[simp] theorem plain_mem_ofPlain {c : Char} {s : String} :
    (plain c : Lexeme α) ∈ ofPlain s ↔ c ∈ s.toList := by
  simp [ofPlain]

@[simp] theorem name_notMem_ofPlain (a : α) (s : String) : name a ∉ ofPlain s := by
  simp [ofPlain]

end Plain

@[simp] theorem writeAll_nil : writeAll [] = [] := rfl

@[simp] theorem writeAll_cons (l : Lexeme (List Char)) (ls : List (Lexeme (List Char))) :
    writeAll (l :: ls) = l.write ++ writeAll ls := rfl

@[simp] theorem writeAll_append (ls ms : List (Lexeme (List Char))) :
    writeAll (ls ++ ms) = writeAll ls ++ writeAll ms := by
  simp [writeAll]

@[simp] theorem writeAll_ofPlain (s : String) : writeAll (ofPlain s) = s.toList := by
  rw [ofPlain]
  induction s.toList with
  | nil => rfl
  | cons c cs ih => rw [List.map_cons, writeAll_cons, ih]; rfl

theorem writeAll_intercalate (s : String) (lss : List (List (Lexeme (List Char)))) :
    writeAll ((ofPlain s).intercalate lss) = s.toList.intercalate (lss.map writeAll) := by
  induction lss with
  | nil => rfl
  | cons ls lss ih =>
      cases lss with
      | nil => simp
      | cons ms lss =>
          rw [List.intercalate_cons_cons, writeAll_append, writeAll_append, writeAll_ofPlain, ih]
          simp

/-! ### Lexemes that can be read back -/

/-- Two identifiers never touch, and there is no backtick outside of them. -/
def Separated : List (Lexeme (List Char)) → Prop
  | [] => True
  | plain c :: ls => c ≠ '\x60' ∧ Separated ls
  | name _ :: ls => (∀ text, ls.head? ≠ some (name text)) ∧ Separated ls

/-- Nothing but a further identifier begins with a backtick. -/
theorem Separated.head?_writeAll {ls : List (Lexeme (List Char))} (h : Separated ls)
    (hname : ∀ text, ls.head? ≠ some (name text)) : (writeAll ls).head? ≠ some '\x60' := by
  cases ls with
  | nil => simp
  | cons l ls =>
      cases l with
      | name text => simp at hname
      | plain c => simpa [write] using h.1

theorem scan?_inside_doubled (before text rest : List Char) :
    scan? (.inside before) (Identifier.doubled '\x60' text ++ rest) =
      scan? (.inside (before ++ text)) rest := by
  induction text generalizing before with
  | nil => simp
  | cons c text ih =>
      by_cases hc : c = '\x60'
      · simp [hc, scan?, ih]
      · simp [hc, scan?, ih]

/-- Behind a backtick that is not doubled a reader is outside again. -/
theorem scan?_closing (text : List Char) {rest : List Char} (h : rest.head? ≠ some '\x60') :
    scan? (.closing text) rest = (scan? .outside rest).map (name text :: ·) := by
  cases rest with
  | nil => rfl
  | cons c rest =>
      have hc : c ≠ '\x60' := by simpa using h
      simp [scan?, hc, Function.comp_def]

theorem scan?_writeAll {ls : List (Lexeme (List Char))} (h : Separated ls) :
    scan? .outside (writeAll ls) = some ls := by
  induction ls with
  | nil => rfl
  | cons l ls ih =>
      cases l with
      | name text =>
          -- The backtick behind the identifier is not doubled by what follows it.
          have hrest : (writeAll ls).head? ≠ some '\x60' := h.2.head?_writeAll h.1
          have hscan : scan? .outside (writeAll (name text :: ls)) =
              scan? (.closing text) (writeAll ls) := by
            simp [write, scan?, scan?_inside_doubled]
          rw [hscan, scan?_closing text hrest, ih h.2, Option.map_some]
      | plain c => simp [write, scan?, h.1, ih h.2]

theorem writeAll_inj {ls ms : List (Lexeme (List Char))} (hls : Separated ls)
    (hms : Separated ms) (h : writeAll ls = writeAll ms) : ls = ms := by
  rw [← Option.some_inj, ← scan?_writeAll hls, h, scan?_writeAll hms]

theorem read?_eq_some {s : String} {ls : List (Lexeme (List Char))} (h : Separated ls)
    (hs : writeAll ls = s.toList) : read? s = some ls := by
  rw [read?, ← hs, scan?_writeAll h]

theorem Separated.append {ls ms : List (Lexeme (List Char))} (hls : Separated ls)
    (hms : Separated ms) (hname : ∀ text, ms.head? ≠ some (name text)) : Separated (ls ++ ms) := by
  induction ls with
  | nil => exact hms
  | cons l ls ih =>
      cases l with
      | name text =>
          refine ⟨?_, ih hls.2⟩
          cases ls with
          | nil => exact hname
          | cons l ls => exact hls.1
      | plain c => exact ⟨hls.1, ih hls.2⟩

theorem Separated.ofPlain_append {s : String} {ls : List (Lexeme (List Char))}
    (hls : Separated ls) (hs : '\x60' ∉ s.toList) : Separated (ofPlain s ++ ls) := by
  rw [ofPlain]
  generalize s.toList = cs at hs
  induction cs with
  | nil => exact hls
  | cons c cs ih =>
      rw [List.mem_cons, not_or] at hs
      exact ⟨Ne.symm hs.1, ih hs.2⟩

theorem separated_ofPlain {s : String} (hs : '\x60' ∉ s.toList) : Separated (ofPlain s) := by
  have hnil : Separated [] := trivial
  simpa using hnil.ofPlain_append hs

/-- Characters between two lists of lexemes keep their identifiers apart. -/
theorem Separated.join {s : String} {ls ms : List (Lexeme (List Char))} (hls : Separated ls)
    (hms : Separated ms) (hne : s ≠ "") (hs : '\x60' ∉ s.toList) :
    Separated (ls ++ (ofPlain s ++ ms)) := by
  apply hls.append (hms.ofPlain_append hs)
  intro text
  cases hcs : s.toList with
  | nil => exact absurd (String.toList_eq_nil_iff.mp hcs) hne
  | cons c cs => simp [ofPlain, hcs]

theorem separated_intercalate {s : String} {lss : List (List (Lexeme (List Char)))}
    (hlss : ∀ ls ∈ lss, Separated ls) (hne : s ≠ "") (hs : '\x60' ∉ s.toList) :
    Separated ((ofPlain s).intercalate lss) := by
  induction lss with
  | nil => trivial
  | cons ls lss ih =>
      cases lss with
      | nil => simpa using hlss ls
      | cons ms lss =>
          rw [List.intercalate_cons_cons, List.append_assoc]
          refine (hlss ls (by simp)).join (ih ?_) hne hs
          intro ks hks
          exact hlss ks (List.mem_cons_of_mem _ hks)

end Lexeme

end SqlSelect
