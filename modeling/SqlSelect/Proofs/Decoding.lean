import Mathlib.Data.List.Basic
import SqlSelect.Proofs.Statement

/-!
What lexemes tell about what they were written from. Every part of a statement ends
where it can be seen to end: columns before a comma or a character that names lack
outside of their identifiers, and the phrases of conditions because none of them
begins like another one.
-/

namespace SqlSelect

open Lexeme

theorem append_cons_inj {α : Type} {a : α} {xs ys s t : List α} (hxs : a ∉ xs) (hys : a ∉ ys)
    (h : xs ++ a :: s = ys ++ a :: t) : xs = ys ∧ s = t := by
  induction xs generalizing ys with
  | nil =>
      cases ys with
      | nil => exact ⟨rfl, List.tail_eq_of_cons_eq h⟩
      | cons y ys =>
          have hy : a = y := List.head_eq_of_cons_eq h
          exact absurd (hy ▸ List.mem_cons_self) hys
  | cons x xs ih =>
      cases ys with
      | nil =>
          have hx : x = a := List.head_eq_of_cons_eq h
          exact absurd (hx ▸ List.mem_cons_self) hxs
      | cons y ys =>
          rw [List.mem_cons, not_or] at hxs hys
          obtain ⟨rfl, htail⟩ := List.cons.inj h
          obtain ⟨rfl, rfl⟩ := ih hxs.2 hys.2 htail
          exact ⟨rfl, rfl⟩

namespace Lexeme

variable {ls ms s t : List (Lexeme (List Char))}

/-- Where a word begins can be seen from a character of it that is not there before. -/
theorem append_word_inj {word : String} (front back : List Char) {c : Char}
    (hword : word.toList = front ++ c :: back) (hfront : c ∉ front)
    (hls : plain c ∉ ls) (hms : plain c ∉ ms)
    (h : ls ++ (ofPlain word ++ s) = ms ++ (ofPlain word ++ t)) : ls = ms ∧ s = t := by
  have hplain : plain c ∉ front.map (plain : Char → Lexeme (List Char)) := by simpa using hfront
  have hsplit (rest : List (Lexeme (List Char))) : ofPlain word ++ rest =
      front.map plain ++ plain c :: (back.map plain ++ rest) := by
    simp [ofPlain, hword]
  rw [hsplit, hsplit, ← List.append_assoc, ← List.append_assoc] at h
  have hboth := append_cons_inj (by simp [hls, hfront]) (by simp [hms, hfront]) h
  exact ⟨List.append_cancel_right hboth.1, List.append_cancel_left hboth.2⟩

/-- Where some character of a word is missing, the word is not there. -/
theorem ne_append_word {word : String} {c : Char} (hword : c ∈ word.toList)
    (hls : plain c ∉ ls) : ls ≠ ms ++ (ofPlain word ++ s) := by
  rintro rfl
  simp [hword] at hls

/-- None of the texts begins like another one. -/
def PrefixFree {α : Type} (text : α → String) (as : List α) : Prop :=
  ∀ a ∈ as, ∀ b ∈ as, (text a).toList <+: (text b).toList → a = b

theorem PrefixFree.append_inj {α : Type} {text : α → String} {as : List α}
    (htext : PrefixFree text as) {a b : α} (ha : a ∈ as) (hb : b ∈ as)
    (h : ofPlain (text a) ++ s = ofPlain (text b) ++ t) : a = b ∧ s = t := by
  have hinj : Function.Injective (plain : Char → Lexeme (List Char)) := by
    intro c c' hc
    injection hc
  have hprefix : (ofPlain (text a) : List (Lexeme (List Char))) <+: ofPlain (text b) ++ t := ⟨s, h⟩
  have hab : a = b := by
    rcases List.prefix_or_prefix_of_prefix hprefix (List.prefix_append _ t) with hprefix | hprefix
    · exact htext a ha b hb ((List.prefix_map_iff_of_injective hinj).mp hprefix)
    · exact (htext b hb a ha ((List.prefix_map_iff_of_injective hinj).mp hprefix)).symm
  subst hab
  exact ⟨rfl, List.append_cancel_left h⟩

theorem IsPart.eq_star {c : Char} (h : IsPart (plain c : Lexeme (List Char))) : c = '*' := h

theorem Path.space_notMem (hls : Path ls) : plain ' ' ∉ ls := by
  intro hspace
  rcases hls.plain_mem hspace with h | h <;> cases h

theorem Path.exists_cons (hls : Path ls) : ∃ l rest, ls = l :: rest ∧ IsPart l := by
  cases hls with
  | last hl => exact ⟨_, _, rfl, hl⟩
  | point hl _ => exact ⟨_, _, rfl, hl⟩

theorem WrittenName.exists_cons (hls : WrittenName ls) :
    ∃ l rest, ls = l :: rest ∧ IsPart l := by
  cases hls with
  | bare hls => exact hls.exists_cons
  | labelled hls _ =>
      obtain ⟨l, rest, rfl, hl⟩ := hls.exists_cons
      exact ⟨l, _, rfl, hl⟩

theorem intercalate_cons_eq_flatMap (s : String) (ls : List (Lexeme (List Char)))
    (lss : List (List (Lexeme (List Char)))) :
    (ofPlain s).intercalate (ls :: lss) = ls ++ lss.flatMap (ofPlain s ++ ·) := by
  induction lss generalizing ls with
  | nil => simp
  | cons ms lss ih =>
      rw [List.intercalate_cons_cons, ih, List.flatMap_cons, List.append_assoc, List.append_assoc]

/-- Names fall apart at the commas outside of identifiers. -/
theorem append_flatMap_inj {lss mss : List (List (Lexeme (List Char)))}
    (hls : WrittenName ls) (hms : WrittenName ms)
    (hlss : ∀ ls ∈ lss, WrittenName ls) (hmss : ∀ ms ∈ mss, WrittenName ms)
    (h : ls ++ lss.flatMap (ofPlain ", " ++ ·) = ms ++ mss.flatMap (ofPlain ", " ++ ·)) :
    ls :: lss = ms :: mss := by
  have hcomma : plain ',' ∉ ls := hls.plain_notMem (by decide)
  have hcomma' : plain ',' ∉ ms := hms.plain_notMem (by decide)
  induction lss generalizing ls ms mss with
  | nil =>
      rw [List.flatMap_nil, List.append_nil] at h
      cases mss with
      | nil => simpa using h
      | cons ms' mss =>
          rw [List.flatMap_cons, List.append_assoc] at h
          exact absurd h (ne_append_word (by decide) hcomma)
  | cons ls' lss ih =>
      rw [List.flatMap_cons, List.append_assoc] at h
      rw [List.forall_mem_cons] at hlss
      cases mss with
      | nil =>
          rw [List.flatMap_nil, List.append_nil] at h
          exact absurd h.symm (ne_append_word (by decide) hcomma')
      | cons ms' mss =>
          rw [List.flatMap_cons, List.append_assoc] at h
          rw [List.forall_mem_cons] at hmss
          obtain ⟨rfl, hrest⟩ :=
            append_word_inj [] [' '] rfl List.not_mem_nil hcomma hcomma' h
          rw [ih hlss.1 hmss.1 hlss.2 hmss.2 hrest (hlss.1.plain_notMem (by decide))
            (hmss.1.plain_notMem (by decide))]

theorem intercalate_inj {lss mss : List (List (Lexeme (List Char)))}
    (hlss : ∀ ls ∈ lss, WrittenName ls) (hmss : ∀ ms ∈ mss, WrittenName ms)
    (h : (ofPlain ", ").intercalate lss = (ofPlain ", ").intercalate mss) : lss = mss := by
  cases lss with
  | nil =>
      cases mss with
      | nil => rfl
      | cons ms mss =>
          obtain ⟨l, rest, rfl, -⟩ := (hmss ms List.mem_cons_self).exists_cons
          simp [intercalate_cons_eq_flatMap] at h
  | cons ls lss =>
      rw [List.forall_mem_cons] at hlss
      cases mss with
      | nil =>
          obtain ⟨l, rest, rfl, -⟩ := hlss.1.exists_cons
          simp [intercalate_cons_eq_flatMap] at h
      | cons ms mss =>
          rw [List.forall_mem_cons] at hmss
          rw [intercalate_cons_eq_flatMap, intercalate_cons_eq_flatMap] at h
          exact append_flatMap_inj hlss.1 hmss.1 hlss.2 hmss.2 h

end Lexeme

/-! ### Phrases -/

namespace Form

/-- A phrase up to the placeholders of a list, without the space before it. -/
def opening : Form → String
  | compare op => op.spelling ++ " ?"
  | bitwise op => op.spelling ++ " ?"
  | among _ negated => Phrase.negation negated ++ "in ("
  | null negated => "is " ++ Phrase.negation negated ++ "null"
  | between negated => Phrase.negation negated ++ "between ? and ?"

def closing : Form → String
  | among size _ => placeholders size ++ ")"
  | _ => ""

theorem phrase_eq (form : Form) : form.phrase = " " ++ (form.opening ++ form.closing) := by
  cases form with
  | null negated => cases negated <;> rfl
  | _ => simp [phrase, opening, closing, String.append_assoc]

/-- The form without the size of its list. -/
def unsized : Form → Form
  | among _ negated => among 0 negated
  | form => form

/-- The forms that conditions of a MySQL query can have, but for the sizes of lists. -/
def kinds : List Form :=
  (spellings.map fun s => if Operator.isBitwise ⟨s⟩ then bitwise ⟨s⟩ else compare ⟨s⟩) ++
    [among 0 false, among 0 true, null false, null true, between false, between true]

/-- What stands behind the space after the path of a column: the word of an alias, or
the phrase of a condition. -/
def behindPath : Option Form → String
  | none => "as "
  | some form => form.opening

theorem prefixFree_behindPath : PrefixFree behindPath (none :: kinds.map some) := by
  unfold PrefixFree
  decide +kernel

theorem opening_unsized (form : Form) : form.unsized.opening = form.opening := by
  cases form <;> rfl

theorem eq_or_among_of_unsized_eq {f g : Form} (h : f.unsized = g.unsized) :
    f = g ∨ ∃ m n negated, f = among m negated ∧ g = among n negated := by
  cases f <;> cases g <;> simp_all [unsized]

variable {tablePrefix : String} {f g : Form} {s t : List (Lexeme (List Char))}

theorem unsized_mem_kinds (hf : f.Listed (Dialect.mysql tablePrefix).operators) :
    f.unsized ∈ kinds := by
  rw [kinds, List.mem_append, List.mem_map]
  cases f with
  | compare op => exact .inl ⟨op.spelling, hf.1, by rw [hf.2]; rfl⟩
  | bitwise op => exact .inl ⟨op.spelling, hf.1, by rw [hf.2]; rfl⟩
  | among size negated => cases negated <;> simp [unsized]
  | null negated => cases negated <;> simp [unsized]
  | between negated => cases negated <;> simp [unsized]

theorem some_unsized_mem (hf : f.Listed (Dialect.mysql tablePrefix).operators) :
    some f.unsized ∈ none :: kinds.map some :=
  List.mem_cons_of_mem _ (List.mem_map_of_mem (unsized_mem_kinds hf))

theorem opening_inj (hf : f.Listed (Dialect.mysql tablePrefix).operators)
    (hg : g.Listed (Dialect.mysql tablePrefix).operators)
    (h : ofPlain f.opening ++ s = ofPlain g.opening ++ t) : f.unsized = g.unsized ∧ s = t := by
  rw [← opening_unsized f, ← opening_unsized g] at h
  obtain ⟨hsome, hrest⟩ :=
    prefixFree_behindPath.append_inj (some_unsized_mem hf) (some_unsized_mem hg) h
  exact ⟨Option.some.inj hsome, hrest⟩

/-- The size of a list can be read off its placeholders. -/
theorem placeholders_inj {m n : Nat}
    (h : ofPlain (placeholders m ++ ")") ++ s = ofPlain (placeholders n ++ ")") ++ t) :
    m = n ∧ s = t := by
  have hclose (size : Nat) :
      plain ')' ∉ (ofPlain (placeholders size) : List (Lexeme (List Char))) := by
    intro hmem
    simpa using mem_placeholders (plain_mem_ofPlain.mp hmem)
  rw [ofPlain_append, ofPlain_append, List.append_assoc, List.append_assoc] at h
  obtain ⟨hmarks, hrest⟩ := append_word_inj [] [] rfl List.not_mem_nil (hclose m) (hclose n) h
  have hcount := congrArg (List.count (plain '?')) hmarks
  rw [count_ofPlain, count_ofPlain, count_placeholders, count_placeholders] at hcount
  exact ⟨hcount, hrest⟩

theorem phrase_inj (hf : f.Listed (Dialect.mysql tablePrefix).operators)
    (hg : g.Listed (Dialect.mysql tablePrefix).operators)
    (h : ofPlain (f.opening ++ f.closing) ++ s = ofPlain (g.opening ++ g.closing) ++ t) :
    f = g ∧ s = t := by
  rw [ofPlain_append, ofPlain_append, List.append_assoc, List.append_assoc] at h
  obtain ⟨hkinds, hclosing⟩ := opening_inj hf hg h
  rcases eq_or_among_of_unsized_eq hkinds with rfl | ⟨m, n, negated, rfl, rfl⟩
  · exact ⟨rfl, List.append_cancel_left hclosing⟩
  · obtain ⟨rfl, hrest⟩ := placeholders_inj hclosing
    exact ⟨rfl, hrest⟩

theorem alias_ne (hf : f.Listed (Dialect.mysql tablePrefix).operators) :
    ofPlain "as " ++ s ≠ ofPlain (f.opening ++ f.closing) ++ t := by
  intro h
  rw [ofPlain_append, List.append_assoc, ← opening_unsized] at h
  have hsome := prefixFree_behindPath.append_inj List.mem_cons_self (some_unsized_mem hf) h
  cases hsome.1

theorem ofPlain_phrase_append (f : Form) (s : List (Lexeme (List Char))) :
    ofPlain f.phrase ++ s = plain ' ' :: (ofPlain (f.opening ++ f.closing) ++ s) := by
  rw [phrase_eq, ofPlain_append]
  rfl

theorem labelled_append (ls : List (Lexeme (List Char))) (l : Lexeme (List Char))
    (s : List (Lexeme (List Char))) :
    (ls ++ (ofPlain " as " ++ [l])) ++ s = ls ++ plain ' ' :: (ofPlain "as " ++ l :: s) := by
  rw [List.append_assoc, List.append_assoc]
  rfl

/-- A column ends before its phrase, as its path has no space and its alias is no phrase. -/
theorem name_phrase_inj {ls ms : List (Lexeme (List Char))}
    (hf : f.Listed (Dialect.mysql tablePrefix).operators)
    (hg : g.Listed (Dialect.mysql tablePrefix).operators)
    (hls : WrittenName ls) (hms : WrittenName ms)
    (h : ls ++ (ofPlain f.phrase ++ s) = ms ++ (ofPlain g.phrase ++ t)) :
    ls = ms ∧ f = g ∧ s = t := by
  rw [ofPlain_phrase_append, ofPlain_phrase_append] at h
  -- Both paths end at the first space, and what stands behind it tells an alias from a phrase.
  cases hls with
  | bare hls =>
      cases hms with
      | bare hms =>
          obtain ⟨rfl, hphrase⟩ := append_cons_inj hls.space_notMem hms.space_notMem h
          exact ⟨rfl, phrase_inj hf hg hphrase⟩
      | labelled hms hm =>
          rw [labelled_append] at h
          have hphrase := (append_cons_inj hls.space_notMem hms.space_notMem h).2
          exact absurd hphrase.symm (alias_ne hf)
  | labelled hls hl =>
      rw [labelled_append] at h
      cases hms with
      | bare hms =>
          have hphrase := (append_cons_inj hls.space_notMem hms.space_notMem h).2
          exact absurd hphrase (alias_ne hg)
      | labelled hms hm =>
          rw [labelled_append] at h
          obtain ⟨rfl, hlabel⟩ := append_cons_inj hls.space_notMem hms.space_notMem h
          obtain ⟨rfl, hphrase⟩ := List.cons.inj (List.append_cancel_left hlabel)
          injection hphrase with _ hphrase
          exact ⟨rfl, phrase_inj hf hg hphrase⟩

end Form

end SqlSelect
