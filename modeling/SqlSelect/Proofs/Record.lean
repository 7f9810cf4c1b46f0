import SqlSelect.Json.Record
import SqlSelect.Proofs.Numeral

/-!
Records read back. The fields of a record are found in every order of its members and among
members of any other names, and what was written into a field is what it holds.
-/

namespace SqlSelect.Json.Tree

/-! ### What fields hold -/

theorem intIn?_ofInt {low high n : Int} (hlow : low ≤ n) (hhigh : n ≤ high) :
    (number (.ofInt n)).intIn? low high = some n := by
  rw [intIn?, Numeral.int?_ofInt, Option.filter_some_pos (by simp [hlow, hhigh])]

theorem natBelow?_ofNat {bound n : Nat} (h : n < bound) : (ofNat n).natBelow? bound = some n := by
  have hint : (ofNat n).intIn? 0 (bound - 1) = some (n : Int) :=
    intIn?_ofInt (Int.natCast_nonneg n) (by omega)
  rw [natBelow?, hint, Option.map_some, Int.toNat_natCast]

theorem nullable?_ofNullable {α : Type} {read : Tree → Option α} {write : α → Tree}
    (h : ∀ a, read (write a) = some a) (hnull : ∀ a, write a ≠ null) (x : Option α) :
    nullable? read (ofNullable write x) = some x := by
  cases x with
  | none => rfl
  | some a => rw [ofNullable, nullable?, h, Option.map_some]; exact hnull a

/-- A field that may be left out. -/
theorem orDefault_ite {α : Type} {read : Tree → Option α} {t : Tree} {a : α}
    (h : read t = some a) (default : α) (there : Bool) :
    orDefault read default (if there then some t else none) =
      some (if there then a else default) := by
  cases there with
  | false => rfl
  | true => exact h

theorem orDefault_natBelow {α : Type} {bound n : Nat} (h : n < bound) (ofNat : Nat → α)
    (default : α) (there : Bool) :
    orDefault (fun t => (t.natBelow? bound).map ofNat) default
        (if there then some (.ofNat n) else none) =
      some (if there then ofNat n else default) :=
  orDefault_ite (by rw [natBelow?_ofNat h, Option.map_some]) default there

/-! ### Fields among members -/

section Lookup

variable {α : Type}

theorem lookup_cons_of_ne {name key : String} (h : name ≠ key) (a : α) (l : List (String × α)) :
    ((key, a) :: l).lookup name = l.lookup name := by
  rw [List.lookup_cons, beq_false_of_ne h]

theorem lookup_perm {name : String} {l l' : List (String × α)} (h : l.Perm l')
    (hcount : l.countP (·.1 == name) ≤ 1) : l.lookup name = l'.lookup name := by
  induction h with
  | nil => rfl
  | cons m _ ih =>
      have htail := Nat.le_trans (List.sublist_cons_self m _).countP_le hcount
      rw [List.lookup_cons, List.lookup_cons, ih htail]
  | swap m m' l =>
      obtain ⟨key, a⟩ := m
      obtain ⟨key', a'⟩ := m'
      by_cases hkey : name = key
      · by_cases hkey' : name = key'
        · -- Two members of the name are one too many.
          simp [← hkey, ← hkey'] at hcount
        · rw [← hkey, lookup_cons_of_ne hkey', List.lookup_cons_self, List.lookup_cons_self]
      · simp only [List.lookup_cons, beq_false_of_ne hkey]
  | trans h _ ih ih' => rw [ih hcount, ih' (h.countP_eq _ ▸ hcount)]

theorem lookup_filter (l : List (String × α)) (p : String → Bool) (name : String) :
    (l.filter (p ·.1)).lookup name = if p name then l.lookup name else none := by
  induction l with
  | nil => simp
  | cons m l ih =>
      obtain ⟨key, a⟩ := m
      by_cases hkey : name = key
      · subst hkey
        cases hp : p name <;> simp [hp, ih]
      · cases hp : p key <;> simp [hp, ih, lookup_cons_of_ne hkey]

end Lookup

theorem member?_map_some (name : String) (members : List (String × Tree)) :
    member? name (members.map fun (key, t) => (some key, t)) = members.lookup name := by
  rw [member?, List.find?_map, Option.map_map]
  induction members with
  | nil => rfl
  | cons m members ih =>
      obtain ⟨key, t⟩ := m
      by_cases hkey : name = key
      · subst hkey
        simp
      · rw [lookup_cons_of_ne hkey, ← ih, List.find?_cons_of_neg (by simpa using Ne.symm hkey)]

/-- The fields of a record in any order and among any other members. -/
theorem fields?_ofFields {names : List String} {known extra members : List (String × Tree)}
    (hmembers : members.Perm (known ++ extra)) (hknown : (known.map (·.1)).Nodup)
    (hextra : ∀ m ∈ extra, m.1 ∉ names) :
    (ofFields members).fields? names = some (names.map (known.lookup ·)) := by
  have hnone : ∀ name ∈ names, ∀ m ∈ extra, name ≠ m.1 :=
    fun name hname m hm heq => hextra m hm (heq ▸ hname)
  have hcount : ∀ name ∈ names, members.countP (·.1 == name) ≤ 1 := by
    intro name hname
    have hzero : extra.countP (·.1 == name) = 0 :=
      List.countP_eq_zero.mpr fun m hm => by simpa using (hnone name hname m hm).symm
    have hone : known.countP (·.1 == name) ≤ 1 := by
      simpa [List.count_eq_countP, List.countP_map, Function.comp_def] using
        List.nodup_iff_count.mp hknown name
    rw [hmembers.countP_eq, List.countP_append, hzero]
    exact hone
  have hrecord : isRecord names (members.map fun (key, t) => (some key, t)) = true := by
    simp only [isRecord, Bool.and_eq_true, List.all_eq_true, List.forall_mem_map,
      Option.isSome_some, implies_true, true_and, decide_eq_true_eq, List.countP_map]
    exact hcount
  have hlookup : ∀ name ∈ names, members.lookup name = known.lookup name := by
    intro name hname
    have hother : extra.lookup name = none :=
      List.lookup_eq_none_iff.mpr fun m hm => bne_iff_ne.mpr (hnone name hname m hm)
    rw [lookup_perm hmembers (hcount name hname), List.lookup_append, hother, Option.or_none]
  rw [ofFields, fields?, if_pos hrecord]
  simp only [member?_map_some]
  rw [List.map_congr_left hlookup]

end SqlSelect.Json.Tree
