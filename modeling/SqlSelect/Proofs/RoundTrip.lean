import SqlSelect.Proofs.Nesting
import SqlSelect.Proofs.Parsing
import SqlSelect.Proofs.Record
import SqlSelect.Value.Document

/-!
Values written and read back. A value without floating-point numbers is read from its text as
it was, as long as the text does not nest too deep, and is refused where it does.
-/

namespace SqlSelect

namespace Json

/-- Documents without floating-point numbers. Integers have 64 bits, and the keys of an
object are in ascending order. -/
inductive Plain : Json → Prop where
  | null : Plain null
  | bool (b : Bool) : Plain (bool b)
  | integer {n : Int} (hlow : -0x8000000000000000 ≤ n) (hhigh : n ≤ 0xFFFFFFFFFFFFFFFF) :
      Plain (number (.int n))
  | string (s : String) : Plain (string s)
  | array {items : List Json} (h : ∀ j ∈ items, Plain j) : Plain (array items)
  | object {members : List (String × Json)} (hkeys : members.Pairwise fun m m' => m.1 < m'.1)
      (h : ∀ m ∈ members, Plain m.2) : Plain (object members)

/-! ### Members in ascending order -/

/-- A member whose key is greater than all others goes to the end. -/
theorem insert_of_forall_lt {key : String} {members : List (String × Json)}
    (h : ∀ m ∈ members, m.1 < key) (value : Json) :
    insert key value members = members ++ [(key, value)] := by
  induction members with
  | nil => rfl
  | cons m members ih =>
      rw [List.forall_mem_cons] at h
      have hlt : ¬ key < m.1 := String.lt_asymm h.1
      have hne : key ≠ m.1 := fun heq => String.lt_irrefl _ (heq ▸ h.1)
      rw [insert, if_neg hlt, if_neg hne, ih h.2, List.cons_append]

theorem foldl_insert {members acc : List (String × Json)}
    (h : (acc ++ members).Pairwise fun m m' => m.1 < m'.1) :
    members.foldl (fun acc m => insert m.1 m.2 acc) acc = acc ++ members := by
  induction members generalizing acc with
  | nil => simp
  | cons m members ih =>
      have hm : ∀ m' ∈ acc, m'.1 < m.1 :=
        fun m' hm' => (List.pairwise_append.mp h).2.2 m' hm' m List.mem_cons_self
      rw [List.append_cons] at h
      rw [List.foldl_cons, insert_of_forall_lt hm, ih h, ← List.append_cons]

theorem ofMembers_eq_self {members : List (String × Json)}
    (h : members.Pairwise fun m m' => m.1 < m'.1) : ofMembers members = members :=
  @foldl_insert members [] h

/-! ### Documents -/

theorem ofNumeral?_ofInt {n : Int} (hlow : -0x8000000000000000 ≤ n)
    (hhigh : n ≤ 0xFFFFFFFFFFFFFFFF) :
    Number.ofNumeral? (.ofInt n) = some (.int n) := by
  have hword : inWord n = true := by simp [inWord]; omega
  rw [Number.ofNumeral?, Numeral.int?_ofInt, Option.filter_some_pos hword]

theorem ofItems?_toTrees {items : List Json} (h : ∀ j ∈ items, ofTree? j.toTree = some j) :
    ofItems? (toTrees items) = some items := by
  induction items with
  | nil => rfl
  | cons j items ih =>
      rw [List.forall_mem_cons] at h
      rw [toTrees, ofItems?, h.1, ih h.2]
      rfl

theorem ofMembers?_toTreeMembers {members : List (String × Json)}
    (h : ∀ m ∈ members, ofTree? m.2.toTree = some m.2) :
    ofMembers? (toTreeMembers members) = some members := by
  induction members with
  | nil => rfl
  | cons m members ih =>
      rw [List.forall_mem_cons] at h
      rw [toTreeMembers, ofMembers?, h.1, ih h.2]
      rfl

theorem Plain.ofTree?_toTree {j : Json} (h : Plain j) : ofTree? j.toTree = some j := by
  induction h with
  | null => rfl
  | bool b => rfl
  | integer hlow hhigh =>
      rw [toTree, Number.toTree, ofTree?, ofNumeral?_ofInt hlow hhigh, Option.map_some]
  | string s => rfl
  | array _ ih => rw [toTree, ofTree?, ofItems?_toTrees ih, Option.map_some]
  | object hkeys _ ih =>
      rw [toTree, ofTree?, ofMembers?_toTreeMembers ih, Option.map_some, ofMembers_eq_self hkeys]

theorem toTrees_eq_map (items : List Json) : toTrees items = items.map toTree := by
  induction items with
  | nil => rfl
  | cons j items ih => rw [toTrees, ih, List.map_cons]

theorem toTreeMembers_eq_map (members : List (String × Json)) :
    toTreeMembers members = members.map fun m => (some m.1, m.2.toTree) := by
  induction members with
  | nil => rfl
  | cons m members ih => rw [toTreeMembers, ih, List.map_cons]

theorem Plain.integral_toTree {j : Json} (h : Plain j) : j.toTree.Integral := by
  induction h with
  | null => exact .null
  | bool b => exact .bool b
  | integer _ _ => exact .integer _
  | string s => exact .string s
  | array _ ih =>
      rw [toTree, toTrees_eq_map]
      exact .array (List.forall_mem_map.mpr ih)
  | object _ _ ih =>
      rw [toTree, toTreeMembers_eq_map]
      exact .object (List.forall_mem_map.mpr ih)

theorem equalItems_self {items : List Json} (h : ∀ j ∈ items, j.equals j = true) :
    equalItems items items = true := by
  induction items with
  | nil => rfl
  | cons j items ih =>
      rw [List.forall_mem_cons] at h
      rw [equalItems, h.1, ih h.2, Bool.and_self]

theorem equalMembers_self {members : List (String × Json)}
    (h : ∀ m ∈ members, m.2.equals m.2 = true) : equalMembers members members = true := by
  induction members with
  | nil => rfl
  | cons m members ih =>
      rw [List.forall_mem_cons] at h
      rw [equalMembers, h.1, ih h.2, beq_self_eq_true, Bool.and_self, Bool.and_self]

theorem Plain.equals_self {j : Json} (h : Plain j) : j.equals j = true := by
  induction h with
  | null => rfl
  | bool b => exact beq_self_eq_true b
  | integer _ _ => exact beq_self_eq_true _
  | string s => exact beq_self_eq_true s
  | array _ ih => exact equalItems_self ih
  | object _ _ ih => exact equalMembers_self ih

end Json

namespace Value

/-- Values without floating-point numbers, with documents that have none either. -/
inductive Plain : Value → Prop where
  | null : Plain null
  | bool (b : Bool) : Plain (bool b)
  | int32 (n : Int32) : Plain (int32 n)
  | int64 (n : Int64) : Plain (int64 n)
  | text (s : String) : Plain (text s)
  | bytes (data : List UInt8) : Plain (bytes data)
  | json {j : Json} (h : j.Plain) : Plain (json j)
  | array {items : List Value} (h : ∀ v ∈ items, Plain v) : Plain (array items)

theorem ofItems?_toTrees {items : List Value} (h : ∀ v ∈ items, ofTree? v.toTree = some v) :
    ofItems? (toTrees items) = some items := by
  induction items with
  | nil => rfl
  | cons v items ih =>
      rw [List.forall_mem_cons] at h
      rw [toTrees, ofItems?, h.1, ih h.2]
      rfl

theorem byte?_ofInt (b : UInt8) : byte? (.number (.ofInt b.toNat)) = some b := by
  have hbyte : (Json.Tree.ofNat b.toNat).natBelow? UInt8.size = some b.toNat :=
    Json.Tree.natBelow?_ofNat b.toNat_lt
  exact (congrArg (Option.map UInt8.ofNat) hbyte).trans (congrArg some UInt8.ofNat_toNat)

theorem mapM_byte? (data : List UInt8) :
    (data.map fun b => Json.Tree.number (.ofInt b.toNat)).mapM byte? = some data := by
  induction data with
  | nil => rfl
  | cons b data ih =>
      rw [List.map_cons, List.mapM_cons, byte?_ofInt, ih]
      rfl

theorem ofTree?_member {kind : String} (h : kind ≠ "Array") (t : Json.Tree) :
    ofTree? (.object [(some kind, t)]) = scalar? kind t := by
  rw [ofTree?]
  cases t with
  | array items => rw [ofMember?, if_neg h]
  | _ => rfl

theorem Plain.ofTree?_toTree {v : Value} (h : Plain v) : ofTree? v.toTree = some v := by
  induction h with
  | null => rfl
  | bool b => rfl
  | int32 n =>
      have hint := Json.Tree.intIn?_ofInt n.le_toInt (Int.le_sub_one_of_lt n.toInt_lt)
      rw [toTree, ofTree?_member (by decide)]
      exact (congrArg (Option.map _) hint).trans (by rw [Option.map_some, Int32.ofInt_toInt])
  | int64 n =>
      have hint := Json.Tree.intIn?_ofInt n.le_toInt (Int.le_sub_one_of_lt n.toInt_lt)
      rw [toTree, ofTree?_member (by decide)]
      exact (congrArg (Option.map _) hint).trans (by rw [Option.map_some, Int64.ofInt_toInt])
  | text s => rfl
  | bytes data =>
      rw [toTree, ofTree?_member (by decide)]
      exact congrArg (Option.map Value.bytes) (mapM_byte? data)
  | json h =>
      rw [toTree, ofTree?_member (by decide)]
      exact congrArg (Option.map Value.json) h.ofTree?_toTree
  | array _ ih =>
      rw [toTree, ofTree?, ofMember?, if_pos rfl, ofItems?_toTrees ih, Option.map_some]

theorem toTrees_eq_map (items : List Value) : toTrees items = items.map toTree := by
  induction items with
  | nil => rfl
  | cons v items ih => rw [toTrees, ih, List.map_cons]

theorem integral_member {kind : String} {t : Json.Tree} (h : t.Integral) :
    (Json.Tree.object [(some kind, t)]).Integral :=
  .object (List.forall_mem_singleton.mpr h)

theorem Plain.integral_toTree {v : Value} (h : Plain v) : v.toTree.Integral := by
  induction h with
  | null => exact .string _
  | bool b => exact integral_member (.bool b)
  | int32 n => exact integral_member (.integer _)
  | int64 n => exact integral_member (.integer _)
  | text s => exact integral_member (.string _)
  | bytes data =>
      refine integral_member (.array (List.forall_mem_map.mpr fun b _ => ?_))
      exact .integer _
  | json h => exact integral_member h.integral_toTree
  | array _ ih =>
      rw [toTree, toTrees_eq_map]
      exact integral_member (.array (List.forall_mem_map.mpr ih))

theorem equalAll_self {items : List Value} (h : ∀ v ∈ items, v.equals v = true) :
    equalAll items items = true := by
  induction items with
  | nil => rfl
  | cons v items ih =>
      rw [List.forall_mem_cons] at h
      rw [equalAll, h.1, ih h.2, Bool.and_self]

theorem Plain.equals_self {v : Value} (h : Plain v) : v.equals v = true := by
  induction h with
  | null => rfl
  | bool b => exact beq_self_eq_true b
  | int32 n => exact beq_self_eq_true n
  | int64 n => exact beq_self_eq_true n
  | text s => exact beq_self_eq_true s
  | bytes data => exact beq_self_eq_true data
  | json h => exact h.equals_self
  | array _ ih => exact equalAll_self ih

/-- The text of a value is read as its tree, and nests as deep. -/
theorem Plain.read?_write {v : Value} (h : Plain v) : Json.Tree.read? v.write = some v.toTree :=
  h.integral_toTree.read?_render

theorem Plain.nesting_write {v : Value} (h : Plain v) :
    Json.nesting v.write = v.toTree.depth := by
  apply Json.Tree.SpelledElement.nesting_eq
  rw [write, Json.Tree.toList_render]
  exact h.integral_toTree.spelled_text.element

/-- A value without floating-point numbers is read from its text again just when the text
nests at most 127 containers. Two such values with one text are the same, and equal. -/
theorem read_write {v : Value} (hv : v.Plain) :
    read v.write = (if Json.nesting v.write ≤ 127 then .ok v else .error .unreadable) ∧
      ∀ w : Value, w.Plain → v.write = w.write → v = w ∧ (v == w) = true := by
  constructor
  · rw [hv.nesting_write, read, hv.read?_write]
    by_cases hdepth : v.toTree.depth ≤ 127
    · simp [Json.depthLimit, Option.filter_some, hdepth, hv.ofTree?_toTree]
    · simp [Json.depthLimit, Option.filter_some, hdepth]
  · intro w hw h
    have htree := hv.read?_write
    rw [h, hw.read?_write, Option.some.injEq] at htree
    have hvalue := hv.ofTree?_toTree
    rw [← htree, hw.ofTree?_toTree, Option.some.injEq] at hvalue
    subst hvalue
    exact ⟨rfl, hw.equals_self⟩

/-- A document with quotes and a line break in an array. -/
theorem read_write_quoted :
    read (write (.array [.json (.object [("a\"b", .array [.string "x\n"])]), .int32 (-1), .null])) =
      .ok (.array [.json (.object [("a\"b", .array [.string "x\n"])]), .int32 (-1), .null]) := by
  have hdocument : Json.Plain (.object [("a\"b", .array [.string "x\n"])]) := by
    refine .object (List.pairwise_singleton _ _) (List.forall_mem_singleton.mpr ?_)
    exact .array (List.forall_mem_singleton.mpr (.string _))
  have hv : Value.Plain
      (.array [.json (.object [("a\"b", .array [.string "x\n"])]), .int32 (-1), .null]) := by
    refine .array ?_
    simp only [List.forall_mem_cons, List.not_mem_nil, false_implies, implies_true, and_true]
    exact ⟨.json hdocument, .int32 _, .null⟩
  exact (read_write hv).1.trans (if_pos (by rw [hv.nesting_write]; decide))

end Value

end SqlSelect
