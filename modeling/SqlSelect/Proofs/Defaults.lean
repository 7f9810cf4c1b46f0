import SqlSelect.Proofs.Parsing
import SqlSelect.Proofs.Record
import SqlSelect.Settings.Document

/-!
Settings read from JSON texts. The fields that a text has are taken from it, in whatever order
they stand and whatever stands between them. All others have their defaults.
-/

namespace SqlSelect.Settings

open Json (Tree)

/-- The settings that are those of `s` in the chosen fields and the defaults in all others. -/
def restrict (s : Settings) (chosen : String → Bool) : Settings :=
  let base : Settings := {}
  { host := if chosen "host" then s.host else base.host
    port := if chosen "port" then s.port else base.port
    user := if chosen "user" then s.user else base.user
    password := if chosen "password" then s.password else base.password
    database := if chosen "database" then s.database else base.database
    tablePrefix := if chosen "table_prefix" then s.tablePrefix else base.tablePrefix
    maxConnections := if chosen "max_connections" then s.maxConnections else base.maxConnections }

theorem map_fst_toFields (s : Settings) : s.toFields.map (·.1) = fieldNames := rfl

theorem text?_ofText (s : String) : (Tree.ofText s).text? = some s := rfl

theorem nullable?_ofText (x : Option String) :
    Tree.nullable? Tree.text? (Tree.ofNullable Tree.ofText x) = some x :=
  Tree.nullable?_ofNullable text?_ofText (fun _ h => nomatch h) x

/-- The chosen fields of settings stand for the settings in those fields. -/
theorem ofTree?_ofFields (s : Settings) (chosen : String → Bool)
    {members extra : List (String × Tree)}
    (hmembers : members.Perm (s.toFields.filter (chosen ·.1) ++ extra))
    (hextra : ∀ m ∈ extra, m.1 ∉ fieldNames) :
    ofTree? (.ofFields members) = some (s.restrict chosen) := by
  have hknown : ((s.toFields.filter (chosen ·.1)).map (·.1)).Nodup := by
    have hnames : (s.toFields.map (·.1)).Nodup := by rw [map_fst_toFields]; decide
    exact hnames.sublist (List.filter_sublist.map _)
  rw [ofTree?, Tree.fields?_ofFields hmembers hknown hextra]
  have hlookup : fieldNames.map ((s.toFields.filter (chosen ·.1)).lookup ·) =
      [if chosen "host" then some (.ofText s.host) else none,
        if chosen "port" then some (.ofNat s.port.toNat) else none,
        if chosen "user" then some (.ofText s.user) else none,
        if chosen "password" then some (.ofNullable .ofText s.password) else none,
        if chosen "database" then some (.ofNullable .ofText s.database) else none,
        if chosen "table_prefix" then some (.ofText s.tablePrefix) else none,
        if chosen "max_connections" then some (.ofNat s.maxConnections.toNat) else none] := by
    simp only [Tree.lookup_filter]
    rfl
  rw [hlookup]
  simp only [Option.bind_eq_bind, Option.bind_some, Tree.orDefault_ite (text?_ofText _),
    Tree.orDefault_ite (nullable?_ofText _), Tree.orDefault_natBelow s.port.toNat_lt,
    Tree.orDefault_natBelow s.maxConnections.toNat_lt, UInt16.ofNat_toNat, UInt32.ofNat_toNat]
  rfl

theorem restrict_true (s : Settings) : s.restrict (fun _ => true) = s := rfl

theorem integral_ofNullable (x : Option String) : (Tree.ofNullable Tree.ofText x).Integral := by
  cases x with
  | none => exact .null
  | some s => exact .string _

theorem integral_toTree (s : Settings) : s.toTree.Integral := by
  refine .object (List.forall_mem_map.mpr ?_)
  simp only [toFields, List.forall_mem_cons, List.not_mem_nil, false_implies, implies_true,
    and_true]
  exact ⟨.string _, .integer _, .string _, integral_ofNullable _, integral_ofNullable _,
    .string _, .integer _⟩

/-- The chosen fields of settings are read from every text that has them, in any order and
among any members of other names. All other fields have their defaults. -/
theorem read_eq_restrict (s : Settings) (chosen : String → Bool)
    {members extra : List (String × Tree)} {text : String}
    (hmembers : members.Perm (s.toFields.filter (chosen ·.1) ++ extra))
    (hextra : ∀ m ∈ extra, m.1 ∉ fieldNames)
    (htext : Tree.SpelledElement (.ofFields members) text.toList) :
    read text = .ok (s.restrict chosen) ∧ read s.write = .ok s := by
  constructor
  · rw [read, htext.read?_eq, Option.bind_some, ofTree?_ofFields s chosen hmembers hextra]
  · have hall : s.toFields.Perm (s.toFields.filter (fun _ => true) ++ []) := by
      rw [List.append_nil, List.filter_eq_self.mpr fun _ _ => rfl]
    have hself := ofTree?_ofFields s (fun _ => true) hall (fun _ hm => nomatch hm)
    rw [read, write, s.integral_toTree.read?_render, Option.bind_some, toTree, hself,
      restrict_true]

/-- Two fields of seven, in another order and with an unknown member between them. -/
theorem read_eq_restrict_portPassword :
    read "\x7b\"password\":\"s3cret\",\"note\":[null,-5],\"port\":3307\x7d" =
      .ok { port := 3307, password := some "s3cret" } := by
  let s : Settings := { port := 3307, password := some "s3cret" }
  let note : String × Tree := ("note", .array [.null, .number (.ofInt (-5))])
  let members := [("password", .ofText "s3cret"), note, ("port", .ofNat 3307)]
  have hchosen : s.toFields.filter (fun m => ["port", "password"].contains m.1) =
      [("port", .ofNat 3307), ("password", .ofText "s3cret")] := rfl
  have hmembers : members.Perm
      (s.toFields.filter (fun m => ["port", "password"].contains m.1) ++ [note]) := by
    rw [hchosen]
    exact List.perm_append_singleton ("port", .ofNat 3307) [("password", .ofText "s3cret"), note]
  have hintegral : (Tree.ofFields members).Integral := by
    refine .object (List.forall_mem_map.mpr ?_)
    simp only [members, List.forall_mem_cons, List.not_mem_nil, false_implies, implies_true,
      and_true]
    refine ⟨.string _, .array ?_, .integer _⟩
    simp only [List.forall_mem_cons, List.not_mem_nil, false_implies, implies_true, and_true]
    exact ⟨.null, .integer _⟩
  have htext : "\x7b\"password\":\"s3cret\",\"note\":[null,-5],\"port\":3307\x7d".toList =
      (Tree.ofFields members).text := by decide
  exact (read_eq_restrict s ["port", "password"].contains hmembers
    (List.forall_mem_singleton.mpr (by decide)) (htext ▸ hintegral.spelled_text.element)).1

end SqlSelect.Settings
