import SqlSelect.Json.Record
import SqlSelect.Settings

/-!
Settings as JSON texts. Fields that a text leaves out have their defaults.
-/

namespace SqlSelect.Settings

def fieldNames : List String :=
  ["host", "port", "user", "password", "database", "table_prefix", "max_connections"]

open Json.Tree in
def ofTree? (t : Json.Tree) : Option Settings := do
  match ← t.fields? fieldNames with
  | [host, port, user, password, database, tablePrefix, maxConnections] =>
      let base : Settings := {}
      return {
        host := ← orDefault text? base.host host
        port := ← orDefault (fun t => (t.natBelow? UInt16.size).map .ofNat) base.port port
        user := ← orDefault text? base.user user
        password := ← orDefault (nullable? text?) base.password password
        database := ← orDefault (nullable? text?) base.database database
        tablePrefix := ← orDefault text? base.tablePrefix tablePrefix
        maxConnections :=
          ← orDefault (fun t => (t.natBelow? UInt32.size).map .ofNat) base.maxConnections
            maxConnections }
  | _ => none

def read (s : String) : Except Error Settings :=
  match (Json.Tree.read? s).bind ofTree? with
  | some settings => .ok settings
  | none => .error .unreadable

open Json.Tree in
def toFields (s : Settings) : List (String × Json.Tree) :=
  [("host", ofText s.host), ("port", ofNat s.port.toNat), ("user", ofText s.user),
    ("password", ofNullable ofText s.password), ("database", ofNullable ofText s.database),
    ("table_prefix", ofText s.tablePrefix), ("max_connections", ofNat s.maxConnections.toNat)]

def toTree (s : Settings) : Json.Tree := .ofFields s.toFields

def write (s : Settings) : String := s.toTree.render

end SqlSelect.Settings
