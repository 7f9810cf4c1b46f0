import SqlSelect.Inspect
import SqlSelect.Settings

/-!
Settings shown without their password. Only whether there is one is shown.
-/

namespace SqlSelect.Settings

open Inspect (record optional)

def inspect (s : Settings) : String :=
  record "ConnectionConfig"
    [("host", Text.quoted s.host),
      ("port", toString s.port.toNat),
      ("user", Text.quoted s.user),
      ("password", optional (fun _ => Text.quoted "***") s.password),
      ("database", optional Text.quoted s.database),
      ("table_prefix", Text.quoted s.tablePrefix),
      ("max_connections", toString s.maxConnections.toNat)]

end SqlSelect.Settings
