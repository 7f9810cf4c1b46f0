import SqlSelect.Dialect.Known
import SqlSelect.Error
import SqlSelect.Text.Percent

/-!
Settings of a connection: where the server is, who connects to it and how many
connections there may be. The settings give the address that a connection is opened
with and the dialect of its queries.
-/

namespace SqlSelect

structure Settings where
  host : String := "localhost"
  port : UInt16 := 3306
  user : String := "root"
  password : Option String := none
  database : Option String := none
  tablePrefix : String := ""
  maxConnections : UInt32 := 10
  deriving DecidableEq, Repr, Inhabited

namespace Settings

def validate (s : Settings) : Except Error Unit :=
  if (Text.trim s.host).isEmpty then .error (.settings .emptyHost)
  else if s.port = 0 then .error (.settings .zeroPort)
  else if s.user.isEmpty then .error (.settings .emptyUser)
  else if s.maxConnections = 0 then .error (.settings .noConnections)
  else .ok ()

def credentials (s : Settings) : String :=
  match s.password with
  | none => Text.percentEncode s.user
  | some password => Text.percentEncode s.user ++ ":" ++ Text.percentEncode password

/-- An empty name is no database. -/
def path (s : Settings) : String :=
  match s.database with
  | none => ""
  | some database => if database.isEmpty then "" else "/" ++ Text.percentEncode database

/-- The address of the database, its host written as it is. -/
def url (s : Settings) : String :=
  "mysql://" ++ s.credentials ++ "@" ++ s.host ++ ":" ++ toString s.port.toNat ++ s.path

def dialect (s : Settings) : Dialect := .mysql s.tablePrefix

end Settings

end SqlSelect
