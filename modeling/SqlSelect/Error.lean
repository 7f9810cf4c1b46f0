/-!
What can go wrong with a query, its connection or its settings, and how each
cause reads.
-/

namespace SqlSelect

inductive ArgumentFault where
  /-- `NULL` given to an operator that cannot compare with it. -/
  | nullComparison
  | columnNotText (index : Nat) (typeName : String)
  | unknownCategory (name : String)
  | stated (message : String)
  deriving DecidableEq, Repr

inductive SettingsFault where
  | emptyHost
  | zeroPort
  | emptyUser
  | noConnections
  | stated (message : String)
  deriving DecidableEq, Repr

inductive Error where
  /-- The database refused a statement, or could not be reached. -/
  | database (message : String)
  | argument (fault : ArgumentFault)
  /-- The entry of a group at `index` has `arity` elements, neither two nor three. -/
  | malformedGroup (index arity : Nat)
  | missingTable
  /-- A text or a row does not hold what is read from it. -/
  | unreadable
  | settings (fault : SettingsFault)
  deriving DecidableEq, Repr

def ArgumentFault.message : ArgumentFault → String
  | nullComparison => "Illegal operator and value combination."
  | columnNotText index typeName =>
      "where group entry " ++ toString index ++ " has a non-string column (" ++ typeName ++ ")"
  | unknownCategory name => "Invalid binding type: " ++ name ++ "."
  | stated message => message

def SettingsFault.message : SettingsFault → String
  | emptyHost => "host must not be empty"
  | zeroPort => "port must be non-zero"
  | emptyUser => "user must not be empty"
  | noConnections => "max_connections must be at least 1"
  | stated message => message

namespace Error

def message : Error → String
  | database message => "Database error: " ++ message
  | argument fault => "Invalid argument: " ++ fault.message
  | malformedGroup index arity =>
      "Malformed where group: entry " ++ toString index ++ " has " ++ toString arity ++
        " elements, expected 2 or 3"
  | missingTable => "Query has no table; call from() before compiling"
  | unreadable => "Serialization error"
  | settings fault => "Configuration error: " ++ fault.message

def isRefusal : Error → Bool
  | argument _ => true
  | malformedGroup _ _ => true
  | _ => false

instance : ToString Error := ⟨message⟩

end Error

end SqlSelect
