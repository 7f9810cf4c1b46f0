import SqlSelect.Call
import SqlSelect.ResultSet

/-!
Sessions on one connection. Queries are built, kept under a name, taken up again
and fetched; the connection is asked to run a statement only by a fetch, and the
log of a session holds what it has been asked.
-/

namespace SqlSelect

structure Statement where
  sql : String
  bindings : List Value
  deriving Repr

/-- A connection answers each of its statements. They are written in the frame of its
dialect, or in a frame of its own. -/
structure Connection where
  dialect : Dialect
  frame : Frame := dialect.frame
  answer : Statement → Except Error ResultSet

inductive Step (α : Type) where
  /-- Begins a new query, on a table if one is given. -/
  | start (table : Option String)
  | call (c : Call)
  | keep (name : String)
  | resume (name : String)
  | fetch
  | fetchAs (decodeRow : Row → Except Error α)

structure Session where
  query : Query := {}
  kept : List (String × Query) := []
  log : List Statement := []
  deriving Repr, Inhabited

inductive Outcome (α : Type) where
  | done
  | refused (error : Error)
  | fetched (result : Except Error ResultSet)
  | decoded (result : Except Error (List α))

namespace Query

/-- The statement a fetch would have run. -/
def statement (q : Query) (f : Frame) : Except Error Statement := do
  let sql ← f.compile q
  return ⟨sql, q.bindings.toList⟩

end Query

namespace Session

/-- The query kept last under a name. -/
def find? (s : Session) (name : String) : Option Query :=
  (s.kept.find? (·.1 == name)).map (·.2)

/-- Runs the current query. Without a table there is nothing to run. -/
def fetch (c : Connection) (s : Session) : Except Error ResultSet × Session :=
  match s.query.statement c.frame with
  | .error error => (.error error, s)
  | .ok statement => (c.answer statement, { s with log := s.log ++ [statement] })

def step {α : Type} (c : Connection) (s : Session) : Step α → Outcome α × Session
  | .start table =>
      (.done, { s with query := match table with
        | some name => .ofTable name
        | none => {} })
  | .call call =>
      match call.apply c.dialect.operators s.query with
      | .ok query => (.done, { s with query })
      | .error error => (.refused error, s)
  | .keep name => (.done, { s with kept := (name, s.query) :: s.kept })
  | .resume name => (.done, { s with query := (s.find? name).getD s.query })
  | .fetch =>
      let (result, next) := s.fetch c
      (.fetched result, next)
  | .fetchAs decodeRow =>
      let (result, next) := s.fetch c
      (.decoded (result.bind (·.decode decodeRow)), next)

def run {α : Type} (c : Connection) (s : Session) : List (Step α) → List (Outcome α) × Session
  | [] => ([], s)
  | first :: rest =>
      let (outcome, next) := s.step c first
      let (outcomes, last) := next.run c rest
      (outcome :: outcomes, last)

end Session

end SqlSelect
