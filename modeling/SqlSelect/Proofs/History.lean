import SqlSelect.Proofs.Run
import SqlSelect.Proofs.Shape
import SqlSelect.Session

/-!
The history of a session. Behind each query of a session are the calls that were made on
it and on the query that it was taken up from. The connection is asked for the statements
of the queries that are fetched while they have a table, in their order, and every step
tells what its query and the connection's answer give.
-/

namespace SqlSelect

/-- The calls behind the current query of a session and behind the kept ones. -/
structure History where
  calls : List Call := []
  kept : List (String × List Call) := []

def Step.isFetch {α : Type} : Step α → Bool
  | fetch => true
  | fetchAs _ => true
  | _ => false

namespace History

variable {α : Type}

/-- The calls behind the query kept last under a name. -/
def find? (h : History) (name : String) : Option (List Call) :=
  (h.kept.find? (·.1 == name)).map (·.2)

def step (h : History) : Step α → History
  | .start none => { h with calls := [] }
  | .start (some name) => { h with calls := [.table name] }
  | .call call => { h with calls := h.calls ++ [call] }
  | .keep name => { h with kept := (name, h.calls) :: h.kept }
  | .resume name => { h with calls := (h.find? name).getD h.calls }
  | .fetch => h
  | .fetchAs _ => h

/-- The steps of a session, each with the calls behind the query that it is made on. -/
def along (h : History) : List (Step α) → List (List Call × Step α)
  | [] => []
  | first :: rest => (h.calls, first) :: (h.step first).along rest

/-- The queries that are fetched while they have a table. -/
def fetched (h : History) (d : Dialect) (steps : List (Step α)) : List Query :=
  ((h.along steps).filter fun (calls, step) =>
    step.isFetch && (d.build calls).table.isSome).map fun (calls, _) => d.build calls

theorem fetched_cons (h : History) (d : Dialect) (first : Step α) (rest : List (Step α)) :
    h.fetched d (first :: rest) = h.fetched d [first] ++ (h.step first).fetched d rest := by
  rw [fetched, fetched, fetched, ← List.map_append, ← List.filter_append]
  rfl

end History

/-! ### What a step tells -/

/-- The statement that a query stands for. -/
structure Query.Asks (f : Frame) (q : Query) (statement : Statement) : Prop where
  sql : f.compile q = .ok statement.sql
  bindings : statement.bindings = q.bindings.toList

/-- What a fetch gives: the answer to the statement of the query, if it has a table. -/
inductive Connection.Fetches (c : Connection) (q : Query) : Except Error ResultSet → Prop where
  | tableless (h : q.table = none) : Fetches c q (.error .missingTable)
  | answered {statement : Statement} (htable : q.table.isSome = true)
      (h : q.Asks c.frame statement) : Fetches c q (c.answer statement)

/-- A result decoded: all of its rows in their order, or the error of the first one that
cannot be. -/
inductive ResultSet.Decodes {α : Type} (decodeRow : Row → Except Error α) :
    Except Error ResultSet → Except Error (List α) → Prop where
  | failed (error : Error) : Decodes decodeRow (.error error) (.error error)
  | all {r : ResultSet} {records : List α}
      (h : List.Forall₂ (fun row record => decodeRow row = .ok record) r.rows records) :
      Decodes decodeRow (.ok r) (.ok records)
  | stopped {r : ResultSet} {before after : List Row} {row : Row} {error : Error}
      (hrows : r.rows = before ++ row :: after)
      (hbefore : ∀ earlier ∈ before, ∃ record, decodeRow earlier = .ok record)
      (hrow : decodeRow row = .error error) : Decodes decodeRow (.ok r) (.error error)

/-- What a step on a query tells its caller. -/
inductive Connection.Answers {α : Type} (c : Connection) (q : Query) :
    Step α → Outcome α → Prop where
  | start (table : Option String) : Answers c q (.start table) .done
  | accepted {call : Call} {next : Query} (h : call.apply c.dialect.operators q = .ok next) :
      Answers c q (.call call) .done
  | refused {call : Call} {error : Error}
      (h : call.apply c.dialect.operators q = .error error) :
      Answers c q (.call call) (.refused error)
  | keep (name : String) : Answers c q (.keep name) .done
  | resume (name : String) : Answers c q (.resume name) .done
  | fetch {result : Except Error ResultSet} (h : c.Fetches q result) :
      Answers c q .fetch (.fetched result)
  | fetchAs {decodeRow : Row → Except Error α} {result : Except Error ResultSet}
      {records : Except Error (List α)} (h : c.Fetches q result)
      (hrecords : ResultSet.Decodes decodeRow result records) :
      Answers c q (.fetchAs decodeRow) (.decoded records)

theorem ResultSet.decodes_mapM {α : Type} (decodeRow : Row → Except Error α) (rows : List Row)
    (fields : List Field) : Decodes decodeRow (.ok ⟨rows, fields⟩) (rows.mapM decodeRow) := by
  induction rows with
  | nil => exact .all .nil
  | cons row rows ih =>
      rw [List.mapM_cons]
      cases hrow : decodeRow row with
      | error error =>
          have hrows : row :: rows = [] ++ row :: rows := rfl
          exact .stopped hrows (by simp) hrow
      | ok record =>
          generalize rows.mapM decodeRow = records at ih ⊢
          cases ih with
          | all h => exact .all (.cons hrow h)
          | @stopped _ before after last error hrows hbefore herror =>
              have hall : row :: rows = (row :: before) ++ last :: after :=
                congrArg (row :: ·) hrows
              exact .stopped hall (List.forall_mem_cons.mpr ⟨⟨record, hrow⟩, hbefore⟩) herror

theorem ResultSet.decodes_decode {α : Type} (decodeRow : Row → Except Error α)
    (result : Except Error ResultSet) :
    Decodes decodeRow result (result.bind (·.decode decodeRow)) := by
  cases result with
  | error error => exact .failed error
  | ok r => exact decodes_mapM decodeRow r.rows r.fields

namespace Session

/-- The queries of a session are what the calls behind them built. -/
structure Built (d : Dialect) (s : Session) (h : History) : Prop where
  query : s.query = d.build h.calls
  kept : s.kept = h.kept.map fun (name, calls) => (name, d.build calls)

variable {α : Type} {c : Connection} {s : Session} {h : History}

theorem Built.find? {d : Dialect} (hs : Built d s h) (name : String) :
    s.find? name = (h.find? name).map d.build := by
  rw [Session.find?, History.find?, hs.kept, List.find?_map, Option.map_map, Option.map_map]
  rfl

/-- A fetch without a table leaves the log as it is; any other one asks for one statement. -/
theorem fetch_cases (c : Connection) (s : Session) :
    s.query.table = none ∧ s.fetch c = (.error .missingTable, s) ∨
      ∃ statement, s.query.table.isSome = true ∧ s.query.Asks c.frame statement ∧
        s.fetch c = (c.answer statement, { s with log := s.log ++ [statement] }) := by
  cases htable : s.query.table with
  | none =>
      refine .inl ⟨rfl, ?_⟩
      simp [fetch, Query.statement, Frame.compile_of_tableless htable, bind, Except.bind]
  | some table =>
      have hsql := Frame.compile_of_table htable c.frame
      refine .inr ⟨⟨_, s.query.bindings.toList⟩, rfl, ⟨hsql, rfl⟩, ?_⟩
      simp [fetch, Query.statement, hsql, bind, Except.bind, pure, Except.pure]

theorem fetches_fetch (c : Connection) (s : Session) : c.Fetches s.query (s.fetch c).1 := by
  rcases fetch_cases c s with ⟨htable, hfetch⟩ | ⟨statement, htable, hasks, hfetch⟩
  · rw [hfetch]
    exact .tableless htable
  · rw [hfetch]
    exact .answered htable hasks

/-- A fetch changes nothing but the log. -/
theorem Built.fetch (hs : Built c.dialect s h) : Built c.dialect (s.fetch c).2 h := by
  rcases fetch_cases c s with ⟨-, hfetch⟩ | ⟨statement, -, -, hfetch⟩
  · rw [hfetch]
    exact hs
  · rw [hfetch]
    exact ⟨hs.query, hs.kept⟩

theorem answers_step (c : Connection) (s : Session) (step : Step α) :
    c.Answers s.query step (s.step c step).1 := by
  cases step with
  | start table => exact .start table
  | call call =>
      rw [Session.step]
      cases hcall : call.apply c.dialect.operators s.query with
      | ok next => exact .accepted hcall
      | error error => exact .refused hcall
  | keep name => exact .keep name
  | resume name => exact .resume name
  | fetch => exact .fetch (fetches_fetch c s)
  | fetchAs decodeRow =>
      exact .fetchAs (fetches_fetch c s) (ResultSet.decodes_decode decodeRow _)

theorem Built.step (hs : Built c.dialect s h) (step : Step α) :
    Built c.dialect (s.step c step).2 (h.step step) := by
  cases step with
  | start table =>
      cases table with
      | none => exact ⟨rfl, hs.kept⟩
      | some name => exact ⟨rfl, hs.kept⟩
  | call call =>
      refine ⟨?_, ?_⟩
      · rw [History.step, Dialect.build_concat, ← hs.query, Session.step, Call.step]
        cases call.apply c.dialect.operators s.query with
        | ok next => rfl
        | error error => rfl
      · rw [History.step, ← hs.kept, Session.step]
        cases call.apply c.dialect.operators s.query with
        | ok next => rfl
        | error error => rfl
  | keep name => exact ⟨hs.query, by simp [Session.step, History.step, hs.query, hs.kept]⟩
  | resume name =>
      refine ⟨?_, hs.kept⟩
      rw [Session.step, History.step, hs.find?, hs.query]
      cases h.find? name with
      | none => rfl
      | some calls => rfl
  | fetch => exact hs.fetch
  | fetchAs decodeRow => exact hs.fetch

theorem log_step_of_not_isFetch {step : Step α} (hstep : step.isFetch = false) :
    (s.step c step).2.log = s.log := by
  cases step with
  | fetch => cases hstep
  | fetchAs decodeRow => cases hstep
  | call call =>
      rw [Session.step]
      cases call.apply c.dialect.operators s.query with
      | ok next => rfl
      | error error => rfl
  | _ => rfl

theorem log_step_of_isFetch {step : Step α} (hstep : step.isFetch = true) :
    (s.step c step).2.log = (s.fetch c).2.log := by
  cases step with
  | fetch => rfl
  | fetchAs decodeRow => rfl
  | _ => cases hstep

/-- A step asks for the statement of its query if it fetches it and the query has a table. -/
theorem exists_log_step (hs : Built c.dialect s h) (step : Step α) :
    ∃ asked, (s.step c step).2.log = s.log ++ asked ∧
      List.Forall₂ (Query.Asks c.frame) (h.fetched c.dialect [step]) asked := by
  cases hstep : step.isFetch with
  | false =>
      refine ⟨[], ?_, ?_⟩
      · rw [log_step_of_not_isFetch hstep, List.append_nil]
      · simp [History.fetched, History.along, hstep]
  | true =>
      rw [log_step_of_isFetch hstep]
      rcases fetch_cases c s with ⟨htable, hfetch⟩ | ⟨statement, htable, hasks, hfetch⟩
      · rw [hs.query] at htable
        refine ⟨[], ?_, ?_⟩
        · rw [hfetch, List.append_nil]
        · simp [History.fetched, History.along, htable]
      · rw [hs.query] at htable hasks
        refine ⟨[statement], by rw [hfetch], ?_⟩
        simpa [History.fetched, History.along, hstep, htable] using hasks

theorem exists_log_run (hs : Built c.dialect s h) (steps : List (Step α)) :
    ∃ asked, (s.run c steps).2.log = s.log ++ asked ∧
      List.Forall₂ (Query.Asks c.frame) (h.fetched c.dialect steps) asked := by
  induction steps generalizing s h with
  | nil => exact ⟨[], (List.append_nil _).symm, .nil⟩
  | cons first rest ih =>
      obtain ⟨asked, hlog, hasked⟩ := exists_log_step hs first
      obtain ⟨others, hlogs, hothers⟩ := ih (hs.step first)
      refine ⟨asked ++ others, ?_, ?_⟩
      · rw [← List.append_assoc, ← hlog, ← hlogs]
        rfl
      · rw [History.fetched_cons]
        exact List.rel_append hasked hothers

theorem answers_run (hs : Built c.dialect s h) (steps : List (Step α)) :
    List.Forall₂ (fun (calls, step) outcome => c.Answers (c.dialect.build calls) step outcome)
      (h.along steps) (s.run c steps).1 := by
  induction steps generalizing s h with
  | nil => exact .nil
  | cons first rest ih =>
      refine .cons ?_ (ih (hs.step first))
      have hfirst := answers_step c s first
      rw [hs.query] at hfirst
      exact hfirst

end Session

/-- The connection of a session, whatever frame it writes statements in, is asked for those
of the queries that are fetched while they have a table, in order and once each, and every
step tells what its query gives: a fetch the answer of the connection as it is, or its rows
decoded one by one. -/
theorem asks_and_answers_run {α : Type} (c : Connection) (steps : List (Step α)) :
    List.Forall₂ (Query.Asks c.frame) (History.fetched {} c.dialect steps)
        (Session.run c {} steps).2.log ∧
      List.Forall₂ (fun (calls, step) outcome => c.Answers (c.dialect.build calls) step outcome)
        (History.along {} steps) (Session.run c {} steps).1 := by
  have hbuilt : Session.Built c.dialect {} {} := ⟨rfl, rfl⟩
  obtain ⟨asked, hlog, hasked⟩ := Session.exists_log_run hbuilt steps
  have hlog' : (Session.run c {} steps).2.log = asked := hlog
  refine ⟨?_, Session.answers_run hbuilt steps⟩
  rw [hlog']
  exact hasked

end SqlSelect
