-- The connection of the DB-API module and the health checks built on it.
-- `connect` builds the URL from `str()` of the port, which raises past the
-- digit limit. Closing a connection is for good, and nothing ever opens a
-- transaction.
-- The health checks of the two backends, Django's `is_usable` and the
-- dialect's `do_ping`, run the same SELECT on a new cursor: they agree on
-- every connection and every gateway, post one query for an entity
-- `_health` and nothing else, and fail whenever the gateway does.
import Ormdb.SelectLaws

namespace ormdb.dbapi

open ormdb.py

/-! ## The connection -/

/-- A `Connection` as the code keeps it: its URL and its two flags. The host,
the port and the timeout serve only to build the URL and the HTTP client, and
are left out. -/
structure Connection where
  baseUrl : List Char
  closed : Bool
  inTransaction : Bool
  deriving DecidableEq

/-- `connect(host, port, timeout)`, that is `Connection(host, port, timeout)`:
the URL is the f-string of the host and the port, whose `str()` may raise. -/
def connect (py : Py) (host : PyVal) (port : Int) : Except PyErr Connection := do
  let h ← PyVal.pyStr py host
  let p ← PyVal.pyStr py (.int port)
  pure ⟨"http://".toList ++ h ++ [':'] ++ p, false, false⟩

/-- `Connection.close`: the HTTP client is closed the first time only, and the
connection is closed either way. -/
def Connection.close (c : Connection) : Connection := { c with closed := true }

/-- `Connection.commit`: ORMDB commits each mutation itself. -/
def Connection.commit (c : Connection) : Connection := { c with inTransaction := false }

/-- `Connection.rollback`: there is no transaction to roll back. -/
def Connection.rollback (c : Connection) : Connection := { c with inTransaction := false }

/-- `Connection.cursor`: a new cursor over the connection's URL, with nothing
posted yet. -/
def Connection.cursor (c : Connection) : Except PyErr Session :=
  if c.closed then .error (.interfaceError "Connection is closed".toList) else .ok (Session.init c.baseUrl)

/-- The methods that change a connection; `__exit__` is `close`. -/
inductive ConnOp where
  | close
  | commit
  | rollback
  deriving DecidableEq

def ConnOp.apply : ConnOp → Connection → Connection
  | .close, c => c.close
  | .commit, c => c.commit
  | .rollback, c => c.rollback

/-- A run of methods from a new connection. -/
def runConn (c : Connection) (ops : List ConnOp) : Connection := ops.foldl (fun c op => op.apply c) c

/-! ## Runs of a connection -/

@[simp] theorem ConnOp.apply_closed (op : ConnOp) (c : Connection) :
    (op.apply c).closed = (c.closed || op == .close) := by
  cases op <;> simp [ConnOp.apply, Connection.close, Connection.commit, Connection.rollback]

@[simp] theorem ConnOp.apply_inTransaction (op : ConnOp) (c : Connection) :
    (op.apply c).inTransaction = (c.inTransaction && op == .close) := by
  cases op <;> simp [ConnOp.apply, Connection.close, Connection.commit, Connection.rollback]

@[simp] theorem ConnOp.apply_baseUrl (op : ConnOp) (c : Connection) : (op.apply c).baseUrl = c.baseUrl := by
  cases op <;> rfl

theorem runConn_cons (c : Connection) (op : ConnOp) (ops : List ConnOp) :
    runConn c (op :: ops) = runConn (op.apply c) ops := rfl

/-- `connect` on a str host: the URL of the host and the port's numeral, as
long as the port is within the digit limit of `str()`, past which it raises
`ValueError`. -/
theorem connect_str (py : Py) (host : List Char) (port : Int) :
    connect py (.str host) port =
      if py.digitsFit (intDigits port) then .ok ⟨"http://".toList ++ host ++ [':'] ++ intStr port, false, false⟩
      else .error (.valueError none) := by
  unfold connect
  rw [PyVal.pyStr_int]
  split <;> rfl

/-- A connection that `connect` returns is open and not in a transaction. -/
theorem connect_fresh {py : Py} {host : PyVal} {port : Int} {c : Connection} (h : connect py host port = .ok c) :
    c.closed = false ∧ c.inTransaction = false := by
  unfold connect at h
  revert h
  cases PyVal.pyStr py host <;> cases PyVal.pyStr py (.int port) <;> intro h <;> cases h
  exact ⟨rfl, rfl⟩

/-- Over every run of its methods, a connection that `connect` returned keeps
its URL, is closed once a `close` has run and never before, and is never in a
transaction; its `cursor()` raises `InterfaceError` exactly when it is
closed. -/
theorem connection_run {py : Py} {host : PyVal} {port : Int} {c : Connection} (hc : connect py host port = .ok c)
    (ops : List ConnOp) :
    (runConn c ops).baseUrl = c.baseUrl ∧
    (runConn c ops).closed = ops.contains .close ∧
    (runConn c ops).inTransaction = false ∧
    (runConn c ops).cursor =
      if ops.contains .close then .error (.interfaceError "Connection is closed".toList)
      else .ok (Session.init c.baseUrl) := by
  suffices h : ∀ c : Connection, c.inTransaction = false → (runConn c ops).baseUrl = c.baseUrl ∧
      (runConn c ops).closed = (c.closed || ops.contains .close) ∧ (runConn c ops).inTransaction = false by
    obtain ⟨hclosed₀, htx₀⟩ := connect_fresh hc
    obtain ⟨hurl, hclosed, htx⟩ := h c htx₀
    rw [hclosed₀, Bool.false_or] at hclosed
    refine ⟨hurl, hclosed, htx, ?_⟩
    rw [Connection.cursor, hclosed, hurl]
  induction ops with
  | nil => intro c hc; simp [runConn, hc]
  | cons op ops ih =>
    intro c hc
    obtain ⟨hurl, hclosed, htx⟩ := ih (op.apply c) (by simp [hc])
    rw [runConn_cons, hurl, hclosed, htx, List.contains_cons]
    refine ⟨ConnOp.apply_baseUrl op c, ?_, rfl⟩
    rw [ConnOp.apply_closed]
    cases op <;> cases c.closed <;> rfl

/-! ## Health checks -/

/-- The statement both health checks run. -/
def healthCheckSql : List Char := "SELECT 1 FROM _health".toList

/-- A health check on a new cursor of the connection: the health statement,
then `finish`. The check is whether nothing raised; the requests are what the
cursor posted. -/
def healthCheck (py : Py) (post : Request → Reply) (finish : CursorM Unit) (conn : Connection) :
    Bool × List Request :=
  match conn.cursor with
  | .error _ => (false, [])
  | .ok s =>
    let r := (execute py post healthCheckSql none >>= fun _ => finish) s
    (match r with | .ok _ _ => true | .error _ _ => false, (after r).posted)

end ormdb.dbapi

namespace ormdb.django

open ormdb.py ormdb.dbapi

/-- `DatabaseWrapper.is_usable`. -/
def isUsable (py : Py) (post : Request → Reply) (conn : Connection) : Bool × List Request :=
  healthCheck py post (pure ()) conn

end ormdb.django

namespace ormdb.dialect

open ormdb.py ormdb.dbapi

/-- `OrmdbDialect.do_ping`: the cursor is closed after the statement. -/
def doPing (py : Py) (post : Request → Reply) (conn : Connection) : Bool × List Request :=
  healthCheck py post close conn

end ormdb.dialect

namespace ormdb.dbapi

open ormdb.py

/-- The health statement as the SELECT grammar writes it. -/
def healthStmt : SelectStmt :=
  ⟨⟨"SELECT".toList, by decide, rfl⟩, .names ["1".toList], ⟨"FROM".toList, by decide, rfl⟩, "_health".toList,
    none, none, none⟩

theorem healthStmt_text : healthStmt.text = healthCheckSql := rfl

theorem healthStmt_wf (py : Py) : healthStmt.WF py := by
  refine ⟨⟨Ident.of_ascii py (by decide) (by decide), UpperOk.of_asciiSolid (by decide)⟩, fun _ h => ?_,
    (fun _ h => nomatch h), (fun _ h => nomatch h), (fun _ h => nomatch h)⟩
  cases h
  refine ⟨by decide, fun f hf => ?_⟩
  cases List.mem_singleton.mp hf
  exact ⟨Ident.of_ascii py (by decide) (by decide), UpperOk.of_asciiSolid (by decide),
    Numeral.not_mem_selectKeys py ⟨by decide, by decide⟩⟩

/-- The query the health checks post. -/
def healthPayload : PyVal :=
  .dict [("root_entity".toList, .str "_health".toList), ("fields".toList, .list [.str "1".toList])]

theorem queryPayload_health (py : Py) : queryPayload (healthStmt.parsed py) = healthPayload := rfl

section Health

variable (py : Py) (post : Request → Reply)

/-- Steps that neither raise nor post leave what a step before them posted,
and whether it raised. -/
theorem bind_quiet {α : Type} {x : CursorM α} {f : α → CursorM Unit} (hp : ∀ a, NoPost (f a))
    (hr : ∀ a, NoRaise (f a)) (s : Session) :
    (match (x >>= f) s with | .ok _ _ => true | .error _ _ => false) =
      (match x s with | .ok _ _ => true | .error _ _ => false) ∧
    (after ((x >>= f) s)).posted = (after (x s)).posted := by
  cases hx : x s with
  | ok a s' =>
    rw [bind_ok hx]
    cases hf : f a s' with
    | ok _ s'' =>
      have h := hp a s'
      rw [hf] at h
      exact ⟨rfl, h⟩
    | error e s'' => exact absurd hf (hr a s' e s'')
  | error e s' => rw [bind_error hx]; exact ⟨rfl, rfl⟩

/-- A check that ends with steps that neither raise nor post is the check that
ends at once. -/
theorem healthCheck_quiet {finish : CursorM Unit} (hp : NoPost finish) (hr : NoRaise finish) (conn : Connection) :
    healthCheck py post finish conn = healthCheck py post (pure ()) conn := by
  unfold healthCheck
  cases conn.cursor with
  | error e => rfl
  | ok s =>
    obtain ⟨h₁, h₂⟩ := bind_quiet (x := execute py post healthCheckSql none) (fun _ => hp) (fun _ => hr) s
    obtain ⟨h₃, h₄⟩ := bind_quiet (x := execute py post healthCheckSql none) (fun _ => noPost_pure ())
      (fun _ => noRaise_pure ()) s
    simp only [h₁, h₂, h₃, h₄]

theorem healthCheck_closed {finish : CursorM Unit} {conn : Connection} (h : conn.closed = true) :
    healthCheck py post finish conn = (false, []) := by
  unfold healthCheck Connection.cursor
  rw [h]
  rfl

theorem healthCheck_open {finish : CursorM Unit} {conn : Connection} (h : conn.closed = false) :
    healthCheck py post finish conn =
      (match (execute py post healthCheckSql none >>= fun _ => finish) (Session.init conn.baseUrl) with
        | .ok _ _ => true | .error _ _ => false,
       (after ((execute py post healthCheckSql none >>= fun _ => finish) (Session.init conn.baseUrl))).posted) := by
  unfold healthCheck Connection.cursor
  simp only [h, Bool.false_eq_true, if_false]

/-- `postJson` raises when the transport fails or the status is not 2xx. -/
theorem postJson_raises {path : String} {payload : PyVal} (s : Session)
    (hr : (∃ msg, post ⟨s.cursor.baseUrl ++ path.toList, payload⟩ = .failed msg) ∨
      ∃ status body, post ⟨s.cursor.baseUrl ++ path.toList, payload⟩ = .answered status body ∧
        ¬(200 ≤ status ∧ status < 300)) :
    ∃ e s', postJson post path payload s = .error e s' := by
  rw [postJson, bind_get, bind_set]
  rcases hr with ⟨msg, h⟩ | ⟨status, body, h, hs⟩
  · rw [h]; exact ⟨_, _, rfl⟩
  · rw [h]; dsimp only; rw [if_neg hs]; exact ⟨_, _, rfl⟩

/-- On an open connection, the health statement raises when the reply to its
query is a failure of the transport or a status outside 2xx. -/
theorem health_execute_raises (conn : Connection)
    (hr : (∃ msg, post ⟨conn.baseUrl ++ "/query".toList, healthPayload⟩ = .failed msg) ∨
      ∃ status body, post ⟨conn.baseUrl ++ "/query".toList, healthPayload⟩ = .answered status body ∧
        ¬(200 ≤ status ∧ status < 300)) :
    ∃ e s', execute py post healthCheckSql none (Session.init conn.baseUrl) = .error e s' := by
  let s₀ : Session := { Session.init conn.baseUrl with cursor := (Session.init conn.baseUrl).cursor.reset }
  obtain ⟨e, s', hq⟩ : ∃ e s', executeQuery py post healthStmt.text s₀ = .error e s' := by
    unfold executeQuery
    rw [SelectStmt.parseSelect_text (healthStmt_wf py), bind_liftExcept_ok]
    obtain ⟨e, s', h⟩ := @postJson_raises post "/query" (queryPayload (healthStmt.parsed py)) s₀
      (by rw [queryPayload_health]; exact hr)
    exact ⟨e, s', bind_error h⟩
  obtain ⟨rest, hup⟩ := @SelectStmt.upper_text py healthStmt
  rw [← healthStmt_text, execute_of_open py post _ none rfl]
  show ∃ e s', (pure (strip py healthStmt.text) >>= fun o => tryCatch (dispatch py post o) _) _ = _
  rw [bind_pure', SelectStmt.strip_text (healthStmt_wf py), dispatch_select py post hup, tryCatch_error hq]
  cases e <;> exact ⟨_, _, rfl⟩

end Health

end ormdb.dbapi

namespace ormdb.django

open ormdb.py ormdb.dbapi

/-- The health checks of the two backends agree on every connection and every
gateway. On a closed connection both fail and post nothing; on an open one
both post one request, the query of the entity `_health` with the field `1`,
and both fail when the transport fails or the gateway answers outside 2xx. -/
theorem health_checks_agree (py : Py) (post : Request → Reply) (conn : Connection) :
    dialect.doPing py post conn = isUsable py post conn ∧
    (isUsable py post conn).2 =
      (if conn.closed then [] else [⟨conn.baseUrl ++ "/query".toList, healthPayload⟩]) ∧
    ((conn.closed = true ∨ (∃ msg, post ⟨conn.baseUrl ++ "/query".toList, healthPayload⟩ = .failed msg) ∨
      ∃ status body, post ⟨conn.baseUrl ++ "/query".toList, healthPayload⟩ = .answered status body ∧
        ¬(200 ≤ status ∧ status < 300)) → (isUsable py post conn).1 = false) := by
  refine ⟨healthCheck_quiet py post (noPost_setCursor _) (noRaise_setCursor _) conn, ?_, ?_⟩
  · unfold isUsable
    cases hc : conn.closed
    · rw [healthCheck_open py post hc, if_neg (by simp), (bind_quiet (x := execute py post healthCheckSql none)
        (fun _ => noPost_pure ()) (fun _ => noRaise_pure ()) (Session.init conn.baseUrl)).2, ← healthStmt_text,
        SelectStmt.execute_posts_query post rfl (healthStmt_wf py), queryPayload_health]
      rfl
    · rw [healthCheck_closed py post hc, if_pos rfl]
  · intro h
    unfold isUsable
    cases hc : conn.closed
    · obtain ⟨e, s', hx⟩ := health_execute_raises py post conn (h.resolve_left (by simp [hc]))
      rw [healthCheck_open py post hc, (bind_quiet (x := execute py post healthCheckSql none)
        (fun _ => noPost_pure ()) (fun _ => noRaise_pure ()) (Session.init conn.baseUrl)).1, hx]
    · rw [healthCheck_closed py post hc]

end ormdb.django
