-- Where the two backends connect. Django's `get_connection_params` reads
-- HOST, PORT and TIMEOUT from the settings; the dialect's
-- `create_connect_args` reads the host, the port and a `timeout` from the
-- URL; both end in `dbapi.connect`. For a host and a port that are given, or
-- both left out, they run the same `connect`, and raise alike when its port is
-- past the digit limit of `str()`.
import Ormdb.Connection
import Ormdb.LiteralLaws

namespace ormdb.django

open ormdb.py ormdb.dbapi

/-! ## `int()` and `float()` of a setting -/

/-- `int(v)`: an int is itself, a bool is `0` or `1`, text is read in base 10
as `int(s)` reads it; `intOther` is `int()` of any other value, the
interpreter's. -/
def intValue (py : Py) (intOther : PyVal → Except PyErr Int) : PyVal → Except PyErr Int
  | .int i => .ok i
  | .bool b => .ok (if b then 1 else 0)
  | .str s => dbapi.pyInt py s
  | v => intOther v

/-- `float(v)`: a float is itself, text is read by `float()`; `floatOther` is
`float()` of any other value, the interpreter's. -/
def floatValue (py : Py) (floatOther : PyVal → Except PyErr PyFloat) : PyVal → Except PyErr PyFloat
  | .float x => .ok x
  | .str s =>
    match py.toFloat s with
    | some x => .ok x
    | none => .error (.valueError none)
  | v => floatOther v

/-! ## The Django backend -/

/-- The keyword arguments that `get_connection_params` gives `dbapi.connect`. -/
structure ConnParams where
  host : PyVal
  port : Int
  timeout : PyFloat

/-- `settings.get(key, default)`. -/
def setting (settings : List (List Char × PyVal)) (key : String) (default : PyVal) : PyVal :=
  (settings.lookup key.toList).getD default

/-- The literal `30.0` of the code. -/
def defaultTimeout (py : Py) : PyFloat := py.roundFloat (.num false 300 (-1))

/-- `DatabaseWrapper.get_connection_params`. -/
def getConnectionParams (py : Py) (intOther : PyVal → Except PyErr Int) (floatOther : PyVal → Except PyErr PyFloat)
    (settings : List (List Char × PyVal)) : Except PyErr ConnParams := do
  return {
    host := setting settings "HOST" (.str "localhost".toList)
    port := ← intValue py intOther (setting settings "PORT" (.int 8080))
    timeout := ← floatValue py floatOther (setting settings "TIMEOUT" (.float (defaultTimeout py))) }

/-- `DatabaseWrapper.get_new_connection`, `dbapi.connect(**conn_params)`. -/
def getNewConnection (py : Py) (params : ConnParams) : Except PyErr Connection :=
  connect py params.host params.port

/-- `DatabaseClient.settings_to_cmd_args_env`: the arguments of the `ormdb`
shell, the host and the `str()` of the port only when they are truthy, then
the extra parameters. The environment it returns is `None`. -/
def settingsToCmdArgsEnv (py : Py) (settings : List (List Char × PyVal)) (parameters : Option (List PyVal)) :
    Except PyErr (List PyVal) := do
  let host : List PyVal :=
    match settings.lookup "HOST".toList with
    | some h => if h.truthy then [.str "--host".toList, h] else []
    | none => []
  let port ← match settings.lookup "PORT".toList with
    | some p => if p.truthy then (fun s => [.str "--port".toList, .str s]) <$> PyVal.pyStr py p else pure []
    | none => pure []
  pure ([.str "ormdb".toList] ++ host ++ port ++ parameters.getD [])

end ormdb.django

namespace ormdb.dialect

open ormdb.py ormdb.dbapi ormdb.django

/-! ## The SQLAlchemy dialect -/

/-- The parts of a SQLAlchemy `URL` that `create_connect_args` reads. -/
structure Url where
  host : Option (List Char)
  port : Option Int
  query : List (List Char × PyVal)

/-- The keyword arguments that `create_connect_args` gives `dbapi.connect`;
there are no positional ones. -/
structure ConnectArgs where
  host : List Char
  port : Int
  timeout : Option PyFloat

/-- `url.host or "localhost"`. -/
def hostOrDefault : Option (List Char) → List Char
  | some h => if h ≠ [] then h else "localhost".toList
  | none => "localhost".toList

/-- `url.port or 8080`. -/
def portOrDefault : Option Int → Int
  | some p => if p ≠ 0 then p else 8080
  | none => 8080

/-- The `timeout` of a non-empty query string that has one. -/
def queryTimeout (py : Py) (floatOther : PyVal → Except PyErr PyFloat) (query : List (List Char × PyVal)) :
    Except PyErr (Option PyFloat) :=
  if query ≠ [] then
    match query.lookup "timeout".toList with
    | some t => some <$> floatValue py floatOther t
    | none => pure none
  else pure none

/-- `OrmdbDialect.create_connect_args`. -/
def createConnectArgs (py : Py) (floatOther : PyVal → Except PyErr PyFloat) (url : Url) : Except PyErr ConnectArgs :=
  (fun t => ⟨hostOrDefault url.host, portOrDefault url.port, t⟩) <$> queryTimeout py floatOther url.query

end ormdb.dialect

namespace ormdb.django

open ormdb.py ormdb.dbapi

/-! ## Where the two backends connect -/

section Connect

variable (py : Py) (intOther : PyVal → Except PyErr Int) (floatOther : PyVal → Except PyErr PyFloat)

theorem intValue_port {p : Int} {v : PyVal}
    (h : v = .int p ∨ v = .str (intStr p) ∧ py.digitsFit (intDigits p) = true) : intValue py intOther v = .ok p := by
  rcases h with rfl | ⟨rfl, hfit⟩
  · rfl
  · simp only [intValue, dbapi.pyInt, toInt_intStr py p hfit]

/-- The connection Django opens: the host as the settings give it, the port
once `int()` reads it, as long as `float()` reads the timeout. -/
theorem getConnectionParams_connection (settings : List (List Char × PyVal)) {p : Int}
    (hp : intValue py intOther (setting settings "PORT" (.int 8080)) = .ok p) :
    (getConnectionParams py intOther floatOther settings >>= getNewConnection py) =
      (floatValue py floatOther (setting settings "TIMEOUT" (.float (defaultTimeout py))) >>= fun _ =>
        connect py (setting settings "HOST" (.str "localhost".toList)) p) := by
  unfold getConnectionParams
  rw [hp, ok_bind]
  cases floatValue py floatOther _ <;> rfl

theorem hostOrDefault_eq {h : List Char} {o : Option (List Char)} (hh : h ≠ []) (ho : o.getD "localhost".toList = h) :
    dialect.hostOrDefault o = h := by
  cases o with
  | none => exact ho
  | some h' => subst ho; exact if_pos hh

theorem portOrDefault_eq {p : Int} {o : Option Int} (hp : p ≠ 0) (ho : o.getD 8080 = p) :
    dialect.portOrDefault o = p := by
  cases o with
  | none => exact ho
  | some p' => subst ho; exact if_pos hp

/-- The Django backend and the dialect connect to the same gateway. Take a
non-empty host `h` and a non-zero port `p`, given to Django as HOST `h` and
PORT `p` or its numeral within the digit limit of `int()`, and to the dialect
in the URL; or both left out, where `h` is `localhost` and `p` is `8080`. Then
each backend runs `connect(h, p)` once `float()` reads its timeout, and raises
what that raises otherwise; `connect(h, p)` opens the connection to `h` and
`p` when `p` is within the digit limit of `str()`, and raises `ValueError`
past it. -/
theorem connections_agree (settings : List (List Char × PyVal)) (url : dialect.Url) (h : List Char) (p : Int)
    (hh : h ≠ []) (hp : p ≠ 0) (hhost : setting settings "HOST" (.str "localhost".toList) = .str h)
    (hport : setting settings "PORT" (.int 8080) = .int p ∨
      setting settings "PORT" (.int 8080) = .str (intStr p) ∧ py.digitsFit (intDigits p) = true)
    (huh : url.host.getD "localhost".toList = h) (hup : url.port.getD 8080 = p) :
    (getConnectionParams py intOther floatOther settings >>= getNewConnection py) =
      (floatValue py floatOther (setting settings "TIMEOUT" (.float (defaultTimeout py))) >>= fun _ =>
        connect py (.str h) p) ∧
    (dialect.createConnectArgs py floatOther url >>= fun a => connect py (.str a.host) a.port) =
      (dialect.queryTimeout py floatOther url.query >>= fun _ => connect py (.str h) p) ∧
    connect py (.str h) p =
      if py.digitsFit (intDigits p) then .ok ⟨"http://".toList ++ h ++ [':'] ++ intStr p, false, false⟩
      else .error (.valueError none) := by
  refine ⟨?_, ?_, connect_str py h p⟩
  · rw [getConnectionParams_connection py intOther floatOther settings (intValue_port py intOther hport), hhost]
  · unfold dialect.createConnectArgs
    rw [hostOrDefault_eq hh huh, portOrDefault_eq hp hup]
    cases dialect.queryTimeout py floatOther url.query <;> rfl

end Connect

theorem db_9000_connections_agree :
    "db".toList ≠ [] ∧ (9000 : Int) ≠ 0 ∧
    setting [("HOST".toList, .str "db".toList), ("PORT".toList, .str "9000".toList)] "HOST" (.str "localhost".toList) =
      .str "db".toList ∧
    (setting [("HOST".toList, .str "db".toList), ("PORT".toList, .str "9000".toList)] "PORT" (.int 8080) = .int 9000 ∨
      setting [("HOST".toList, .str "db".toList), ("PORT".toList, .str "9000".toList)] "PORT" (.int 8080) =
        .str (intStr 9000) ∧ Py.ascii.digitsFit (intDigits 9000) = true) ∧
    (some "db".toList).getD "localhost".toList = "db".toList ∧ (some (9000 : Int)).getD 8080 = 9000 ∧
    ((getConnectionParams Py.ascii (fun _ => .error .typeError) (fun _ => .error .typeError)
        [("HOST".toList, .str "db".toList), ("PORT".toList, .str "9000".toList)] >>= getNewConnection Py.ascii) =
      (floatValue Py.ascii (fun _ => .error .typeError)
        (setting [("HOST".toList, .str "db".toList), ("PORT".toList, .str "9000".toList)] "TIMEOUT"
          (.float (defaultTimeout Py.ascii))) >>= fun _ => connect Py.ascii (.str "db".toList) 9000) ∧
    (dialect.createConnectArgs Py.ascii (fun _ => .error .typeError) ⟨some "db".toList, some 9000, []⟩ >>=
        fun a => connect Py.ascii (.str a.host) a.port) =
      (dialect.queryTimeout Py.ascii (fun _ => .error .typeError) [] >>= fun _ =>
        connect Py.ascii (.str "db".toList) 9000) ∧
    connect Py.ascii (.str "db".toList) 9000 =
      if Py.ascii.digitsFit (intDigits 9000) then .ok ⟨"http://db:9000".toList, false, false⟩
      else .error (.valueError none)) :=
  ⟨by decide, by decide, rfl, Or.inr ⟨by decide, by decide⟩, rfl, rfl,
    connections_agree Py.ascii _ _ [("HOST".toList, .str "db".toList), ("PORT".toList, .str "9000".toList)]
      ⟨some "db".toList, some 9000, []⟩ "db".toList 9000 (by decide) (by decide) rfl (Or.inr ⟨by decide, by decide⟩)
      rfl rfl⟩

end ormdb.django
