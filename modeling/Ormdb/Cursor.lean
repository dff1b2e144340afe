-- The DB-API cursor: the state the code keeps, `execute` with its one request
-- to the gateway and the materialization of the reply, and the fetch methods
-- that read the rows.
import Ormdb.Mutation
import Ormdb.PyFormat

namespace ormdb.dbapi

open ormdb.py

/-! ## The gateway -/

/-- A request to the gateway: the URL, and the payload that goes as JSON. -/
structure Request where
  url : List Char
  payload : PyVal
  deriving DecidableEq

/-- Why `response.json()` fails on a body: it is no JSON (`JSONDecodeError`),
it holds a number longer than the digit limit (`ValueError`), it nests deeper
than the recursion limit (`RecursionError`), or its bytes are no text in the
encoding the decoder detects (`UnicodeDecodeError`). -/
inductive DecodeFailure where
  | notJson
  | longNumber
  | deepNesting
  | badEncoding
  deriving DecidableEq

/-- The exception of each failure of the decoder. -/
def DecodeFailure.error : DecodeFailure → PyErr
  | .notJson => .jsonDecodeError
  | .longNumber => .valueError none
  | .deepNesting => .recursionError
  | .badEncoding => .unicodeDecodeError

/-- The body of a reply: empty, JSON (as decoded), or a body the decoder
fails on. -/
inductive Body where
  | empty
  | json (v : PyVal)
  | undecodable (f : DecodeFailure)

/-- Why `json.dumps` of a payload fails before `httpx` sends it: an int longer
than the digit limit (`ValueError`), a nesting deeper than the recursion limit
(`RecursionError`), or, from httpx 0.28 on, a float that is no finite number
(`ValueError`). -/
inductive EncodeFailure where
  | longInt
  | deepNesting
  | notFinite
  deriving DecidableEq

/-- The exception of each failure of the encoder. -/
def EncodeFailure.error : EncodeFailure → PyErr
  | .longInt => .valueError none
  | .deepNesting => .recursionError
  | .notFinite => .valueError none

/-- What `httpx` does with a request: the transport fails (an
`httpx.HTTPError` out of `post`), a status and a body come back, or the
payload cannot be encoded and nothing is sent. -/
inductive Reply where
  | failed (msg : List Char)
  | answered (status : Nat) (body : Body)
  | unencodable (f : EncodeFailure)

/-! ## The state -/

/-- The cursor as the code keeps it. `description` holds the column names; the
other six entries of each of its tuples are `None`. `rowcount` and the last
inserted id hold whatever the reply had there. -/
structure Cursor where
  description : Option (List (List Char))
  rowcount : PyVal
  arraysize : Int
  rows : List (List PyVal)
  rowIndex : Nat
  closed : Bool
  lastInsertedId : PyVal
  baseUrl : List Char

/-- `Cursor(connection)`. -/
def Cursor.init (baseUrl : List Char) : Cursor :=
  ⟨none, .int (-1), 1, [], 0, false, .none, baseUrl⟩

/-- The reset at the start of `execute`. -/
def Cursor.reset (c : Cursor) : Cursor :=
  { c with rows := [], rowIndex := 0, description := none, rowcount := .int (-1),
           lastInsertedId := .none }

/-- The cursor, and every request it has given `httpx` to post. -/
structure Session where
  cursor : Cursor
  posted : List Request

/-- A new cursor of the connection, with nothing posted yet. -/
def Session.init (baseUrl : List Char) : Session := ⟨Cursor.init baseUrl, []⟩

/-- The methods of the cursor: effects on the session, and Python exceptions. -/
abbrev CursorM := EStateM PyErr Session

/-- A step that may raise. -/
def liftExcept {α : Type} : Except PyErr α → CursorM α
  | .ok a => pure a
  | .error e => throw e

/-- An assignment to the cursor. -/
def setCursor (f : Cursor → Cursor) : CursorM Unit :=
  modify fun s => { s with cursor := f s.cursor }

/-! ## Payloads -/

/-- `{"limit": limit or 100, "offset": offset or 0}`: `or` takes the default
for `None` and for `0`. -/
def pagination (limit offset : Option Int) : PyVal :=
  let orElse (x : Option Int) (d : Int) : Int := match x with
    | some n => if n ≠ 0 then n else d
    | none => d
  .dict [("limit".toList, .int (orElse limit 100)), ("offset".toList, .int (orElse offset 0))]

/-- The payload of `_execute_query`. -/
def queryPayload (sel : Select) : PyVal :=
  .dict ([("root_entity".toList, .str sel.entity)]
    ++ (if sel.fields ≠ [] ∧ sel.fields ≠ ["*".toList] then
        [("fields".toList, .list (sel.fields.map .str))] else [])
    ++ (match sel.filterExpr with
        | some f => if f.truthy then [("filter".toList, .dict [("expression".toList, f)])] else []
        | none => [])
    ++ (match sel.orderBy with
        | some o => if o.truthy then [("order_by".toList, o)] else []
        | none => [])
    ++ (if sel.limit.isSome ∨ sel.offset.isSome then
        [("pagination".toList, pagination sel.limit sel.offset)] else []))

/-- The `data` list of a mutation: one `{field, value}` per entry of the dict,
whose values are converted in order. -/
def dataList (py : Py) (data : List (List Char × PyVal)) : Except PyErr PyVal :=
  .list <$> data.mapM fun kv => do
    let v ← convertValue py kv.2
    pure (.dict [("field".toList, .str kv.1), ("value".toList, v)])

/-- An identifier as the payload carries it, a list of ints. -/
def idList (bytes : List Int) : PyVal := .list (bytes.map .int)

/-- The payload of `_execute_insert`. -/
def insertPayload (py : Py) (entity : List Char) (data : List (List Char × PyVal)) : Except PyErr PyVal := do
  let d ← dataList py data
  pure (.dict [("Insert".toList, .dict [("entity".toList, .str entity), ("data".toList, d)])])

/-- The payload of `_execute_update`. -/
def updatePayload (py : Py) (entity : List Char) (id : List Int) (data : List (List Char × PyVal)) :
    Except PyErr PyVal := do
  let d ← dataList py data
  pure (.dict [("Update".toList,
    .dict [("entity".toList, .str entity), ("id".toList, idList id), ("data".toList, d)])])

/-- The payload of `_execute_delete`. -/
def deletePayload (entity : List Char) (id : List Int) : PyVal :=
  .dict [("Delete".toList, .dict [("entity".toList, .str entity), ("id".toList, idList id)])]

section Execute

variable (py : Py) (post : Request → Reply)

/-! ## Talking to the gateway -/

/-- `_client.post(url, json=payload)`, `raise_for_status()` and
`response.json()`: the request is posted, and the body of a 2xx reply
decoded; the transport's failures are `httpx.HTTPError`s. -/
def postJson (path : String) (payload : PyVal) : CursorM PyVal := do
  let s ← get
  let req : Request := ⟨s.cursor.baseUrl ++ path.toList, payload⟩
  set { s with posted := s.posted ++ [req] }
  match post req with
  | .failed msg => throw (.httpError (.transport msg))
  | .answered status body =>
    if 200 ≤ status ∧ status < 300 then
      match body with
      | .json v => pure v
      | .empty => throw .jsonDecodeError
      | .undecodable f => throw f.error
    else throw (.httpError (.status status))
  | .unencodable f => throw f.error

/-- The rows of a query reply as `_execute_query` gathers them: the `rows` of
each block of `data.entities`, block by block. -/
def queryEntities (result : PyVal) : Except PyErr (List PyVal) := do
  let data ← result.get "data".toList (.dict [])
  let blocks ← data.get "entities".toList (.list []) >>= PyVal.iter
  PyVal.extendEach "rows".toList blocks

/-- `_execute_query`. The description is set from the first row before the
rows are converted. -/
def executeQuery (sql : List Char) : CursorM Unit := do
  let sel ← liftExcept (parseSelect py sql)
  let result ← postJson post "/query" (queryPayload sel)
  let entities ← liftExcept (queryEntities result)
  match entities with
  | firstRow :: _ =>
    let keys ← liftExcept firstRow.keys
    setCursor fun c => { c with description := some keys }
    let rows ← liftExcept (entities.mapM PyVal.values)
    setCursor fun c => { c with rows := rows }
  | [] => setCursor fun c => { c with rows := [] }
  setCursor fun c => { c with rowcount := .int c.rows.length }

/-- `_execute_insert`. The row count is set before the inserted ids are read. -/
def executeInsert (sql : List Char) : CursorM Unit := do
  let (entity, data) ← liftExcept (parseInsert py sql)
  let payload ← liftExcept (insertPayload py entity data)
  let result ← postJson post "/mutate" payload
  let affected ← liftExcept (result.get "affected".toList (.int 0))
  setCursor fun c => { c with rowcount := affected }
  let insertedIds ← liftExcept (result.get "inserted_ids".toList (.list []))
  if insertedIds.truthy then
    let first ← liftExcept insertedIds.first
    setCursor fun c => { c with lastInsertedId := first }

/-- `_execute_update`. -/
def executeUpdate (sql : List Char) : CursorM Unit := do
  let (entity, entityId, data) ← liftExcept (parseUpdate py sql)
  let id ← liftExcept (hexToUuid py entityId)
  let payload ← liftExcept (updatePayload py entity id data)
  let result ← postJson post "/mutate" payload
  let affected ← liftExcept (result.get "affected".toList (.int 0))
  setCursor fun c => { c with rowcount := affected }

/-- `_execute_delete`. -/
def executeDelete (sql : List Char) : CursorM Unit := do
  let (entity, entityId) ← liftExcept (parseDelete py sql)
  let id ← liftExcept (hexToUuid py entityId)
  let result ← postJson post "/mutate" (deletePayload entity id)
  let affected ← liftExcept (result.get "affected".toList (.int 0))
  setCursor fun c => { c with rowcount := affected }

/-- The dispatch of `execute` on the leading keyword of the upper-cased text. -/
def dispatch (operation : List Char) : CursorM Unit :=
  let up := upper py operation
  if "SELECT".toList.isPrefixOf up then executeQuery py post operation
  else if "INSERT".toList.isPrefixOf up then executeInsert py post operation
  else if "UPDATE".toList.isPrefixOf up then executeUpdate py post operation
  else if "DELETE".toList.isPrefixOf up then executeDelete py post operation
  else if "--".toList.isPrefixOf up then pure ()
  else throw (.programmingError ("Unsupported operation: ".toList ++ operation))

/-- The part of `execute` after the reset, from `# Parse and execute the
operation` on: the text stripped and formatted with the parameters when they
are truthy, the dispatch, and an HTTP error of the dispatch turned into an
`OperationalError`. -/
def runOperation (operation : List Char) (parameters : Option (List (List Char × PyVal))) :
    CursorM Unit := do
  let operation := strip py operation
  let operation ← match parameters with
    | some ps@(_ :: _) => liftExcept (pyFormat py ps operation)
    | _ => pure operation
  tryCatch (dispatch py post operation) fun e => match e with
    | .httpError h => throw (.operationalError h)
    | e => throw e

/-- `execute(operation, parameters)`: a closed cursor refuses; otherwise the
result is reset and the operation run. -/
def execute (operation : List Char) (parameters : Option (List (List Char × PyVal))) :
    CursorM Unit := do
  if (← get).cursor.closed then throw (.interfaceError "Cursor is closed".toList)
  setCursor Cursor.reset
  runOperation py post operation parameters

/-- `executemany`: `execute` once per set of parameters. -/
def executemany (operation : List Char) (seqOfParameters : List (List (List Char × PyVal))) :
    CursorM Unit :=
  seqOfParameters.forM fun ps => execute py post operation (some ps)

end Execute

/-! ## Fetching -/

/-- `xs[i:j]`: a negative bound counts from the end, and both bounds are
clamped to the list. -/
def pySlice {α : Type} (xs : List α) (i j : Int) : List α :=
  let bound (k : Int) : Nat := (if k < 0 then max (k + xs.length) 0 else min k xs.length).toNat
  (xs.take (bound j)).drop (bound i)

/-- `fetchone`. -/
def fetchone : CursorM (Option (List PyVal)) := do
  let c := (← get).cursor
  match c.rows[c.rowIndex]? with
  | some row => do
    setCursor fun c => { c with rowIndex := c.rowIndex + 1 }
    pure (some row)
  | none => pure none

/-- `fetchmany(size)`, by default `arraysize` rows. -/
def fetchmany (size : Option Int) : CursorM (List (List PyVal)) := do
  let c := (← get).cursor
  let rows := pySlice c.rows c.rowIndex (c.rowIndex + size.getD c.arraysize)
  setCursor fun c => { c with rowIndex := c.rowIndex + rows.length }
  pure rows

/-- `fetchall`. -/
def fetchall : CursorM (List (List PyVal)) := do
  let c := (← get).cursor
  setCursor fun c => { c with rowIndex := c.rows.length }
  pure (c.rows.drop c.rowIndex)

/-- `__next__`: the next row, or `StopIteration`. -/
def next : CursorM (List PyVal) := do
  match ← fetchone with
  | some row => pure row
  | none => throw .stopIteration

/-- `close`. -/
def close : CursorM Unit := setCursor fun c => { c with closed := true, rows := [] }

end ormdb.dbapi
