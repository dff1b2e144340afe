-- The HTTP client of the gateway and the Django backend's clause renderer:
-- the payloads of `OrmdbClient.query` and of its async twin, the mutations,
-- the client's own Value Codec and identifier decoder, and the results read
-- back from a reply.
import Ormdb.Cursor

namespace ormdb.client

open ormdb.py ormdb.dbapi

/-! ## Payloads -/

/-- The payload that `query` builds: each optional part when it is truthy,
and the pagination when a limit or an offset is given. -/
def queryPayload (entity : List Char) (fields : Option (List (List Char))) (filter : Option PyVal)
    (includes : Option (List PyVal)) (orderBy : Option (List PyVal)) (limit offset : Option Int) :
    PyVal :=
  let part (key : String) (v : Option PyVal) : List (List Char × PyVal) :=
    match v with
    | some v => if v.truthy then [(key.toList, v)] else []
    | none => []
  .dict ([("root_entity".toList, .str entity)]
    ++ part "fields" ((fields.map fun fs => PyVal.list (fs.map .str)))
    ++ (match filter with
        | some f => if f.truthy then [("filter".toList, .dict [("expression".toList, f)])] else []
        | none => [])
    ++ part "includes" (includes.map .list)
    ++ part "order_by" (orderBy.map .list)
    ++ (if limit.isSome ∨ offset.isSome then [("pagination".toList, pagination limit offset)] else []))

/-- The payload of `OrmdbClient.query`. -/
def OrmdbClient.queryPayload (entity : List Char) (fields : Option (List (List Char)))
    (filter : Option PyVal) (includes : Option (List PyVal)) (orderBy : Option (List PyVal))
    (limit offset : Option Int) : PyVal :=
  client.queryPayload entity fields filter includes orderBy limit offset

/-- The payload of `AsyncOrmdbClient.query`, the same code as the sync one. -/
def AsyncOrmdbClient.queryPayload (entity : List Char) (fields : Option (List (List Char)))
    (filter : Option PyVal) (includes : Option (List PyVal)) (orderBy : Option (List PyVal))
    (limit offset : Option Int) : PyVal :=
  client.queryPayload entity fields filter includes orderBy limit offset

/-! ## The client's Value Codec -/

/-- `OrmdbClient._convert_value`: the scalar tags as the cursor has them, and
besides bytes as their integers and lists tagged by their first element; the
`str()` of the other values, and of each item of the other lists, may raise. -/
def convertValue (py : Py) : PyVal → Except PyErr PyVal
  | .none => .ok (tagged "Null" .none)
  | .bool b => .ok (tagged "Bool" (.bool b))
  | .int i => .ok (if -2 ^ 31 ≤ i ∧ i < 2 ^ 31 then tagged "Int32" (.int i) else tagged "Int64" (.int i))
  | .float x => .ok (tagged "Float64" (.float x))
  | .str s => .ok (tagged "String" (.str s))
  | .bytes bs => .ok (tagged "Bytes" (.list (bs.map fun b => .int b.toNat)))
  | .list [] => .ok (tagged "StringArray" (.list []))
  | .list (x :: xs) =>
    match x with
    | .bool _ => .ok (tagged "BoolArray" (.list (x :: xs)))
    | .int _ => .ok (tagged "Int64Array" (.list (x :: xs)))
    | .float _ => .ok (tagged "Float64Array" (.list (x :: xs)))
    | .str _ => .ok (tagged "StringArray" (.list (x :: xs)))
    | _ => (fun ss => tagged "StringArray" (.list (ss.map .str))) <$> (x :: xs).mapM (PyVal.pyStr py)
  | v => (fun s => tagged "String" (.str s)) <$> PyVal.pyStr py v

/-- `OrmdbClient._hex_to_uuid`: no hyphen is removed; 32 characters, each
pair read by `int(pair, 16)`. -/
def hexToUuid (py : Py) (hexStr : List Char) : Except PyErr (List Int) :=
  if hexStr.length ≠ 32 then
    .error (.valueError (some ("Invalid UUID hex string length: ".toList ++ intStr hexStr.length)))
  else (hexPairs hexStr).mapM fun p =>
    match py.toInt 16 p with
    | some n => .ok n
    | none => .error (.valueError none)

/-! ## Results -/

/-- `QueryResult`. -/
structure QueryResult where
  entities : List PyVal
  edges : List PyVal
  totalEntities : PyVal
  totalEdges : PyVal
  hasMore : PyVal

/-- `QueryResult.from_response`: the rows of the entity blocks and the edges of
the edge blocks, each flattened, and the counts of `meta` with defaults. -/
def QueryResult.fromResponse (response : PyVal) : Except PyErr QueryResult := do
  let data ← response.get "data".toList (.dict [])
  let meta ← response.get "meta".toList (.dict [])
  let entities ← PyVal.extendEach "rows".toList (← (← data.get "entities".toList (.list [])).iter)
  let edges ← PyVal.extendEach "edges".toList (← (← data.get "edges".toList (.list [])).iter)
  return {
    entities := entities
    edges := edges
    totalEntities := ← meta.get "total_entities".toList (.int entities.length)
    totalEdges := ← meta.get "total_edges".toList (.int edges.length)
    hasMore := ← meta.get "has_more".toList (.bool false) }

/-- `MutationResult`. -/
structure MutationResult where
  success : PyVal
  affected : PyVal
  insertedIds : PyVal

/-- `MutationResult.from_response`. -/
def MutationResult.fromResponse (response : PyVal) : Except PyErr MutationResult := do
  return {
    success := ← response.get "success".toList (.bool false)
    affected := ← response.get "affected".toList (.int 0)
    insertedIds := ← response.get "inserted_ids".toList (.list []) }

/-! ## Calling the gateway -/

section Gateway

variable (post : Request → Reply) (strErr : HttpError → List Char) (baseUrl : List Char)

/-- The `try` block of `query` and of `_mutate` with its two handlers: the post,
`raise_for_status()` and the body of a 2xx reply read by `read`. For a status
outside 2xx the body, `{}` when empty, gives the `message` (by default
`str(e)`) and the `code` of the error `raised`; a failure of the transport is
a `ConnectionError` whose text starts with `failed`. -/
def callGateway {α : Type} (raised : PyVal → PyVal → PyErr) (failed : List Char) (url : List Char)
    (payload : PyVal) (read : PyVal → Except PyErr α) : Except PyErr α :=
  match post ⟨url, payload⟩ with
  | .failed msg => .error (.connectionError (failed ++ strErr (.transport msg)))
  | .answered status body =>
    if 200 ≤ status ∧ status < 300 then
      match body with
      | .json v => read v
      | .empty => .error .jsonDecodeError
      | .undecodable f => .error f.error
    else do
      let errorBody ← match body with
        | .empty => .ok (.dict [])
        | .json v => .ok v
        | .undecodable f => .error f.error
      let message ← errorBody.get "message".toList (.str (strErr (.status status)))
      let code ← errorBody.get "code".toList .none
      .error (raised message code)
  | .unencodable f => .error f.error

/-- `OrmdbClient.query`. -/
def OrmdbClient.query (entity : List Char) (fields : Option (List (List Char))) (filter : Option PyVal)
    (includes : Option (List PyVal)) (orderBy : Option (List PyVal)) (limit offset : Option Int) :
    Except PyErr QueryResult :=
  callGateway post strErr .queryError "Query failed: ".toList (baseUrl ++ "/query".toList)
    (OrmdbClient.queryPayload entity fields filter includes orderBy limit offset) QueryResult.fromResponse

/-- `AsyncOrmdbClient.query`, awaited. -/
def AsyncOrmdbClient.query (entity : List Char) (fields : Option (List (List Char))) (filter : Option PyVal)
    (includes : Option (List PyVal)) (orderBy : Option (List PyVal)) (limit offset : Option Int) :
    Except PyErr QueryResult :=
  callGateway post strErr .queryError "Query failed: ".toList (baseUrl ++ "/query".toList)
    (AsyncOrmdbClient.queryPayload entity fields filter includes orderBy limit offset) QueryResult.fromResponse

/-- `OrmdbClient._mutate`. -/
def OrmdbClient.mutate (payload : PyVal) : Except PyErr MutationResult :=
  callGateway post strErr .mutationError "Mutation failed: ".toList (baseUrl ++ "/mutate".toList) payload
    MutationResult.fromResponse

/-- The `data` list of the client's mutations, by its own codec. -/
def dataList (py : Py) (data : List (List Char × PyVal)) : Except PyErr PyVal :=
  .list <$> data.mapM fun kv => do
    let v ← convertValue py kv.2
    pure (.dict [("field".toList, .str kv.1), ("value".toList, v)])

/-- `OrmdbClient.insert`: the payload is built before anything is posted. -/
def OrmdbClient.insert (py : Py) (entity : List Char) (data : List (List Char × PyVal)) :
    Except PyErr MutationResult := do
  let d ← dataList py data
  OrmdbClient.mutate post strErr baseUrl
    (.dict [("Insert".toList, .dict [("entity".toList, .str entity), ("data".toList, d)])])

/-- `OrmdbClient.update`: the identifier is decoded, then the data converted,
before anything is posted. -/
def OrmdbClient.update (py : Py) (entity id : List Char) (data : List (List Char × PyVal)) :
    Except PyErr MutationResult := do
  let bytes ← hexToUuid py id
  let d ← dataList py data
  OrmdbClient.mutate post strErr baseUrl (.dict [("Update".toList, .dict [("entity".toList, .str entity),
    ("id".toList, idList bytes), ("data".toList, d)])])

/-- `OrmdbClient.delete`. -/
def OrmdbClient.delete (py : Py) (entity id : List Char) : Except PyErr MutationResult := do
  let bytes ← hexToUuid py id
  OrmdbClient.mutate post strErr baseUrl
    (.dict [("Delete".toList, .dict [("entity".toList, .str entity), ("id".toList, idList bytes)])])

/-- `OrmdbClient.upsert`: an empty or absent identifier goes as `None`. -/
def OrmdbClient.upsert (py : Py) (entity : List Char) (data : List (List Char × PyVal))
    (id : Option (List Char)) : Except PyErr MutationResult := do
  let idValue ← match id with
    | some i@(_ :: _) => (fun bytes => idList bytes) <$> hexToUuid py i
    | _ => pure .none
  let d ← dataList py data
  OrmdbClient.mutate post strErr baseUrl (.dict [("Upsert".toList, .dict [("entity".toList, .str entity),
    ("id".toList, idValue), ("data".toList, d)])])

end Gateway

/-! ## Django -/

/-- `DatabaseSchemaEditor.quote_value`: a str in single quotes as it is, `None`
as `NULL`, a bool as `TRUE` or `FALSE`, and anything else by `str()`, which
may raise. -/
def quoteValue (py : Py) : PyVal → Except PyErr (List Char)
  | .str s => .ok ('\'' :: s ++ ['\''])
  | .none => .ok "NULL".toList
  | .bool b => .ok (if b then "TRUE".toList else "FALSE".toList)
  | v => PyVal.pyStr py v

/-- An int is written by `str()`, within the digit limit; past it,
`quote_value` raises `ValueError`. -/
theorem quoteValue_int (py : Py) (i : Int) :
    quoteValue py (.int i) = if py.digitsFit (intDigits i) then .ok (intStr i) else .error (.valueError none) :=
  PyVal.pyStr_int py i

@[simp] theorem quoteValue_float (py : Py) (x : PyFloat) : quoteValue py (.float x) = .ok (py.reprFloat x) := by
  show PyVal.pyStr py (.float x) = _
  rw [PyVal.pyStr_of_scalar py (fun _ => PyVal.noConfusion) (fun _ => PyVal.noConfusion)
    (fun _ => PyVal.noConfusion)]
  show Except.ok (PyVal.repr py (.float x)) = _
  rw [PyVal.repr]

/-- `DatabaseOperations.limit_offset_sql(low_mark, high_mark)`. -/
def limitOffsetSql (lowMark : Int) (highMark : Option Int) : List Char :=
  let sql := match highMark with
    | some h => " LIMIT ".toList ++ intStr (h - lowMark)
    | none => []
  if lowMark ≠ 0 then
    (if highMark.isNone then " LIMIT -1".toList else sql) ++ " OFFSET ".toList ++ intStr lowMark
  else sql

/-- A limit of 0 is sent as 100, by both clients and by the cursor, which
reads it from the clause Django renders for the slice `[5:5]`. -/
theorem zero_limit_sent_as_hundred (entity : List Char) :
    OrmdbClient.queryPayload entity none none none none (some 0) none =
      .dict [("root_entity".toList, .str entity),
        ("pagination".toList, .dict [("limit".toList, .int 100), ("offset".toList, .int 0)])] ∧
    AsyncOrmdbClient.queryPayload entity none none none none (some 0) none =
      OrmdbClient.queryPayload entity none none none none (some 0) none ∧
    limitOffsetSql 5 (some 5) = " LIMIT 0 OFFSET 5".toList ∧
    ((parseSelect Py.ascii ("SELECT * FROM t".toList ++ limitOffsetSql 5 (some 5))).map dbapi.queryPayload =
      .ok (.dict [("root_entity".toList, .str "t".toList),
        ("pagination".toList, .dict [("limit".toList, .int 100), ("offset".toList, .int 5)])])) :=
  ⟨rfl, rfl, by decide, by decide⟩

end ormdb.client
