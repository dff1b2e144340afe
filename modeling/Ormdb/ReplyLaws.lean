-- The replies of the gateway as the two sides read them: the exception each
-- call of the client raises for a reply outside 2xx, by the reply's body, and
-- the rows of a query reply, flattened alike by the cursor's `_execute_query`
-- and by `QueryResult.from_response`.
import Ormdb.SelectLaws
import Ormdb.CursorRuns

namespace ormdb.client

open ormdb.py ormdb.dbapi

/-! ## Error replies of the client -/

section Gateway

variable (post : Request → Reply) (strErr : HttpError → List Char) (baseUrl : List Char)

/-- What the handler of an `HTTPStatusError` ends in, by the body of the reply:
`raised` with the body's `message` (by default `str(e)`) and `code` when the body
is empty, read as `{}`, or a JSON object; the error of `.get` for other JSON; and
the decoder's error for a body it fails on. -/
def statusError (raised : PyVal → PyVal → PyErr) (status : Nat) : Body → PyErr
  | .empty => raised (.str (strErr (.status status))) .none
  | .json (.dict kvs) =>
    raised ((kvs.lookup "message".toList).getD (.str (strErr (.status status))))
      ((kvs.lookup "code".toList).getD .none)
  | .json _ => .attributeError
  | .undecodable f => f.error

/-- The shared `try` block raises `statusError` for every reply outside 2xx. -/
theorem callGateway_status {α : Type} (raised : PyVal → PyVal → PyErr) (failed url : List Char)
    (payload : PyVal) (read : PyVal → Except PyErr α) {status : Nat} {body : Body}
    (hr : post ⟨url, payload⟩ = .answered status body) (hs : ¬(200 ≤ status ∧ status < 300)) :
    callGateway post strErr raised failed url payload read = .error (statusError strErr raised status body) := by
  unfold callGateway
  rw [hr]
  dsimp only
  rw [if_neg hs]
  rcases body with _ | ⟨_ | _ | _ | _ | _ | _ | _ | kvs | _⟩ | f <;> rfl

/-- Each call of the client that posts, answered `status` with `body`, raises
what `err` makes of its own exception class: `query` and the async `query`
with `QueryError`, `_mutate` with `MutationError`. -/
def AnsweredRaises (status : Nat) (body : Body) (err : (PyVal → PyVal → PyErr) → PyErr) : Prop :=
  (∀ entity fields filter includes orderBy limit offset,
    post ⟨baseUrl ++ "/query".toList,
      OrmdbClient.queryPayload entity fields filter includes orderBy limit offset⟩ = .answered status body →
    OrmdbClient.query post strErr baseUrl entity fields filter includes orderBy limit offset =
      .error (err .queryError)) ∧
  (∀ entity fields filter includes orderBy limit offset,
    post ⟨baseUrl ++ "/query".toList,
      AsyncOrmdbClient.queryPayload entity fields filter includes orderBy limit offset⟩ = .answered status body →
    AsyncOrmdbClient.query post strErr baseUrl entity fields filter includes orderBy limit offset =
      .error (err .queryError)) ∧
  (∀ payload, post ⟨baseUrl ++ "/mutate".toList, payload⟩ = .answered status body →
    OrmdbClient.mutate post strErr baseUrl payload = .error (err .mutationError))

theorem answeredRaises_statusError {status : Nat} (body : Body) (hs : ¬(200 ≤ status ∧ status < 300)) :
    AnsweredRaises post strErr baseUrl status body (statusError strErr · status body) :=
  ⟨fun _ _ _ _ _ _ _ hr => callGateway_status post strErr _ _ _ _ _ hr hs,
   fun _ _ _ _ _ _ _ hr => callGateway_status post strErr _ _ _ _ _ hr hs,
   fun _ hr => callGateway_status post strErr _ _ _ _ _ hr hs⟩

/-- A reply outside 2xx whose body is empty or a JSON object makes `query`, the
async `query` and `_mutate` raise their own error, with the body's `message`
(by default `str(e)`) and `code` (by default `None`): never a `ConnectionError`. -/
theorem error_replies_raise_domain_errors {status : Nat} (hs : ¬(200 ≤ status ∧ status < 300))
    {body : Body} {kvs : List (List Char × PyVal)} (hb : body = .empty ∧ kvs = [] ∨ body = .json (.dict kvs)) :
    AnsweredRaises post strErr baseUrl status body fun raised =>
      raised ((kvs.lookup "message".toList).getD (.str (strErr (.status status))))
        ((kvs.lookup "code".toList).getD .none) := by
  rcases hb with ⟨rfl, rfl⟩ | rfl <;> exact answeredRaises_statusError post strErr baseUrl _ hs

/-- The body of a 404 that names its error. -/
def notFoundBody : List (List Char × PyVal) :=
  [("message".toList, .str "Entity not found".toList), ("code".toList, .str "NOT_FOUND".toList)]

theorem error_replies_raise_not_found :
    ¬(200 ≤ 404 ∧ 404 < 300) ∧
    OrmdbClient.query (fun _ => .answered 404 (.json (.dict notFoundBody))) (fun _ => "404 Not Found".toList) []
        "User".toList none none none none none none =
      .error (.queryError (.str "Entity not found".toList) (.str "NOT_FOUND".toList)) ∧
    OrmdbClient.mutate (fun _ => .answered 404 (.json (.dict notFoundBody))) (fun _ => "404 Not Found".toList) []
        (.dict []) =
      .error (.mutationError (.str "Entity not found".toList) (.str "NOT_FOUND".toList)) :=
  have h := @error_replies_raise_domain_errors (fun _ => .answered 404 (.json (.dict notFoundBody)))
    (fun _ => "404 Not Found".toList) [] 404 (by decide) _ notFoundBody (.inr rfl)
  ⟨by decide, h.1 _ _ _ _ _ _ _ rfl, h.2.2 _ rfl⟩

/-- A 500 with no body is a `QueryError` with `str(e)` and no code, not a
`ConnectionError`. -/
theorem empty_error_body_query_error :
    OrmdbClient.query (fun _ => .answered 500 .empty) (fun _ => "500 Internal Server Error".toList) []
        "User".toList none none none none none none =
      .error (.queryError (.str "500 Internal Server Error".toList) .none) := rfl

end Gateway

end ormdb.client

namespace ormdb.dbapi

open ormdb.py

/-! ## The rows of a query reply -/

/-- A query reply of the shape both materializers read: `data.entities` is the
list `blocks`, and the `rows` of each block, `[]` when absent, is the list of
objects `rows` holds for that block. -/
structure RowsReply (body : PyVal) (blocks : List PyVal) (rows : List (List (List (List Char × PyVal)))) :
    Prop where
  /-- `body.get("data", {}).get("entities", [])` is the list of blocks. -/
  entities : ∃ data, body.get "data".toList (.dict []) = .ok data ∧
    data.get "entities".toList (.list []) = .ok (.list blocks)
  /-- Block by block, `block.get("rows", [])` is a list of objects. -/
  blockRows : List.Forall₂ (fun block r => block.get "rows".toList (.list []) = .ok (.list (r.map .dict)))
    blocks rows

/-- The loop of `extendEach` over blocks of rows appends their rows, block by
block and row by row, to what it starts from. -/
theorem extendEach_rows_from {blocks : List PyVal} {rows : List (List (List (List Char × PyVal)))}
    (h : List.Forall₂ (fun block r => block.get "rows".toList (.list []) = .ok (.list (r.map .dict))) blocks rows)
    (acc : List PyVal) :
    blocks.foldlM (fun acc block => do
      let items ← block.get "rows".toList (.list [])
      let items ← items.iter
      pure (acc ++ items)) acc = .ok (acc ++ rows.flatten.map .dict) := by
  induction h generalizing acc with
  | nil => simp [List.foldlM]
  | cons hb _ ih =>
    simp only [List.foldlM_cons, hb, ih, List.flatten_cons, List.map_append, ← List.append_assoc]
    rfl

theorem extendEach_rows {blocks : List PyVal} {rows : List (List (List (List Char × PyVal)))}
    (hb : RowsReply body blocks rows) : PyVal.extendEach "rows".toList blocks = .ok (rows.flatten.map .dict) :=
  extendEach_rows_from hb.blockRows []

/-- The rows `_execute_query` gathers from a reply of rows in blocks. -/
theorem queryEntities_rows {body : PyVal} {blocks : List PyVal} {rows : List (List (List (List Char × PyVal)))}
    (hb : RowsReply body blocks rows) : queryEntities body = .ok (rows.flatten.map .dict) := by
  obtain ⟨data, hdata, hent⟩ := hb.entities
  simp only [queryEntities, hdata, hent, ok_bind, PyVal.iter, extendEach_rows hb]

/-- `[tuple(row.values()) for row in entities]` over rows that are objects. -/
theorem mapM_values_dicts (rs : List (List (List Char × PyVal))) :
    (rs.map .dict).mapM PyVal.values = .ok (rs.map (·.map Prod.snd)) := by
  induction rs with
  | nil => rfl
  | cons r rs ih =>
    rw [List.map_cons, List.mapM_cons, ih]
    rfl

/-- A row's values are its lookups at its own keys, when these are distinct, as
the keys of a dict are. -/
theorem values_eq_lookup (r : List (List Char × PyVal)) (h : (r.map Prod.fst).Nodup) :
    r.map Prod.snd = (r.map Prod.fst).map fun k => (r.lookup k).getD .none := by
  induction r with
  | nil => rfl
  | cons kv r ih =>
    simp only [List.map_cons, List.nodup_cons] at h ⊢
    refine congrArg₂ List.cons (by rw [List.lookup_cons_self]; rfl) ?_
    rw [ih h.2]
    refine List.map_congr_left fun k hk => ?_
    have hne : (k == kv.1) = false := by
      simp only [beq_eq_false_iff_ne]
      rintro rfl
      exact h.1 hk
    rw [List.lookup_cons, hne]

theorem bind_eq_ok {ε α β : Type} {x : Except ε α} {f : α → Except ε β} {b : β} :
    x >>= f = .ok b ↔ ∃ a, x = .ok a ∧ f a = .ok b := by
  cases x with
  | error e => exact ⟨fun h => (nomatch h), fun ⟨_, h, _⟩ => (nomatch h)⟩
  | ok a => simp [ok_bind]

/-- Whenever `from_response` returns, its entities are the rows of the blocks. -/
theorem fromResponse_entities {body : PyVal} {blocks : List PyVal} {rows : List (List (List (List Char × PyVal)))}
    (hb : RowsReply body blocks rows) {r : client.QueryResult} (h : client.QueryResult.fromResponse body = .ok r) :
    r.entities = rows.flatten.map .dict := by
  obtain ⟨data, hdata, hent⟩ := hb.entities
  simp only [client.QueryResult.fromResponse, hdata, hent, ok_bind, PyVal.iter, extendEach_rows hb,
    bind_eq_ok] at h
  obtain ⟨_, -, _, -, _, -, _, -, _, -, _, -, _, -, h⟩ := h
  cases h
  rfl

section Rows

variable (py : Py) (post : Request → Reply)

/-- A 2xx reply with a JSON body: `postJson` returns the body, having posted its
one request. -/
theorem postJson_json {path : String} {payload v : PyVal} {status : Nat} (s : Session)
    (hr : post ⟨s.cursor.baseUrl ++ path.toList, payload⟩ = .answered status (.json v))
    (hs : 200 ≤ status ∧ status < 300) :
    postJson post path payload s =
      .ok v { s with posted := s.posted ++ [⟨s.cursor.baseUrl ++ path.toList, payload⟩] } := by
  rw [postJson, bind_get, bind_set, hr]
  dsimp only
  rw [if_pos hs]
  rfl

/-- `_execute_query` on a reply of rows, from a cursor with no description: the
description from the first row's keys, the rows' values, and their count. -/
theorem executeQuery_rows {sql : List Char} {sel : Select} (hp : parseSelect py sql = .ok sel) (s : Session)
    (hd : s.cursor.description = none) {status : Nat} {body : PyVal} {blocks : List PyVal}
    {rows : List (List (List (List Char × PyVal)))}
    (hr : post ⟨s.cursor.baseUrl ++ "/query".toList, queryPayload sel⟩ = .answered status (.json body))
    (hs : 200 ≤ status ∧ status < 300) (hb : RowsReply body blocks rows) :
    executeQuery py post sql s = .ok () ⟨{ s.cursor with
        description := rows.flatten.head?.map (·.map Prod.fst),
        rows := rows.flatten.map (·.map Prod.snd), rowcount := .int rows.flatten.length },
      s.posted ++ [⟨s.cursor.baseUrl ++ "/query".toList, queryPayload sel⟩]⟩ := by
  unfold executeQuery
  rw [hp, bind_liftExcept_ok, bind_ok (postJson_json post s hr hs)]
  simp only [queryEntities_rows hb, bind_liftExcept_ok, mapM_values_dicts]
  cases rows.flatten with
  | nil => simp [hd]
  | cons r rs => simp [PyVal.keys]

/-- `[tuple(row.values()) for row in entities]` raises `AttributeError` at
the first row that is no object. -/
theorem mapM_values_error : ∀ {rows : List PyVal}, (∃ v ∈ rows, ∀ d, v ≠ .dict d) →
    rows.mapM PyVal.values = .error .attributeError
  | [], ⟨_, hv, _⟩ => absurd hv (List.not_mem_nil _)
  | .dict kvs :: rows, ⟨v, hv, hnd⟩ => by
    rcases List.mem_cons.mp hv with rfl | hv
    · exact absurd rfl (hnd kvs)
    · rw [List.mapM_cons, show PyVal.values (.dict kvs) = .ok (kvs.map Prod.snd) from rfl, ok_bind,
        mapM_values_error ⟨v, hv, hnd⟩]
      rfl
  | .none :: _, _ | .bool _ :: _, _ | .int _ :: _, _ | .float _ :: _, _ | .str _ :: _, _ | .bytes _ :: _, _
  | .list _ :: _, _ | .other _ _ :: _, _ => rfl

/-- `_execute_query` on a reply whose rows start with an object and hold one
that is not: the description is set from the first row, then `row.values()`
raises. -/
theorem executeQuery_partial {sql : List Char} {sel : Select} (hp : parseSelect py sql = .ok sel) (s : Session)
    {status : Nat} {result : PyVal} {kvs : List (List Char × PyVal)} {rest : List PyVal}
    (hr : post ⟨s.cursor.baseUrl ++ "/query".toList, queryPayload sel⟩ = .answered status (.json result))
    (hs : 200 ≤ status ∧ status < 300) (he : queryEntities result = .ok (.dict kvs :: rest))
    (hbad : ∃ v ∈ rest, ∀ d, v ≠ .dict d) :
    ∃ s', executeQuery py post sql s = .error .attributeError s' ∧ s'.cursor.description = some (kvs.map Prod.fst) := by
  obtain ⟨v, hv, hnd⟩ := hbad
  unfold executeQuery
  rw [hp, bind_liftExcept_ok, bind_ok (postJson_json post s hr hs), he, bind_liftExcept_ok]
  simp only [PyVal.keys, bind_liftExcept_ok, bind_setCursor,
    mapM_values_error ⟨v, List.mem_cons_of_mem _ hv, hnd⟩, bind_liftExcept_error]
  exact ⟨_, rfl, rfl⟩

theorem first_error_ne_http {v : PyVal} {e : PyErr} (h : v.first = .error e) (h' : HttpError) :
    e ≠ .httpError h' := by
  rintro rfl
  unfold PyVal.first at h
  split at h <;> cases h

/-- `_execute_insert` on a reply whose `inserted_ids` is truthy with no first
item: the row count is set from `affected`, then `inserted_ids[0]` raises. -/
theorem executeInsert_partial {sql entity : List Char} {data : List (List Char × PyVal)}
    {payload result affected ids : PyVal} {status : Nat} {e : PyErr}
    (hp : parseInsert py sql = .ok (entity, data)) (hpl : insertPayload py entity data = .ok payload) (s : Session)
    (hr : post ⟨s.cursor.baseUrl ++ "/mutate".toList, payload⟩ = .answered status (.json result))
    (hs : 200 ≤ status ∧ status < 300) (ha : result.get "affected".toList (.int 0) = .ok affected)
    (hi : result.get "inserted_ids".toList (.list []) = .ok ids) (ht : ids.truthy = true) (hf : ids.first = .error e) :
    ∃ s', executeInsert py post sql s = .error e s' ∧ s'.cursor.rowcount = affected := by
  unfold executeInsert
  rw [hp, bind_liftExcept_ok]
  dsimp only
  rw [hpl, bind_liftExcept_ok, bind_ok (postJson_json post s hr hs), ha, bind_liftExcept_ok, bind_setCursor, hi,
    bind_liftExcept_ok]
  simp only [ht, if_true, hf, bind_liftExcept_error]
  exact ⟨_, rfl, rfl⟩

end Rows

/-- What a failed `execute` leaves. A closed cursor raises `InterfaceError` and
changes nothing; on an open one the rows, the position and the last inserted
id are cleared and the cursor stays open. But the failure may come after a
field of the new result was set: a SELECT whose reply's rows start with an
object and hold one that is not raises `AttributeError` from `row.values()`
with the description set from the first row, and an INSERT whose reply has a
truthy `inserted_ids` with no first item raises with the row count set from
`affected`. -/
theorem execute_failure_partial (py : Py) (post : Request → Reply) (s : Session) :
    (∀ operation parameters e s', execute py post operation parameters s = .error e s' →
      (s.cursor.closed = true ∧ e = .interfaceError "Cursor is closed".toList ∧ s' = s) ∨
      (s.cursor.closed = false ∧ s'.cursor.rows = [] ∧ s'.cursor.rowIndex = 0 ∧
        s'.cursor.lastInsertedId = .none ∧ s'.cursor.closed = false)) ∧
    (s.cursor.closed = false → ∀ (sql : List Char) (sel : Select) (status : Nat) (result : PyVal)
      (kvs : List (List Char × PyVal)) (rest : List PyVal),
      strip py sql = sql → (∃ r, upper py sql = "SELECT".toList ++ r) → parseSelect py sql = .ok sel →
      post ⟨s.cursor.baseUrl ++ "/query".toList, queryPayload sel⟩ = .answered status (.json result) →
      200 ≤ status ∧ status < 300 → queryEntities result = .ok (.dict kvs :: rest) →
      (∃ v ∈ rest, ∀ d, v ≠ .dict d) →
      ∃ s', execute py post sql none s = .error .attributeError s' ∧
        s'.cursor.description = some (kvs.map Prod.fst)) ∧
    (s.cursor.closed = false → ∀ (sql entity : List Char) (data : List (List Char × PyVal))
      (payload result affected ids : PyVal) (status : Nat) (e : PyErr),
      strip py sql = sql → (∃ r, upper py sql = "INSERT".toList ++ r) → parseInsert py sql = .ok (entity, data) →
      insertPayload py entity data = .ok payload →
      post ⟨s.cursor.baseUrl ++ "/mutate".toList, payload⟩ = .answered status (.json result) →
      200 ≤ status ∧ status < 300 → result.get "affected".toList (.int 0) = .ok affected →
      result.get "inserted_ids".toList (.list []) = .ok ids → ids.truthy = true → ids.first = .error e →
      ∃ s', execute py post sql none s = .error e s' ∧ s'.cursor.rowcount = affected) := by
  refine ⟨fun op ps e s' he => ?_, fun hs sql sel status result kvs rest ht ⟨r, hu⟩ hp hr hst he hbad => ?_,
    fun hs sql entity data payload result affected ids status e ht ⟨r, hu⟩ hp hpl hr hst ha hi hids hf => ?_⟩
  · rcases execute_failure_clears py post op ps he with h | ⟨h₁, h₂, h₃, h₄, h₅, -⟩
    · exact .inl h
    · exact .inr ⟨h₁, h₂, h₃, h₄, h₅⟩
  · obtain ⟨s', hq, hd⟩ := executeQuery_partial py post hp { s with cursor := s.cursor.reset } hr hst he hbad
    exact ⟨s', execute_dispatch_error py post ht hs (fun _ => PyErr.noConfusion)
      ((dispatch_select py post hu).symm ▸ hq), hd⟩
  · obtain ⟨s', hq, hd⟩ := executeInsert_partial py post hp hpl { s with cursor := s.cursor.reset } hr hst ha hi hids hf
    exact ⟨s', execute_dispatch_error py post ht hs (first_error_ne_http hf) ((dispatch_insert py post hu).symm ▸ hq),
      hd⟩

/-- A gateway whose query reply has a row that is no object after the first,
and whose mutation reply has its `inserted_ids` as an object. -/
def brokenGateway (req : Request) : Reply :=
  if "/query".toList.isSuffixOf req.url then
    .answered 200 (.json (.dict [("data".toList, .dict [("entities".toList,
      .list [.dict [("rows".toList, .list [.dict [("id".toList, .int 1)], .int 5])]])])]))
  else .answered 200 (.json (.dict [("affected".toList, .int 1), ("inserted_ids".toList, .dict [("a".toList, .int 1)])]))

/-- On a cursor in use, the SELECT raises with the description `id`, and the
INSERT raises `KeyError` with the row count 1. -/
theorem execute_failure_partial_used :
    (∃ s', execute Py.ascii brokenGateway "SELECT * FROM users".toList none usedSession = .error .attributeError s' ∧
      s'.cursor.description = some ["id".toList]) ∧
    (∃ s', execute Py.ascii brokenGateway (insertText "users".toList ["name".toList] [.quoted '\'' "Ann".toList]) none
        usedSession = .error .keyError s' ∧ s'.cursor.rowcount = .int 1) :=
  have h := execute_failure_partial Py.ascii brokenGateway usedSession
  ⟨h.2.1 rfl _ ⟨"users".toList, ["*".toList], none, none, none, none⟩ 200 _ [("id".toList, .int 1)] [.int 5]
      (by decide) ⟨_, rfl⟩ (by decide) rfl (by decide) rfl ⟨.int 5, List.mem_singleton_self _, fun _ => PyVal.noConfusion⟩,
    h.2.2 rfl _ "users".toList [("name".toList, .str "Ann".toList)] _ _ _ _ 200 _ (by decide) ⟨_, rfl⟩ (by decide)
      rfl rfl (by decide) rfl rfl rfl rfl⟩


/-- A SELECT, answered 2xx with rows in blocks, leaves as the cursor's result
the rows' values, block by block and row by row, their count, and the keys of
the first row as the description (`None` with no rows). `from_response`, when
it returns, has the same rows; and when every row has the same distinct keys,
each row's values are its lookups at the description's keys. -/
theorem select_rows_flattened (py : Py) (post : Request → Reply) {operation sql : List Char}
    {parameters : Option (List (List Char × PyVal))} {sel : Select} (s : Session) (hopen : s.cursor.closed = false)
    (hop : (match parameters with
      | some ps@(_ :: _) => pyFormat py ps (strip py operation)
      | _ => .ok (strip py operation)) = .ok sql)
    (hkw : ∃ rest, upper py sql = "SELECT".toList ++ rest) (hp : parseSelect py sql = .ok sel)
    {status : Nat} {body : PyVal} {blocks : List PyVal} {rows : List (List (List (List Char × PyVal)))}
    (hr : post ⟨s.cursor.baseUrl ++ "/query".toList, queryPayload sel⟩ = .answered status (.json body))
    (hs : 200 ≤ status ∧ status < 300) (hb : RowsReply body blocks rows) :
    execute py post operation parameters s = .ok () ⟨{ s.cursor.reset with
        description := rows.flatten.head?.map (·.map Prod.fst),
        rows := rows.flatten.map (·.map Prod.snd), rowcount := .int rows.flatten.length },
      s.posted ++ [⟨s.cursor.baseUrl ++ "/query".toList, queryPayload sel⟩]⟩ ∧
    (∀ r, client.QueryResult.fromResponse body = .ok r →
      r.entities.mapM PyVal.values = .ok (rows.flatten.map (·.map Prod.snd))) ∧
    (∀ keys, (∀ r ∈ rows.flatten, r.map Prod.fst = keys) → keys.Nodup →
      rows.flatten.map (·.map Prod.snd) = rows.flatten.map fun r => keys.map fun k => (r.lookup k).getD .none) := by
  refine ⟨?_, fun r h => by rw [fromResponse_entities hb h, mapM_values_dicts],
    fun keys hk hn => List.map_congr_left fun r hr => ?_⟩
  · obtain ⟨rest, hup⟩ := hkw
    have hd : dispatch py post sql { s with cursor := s.cursor.reset } = _ :=
      (dispatch_select py post hup).symm ▸ executeQuery_rows py post hp { s with cursor := s.cursor.reset } rfl hr hs hb
    rw [execute_of_open py post operation parameters hopen]
    unfold runOperation
    rcases parameters with _ | _ | ⟨p, ps⟩ <;> dsimp only at hop ⊢
    case none | some.nil =>
      rw [bind_pure', Except.ok.inj hop]
      exact tryCatch_ok hd
    case some.cons =>
      rw [hop, bind_liftExcept_ok]
      exact tryCatch_ok hd
  · rw [← hk r hr] at hn ⊢
    exact values_eq_lookup r hn

/-- Two rows of `users`, one in each of two blocks. -/
def usersRows : List (List (List (List Char × PyVal))) :=
  [[[("id".toList, .int 1), ("name".toList, .str "a".toList)]], [],
   [[("id".toList, .int 2), ("name".toList, .str "b".toList)]]]

/-- The blocks of the rows; the middle one has no `rows`. -/
def usersBlocks : List PyVal :=
  [.dict [("rows".toList, .list [.dict [("id".toList, .int 1), ("name".toList, .str "a".toList)]])],
   .dict [],
   .dict [("rows".toList, .list [.dict [("id".toList, .int 2), ("name".toList, .str "b".toList)]])]]

def usersBody : PyVal := .dict [("data".toList, .dict [("entities".toList, .list usersBlocks)])]

/-- The query of `SELECT id, name FROM users WHERE id > 0`. -/
def usersSelect : Select :=
  ⟨"users".toList, ["id".toList, "name".toList],
    some (.dict [("field".toList, .str "id".toList), ("op".toList, .str "gt".toList), ("value".toList, .int 0)]),
    none, none, none⟩

theorem select_rows_flattened_users :
    RowsReply usersBody usersBlocks usersRows ∧
    execute Py.ascii (fun _ => .answered 200 (.json usersBody)) "SELECT id, name FROM users WHERE id > %(n)s".toList
        (some [("n".toList, .int 0)]) usedSession =
      .ok () ⟨{ usedSession.cursor.reset with
          description := some ["id".toList, "name".toList],
          rows := [[.int 1, .str "a".toList], [.int 2, .str "b".toList]], rowcount := .int 2 },
        usedSession.posted ++ [⟨"http://db/query".toList, queryPayload usersSelect⟩]⟩ :=
  have hb : RowsReply usersBody usersBlocks usersRows := ⟨⟨_, rfl, rfl⟩, .cons rfl (.cons rfl (.cons rfl .nil))⟩
  ⟨hb, (@select_rows_flattened Py.ascii (fun _ => .answered 200 (.json usersBody))
    "SELECT id, name FROM users WHERE id > %(n)s".toList "SELECT id, name FROM users WHERE id > 0".toList
    (some [("n".toList, .int 0)]) usersSelect usedSession rfl rfl ⟨_, rfl⟩ (by decide) 200 usersBody usersBlocks
    usersRows rfl (by decide) hb).1⟩

/-- `{"data": {"entities": [], "edges": 1}}`: no rows, and edges that are no list. -/
def intEdgesBody : PyVal :=
  .dict [("data".toList, .dict [("entities".toList, .list []), ("edges".toList, .int 1)])]

/-- The cursor reads no rows from it and returns; `from_response` raises
`TypeError` on the edges, and so has no entities to agree with. -/
theorem from_response_fails_on_edges :
    RowsReply intEdgesBody [] [] ∧ client.QueryResult.fromResponse intEdgesBody = .error .typeError ∧
    execute Py.ascii (fun _ => .answered 200 (.json intEdgesBody)) "SELECT * FROM t".toList none usedSession =
      .ok () ⟨{ usedSession.cursor.reset with rowcount := .int 0 },
        usedSession.posted ++ [⟨"http://db/query".toList, queryPayload ⟨"t".toList, ["*".toList], none, none, none, none⟩⟩]⟩ :=
  ⟨⟨⟨_, rfl, rfl⟩, .nil⟩, rfl, by rw [execute_of_open _ _ _ _ rfl]; rfl⟩

end ormdb.dbapi
