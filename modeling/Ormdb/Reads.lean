-- The client's reads of the gateway: its health, the schema, the replication
-- status and the change stream. Each is a GET whose HTTP errors, and only
-- those, become a `ConnectionError` with the read's own text in front; what
-- encoding its query or decoding a 2xx body raises goes out as it is.
import Ormdb.Client

namespace ormdb.client

open ormdb.py ormdb.dbapi

/-! ## Results -/

/-- `ReplicationStatus`. -/
structure ReplicationStatus where
  role : PyVal
  primaryAddr : PyVal
  currentLsn : PyVal
  lagEntries : PyVal
  lagMs : PyVal

/-- `ReplicationStatus.from_response`: the fields of `data`, with defaults. -/
def ReplicationStatus.fromResponse (response : PyVal) : Except PyErr ReplicationStatus := do
  let data ← response.get "data".toList (.dict [])
  return {
    role := ← data.get "role".toList (.str "unknown".toList)
    primaryAddr := ← data.get "primary_addr".toList .none
    currentLsn := ← data.get "current_lsn".toList (.int 0)
    lagEntries := ← data.get "lag_entries".toList (.int 0)
    lagMs := ← data.get "lag_ms".toList (.int 0) }

/-- `ChangeLogEntry`. -/
structure ChangeLogEntry where
  lsn : PyVal
  timestamp : PyVal
  entityType : PyVal
  entityId : PyVal
  changeType : PyVal
  changedFields : PyVal
  schemaVersion : PyVal

/-- `ChangeLogEntry.from_dict`. -/
def ChangeLogEntry.fromDict (data : PyVal) : Except PyErr ChangeLogEntry := do
  return {
    lsn := ← data.get "lsn".toList (.int 0)
    timestamp := ← data.get "timestamp".toList (.int 0)
    entityType := ← data.get "entity_type".toList (.str [])
    entityId := ← data.get "entity_id".toList (.str [])
    changeType := ← data.get "change_type".toList (.str [])
    changedFields := ← data.get "changed_fields".toList (.list [])
    schemaVersion := ← data.get "schema_version".toList (.int 0) }

/-- `StreamChangesResult`. -/
structure StreamChangesResult where
  entries : List ChangeLogEntry
  nextLsn : PyVal
  hasMore : PyVal

/-- `StreamChangesResult.from_response`: one entry for each item of `entries`,
in order. -/
def StreamChangesResult.fromResponse (response : PyVal) : Except PyErr StreamChangesResult := do
  let entries ← (← (← response.get "entries".toList (.list [])).iter).mapM ChangeLogEntry.fromDict
  return {
    entries := entries
    nextLsn := ← response.get "next_lsn".toList (.int 0)
    hasMore := ← response.get "has_more".toList (.bool false) }

/-! ## Reading the gateway -/

/-- A GET of the gateway: the URL and the query parameters. -/
structure Fetch where
  url : List Char
  params : List (List Char × PyVal)
  deriving DecidableEq

section Reads

variable (fetch : Fetch → Reply) (strErr : HttpError → List Char) (baseUrl : List Char)

/-- The `try` block of the client's reads with its one handler: the GET,
`raise_for_status()` and `response.json()` of a 2xx reply, read by `read`; an
`httpx.HTTPError` becomes a `ConnectionError` whose text starts with
`failed`, and what the decoder, or the encoder of the query, raises goes
through. -/
def fetchGateway {α : Type} (failed : List Char) (req : Fetch) (read : PyVal → Except PyErr α) :
    Except PyErr α :=
  match fetch req with
  | .failed msg => .error (.connectionError (failed ++ strErr (.transport msg)))
  | .answered status body =>
    if 200 ≤ status ∧ status < 300 then
      match body with
      | .json v => read v
      | .empty => .error .jsonDecodeError
      | .undecodable f => .error f.error
    else .error (.connectionError (failed ++ strErr (.status status)))
  | .unencodable f => .error f.error

/-- `OrmdbClient.health`. -/
def OrmdbClient.health : Except PyErr PyVal :=
  fetchGateway fetch strErr "Failed to connect to gateway: ".toList ⟨baseUrl ++ "/health".toList, []⟩ .ok

/-- `AsyncOrmdbClient.health`, awaited. -/
def AsyncOrmdbClient.health : Except PyErr PyVal :=
  fetchGateway fetch strErr "Failed to connect to gateway: ".toList ⟨baseUrl ++ "/health".toList, []⟩ .ok

/-- `OrmdbClient.get_schema`. -/
def OrmdbClient.getSchema : Except PyErr PyVal :=
  fetchGateway fetch strErr "Failed to get schema: ".toList ⟨baseUrl ++ "/schema".toList, []⟩ .ok

/-- `OrmdbClient.get_replication_status`. -/
def OrmdbClient.getReplicationStatus : Except PyErr ReplicationStatus :=
  fetchGateway fetch strErr "Failed to get replication status: ".toList
    ⟨baseUrl ++ "/replication/status".toList, []⟩ ReplicationStatus.fromResponse

/-- The query parameters of `stream_changes`: the entity filter, joined by
commas, only when it is a non-empty list. -/
def streamParams (fromLsn limit : Int) (entities : Option (List (List Char))) :
    List (List Char × PyVal) :=
  [("from_lsn".toList, .int fromLsn), ("limit".toList, .int limit)] ++
    match entities with
    | some es => if es ≠ [] then [("entities".toList, .str ([','].intercalate es))] else []
    | none => []

/-- `OrmdbClient.stream_changes(from_lsn, limit, entities)`, whose defaults
are `0`, `1000` and `None`. -/
def OrmdbClient.streamChanges (fromLsn limit : Int) (entities : Option (List (List Char))) :
    Except PyErr StreamChangesResult :=
  fetchGateway fetch strErr "Failed to stream changes: ".toList
    ⟨baseUrl ++ "/replication/changes".toList, streamParams fromLsn limit entities⟩
    StreamChangesResult.fromResponse

end Reads

/-! ## What the reads raise -/

/-- The `httpx.HTTPError` of a reply: the transport's failure, or what
`raise_for_status()` raises for a status outside 2xx. -/
def httpErrorOf : Reply → Option HttpError
  | .failed msg => some (.transport msg)
  | .answered status _ => if 200 ≤ status ∧ status < 300 then none else some (.status status)
  | .unencodable _ => none

/-- The errors of encoding a query and of decoding a body: those of the JSON
decoder (text that is no JSON, a number past the digit limit, a nesting past
the recursion limit, bytes that are no text), `.get` of a value that is no
dict, a loop over a value that is no collection. -/
def decodeError : PyErr → Bool
  | .jsonDecodeError | .valueError none | .recursionError | .unicodeDecodeError | .attributeError | .typeError => true
  | _ => false

theorem decodeError_decodeFailure (f : DecodeFailure) : decodeError f.error = true := by
  cases f <;> rfl

theorem decodeError_encodeFailure (f : EncodeFailure) : decodeError f.error = true := by
  cases f <;> rfl

/-- Every error of `x` is one of decoding. -/
def DecodeOnly {α : Type} (x : Except PyErr α) : Prop := ∀ e, x = .error e → decodeError e = true

theorem decodeOnly_ok {α : Type} (a : α) : DecodeOnly (.ok a : Except PyErr α) := fun _ h => nomatch h

theorem DecodeOnly.bind {α β : Type} {x : Except PyErr α} {f : α → Except PyErr β} (hx : DecodeOnly x)
    (hf : ∀ a, DecodeOnly (f a)) : DecodeOnly (x >>= f) := by
  intro e h
  cases x with
  | error e' => exact hx e (by rw [error_bind] at h; cases h; rfl)
  | ok a => exact hf a e (by rwa [ok_bind] at h)

theorem decodeOnly_get (v : PyVal) (key : List Char) (default : PyVal) : DecodeOnly (v.get key default) := by
  intro e h
  unfold PyVal.get at h
  split at h <;> cases h
  rfl

theorem decodeOnly_iter (v : PyVal) : DecodeOnly v.iter := by
  intro e h
  unfold PyVal.iter at h
  split at h <;> cases h
  rfl

theorem decodeOnly_mapM {α : Type} {f : PyVal → Except PyErr α} (hf : ∀ v, DecodeOnly (f v)) :
    ∀ xs : List PyVal, DecodeOnly (xs.mapM f)
  | [] => decodeOnly_ok []
  | x :: xs => by
    rw [List.mapM_cons]
    exact (hf x).bind fun b => (decodeOnly_mapM hf xs).bind fun bs => decodeOnly_ok (b :: bs)

theorem ReplicationStatus.fromResponse_decodeOnly (v : PyVal) : DecodeOnly (ReplicationStatus.fromResponse v) :=
  (decodeOnly_get _ _ _).bind fun _ => (decodeOnly_get _ _ _).bind fun _ => (decodeOnly_get _ _ _).bind
    fun _ => (decodeOnly_get _ _ _).bind fun _ => (decodeOnly_get _ _ _).bind fun _ =>
      (decodeOnly_get _ _ _).bind fun _ => decodeOnly_ok _

theorem ChangeLogEntry.fromDict_decodeOnly (v : PyVal) : DecodeOnly (ChangeLogEntry.fromDict v) :=
  (decodeOnly_get _ _ _).bind fun _ => (decodeOnly_get _ _ _).bind fun _ => (decodeOnly_get _ _ _).bind
    fun _ => (decodeOnly_get _ _ _).bind fun _ => (decodeOnly_get _ _ _).bind fun _ =>
      (decodeOnly_get _ _ _).bind fun _ => (decodeOnly_get _ _ _).bind fun _ => decodeOnly_ok _

theorem StreamChangesResult.fromResponse_decodeOnly (v : PyVal) :
    DecodeOnly (StreamChangesResult.fromResponse v) :=
  (decodeOnly_get _ _ _).bind fun items => (decodeOnly_iter items).bind fun xs =>
    (decodeOnly_mapM ChangeLogEntry.fromDict_decodeOnly xs).bind fun _ =>
      (decodeOnly_get _ _ _).bind fun _ => (decodeOnly_get _ _ _).bind fun _ => decodeOnly_ok _

/-- A read `r` whose GET got `reply` turns the reply's HTTP error, and nothing
else, into a `ConnectionError` with `failed` in front; every other error it
raises is one of decoding. -/
def WrapsHttp {α : Type} (strErr : HttpError → List Char) (failed : List Char) (reply : Reply)
    (r : Except PyErr α) : Prop :=
  (∀ m, r = .error (.connectionError m) ↔ ∃ e, httpErrorOf reply = some e ∧ m = failed ++ strErr e) ∧
  ∀ e, r = .error e → (∃ m, e = .connectionError m) ∨ decodeError e = true

section Wraps

variable {strErr : HttpError → List Char} {failed : List Char} {reply : Reply}

theorem wraps_of_httpError {α : Type} {e : HttpError} (h : httpErrorOf reply = some e) :
    WrapsHttp strErr failed reply (.error (.connectionError (failed ++ strErr e)) : Except PyErr α) := by
  refine ⟨fun m => ?_, fun e' he => .inl ⟨_, (Except.error.inj he).symm⟩⟩
  simp only [h, Except.error.injEq, PyErr.connectionError.injEq, Option.some.injEq, exists_eq_left', eq_comm]

theorem wraps_of_decodeOnly {α : Type} {r : Except PyErr α} (h : httpErrorOf reply = none) (hr : DecodeOnly r) :
    WrapsHttp strErr failed reply r := by
  refine ⟨fun m => ⟨fun he => (Bool.false_ne_true (hr _ he)).elim, fun ⟨e, he, _⟩ => ?_⟩, fun e he => .inr (hr e he)⟩
  exact nomatch h.symm.trans he

end Wraps

/-- The one law of the family: a read of the gateway raises a
`ConnectionError` for exactly the HTTP errors of its GET, as long as reading
a 2xx body raises only errors of decoding. -/
theorem fetchGateway_wraps (fetch : Fetch → Reply) (strErr : HttpError → List Char) {α : Type}
    {failed : List Char} {req : Fetch} {read : PyVal → Except PyErr α} (hread : ∀ v, DecodeOnly (read v)) :
    WrapsHttp strErr failed (fetch req) (fetchGateway fetch strErr failed req read) := by
  unfold fetchGateway
  cases h : fetch req with
  | failed msg => exact wraps_of_httpError rfl
  | answered status body =>
    dsimp only
    by_cases hs : 200 ≤ status ∧ status < 300
    · have hnone : httpErrorOf (.answered status body) = none := if_pos hs
      rw [if_pos hs]
      cases body with
      | json v => exact wraps_of_decodeOnly hnone (hread v)
      | empty => exact wraps_of_decodeOnly hnone fun _ he => by cases he; rfl
      | undecodable f => exact wraps_of_decodeOnly hnone fun _ he => by cases he; exact decodeError_decodeFailure f
    · rw [if_neg hs]
      exact wraps_of_httpError (if_neg hs)
  | unencodable f => exact wraps_of_decodeOnly rfl fun _ he => by cases he; exact decodeError_encodeFailure f

/-- Every read of the client turns the HTTP errors of its GET, and nothing
else, into a `ConnectionError` whose text is the read's own prefix and then
`str(e)`; what encoding its query or decoding a 2xx body raises goes out as it
is. -/
theorem reads_wrap_http_errors (fetch : Fetch → Reply) (strErr : HttpError → List Char) (baseUrl : List Char) :
    WrapsHttp strErr "Failed to connect to gateway: ".toList (fetch ⟨baseUrl ++ "/health".toList, []⟩)
      (OrmdbClient.health fetch strErr baseUrl) ∧
    WrapsHttp strErr "Failed to connect to gateway: ".toList (fetch ⟨baseUrl ++ "/health".toList, []⟩)
      (AsyncOrmdbClient.health fetch strErr baseUrl) ∧
    WrapsHttp strErr "Failed to get schema: ".toList (fetch ⟨baseUrl ++ "/schema".toList, []⟩)
      (OrmdbClient.getSchema fetch strErr baseUrl) ∧
    WrapsHttp strErr "Failed to get replication status: ".toList
      (fetch ⟨baseUrl ++ "/replication/status".toList, []⟩) (OrmdbClient.getReplicationStatus fetch strErr baseUrl) ∧
    ∀ fromLsn limit entities, WrapsHttp strErr "Failed to stream changes: ".toList
      (fetch ⟨baseUrl ++ "/replication/changes".toList, streamParams fromLsn limit entities⟩)
      (OrmdbClient.streamChanges fetch strErr baseUrl fromLsn limit entities) :=
  ⟨fetchGateway_wraps fetch strErr decodeOnly_ok, fetchGateway_wraps fetch strErr decodeOnly_ok,
    fetchGateway_wraps fetch strErr decodeOnly_ok,
    fetchGateway_wraps fetch strErr ReplicationStatus.fromResponse_decodeOnly,
    fun _ _ _ => fetchGateway_wraps fetch strErr StreamChangesResult.fromResponse_decodeOnly⟩

end ormdb.client
