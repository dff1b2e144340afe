-- The schema reflection of the two backends: what the SQLAlchemy dialect and
-- the Django introspection read from the gateway's `/schema` document. Every
-- function fetches the document, walks its entities behind a catch-all
-- `except Exception`, and falls back to an empty result; Django's
-- `get_constraints` falls back to the constraints it has gathered so far.
import Ormdb.PyVal

namespace ormdb.reflect

open ormdb.py

/-! ## Walking the document -/

/-- `try: ... except Exception: return default`. -/
def catchAll {α : Type} (default : α) : Except PyErr α → α
  | .ok a => a
  | .error _ => default

/-- `schema_data.get("entities", [])`, iterated. `schema` is the document that
`httpx.get(f"{base_url}/schema")`, `raise_for_status()` and `.json()` give, or
the error one of them raises. -/
def entitiesOf (schema : Except PyErr PyVal) : Except PyErr (List PyVal) := do
  let doc ← schema
  (← doc.get "entities".toList (.list [])).iter

/-- `for i, x in enumerate(xs): if x.get("name") == name: ...`: the first item
whose name is the str `name`, with its position; `.get` raises on an item
before it that is no dict. -/
def firstNamed (name : List Char) : List PyVal → Except PyErr (Option (Nat × PyVal))
  | [] => .ok none
  | x :: xs => do
    if (← x.get "name".toList .none) = .str name then pure (some (0, x))
    else (Option.map fun p => (p.1 + 1, p.2)) <$> firstNamed name xs

/-- The reflection of one table: `body` of the first entity named `t`, and
`absent` when no entity is. -/
def onTable {α : Type} (schema : Except PyErr PyVal) (t : List Char) (absent : α)
    (body : PyVal → Except PyErr α) : Except PyErr α := do
  match ← firstNamed t (← entitiesOf schema) with
  | some (_, entity) => body entity
  | none => pure absent

/-- `[y for x in xs if ...]` and the loops that append to a list: `pick` of each
item, in order, keeping the ones it gives. -/
def collect {β : Type} : List PyVal → (PyVal → Except PyErr (Option β)) → Except PyErr (List β)
  | [], _ => .ok []
  | x :: xs, pick => do
    match ← pick x with
    | some y => return y :: (← collect xs pick)
    | none => collect xs pick

/-- `rel.get("type") in ("many_to_one", "one_to_one")`. -/
def isToOne (rel : PyVal) : Except PyErr Bool := do
  let kind ← rel.get "type".toList .none
  return decide (kind = .str "many_to_one".toList ∨ kind = .str "one_to_one".toList)

/-- `f"{rel.get('name', '')}_id"`: the column a to-one relation keeps its key in. -/
def fkField (py : Py) (rel : PyVal) : Except PyErr (List Char) := do
  return (← rel.get "name".toList (.str [])).toStr py ++ "_id".toList

/-- `d[k] = v`: a key already there keeps its place and takes the new value; a
new key goes last. -/
def dictPut {κ α : Type} [DecidableEq κ] (d : List (κ × α)) (k : κ) (v : α) : List (κ × α) :=
  if d.any (·.1 = k) then d.map fun kv => if kv.1 = k then (k, v) else kv else d ++ [(k, v)]

end ormdb.reflect

/-! ## The SQLAlchemy dialect -/

namespace ormdb.dialect

open ormdb.py ormdb.reflect

/-- The SQLAlchemy types `_map_ormdb_type` returns. -/
inductive SqlType where
  | string (length : Option Nat)
  | text
  | integer
  | bigInteger
  | float
  | boolean
  | largeBinary
  | dateTime
  | date
  | time
  | json
  deriving DecidableEq, Repr

/-- `type_map` of `_map_ormdb_type`. -/
def typeMap : List (List Char × SqlType) :=
  [("uuid".toList, .string (some 32)), ("string".toList, .string none), ("text".toList, .text),
   ("int32".toList, .integer), ("int64".toList, .bigInteger), ("float32".toList, .float),
   ("float64".toList, .float), ("bool".toList, .boolean), ("bytes".toList, .largeBinary),
   ("timestamp".toList, .dateTime), ("date".toList, .date), ("time".toList, .time), ("json".toList, .json)]

/-- `str.lower()`: an ASCII character by `Char.toLower`, one past ASCII by the
interpreter's table `lowerHigh`. -/
def lower (lowerHigh : Char → List Char) (s : List Char) : List Char :=
  s.flatMap fun c => if c.toNat < 128 then [c.toLower] else lowerHigh c

/-- `_map_ormdb_type`: the type of `ormdb_type.lower()`, `String` for a name
not in the map; `.lower()` raises on a value that is no str. -/
def mapOrmdbType (lowerHigh : Char → List Char) : PyVal → Except PyErr SqlType
  | .str s => .ok ((typeMap.lookup (lower lowerHigh s)).getD (.string none))
  | _ => .error .attributeError

/-- `get_table_names`. -/
def getTableNames (schema : Except PyErr PyVal) : List PyVal :=
  catchAll [] do
    collect (← entitiesOf schema) fun e => do
      if (← e.get "name".toList .none).truthy then some <$> e.get "name".toList (.str []) else pure none

/-- `has_table`: `table_name in get_table_names(...)`. -/
def hasTable (schema : Except PyErr PyVal) (t : List Char) : Bool := (getTableNames schema).contains (.str t)

/-- A `ReflectedColumn`. -/
structure Column where
  name : PyVal
  type : SqlType
  nullable : Bool
  default : PyVal
  autoincrement : Bool
  deriving DecidableEq

/-- The column `get_columns` builds for one field. -/
def columnOf (lowerHigh : Char → List Char) (field : PyVal) : Except PyErr Column := do
  let colType ← mapOrmdbType lowerHigh (← field.get "field_type".toList (.str "string".toList))
  return { name := ← field.get "name".toList (.str []), type := colType,
           nullable := !(← field.get "required".toList (.bool false)).truthy,
           default := ← field.get "default".toList .none, autoincrement := false }

/-- `get_columns`. -/
def getColumns (lowerHigh : Char → List Char) (schema : Except PyErr PyVal) (t : List Char) : List Column :=
  catchAll [] <| onTable schema t [] fun entity => do
    collect (← (← entity.get "fields".toList (.list [])).iter) fun field => some <$> columnOf lowerHigh field

/-- The primary key constraint `get_pk_constraint` returns. -/
structure PkConstraint where
  constrainedColumns : List (List Char)
  name : Option (List Char)
  deriving DecidableEq

/-- `get_pk_constraint`: `id`, for every entity found. -/
def getPkConstraint (schema : Except PyErr PyVal) (t : List Char) : PkConstraint :=
  catchAll ⟨[], none⟩ <| onTable schema t ⟨[], none⟩ fun _ =>
    pure ⟨["id".toList], some (t ++ "_pkey".toList)⟩

/-- A foreign key `get_foreign_keys` returns. -/
structure ForeignKey where
  name : List Char
  constrainedColumns : List (List Char)
  referredSchema : Option (List Char)
  referredTable : PyVal
  referredColumns : List (List Char)
  deriving DecidableEq

/-- `get_foreign_keys`: one key per to-one relation. -/
def getForeignKeys (py : Py) (schema : Except PyErr PyVal) (t : List Char) : List ForeignKey :=
  catchAll [] <| onTable schema t [] fun entity => do
    collect (← (← entity.get "relations".toList (.list [])).iter) fun rel => do
      if ← isToOne rel then
        return some { name := "fk_".toList ++ t ++ "_".toList ++ (← rel.get "name".toList (.str [])).toStr py,
                      constrainedColumns := [← fkField py rel], referredSchema := none,
                      referredTable := ← rel.get "target".toList (.str []), referredColumns := ["id".toList] }
      else pure none

/-- An index `get_indexes` returns. -/
structure Index where
  name : List Char
  columnNames : List PyVal
  unique : PyVal
  deriving DecidableEq

/-- `get_indexes`: one index per field marked `indexed`. -/
def getIndexes (py : Py) (schema : Except PyErr PyVal) (t : List Char) : List Index :=
  catchAll [] <| onTable schema t [] fun entity => do
    collect (← (← entity.get "fields".toList (.list [])).iter) fun field => do
      if (← field.get "indexed".toList .none).truthy then
        return some { name := "idx_".toList ++ t ++ "_".toList ++ (← field.get "name".toList (.str [])).toStr py,
                      columnNames := [← field.get "name".toList (.str [])],
                      unique := ← field.get "unique".toList (.bool false) }
      else pure none

/-- A unique constraint `get_unique_constraints` returns. -/
structure UniqueConstraint where
  name : List Char
  columnNames : List PyVal
  deriving DecidableEq

/-- `get_unique_constraints`: one constraint per field marked `unique`. -/
def getUniqueConstraints (py : Py) (schema : Except PyErr PyVal) (t : List Char) : List UniqueConstraint :=
  catchAll [] <| onTable schema t [] fun entity => do
    collect (← (← entity.get "fields".toList (.list [])).iter) fun field => do
      if (← field.get "unique".toList .none).truthy then
        return some { name := "uq_".toList ++ t ++ "_".toList ++ (← field.get "name".toList (.str [])).toStr py,
                      columnNames := [← field.get "name".toList (.str [])] }
      else pure none

end ormdb.dialect

/-! ## The Django introspection -/

namespace ormdb.django

open ormdb.py ormdb.reflect

/-- A `TableInfo`. -/
structure TableInfo where
  name : PyVal
  type : List Char
  deriving DecidableEq

/-- `get_table_list`. -/
def getTableList (schema : Except PyErr PyVal) : List TableInfo :=
  catchAll [] do
    collect (← entitiesOf schema) fun entity => do
      let name ← entity.get "name".toList (.str [])
      return if name.truthy then some ⟨name, ['t']⟩ else none

/-- The sizes of `_get_field_size`. -/
def fieldSizes : List (List Char × Nat) :=
  [("uuid".toList, 16), ("int32".toList, 4), ("int64".toList, 8), ("float32".toList, 4),
   ("float64".toList, 8), ("bool".toList, 1)]

/-- `_get_field_size`: `sizes.get(field_type)`; a list or a dict is no key of a
dict and raises `TypeError`. -/
def getFieldSize : PyVal → Except PyErr (Option Nat)
  | .str s => .ok (fieldSizes.lookup s)
  | .list _ | .dict _ => .error .typeError
  | _ => .ok none

/-- A `FieldInfo`. -/
structure FieldInfo where
  name : PyVal
  typeCode : PyVal
  displaySize : Option Nat
  internalSize : Option Nat
  precision : Option Nat
  scale : Option Nat
  nullOk : Bool
  default : PyVal
  collation : Option (List Char)
  deriving DecidableEq

/-- The `FieldInfo` `get_table_description` builds for one field. -/
def fieldInfoOf (field : PyVal) : Except PyErr FieldInfo := do
  let fieldType ← field.get "field_type".toList (.str "string".toList)
  return { name := ← field.get "name".toList (.str []), typeCode := fieldType, displaySize := none,
           internalSize := ← getFieldSize fieldType, precision := none, scale := none,
           nullOk := !(← field.get "required".toList (.bool false)).truthy,
           default := ← field.get "default".toList .none, collation := none }

/-- `get_table_description`. -/
def getTableDescription (schema : Except PyErr PyVal) (t : List Char) : List FieldInfo :=
  catchAll [] <| onTable schema t [] fun entity => do
    collect (← (← entity.get "fields".toList (.list [])).iter) fun field => some <$> fieldInfoOf field

/-- The loop of `get_relations` over the relations: the position of the field
that holds each to-one relation's key, mapped to the relation's target; a later
relation with the same field replaces an earlier one. -/
def relationsOf (py : Py) (fields : PyVal) :
    List PyVal → List (Nat × PyVal × List Char) → Except PyErr (List (Nat × PyVal × List Char))
  | [], acc => .ok acc
  | rel :: rels, acc => do
    if ← isToOne rel then
      let fk ← fkField py rel
      match ← firstNamed fk (← fields.iter) with
      | some (idx, _) => relationsOf py fields rels (dictPut acc idx (← rel.get "target".toList (.str []), "id".toList))
      | none => relationsOf py fields rels acc
    else relationsOf py fields rels acc

/-- `get_relations`. -/
def getRelations (py : Py) (schema : Except PyErr PyVal) (t : List Char) : List (Nat × PyVal × List Char) :=
  catchAll [] <| onTable schema t [] fun entity => do
    let fields ← entity.get "fields".toList (.list [])
    relationsOf py fields (← (← entity.get "relations".toList (.list [])).iter) []

/-- The entry `get_key_columns` appends for one relation. -/
def keyColumnOf (py : Py) (rel : PyVal) : Except PyErr (Option (List Char × PyVal × List Char)) := do
  if ← isToOne rel then
    let fk ← fkField py rel
    return some (fk, ← rel.get "target".toList (.str []), "id".toList)
  else pure none

/-- `get_key_columns`. -/
def getKeyColumns (py : Py) (schema : Except PyErr PyVal) (t : List Char) : List (List Char × PyVal × List Char) :=
  catchAll [] <| onTable schema t [] fun entity => do
    collect (← (← entity.get "relations".toList (.list [])).iter) (keyColumnOf py)

/-- A constraint of `get_constraints`. -/
structure Constraint where
  columns : List PyVal
  primaryKey : Bool
  unique : Bool
  foreignKey : Option (PyVal × List Char)
  check : Bool
  index : Bool
  deriving DecidableEq

/-- The primary key constraint of every table found. -/
def pkeyConstraint : Constraint := ⟨[.str "id".toList], true, true, none, false, true⟩

/-- `get_constraints` fills one dict, and on an exception returns what it holds. -/
abbrev Gather := EStateM PyErr (List (List Char × Constraint))

/-- A step that may raise. -/
def Gather.lift {α : Type} : Except PyErr α → Gather α
  | .ok a => pure a
  | .error e => throw e

/-- `constraints[name] = c`. -/
def Gather.put (name : List Char) (c : Constraint) : Gather Unit := modify fun d => dictPut d name c

/-- The unique constraint of a field marked `unique`. -/
def putUnique (py : Py) (t : List Char) (field : PyVal) : Gather Unit := do
  if (← Gather.lift (field.get "unique".toList .none)).truthy then
    let name ← Gather.lift (field.get "name".toList (.str []))
    Gather.put (t ++ "_".toList ++ name.toStr py ++ "_key".toList) ⟨[name], false, true, none, false, true⟩

/-- The foreign key constraint of a to-one relation. -/
def putForeignKey (py : Py) (t : List Char) (rel : PyVal) : Gather Unit := do
  if ← Gather.lift (isToOne rel) then
    let fk ← Gather.lift (fkField py rel)
    let target ← Gather.lift (rel.get "target".toList (.str []))
    Gather.put (t ++ "_".toList ++ fk ++ "_fkey".toList) ⟨[.str fk], false, false, some (target, "id".toList), false, true⟩

/-- The index of a field marked `indexed` and not `unique`. -/
def putIndex (py : Py) (t : List Char) (field : PyVal) : Gather Unit := do
  if (← Gather.lift (field.get "indexed".toList .none)).truthy then
    if !(← Gather.lift (field.get "unique".toList .none)).truthy then
      let name ← Gather.lift (field.get "name".toList (.str []))
      Gather.put (t ++ "_".toList ++ name.toStr py ++ "_idx".toList) ⟨[name], false, false, none, false, true⟩

/-- The body of `get_constraints`: the primary key, then the unique fields, the
to-one relations and the other indexed fields of the first entity named `t`. -/
def gatherConstraints (py : Py) (schema : Except PyErr PyVal) (t : List Char) : Gather Unit := do
  let entities ← Gather.lift (entitiesOf schema)
  match ← Gather.lift (firstNamed t entities) with
  | some (_, entity) =>
    Gather.put (t ++ "_pkey".toList) pkeyConstraint
    (← Gather.lift ((← Gather.lift (entity.get "fields".toList (.list []))).iter)).forM (putUnique py t)
    (← Gather.lift ((← Gather.lift (entity.get "relations".toList (.list []))).iter)).forM (putForeignKey py t)
    (← Gather.lift ((← Gather.lift (entity.get "fields".toList (.list []))).iter)).forM (putIndex py t)
  | none => pure ()

/-- `get_constraints`: what the dict holds when the body returns or raises. -/
def getConstraints (py : Py) (schema : Except PyErr PyVal) (t : List Char) : List (List Char × Constraint) :=
  match gatherConstraints py schema t [] with
  | .ok _ d => d
  | .error _ d => d

end ormdb.django
