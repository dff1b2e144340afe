-- The INSERT, UPDATE and DELETE parsers of the cursor: one regex each, read
-- with `re.IGNORECASE` and anchored at the start only; the values go through
-- `_parse_value_list` or a split of the SET clause, into a dict.
import Ormdb.Select

namespace ormdb.dbapi

open ormdb.py ormdb.regex

/-- `[^)]+` -/
def notClose : Re := .rep (.noneOf [')']) 1 none

/-- `['\"]?` -/
def optQuote : Re := opt (.anyOf ['\'', '"'])

/-- `[^'\"]+` -/
def notQuotes : Re := .rep (.noneOf ['\'', '"']) 1 none

/-- The pattern of `_parse_insert`,
`INSERT\s+INTO\s+(\w+)\s*\(([^)]+)\)\s*VALUES\s*\(([^)]+)\)`. -/
def insertPattern : Re :=
  Re.chain [.lit "INSERT".toList, spaces1, .lit "INTO".toList, spaces1, .group word1, spaces,
    .lit ['('], .group notClose, .lit [')'], spaces, .lit "VALUES".toList, spaces,
    .lit ['('], .group notClose, .lit [')']]

/-- The pattern of `_parse_update`,
`UPDATE\s+(\w+)\s+SET\s+(.+)\s+WHERE\s+id\s*=\s*['\"]?([^'\"]+)['\"]?`. -/
def updatePattern : Re :=
  Re.chain [.lit "UPDATE".toList, spaces1, .group word1, spaces1, .lit "SET".toList, spaces1,
    .group dots1, spaces1, .lit "WHERE".toList, spaces1, .lit "id".toList, spaces, .lit ['='],
    spaces, optQuote, .group notQuotes, optQuote]

/-- The pattern of `_parse_delete`,
`DELETE\s+FROM\s+(\w+)\s+WHERE\s+id\s*=\s*['\"]?([^'\"]+)['\"]?`. -/
def deletePattern : Re :=
  Re.chain [.lit "DELETE".toList, spaces1, .lit "FROM".toList, spaces1, .group word1, spaces1,
    .lit "WHERE".toList, spaces1, .lit "id".toList, spaces, .lit ['='], spaces, optQuote,
    .group notQuotes, optQuote]

/-! ## Dicts -/

/-- `d[k] = v`: a key already there keeps its place and takes the new value; a
new key goes last. -/
def dictSet {α : Type} (d : List (List Char × α)) (k : List Char) (v : α) : List (List Char × α) :=
  if d.any (·.1 == k) then d.map fun kv => if kv.1 = k then (k, v) else kv else d ++ [(k, v)]

/-- `dict(pairs)`. -/
def dictOf {α : Type} (pairs : List (List Char × α)) : List (List Char × α) :=
  pairs.foldl (fun d kv => dictSet d kv.1 kv.2) []

section Parse

variable (py : Py)

/-- `_parse_insert`: the entity, and the dict of the fields and the values, which
must be as many. -/
def parseInsert (sql : List Char) : Except PyErr (List Char × List (List Char × PyVal)) :=
  match rematch py true insertPattern sql with
  | some [entity, fieldsStr, valuesStr] =>
    let fields := (split ',' fieldsStr).map (strip py)
    let values := parseValueList py valuesStr
    if fields.length ≠ values.length then
      .error (.programmingError "Field count doesn't match value count".toList)
    else .ok (entity, dictOf (fields.zip values))
  | _ => .error (.programmingError ("Cannot parse INSERT: ".toList ++ sql))

/-- One assignment of the SET clause, `field, value_str = assignment.split("=", 1)`,
put into the dict; a `ValueError` when there is no `=`. -/
def setAssignment (data : List (List Char × PyVal)) (assignment : List Char) :
    Except PyErr (List (List Char × PyVal)) :=
  match splitOnce '=' assignment with
  | [field, valueStr] => .ok (dictSet data (strip py field) (parseSqlValue py (strip py valueStr)))
  | _ => .error (.valueError none)

/-- `_parse_update`: the entity, the identifier text, and the dict of the SET
clause split at every comma. -/
def parseUpdate (sql : List Char) :
    Except PyErr (List Char × List Char × List (List Char × PyVal)) :=
  match rematch py true updatePattern sql with
  | some [entity, setClause, entityId] => do
    let data ← (split ',' setClause).foldlM (setAssignment py) []
    return (entity, strip py entityId, data)
  | _ => .error (.programmingError ("Cannot parse UPDATE: ".toList ++ sql))

/-- `_parse_delete`: the entity and the identifier text. -/
def parseDelete (sql : List Char) : Except PyErr (List Char × List Char) :=
  match rematch py true deletePattern sql with
  | some [entity, entityId] => .ok (entity, strip py entityId)
  | _ => .error (.programmingError ("Cannot parse DELETE: ".toList ++ sql))

end Parse

end ormdb.dbapi
