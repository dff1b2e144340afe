-- The SELECT parser of the cursor: `_parse_select` cuts the text at the first
-- ` FROM `, ` WHERE `, ` ORDER BY `, ` LIMIT ` and ` OFFSET ` of its upper
-- case, then `_parse_where` reads the one condition by a regex and
-- `_parse_order_by` the comma-separated order.
import Ormdb.Literal
import Ormdb.Regex

namespace ormdb.dbapi

open ormdb.py ormdb.regex

/-- The pattern of `_parse_where`, `(\w+)\s*(=|!=|<>|<=|>=|<|>|LIKE|IN)\s*(.+)`. -/
def wherePattern : Re :=
  Re.chain [.group word1, spaces,
    .group (Re.anyLit ["=".toList, "!=".toList, "<>".toList, "<=".toList, ">=".toList,
      "<".toList, ">".toList, "LIKE".toList, "IN".toList]),
    spaces, .group dots1]

/-- The `op_map` of `_parse_where`. -/
def opMap : List (List Char × List Char) :=
  [("=".toList, "eq".toList), ("!=".toList, "ne".toList), ("<>".toList, "ne".toList),
   ("<".toList, "lt".toList), (">".toList, "gt".toList), ("<=".toList, "le".toList),
   (">=".toList, "ge".toList), ("LIKE".toList, "like".toList), ("IN".toList, "in".toList)]

/-- A SELECT as `_parse_select` returns it: the entity, the fields, the filter
and the order (dicts and lists of the code), the limit and the offset. -/
structure Select where
  entity : List Char
  fields : List (List Char)
  filterExpr : Option PyVal
  orderBy : Option PyVal
  limit : Option Int
  offset : Option Int
  deriving DecidableEq

section Parse

variable (py : Py)

/-- `_parse_where`: the condition `field op value`, its operator mapped and its
value read by `_parse_sql_value`. -/
def parseWhere (whereClause : List Char) : Except PyErr PyVal :=
  match rematch py true wherePattern whereClause with
  | some [field, op, value] =>
    .ok (.dict [("field".toList, .str field),
      ("op".toList, .str ((opMap.lookup (upper py op)).getD "eq".toList)),
      ("value".toList, parseSqlValue py (strip py value))])
  | _ => .error (.programmingError ("Cannot parse WHERE clause: ".toList ++ whereClause))

/-- One entry of an ORDER BY list. -/
def orderItem (field direction : List Char) : PyVal :=
  .dict [("field".toList, .str field), ("direction".toList, .str direction)]

/-- One part of `_parse_order_by`: with ` DESC` or ` ASC` in its upper case the
field is the upper case without them; otherwise the part as written, ascending. -/
def orderPart (part : List Char) : PyVal :=
  let part := strip py part
  let up := upper py part
  if contains up " DESC".toList then orderItem (strip py (replace " DESC".toList [] up)) "desc".toList
  else if contains up " ASC".toList then orderItem (strip py (replace " ASC".toList [] up)) "asc".toList
  else orderItem part "asc".toList

/-- `_parse_order_by`. -/
def parseOrderBy (orderClause : List Char) : PyVal :=
  .list ((split ',' orderClause).map (orderPart py))

/-- `int(s)`, whose `ValueError` goes through. -/
def pyInt (s : List Char) : Except PyErr Int :=
  match py.toInt 10 s with
  | some n => .ok n
  | none => .error (.valueError none)

/-- `s.split()[0]`, an `IndexError` when `s` is blank. -/
def firstWord (s : List Char) : Except PyErr (List Char) :=
  match splitWs py s with
  | w :: _ => .ok w
  | [] => .error .indexError

/-- The limit and offset that `_parse_select` reads after ` LIMIT `. -/
def limitOffset (limitStr : List Char) : Except PyErr (Int × Option Int) :=
  match find " OFFSET ".toList (upper py limitStr) with
  | some i => do
    let limit ← pyInt py (strip py (limitStr.take i))
    let offset ← pyInt py (strip py (limitStr.drop (i + 8)))
    return (limit, some offset)
  | none => do
    let limit ← pyInt py (← firstWord py limitStr)
    return (limit, none)

/-- The smallest of the positions found, or `len` when none was. -/
def firstOf (idxs : List (Option Nat)) (len : Nat) : Nat :=
  match idxs.filterMap id with
  | [] => len
  | i :: is => is.foldl min i

/-- `_parse_select`. -/
def parseSelect (sql : List Char) : Except PyErr Select := do
  let sql := strip py (sql.drop 6)
  let some fromIdx := find " FROM ".toList (upper py sql)
    | .error (.programmingError "Invalid SELECT: missing FROM clause".toList)
  let fields := (split ',' (strip py (sql.take fromIdx))).map (strip py)
  let remaining := strip py (sql.drop (fromIdx + 6))
  let up := upper py remaining
  let whereIdx := find " WHERE ".toList up
  let orderIdx := find " ORDER BY ".toList up
  let limitIdx := find " LIMIT ".toList up
  let offsetIdx := find " OFFSET ".toList up
  let entity := strip py (remaining.take (firstOf [whereIdx, orderIdx, limitIdx] remaining.length))
  let filterExpr ← match whereIdx with
    | some w => do
      let whereEnd := firstOf [orderIdx, limitIdx] remaining.length
      some <$> parseWhere py (strip py ((remaining.take whereEnd).drop (w + 7)))
    | none => pure none
  let orderBy := orderIdx.map fun o =>
    parseOrderBy py (strip py ((remaining.take (limitIdx.getD remaining.length)).drop (o + 10)))
  let (limit, offset) ← match limitIdx with
    | some l => do
      let (limit, offset) ← limitOffset py (strip py (remaining.drop (l + 7)))
      pure (some limit, offset)
    | none => pure (none, none)
  let offset ← match offsetIdx, offset with
    | some o, none => some <$> pyInt py (← firstWord py (strip py (remaining.drop (o + 8))))
    | _, _ => pure offset
  return ⟨entity, fields, filterExpr, orderBy, limit, offset⟩

end Parse

end ormdb.dbapi
