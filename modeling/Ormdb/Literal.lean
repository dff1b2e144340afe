-- The literals of the statement grammar and the Value Codec of the cursor:
-- `_parse_sql_value`, the quote-aware `_parse_value_list`, `_convert_value`
-- and the identifier decoder `_hex_to_uuid`.
import Ormdb.PyVal

namespace ormdb.dbapi

open ormdb.py

section Literal

variable (py : Py)

/-- `_parse_sql_value`: a quoted string loses its quotes; `NULL`, `TRUE` and
`FALSE` in any case are the constants; a text with a dot is tried as a float,
any other as an int; what fails stays a bare string. -/
def parseSqlValue (valueStr : List Char) : PyVal :=
  let v := strip py valueStr
  if (v.head? = some '\'' ∧ v.getLast? = some '\'') ∨ (v.head? = some '"' ∧ v.getLast? = some '"')
  then .str (v.drop 1).dropLast
  else if upper py v = "NULL".toList then .none
  else if upper py v = "TRUE".toList then .bool true
  else if upper py v = "FALSE".toList then .bool false
  else if '.' ∈ v then
    match py.toFloat v with
    | some x => .float x
    | none => .str v
  else
    match py.toInt 10 v with
    | some n => .int n
    | none => .str v

/-- The state of the loop of `_parse_value_list`: the values so far, the text
of the current one, and the open quote (`none` outside quotes). -/
structure Scan where
  values : List PyVal
  current : List Char
  quote : Option Char

/-- One character of the loop of `_parse_value_list`: a quote opens a quoted
span, the same quote closes it, a comma outside quotes ends a value. -/
def scanChar (st : Scan) (c : Char) : Scan :=
  if (c = '\'' ∨ c = '"') ∧ st.quote = none then
    { st with quote := some c, current := st.current ++ [c] }
  else if st.quote = some c then
    { st with quote := none, current := st.current ++ [c] }
  else if c = ',' ∧ st.quote = none then
    { st with values := st.values ++ [parseSqlValue py (strip py st.current)], current := [] }
  else
    { st with current := st.current ++ [c] }

/-- `_parse_value_list`: the loop over the characters, then the last value
unless it is blank. -/
def parseValueList (valuesStr : List Char) : List PyVal :=
  let st := valuesStr.foldl (scanChar py) ⟨[], [], none⟩
  if strip py st.current ≠ [] then st.values ++ [parseSqlValue py (strip py st.current)]
  else st.values

end Literal

/-! ## The Value Codec -/

/-- `{tag: v}`, a value of the wire's tagged union. -/
def tagged (tag : String) (v : PyVal) : PyVal := .dict [(tag.toList, v)]

/-- `Cursor._convert_value`: `None`, bools, ints by range, floats and strings
get their tags; any other value goes as the string of its `str()`, which may
raise. -/
def convertValue (py : Py) : PyVal → Except PyErr PyVal
  | .none => .ok (tagged "Null" .none)
  | .bool b => .ok (tagged "Bool" (.bool b))
  | .int i => .ok (if -2 ^ 31 ≤ i ∧ i < 2 ^ 31 then tagged "Int32" (.int i) else tagged "Int64" (.int i))
  | .float x => .ok (tagged "Float64" (.float x))
  | .str s => .ok (tagged "String" (.str s))
  | v => (fun s => tagged "String" (.str s)) <$> PyVal.pyStr py v

/-- The sixteen two-character pairs of a 32-character identifier. -/
def hexPairs (h : List Char) : List (List Char) :=
  (List.range 16).map fun i => (h.drop (2 * i)).take 2

/-- `Cursor._hex_to_uuid`: the hyphens go, 32 characters must be left, and
each pair is read by `int(pair, 16)`, whose `ValueError` goes through. -/
def hexToUuid (py : Py) (hexStr : List Char) : Except PyErr (List Int) :=
  let h := hexStr.filter (· ≠ '-')
  if h.length ≠ 32 then .error (.programmingError ("Invalid UUID hex string: ".toList ++ h))
  else (hexPairs h).mapM fun p =>
    match py.toInt 16 p with
    | some n => .ok n
    | none => .error (.valueError none)

/-- Sixteen `+0` pairs are no identifier, yet each is read by `int(pair, 16)`
as 0: the decoder returns sixteen zero bytes. -/
theorem hexToUuid_signed_pairs :
    hexToUuid Py.ascii "+0+0+0+0+0+0+0+0+0+0+0+0+0+0+0+0".toList = .ok (List.replicate 16 0) := by
  decide

end ormdb.dbapi
