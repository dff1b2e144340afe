-- The Value Codec against the Value format of the gateway: the payloads each
-- tag admits, when each of the two `_convert_value`s sends a value of the
-- format, and where the identifier decoders of the client and of the cursor
-- agree.
import Ormdb.Client
import Ormdb.Statements

namespace ormdb.codec

open ormdb.py ormdb.dbapi

/-! ## The Value format -/

/-- The range of an `Int64`. -/
def inInt64 (i : Int) : Bool := decide (-2 ^ 63 ≤ i ∧ i < 2 ^ 63)

def isBool : PyVal → Bool
  | .bool _ => true
  | _ => false

/-- A non-bool int in the range of an `Int64`. -/
def isInt64 : PyVal → Bool
  | .int i => inInt64 i
  | _ => false

/-- A non-bool number. -/
def isNumber : PyVal → Bool
  | .int _ | .float _ => true
  | _ => false

def isStr : PyVal → Bool
  | .str _ => true
  | _ => false

def isByte : PyVal → Bool
  | .int i => decide (0 ≤ i ∧ i < 256)
  | _ => false

/-- The payloads that a tag of the Value format admits. -/
def payloadFits (tag : List Char) : PyVal → Bool
  | .none => tag == "Null".toList
  | .bool _ => tag == "Bool".toList
  | .int i => (tag == "Int32".toList && decide (-2 ^ 31 ≤ i ∧ i < 2 ^ 31)) || (tag == "Int64".toList && inInt64 i)
  | .float _ => tag == "Float64".toList
  | .str _ => tag == "String".toList
  | .list xs =>
    (tag == "Bytes".toList && xs.all isByte) || (tag == "BoolArray".toList && xs.all isBool) ||
    (tag == "Int64Array".toList && xs.all isInt64) || (tag == "Float64Array".toList && xs.all isNumber) ||
    (tag == "StringArray".toList && xs.all isStr)
  | _ => false

/-- A value of the format: a single-key object whose payload fits its tag. -/
def wire : PyVal → Bool
  | .dict [(tag, p)] => payloadFits tag p
  | _ => false

@[simp] theorem wire_tagged (tag : String) (p : PyVal) : wire (tagged tag p) = payloadFits tag.toList p := rfl

theorem inInt64_of_int32 {i : Int} (h : -2 ^ 31 ≤ i ∧ i < 2 ^ 31) : inInt64 i = true := by
  simp only [inInt64, decide_eq_true_eq]
  omega

@[simp] theorem isByte_toNat (b : UInt8) : isByte (.int b.toNat) = true := by
  have : b.toNat < 256 := b.toNat_lt_size
  simp only [isByte, decide_eq_true_eq]
  exact ⟨Int.ofNat_nonneg _, by omega⟩

/-! ## When the codecs send a value of the format -/

/-- The values that the client's codec sends well typed: ints of the `Int64`
range, and lists whose first element, a bool, an int, a float or a str, is of
the kind of every other (an int one of the range, any number after a float). -/
def clientTyped : PyVal → Bool
  | .int i => inInt64 i
  | .list (.bool _ :: xs) => xs.all isBool
  | .list (.int i :: xs) => inInt64 i && xs.all isInt64
  | .list (.float _ :: xs) => xs.all isNumber
  | .list (.str _ :: xs) => xs.all isStr
  | _ => true

/-- The values that the cursor's codec sends well typed: all but the ints out
of the `Int64` range. -/
def cursorTyped : PyVal → Bool
  | .int i => inInt64 i
  | _ => true

/-- Both codecs tag an int by the `Int32` range alone: the `Int64` tag is
right exactly when the int is in its range. -/
theorem wire_convertInt (i : Int) :
    wire (if -2 ^ 31 ≤ i ∧ i < 2 ^ 31 then tagged "Int32" (.int i) else tagged "Int64" (.int i)) = inInt64 i := by
  split
  · rename_i h
    simp [payloadFits, inInt64_of_int32 h]
    omega
  · simp [payloadFits]

/-- The values whose `str()` the cursor's codec takes without raising: the
scalars it tags take none, any other value its own `str()`. -/
def cursorStrFits (py : Py) : PyVal → Bool
  | .none | .bool _ | .int _ | .float _ | .str _ => true
  | v => PyVal.strFits py v

/-- The values whose `str()` the client's codec takes without raising: the
values it tags take none, a list whose first element is not tagged the
`str()` of each element, and any other value its own `str()`. -/
def clientStrFits (py : Py) : PyVal → Bool
  | .list [] => true
  | .list (x :: xs) =>
    match x with
    | .bool _ | .int _ | .float _ | .str _ => true
    | _ => (x :: xs).all (PyVal.strFits py)
  | .none | .bool _ | .int _ | .float _ | .str _ | .bytes _ => true
  | v => PyVal.strFits py v

/-- What a codec's call gives: a value of the format exactly when `typed`, and
exactly when `fits`; else one of the errors of `str()`. -/
def Sends (r : Except PyErr PyVal) (fits typed : Bool) : Prop :=
  match r with
  | .ok w => fits = true ∧ wire w = typed
  | .error e => fits = false ∧ PyVal.ReprError e

section Sends

variable (py : Py)

theorem sends_ok {w : PyVal} {fits typed : Bool} : Sends (.ok w) fits typed ↔ fits = true ∧ wire w = typed :=
  Iff.rfl

theorem sends_error {e : PyErr} {fits typed : Bool} :
    Sends (.error e) fits typed ↔ fits = false ∧ PyVal.ReprError e := Iff.rfl

/-- A value sent as the `str()` of `v` under a tag its text always fits. -/
theorem sends_map_pyStr {g : List Char → PyVal} (hg : ∀ s, wire (g s) = true) (v : PyVal) :
    Sends (g <$> PyVal.pyStr py v) (PyVal.strFits py v) true := by
  cases h : PyVal.strFits py v
  · obtain ⟨e, he, hr⟩ := PyVal.pyStr_of_not_fits py h
    rw [he]
    exact sends_error.mpr ⟨rfl, hr⟩
  · rw [PyVal.pyStr_of_fits py h]
    exact sends_ok.mpr ⟨rfl, hg _⟩

/-- A value sent as the `str()` of each element of a list, under a tag their
texts always fit: the first element whose `str()` raises stops it. -/
theorem sends_map_mapM_pyStr : ∀ {g : List (List Char) → PyVal}, (∀ ss, wire (g ss) = true) →
    ∀ xs : List PyVal, Sends (g <$> xs.mapM (PyVal.pyStr py)) (xs.all (PyVal.strFits py)) true
  | _, hg, [] => sends_ok.mpr ⟨rfl, hg []⟩
  | g, hg, x :: xs => by
    rw [List.mapM_cons, List.all_cons]
    cases h : PyVal.strFits py x
    · obtain ⟨e, he, hr⟩ := PyVal.pyStr_of_not_fits py h
      rw [he]
      exact sends_error.mpr ⟨rfl, hr⟩
    · rw [PyVal.pyStr_of_fits py h, Bool.true_and]
      have ih := sends_map_mapM_pyStr (g := fun ss => g (x.toStr py :: ss)) (fun ss => hg _) xs
      cases hm : xs.mapM (PyVal.pyStr py) <;> rw [hm] at ih <;> exact ih

end Sends

theorem wire_string (s : List Char) : wire (tagged "String" (.str s)) = true := rfl

theorem wire_stringArray (ss : List (List Char)) : wire (tagged "StringArray" (.list (ss.map .str))) = true := by
  simp [payloadFits, isStr]

/-- The client's codec: ints tagged by the `Int32` range, lists by their first
element, and the `str()` of the rest. -/
theorem sends_client_convertValue (py : Py) (v : PyVal) :
    Sends (client.convertValue py v) (clientStrFits py v) (clientTyped v) := by
  cases v with
  | int i => exact sends_ok.mpr ⟨rfl, wire_convertInt i⟩
  | bytes bs => exact sends_ok.mpr ⟨rfl, by simp [payloadFits, clientTyped]⟩
  | list xs =>
    cases xs with
    | nil => exact sends_ok.mpr ⟨rfl, rfl⟩
    | cons x xs =>
      cases x
      case bool | int | float | str =>
        exact sends_ok.mpr ⟨rfl, by simp [payloadFits, clientTyped, isBool, isInt64, isNumber, isStr]⟩
      all_goals exact sends_map_mapM_pyStr py wire_stringArray _
  | dict kvs => exact sends_map_pyStr py wire_string _
  | other s r => exact sends_map_pyStr py wire_string _
  | _ => exact sends_ok.mpr ⟨rfl, rfl⟩

theorem sends_cursor_convertValue (py : Py) (v : PyVal) :
    Sends (dbapi.convertValue py v) (cursorStrFits py v) (cursorTyped v) := by
  cases v with
  | int i => exact sends_ok.mpr ⟨rfl, wire_convertInt i⟩
  | bytes _ | list _ | dict _ | other _ _ => exact sends_map_pyStr py wire_string _
  | _ => exact sends_ok.mpr ⟨rfl, rfl⟩

/-- Each codec returns, for every value whose `str()` it takes without
raising, a single-key object, and raises one of the errors of `str()` for
every other; the client's object fits its tag exactly for the `clientTyped`
values, the cursor's one exactly for the `cursorTyped` ones. -/
theorem codec_payload_fits_iff (py : Py) (v : PyVal) :
    Sends (client.convertValue py v) (clientStrFits py v) (clientTyped v) ∧
    Sends (dbapi.convertValue py v) (cursorStrFits py v) (cursorTyped v) :=
  ⟨sends_client_convertValue py v, sends_cursor_convertValue py v⟩

/-- `2 ** 63` goes as an `Int64` out of its range, and `[1, "a"]` as an
`Int64Array` holding a str. -/
theorem codec_payload_out_of_tag :
    client.convertValue Py.ascii (.int (2 ^ 63)) = .ok (tagged "Int64" (.int (2 ^ 63))) ∧
    dbapi.convertValue Py.ascii (.int (2 ^ 63)) = .ok (tagged "Int64" (.int (2 ^ 63))) ∧
    wire (tagged "Int64" (.int (2 ^ 63))) = false ∧
    client.convertValue Py.ascii (.list [.int 1, .str "a".toList]) =
      .ok (tagged "Int64Array" (.list [.int 1, .str "a".toList])) ∧
    wire (tagged "Int64Array" (.list [.int 1, .str "a".toList])) = false :=
  ⟨rfl, rfl, by decide, rfl, by decide⟩

/-! ## The identifier decoders -/

/-- Without a hyphen in the text the two decoders do the same: both raise, or
both return the same bytes. -/
theorem hexToUuid_agree_without_hyphens (py : Py) (s : List Char) (h : '-' ∉ s) :
    (client.hexToUuid py s).toOption = (dbapi.hexToUuid py s).toOption := by
  have hf : s.filter (· ≠ '-') = s := List.filter_eq_self.mpr fun c hc => by
    simpa using fun he : c = '-' => h (he ▸ hc)
  unfold client.hexToUuid dbapi.hexToUuid
  dsimp only
  rw [hf]
  by_cases hl : s.length = 32
  · exact congrArg Except.toOption ((if_neg (not_not.mpr hl)).trans (if_neg (not_not.mpr hl)).symm)
  · rw [if_pos hl, if_pos hl]
    rfl

theorem hexToUuid_agree_plain_id :
    '-' ∉ "00112233445566778899aabbccddeeff".toList ∧
    (client.hexToUuid Py.ascii "00112233445566778899aabbccddeeff".toList).toOption =
      (dbapi.hexToUuid Py.ascii "00112233445566778899aabbccddeeff".toList).toOption :=
  ⟨by decide, hexToUuid_agree_without_hyphens Py.ascii _ (by decide)⟩

/-- The identifier of a canonical UUID text, with its four hyphens. -/
def canonicalZeroId : List Char := "00000000-0000-0000-0000-000000000000".toList

/-- The client keeps the hyphens and refuses the 36 characters; the cursor
drops them and decodes sixteen zero bytes. -/
theorem hexToUuid_hyphens_disagree (py : Py) :
    client.hexToUuid py canonicalZeroId =
      .error (.valueError (some "Invalid UUID hex string length: 36".toList)) ∧
    dbapi.hexToUuid py canonicalZeroId = .ok (List.replicate 16 0) := by
  refine ⟨rfl, ?_⟩
  rw [hexToUuid_hex py (by decide) (by decide)]
  decide

end ormdb.codec
