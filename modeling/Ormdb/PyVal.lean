-- Python values as the client handles them: what its parsers return, what
-- its callers pass, what it posts, and the JSON replies once decoded; with
-- `bool()`, `str()` and `repr()` of each.
import Ormdb.PyNum

namespace ormdb

open ormdb.py

/-- A Python value. A dict has string keys, as every dict of the client and of
a decoded reply has; `other` is an object of any other type, by its `str()`
and its `repr()`. -/
inductive PyVal where
  | none
  | bool (b : Bool)
  | int (i : Int)
  | float (x : PyFloat)
  | str (s : List Char)
  | bytes (bs : List UInt8)
  | list (xs : List PyVal)
  | dict (kvs : List (List Char × PyVal))
  | other (str repr : List Char)

namespace PyVal

/-! ## Equality -/

mutual
/-- Structural equality of values. -/
def beq : PyVal → PyVal → Bool
  | .none, .none => true
  | .bool a, .bool b => a == b
  | .int a, .int b => a == b
  | .float a, .float b => a == b
  | .str a, .str b => a == b
  | .bytes a, .bytes b => a == b
  | .list a, .list b => beqList a b
  | .dict a, .dict b => beqDict a b
  | .other a a', .other b b' => a == b && a' == b'
  | _, _ => false

def beqList : List PyVal → List PyVal → Bool
  | [], [] => true
  | x :: xs, y :: ys => beq x y && beqList xs ys
  | _, _ => false

def beqDict : List (List Char × PyVal) → List (List Char × PyVal) → Bool
  | [], [] => true
  | (k, x) :: xs, (l, y) :: ys => k == l && beq x y && beqDict xs ys
  | _, _ => false
end

mutual
theorem eq_of_beqVal : ∀ {a b : PyVal}, beq a b = true → a = b
  | .none, b, h => by cases b <;> first | rfl | cases h
  | .bool _, b, h => by cases b <;> first | cases h | exact congrArg _ (LawfulBEq.eq_of_beq h)
  | .int _, b, h => by cases b <;> first | cases h | exact congrArg _ (LawfulBEq.eq_of_beq h)
  | .float _, b, h => by cases b <;> first | cases h | exact congrArg _ (LawfulBEq.eq_of_beq h)
  | .str _, b, h => by cases b <;> first | cases h | exact congrArg _ (LawfulBEq.eq_of_beq h)
  | .bytes _, b, h => by cases b <;> first | cases h | exact congrArg _ (LawfulBEq.eq_of_beq h)
  | .list _, b, h => by cases b <;> first | cases h | exact congrArg _ (eq_of_beqList h)
  | .dict _, b, h => by cases b <;> first | cases h | exact congrArg _ (eq_of_beqDict h)
  | .other _ _, b, h => by
    cases b <;> first
      | cases h
      | obtain ⟨h1, h2⟩ := Bool.and_eq_true _ _ ▸ h
        rw [LawfulBEq.eq_of_beq h1, LawfulBEq.eq_of_beq h2]

theorem eq_of_beqList : ∀ {a b : List PyVal}, beqList a b = true → a = b
  | [], [], _ => rfl
  | x :: xs, y :: ys, h => by
    obtain ⟨h1, h2⟩ := Bool.and_eq_true _ _ ▸ h
    rw [eq_of_beqVal h1, eq_of_beqList h2]

theorem eq_of_beqDict : ∀ {a b : List (List Char × PyVal)}, beqDict a b = true → a = b
  | [], [], _ => rfl
  | (k, x) :: xs, (l, y) :: ys, h => by
    obtain ⟨⟨h1, h2⟩, h3⟩ := Bool.and_eq_true _ _ ▸ Bool.and_eq_true _ _ ▸ h
    rw [LawfulBEq.eq_of_beq h1, eq_of_beqVal h2, eq_of_beqDict h3]
end

mutual
theorem beq_self : ∀ a : PyVal, beq a a = true
  | .none => rfl
  | .bool b => beq_self_eq_true b
  | .int i => beq_self_eq_true i
  | .float x => beq_self_eq_true x
  | .str s => beq_self_eq_true s
  | .bytes bs => beq_self_eq_true bs
  | .list xs => beqList_self xs
  | .dict kvs => beqDict_self kvs
  | .other s r => show (s == s && r == r) = true by simp

theorem beqList_self : ∀ a : List PyVal, beqList a a = true
  | [] => rfl
  | x :: xs => show (beq x x && beqList xs xs) = true by rw [beq_self x, beqList_self xs]; rfl

theorem beqDict_self : ∀ a : List (List Char × PyVal), beqDict a a = true
  | [] => rfl
  | (k, x) :: xs => show (k == k && beq x x && beqDict xs xs) = true by
    rw [beq_self x, beqDict_self xs]; simp
end

theorem beq_iff (a b : PyVal) : beq a b = true ↔ a = b :=
  ⟨eq_of_beqVal, fun h => h ▸ beq_self a⟩

instance : DecidableEq PyVal := fun a b => decidable_of_iff _ (beq_iff a b)

/-! ## `bool()` -/

/-- `bool(v)`. -/
def truthy : PyVal → Bool
  | .none => false
  | .bool b => b
  | .int i => i != 0
  | .float x => x.truthy
  | .str s => !s.isEmpty
  | .bytes bs => !bs.isEmpty
  | .list xs => !xs.isEmpty
  | .dict kvs => !kvs.isEmpty
  | .other _ _ => true

/-! ## `repr()` and `str()` -/

/-- `n` in `width` lowercase hex digits. -/
def hexPad (width n : Nat) : List Char :=
  let ds := Nat.toDigits 16 n
  List.replicate (width - ds.length) '0' ++ ds

/-- The quote of a `repr()`: a double quote when the text holds a single quote
and no double one. -/
def quoteFor (s : List Char) : Char := if '\'' ∈ s ∧ '"' ∉ s then '"' else '\''

/-- One character of a string's `repr()` quoted by `q`. -/
def reprChar (py : Py) (q c : Char) : List Char :=
  if c = q ∨ c = '\\' then ['\\', c]
  else if c = '\t' then ['\\', 't']
  else if c = '\n' then ['\\', 'n']
  else if c = '\r' then ['\\', 'r']
  else if c.toNat < 32 ∨ c.toNat = 127 then '\\' :: 'x' :: hexPad 2 c.toNat
  else if c.toNat < 127 ∨ py.isprintable c then [c]
  else if c.toNat ≤ 0xff then '\\' :: 'x' :: hexPad 2 c.toNat
  else if c.toNat ≤ 0xffff then '\\' :: 'u' :: hexPad 4 c.toNat
  else '\\' :: 'U' :: hexPad 8 c.toNat

/-- One byte of a `bytes` `repr()` quoted by `q`. -/
def reprByte (q : Char) (b : UInt8) : List Char :=
  let c := Char.ofNat b.toNat
  if c = q ∨ c = '\\' then ['\\', c]
  else if c = '\t' then ['\\', 't']
  else if c = '\n' then ['\\', 'n']
  else if c = '\r' then ['\\', 'r']
  else if b.toNat < 32 ∨ 127 ≤ b.toNat then '\\' :: 'x' :: hexPad 2 b.toNat
  else [c]

mutual
/-- `repr(v)`. -/
def repr (py : Py) : PyVal → List Char
  | .none => "None".toList
  | .bool b => if b then "True".toList else "False".toList
  | .int i => intStr i
  | .float x => py.reprFloat x
  | .str s => let q := quoteFor s; q :: s.flatMap (reprChar py q) ++ [q]
  | .bytes bs =>
    let q := quoteFor (bs.map fun b => Char.ofNat b.toNat)
    'b' :: q :: bs.flatMap (reprByte q) ++ [q]
  | .list xs => '[' :: reprList py xs ++ [']']
  | .dict kvs => '{' :: reprDict py kvs ++ ['}']
  | .other _ r => r

/-- The items of a list's `repr()`, with `", "` between them. -/
def reprList (py : Py) : List PyVal → List Char
  | [] => []
  | [x] => repr py x
  | x :: xs => repr py x ++ ", ".toList ++ reprList py xs

/-- The entries of a dict's `repr()`, with `", "` between them. -/
def reprDict (py : Py) : List (List Char × PyVal) → List Char
  | [] => []
  | [(k, x)] => repr py (.str k) ++ ": ".toList ++ repr py x
  | (k, x) :: kvs => repr py (.str k) ++ ": ".toList ++ repr py x ++ ", ".toList ++ reprDict py kvs
end

/-- `str(v)`: the text itself for a string, `repr()` for the other built-in
types. -/
def toStr (py : Py) : PyVal → List Char
  | .str s => s
  | .other s _ => s
  | v => repr py v

end PyVal

/-! ## Errors -/

/-- An error of the HTTP layer, `httpx.HTTPError`: the transport failed, or
`raise_for_status` met a status outside 2xx. -/
inductive HttpError where
  | transport (msg : List Char)
  | status (code : Nat)
  deriving DecidableEq, Repr

/-- The exceptions that the code raises or lets through. The messages of the
code's own errors are kept; the interpreter's are left out, so a `ValueError`
carries a message only when the code raised it. An `httpError` is what `httpx`
raises, before `execute` turns it into an `OperationalError`. The client's
`OrmdbError`s carry their `message` and `code` as the reply gave them. -/
inductive PyErr where
  | programmingError (msg : List Char)
  | interfaceError (msg : List Char)
  | operationalError (cause : HttpError)
  | httpError (e : HttpError)
  | valueError (msg : Option (List Char))
  | overflowError
  | recursionError
  | unicodeDecodeError
  | jsonDecodeError
  | typeError
  | attributeError
  | keyError
  | indexError
  | stopIteration
  | connectionError (message : List Char)
  | queryError (message code : PyVal)
  | mutationError (message code : PyVal)
  deriving DecidableEq

instance decEqExcept {ε α : Type} [DecidableEq ε] [DecidableEq α] : DecidableEq (Except ε α)
  | .error x, .error y => decidable_of_iff (x = y) (by simp)
  | .ok x, .ok y => decidable_of_iff (x = y) (by simp)
  | .error _, .ok _ => isFalse Except.noConfusion
  | .ok _, .error _ => isFalse Except.noConfusion

/-! ## Steps of `Except` -/

@[simp] theorem ok_bind {ε α β : Type} (x : α) (f : α → Except ε β) : (Except.ok x >>= f) = f x := rfl

theorem error_bind {ε α β : Type} (e : ε) (f : α → Except ε β) : (Except.error e >>= f) = .error e := rfl

@[simp] theorem except_pure {ε α : Type} (x : α) : (pure x : Except ε α) = .ok x := rfl

theorem map_ok {ε α β : Type} (f : α → β) (x : α) : (f <$> (Except.ok x : Except ε α)) = .ok (f x) := rfl

theorem map_error {ε α β : Type} (f : α → β) (e : ε) : (f <$> (Except.error e : Except ε α)) = .error e := rfl

namespace PyVal

/-! ## Reading a value -/

/-- `v.get(key, default)`; an `AttributeError` for a value that is no dict. -/
def get (v : PyVal) (key : List Char) (default : PyVal) : Except PyErr PyVal :=
  match v with
  | .dict kvs => .ok ((kvs.lookup key).getD default)
  | _ => .error .attributeError

/-- The items of `for x in v`: a list's elements, a dict's keys, a string's
characters, a bytes' integers; a `TypeError` for the rest. -/
def iter : PyVal → Except PyErr (List PyVal)
  | .list xs => .ok xs
  | .dict kvs => .ok (kvs.map fun kv => .str kv.1)
  | .str s => .ok (s.map fun c => .str [c])
  | .bytes bs => .ok (bs.map fun b => .int b.toNat)
  | _ => .error .typeError

/-- `v.keys()`. -/
def keys : PyVal → Except PyErr (List (List Char))
  | .dict kvs => .ok (kvs.map Prod.fst)
  | _ => .error .attributeError

/-- `v.values()`. -/
def values : PyVal → Except PyErr (List PyVal)
  | .dict kvs => .ok (kvs.map Prod.snd)
  | _ => .error .attributeError

/-- `for block in blocks: acc.extend(block.get(key, []))`: the items under
`key` of each block, block by block. -/
def extendEach (key : List Char) (blocks : List PyVal) : Except PyErr (List PyVal) :=
  blocks.foldlM (fun acc block => do
    let items ← block.get key (.list [])
    let items ← items.iter
    pure (acc ++ items)) []

/-- `v[0]`: the first item of a list, a string or a bytes; a `KeyError` from a
dict, whose keys are strings; a `TypeError` for the rest. -/
def first : PyVal → Except PyErr PyVal
  | .list (x :: _) => .ok x
  | .str (c :: _) => .ok (.str [c])
  | .bytes (b :: _) => .ok (.int b.toNat)
  | .list [] | .str [] | .bytes [] => .error .indexError
  | .dict _ => .error .keyError
  | _ => .error .typeError

/-! ## `repr()` and `str()` as they may raise

Each `PyObject_Repr` and `PyObject_Str` call takes one level of the recursion
limit, and an int with more digits than `sys.get_int_max_str_digits()` allows
raises `ValueError` when it is written. -/

mutual
/-- `repr(v)` with room for `room` nested calls: the items of a list and the
keys and values of a dict are written with one level less. -/
def reprIn (py : Py) : Nat → PyVal → Except PyErr (List Char)
  | 0, _ => .error .recursionError
  | _ + 1, .int i => if py.digitsFit (intDigits i) then .ok (intStr i) else .error (.valueError .none)
  | n + 1, .list xs => (fun t => '[' :: t ++ [']']) <$> reprListIn py n xs
  | n + 1, .dict kvs => (fun t => '{' :: t ++ ['}']) <$> reprDictIn py n kvs
  | _ + 1, v => .ok (repr py v)

def reprListIn (py : Py) (n : Nat) : List PyVal → Except PyErr (List Char)
  | [] => .ok []
  | [x] => reprIn py n x
  | x :: xs => do
    let a ← reprIn py n x
    let b ← reprListIn py n xs
    pure (a ++ ", ".toList ++ b)

/-- A key is a str, whose `repr()` takes a level of its own. -/
def reprDictIn (py : Py) (n : Nat) : List (List Char × PyVal) → Except PyErr (List Char)
  | [] => .ok []
  | [(k, x)] => do
    if n = 0 then .error .recursionError
    let b ← reprIn py n x
    pure (repr py (.str k) ++ ": ".toList ++ b)
  | (k, x) :: kvs => do
    if n = 0 then .error .recursionError
    let b ← reprIn py n x
    let c ← reprDictIn py n kvs
    pure (repr py (.str k) ++ ": ".toList ++ b ++ ", ".toList ++ c)
end

mutual
/-- The values whose `repr()` completes within `room` nested calls: every int
within the digit limit, and no item nested deeper than the room. -/
def fitsIn (py : Py) : Nat → PyVal → Bool
  | 0, _ => false
  | _ + 1, .int i => py.digitsFit (intDigits i)
  | n + 1, .list xs => fitsListIn py n xs
  | n + 1, .dict kvs => fitsDictIn py n kvs
  | _ + 1, _ => true

def fitsListIn (py : Py) (n : Nat) : List PyVal → Bool
  | [] => true
  | x :: xs => fitsIn py n x && fitsListIn py n xs

def fitsDictIn (py : Py) (n : Nat) : List (List Char × PyVal) → Bool
  | [] => true
  | (_, x) :: kvs => n != 0 && fitsIn py n x && fitsDictIn py n kvs
end

/-- `repr(v)` at the client's calls. -/
def pyRepr (py : Py) (v : PyVal) : Except PyErr (List Char) := reprIn py py.reprRoom v

/-- `str(v)` at the client's calls: a str is itself, another object its own
`str()`, and the built-in types write what `repr()` writes. -/
def pyStr (py : Py) : PyVal → Except PyErr (List Char)
  | .str s => .ok s
  | .other s _ => .ok s
  | v => pyRepr py v

/-- The values whose `str()` completes at the client's calls. -/
def strFits (py : Py) : PyVal → Bool
  | .str _ | .other _ _ => true
  | v => fitsIn py py.reprRoom v

/-- The errors of `repr()` and `str()`. -/
def ReprError (e : PyErr) : Prop := e = .valueError .none ∨ e = .recursionError

section Raising

variable (py : Py)

theorem reprList_cons_cons (x y : PyVal) (ys : List PyVal) :
    reprList py (x :: y :: ys) = repr py x ++ ", ".toList ++ reprList py (y :: ys) := by
  rw [reprList] <;> simp

theorem reprDict_cons_cons (k : List Char) (x : PyVal) (l : List Char) (y : PyVal)
    (kvs : List (List Char × PyVal)) :
    reprDict py ((k, x) :: (l, y) :: kvs) =
      repr py (.str k) ++ ": ".toList ++ repr py x ++ ", ".toList ++ reprDict py ((l, y) :: kvs) := by
  rw [reprDict] <;> simp

mutual
theorem reprIn_of_fits : ∀ {n : Nat} {v : PyVal}, fitsIn py n v = true → reprIn py n v = .ok (repr py v)
  | 0, _, h => by simp [fitsIn] at h
  | _ + 1, .int i, h => by simp_all [fitsIn, reprIn, repr]
  | n + 1, .list xs, h => by
    rw [reprIn, reprListIn_of_fits (n := n) h, repr]; rfl
  | n + 1, .dict kvs, h => by
    rw [reprIn, reprDictIn_of_fits (n := n) h, repr]; rfl
  | _ + 1, .none, _ | _ + 1, .bool _, _ | _ + 1, .float _, _ | _ + 1, .str _, _ | _ + 1, .bytes _, _
  | _ + 1, .other _ _, _ => by simp [reprIn]

theorem reprListIn_of_fits : ∀ {n : Nat} {xs : List PyVal}, fitsListIn py n xs = true →
    reprListIn py n xs = .ok (reprList py xs)
  | _, [], _ => by rw [reprListIn, reprList]
  | _, [x], h => by
    simp only [fitsListIn, Bool.and_true] at h
    rw [reprListIn, reprIn_of_fits h, reprList]
  | _, x :: y :: ys, h => by
    simp only [fitsListIn, Bool.and_eq_true] at h
    have ht : reprListIn py _ (y :: ys) = .ok (reprList py (y :: ys)) :=
      reprListIn_of_fits (by simpa [fitsListIn] using h.2)
    simp only [reprListIn, reprIn_of_fits h.1, ht, reprList_cons_cons]; rfl

theorem reprDictIn_of_fits : ∀ {n : Nat} {kvs : List (List Char × PyVal)}, fitsDictIn py n kvs = true →
    reprDictIn py n kvs = .ok (reprDict py kvs)
  | _, [], _ => by rw [reprDictIn, reprDict]
  | n, [(k, x)], h => by
    simp only [fitsDictIn, Bool.and_true, Bool.and_eq_true, bne_iff_ne, ne_eq] at h
    simp only [reprDictIn, if_neg h.1, reprIn_of_fits h.2, reprDict]; rfl
  | n, (k, x) :: (l, y) :: kvs, h => by
    simp only [fitsDictIn, Bool.and_eq_true, bne_iff_ne, ne_eq] at h
    have ht : reprDictIn py n ((l, y) :: kvs) = .ok (reprDict py ((l, y) :: kvs)) :=
      reprDictIn_of_fits (by simpa [fitsDictIn] using h.2)
    simp only [reprDictIn, if_neg h.1.1, reprIn_of_fits h.1.2, ht, reprDict_cons_cons]; rfl
end

mutual
theorem reprIn_of_not_fits : ∀ {n : Nat} {v : PyVal}, fitsIn py n v = false →
    ∃ e, reprIn py n v = .error e ∧ ReprError e
  | 0, _, _ => ⟨_, by simp [reprIn], .inr rfl⟩
  | _ + 1, .int i, h => ⟨_, by simp_all [fitsIn, reprIn], .inl rfl⟩
  | n + 1, .list xs, h => by
    obtain ⟨e, he, hk⟩ := reprListIn_of_not_fits (n := n) h
    exact ⟨e, by rw [reprIn, he]; rfl, hk⟩
  | n + 1, .dict kvs, h => by
    obtain ⟨e, he, hk⟩ := reprDictIn_of_not_fits (n := n) h
    exact ⟨e, by rw [reprIn, he]; rfl, hk⟩
  | _ + 1, .none, h | _ + 1, .bool _, h | _ + 1, .float _, h | _ + 1, .str _, h | _ + 1, .bytes _, h
  | _ + 1, .other _ _, h => by simp [fitsIn] at h

theorem reprListIn_of_not_fits : ∀ {n : Nat} {xs : List PyVal}, fitsListIn py n xs = false →
    ∃ e, reprListIn py n xs = .error e ∧ ReprError e
  | _, [], h => by simp [fitsListIn] at h
  | _, [x], h => by
    simp only [fitsListIn, Bool.and_true] at h
    obtain ⟨e, he, hk⟩ := reprIn_of_not_fits h
    exact ⟨e, by rw [reprListIn, he], hk⟩
  | n, x :: y :: ys, h => by
    cases hx : fitsIn py n x
    · obtain ⟨e, he, hk⟩ := reprIn_of_not_fits hx
      exact ⟨e, by simp only [reprListIn, he]; rfl, hk⟩
    · obtain ⟨e, he, hk⟩ : ∃ e, reprListIn py n (y :: ys) = .error e ∧ ReprError e :=
        reprListIn_of_not_fits (by simpa [fitsListIn, hx] using h)
      exact ⟨e, by simp only [reprListIn, reprIn_of_fits py hx, he]; rfl, hk⟩

theorem reprDictIn_of_not_fits : ∀ {n : Nat} {kvs : List (List Char × PyVal)}, fitsDictIn py n kvs = false →
    ∃ e, reprDictIn py n kvs = .error e ∧ ReprError e
  | _, [], h => by simp [fitsDictIn] at h
  | 0, [(_, _)], _ | 0, (_, _) :: _ :: _, _ => ⟨_, by simp [reprDictIn]; rfl, .inr rfl⟩
  | n + 1, [(k, x)], h => by
    obtain ⟨e, he, hk⟩ := reprIn_of_not_fits (by simpa [fitsDictIn] using h)
    exact ⟨e, by simp only [reprDictIn, if_neg (Nat.succ_ne_zero n), he]; rfl, hk⟩
  | n + 1, (k, x) :: (l, y) :: kvs, h => by
    cases hx : fitsIn py (n + 1) x
    · obtain ⟨e, he, hk⟩ := reprIn_of_not_fits hx
      exact ⟨e, by simp only [reprDictIn, if_neg (Nat.succ_ne_zero n), he]; rfl, hk⟩
    · obtain ⟨e, he, hk⟩ : ∃ e, reprDictIn py (n + 1) ((l, y) :: kvs) = .error e ∧ ReprError e :=
        reprDictIn_of_not_fits (by simpa [fitsDictIn, hx] using h)
      exact ⟨e, by simp only [reprDictIn, if_neg (Nat.succ_ne_zero n), reprIn_of_fits py hx, he]; rfl, hk⟩
end

/-- `str(v)` writes what `toStr` gives when it completes, and raises an error of
`repr()` otherwise. -/
theorem pyStr_of_fits {v : PyVal} (h : strFits py v = true) : pyStr py v = .ok (v.toStr py) := by
  cases v <;> simp_all [pyStr, strFits, pyRepr, toStr, reprIn_of_fits]

theorem pyStr_of_not_fits {v : PyVal} (h : strFits py v = false) : ∃ e, pyStr py v = .error e ∧ ReprError e := by
  cases v <;> first
    | exact reprIn_of_not_fits py h
    | simp_all [strFits, pyStr, ReprError]

/-- The room of the client's calls, as one call and the room left. -/
theorem reprRoom_succ : py.reprRoom = (py.reprRoom - 1) + 1 := (Nat.succ_pred_eq_of_pos py.reprRoom_pos).symm

/-- `str()` of an int: its digits within the limit, a `ValueError` past it. -/
theorem pyStr_int (i : Int) :
    pyStr py (.int i) = if py.digitsFit (intDigits i) then .ok (intStr i) else .error (.valueError .none) := by
  simp only [pyStr, pyRepr]; rw [reprRoom_succ]; rfl

/-- `str()` of a value with no int and no item writes its `repr()`. -/
theorem pyStr_of_scalar {v : PyVal} (h : ∀ i, v ≠ .int i) (hl : ∀ xs, v ≠ .list xs)
    (hd : ∀ kvs, v ≠ .dict kvs) : pyStr py v = .ok (v.toStr py) := by
  cases v <;> first
    | exact absurd rfl (h _) | exact absurd rfl (hl _) | exact absurd rfl (hd _)
    | rfl
    | (simp only [pyStr, pyRepr]; rw [reprRoom_succ]; rfl)

end Raising

end PyVal

end ormdb
