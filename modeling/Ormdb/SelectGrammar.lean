-- The SELECT statements of the grammar the cursor reads: the statement as
-- data, its text, and what `_parse_select` should return for it. In the
-- text of a statement of the grammar the keys ` FROM `, ` WHERE `,
-- ` ORDER BY `, ` LIMIT ` and ` OFFSET ` stand where its clauses start, and
-- the cuts of `_parse_select` give back each clause.
import Ormdb.Words

namespace ormdb.dbapi

open ormdb.py ormdb.regex

/-! ## The SELECT grammar -/

/-- An operator of a WHERE clause, as the statement writes it. -/
inductive WhereOp where
  | eq
  | ne
  | ltgt
  | le
  | ge
  | lt
  | gt
  | like (k : Keyword "LIKE".toList)
  | isIn (k : Keyword "IN".toList)

/-- The operator as the statement writes it. -/
def WhereOp.text : WhereOp → List Char
  | .eq => "=".toList
  | .ne => "!=".toList
  | .ltgt => "<>".toList
  | .le => "<=".toList
  | .ge => ">=".toList
  | .lt => "<".toList
  | .gt => ">".toList
  | .like k => k.text
  | .isIn k => k.text

/-- The name of the operator in the filter of the query. -/
def WhereOp.name : WhereOp → List Char
  | .eq => "eq".toList
  | .ne | .ltgt => "ne".toList
  | .le => "le".toList
  | .ge => "ge".toList
  | .lt => "lt".toList
  | .gt => "gt".toList
  | .like _ => "like".toList
  | .isIn _ => "in".toList

/-- `WHERE f op v`. -/
structure Cond where
  whereKw : Keyword "WHERE".toList
  field : List Char
  op : WhereOp
  value : List Char

/-- The direction of an ORDER BY item. -/
inductive Dir where
  | asc (k : Keyword "ASC".toList)
  | desc (k : Keyword "DESC".toList)

def Dir.text : Dir → List Char
  | .asc k => k.text
  | .desc k => k.text

/-- An item of ORDER BY: a field, and a direction or none. -/
structure OrderItem where
  field : List Char
  dir : Option Dir

/-- `ORDER BY i1, ..., ik`. -/
structure OrderBy where
  orderKw : Keyword "ORDER".toList
  byKw : Keyword "BY".toList
  items : List OrderItem

/-- `OFFSET m`. -/
structure Offset where
  offsetKw : Keyword "OFFSET".toList
  digits : List Char

/-- `LIMIT n [OFFSET m]`. -/
structure Limit where
  limitKw : Keyword "LIMIT".toList
  digits : List Char
  offset : Option Offset

/-- The field list: `*`, or names. -/
inductive Fields where
  | star
  | names (fs : List (List Char))

/-- `SELECT F FROM e [WHERE f op v] [ORDER BY ...] [LIMIT n [OFFSET m]]`. -/
structure SelectStmt where
  selectKw : Keyword "SELECT".toList
  fields : Fields
  fromKw : Keyword "FROM".toList
  entity : List Char
  cond : Option Cond
  order : Option OrderBy
  limit : Option Limit

/-! ### The words of a statement -/

/-- Words joined by `, `: each word but the last takes the comma. -/
def commaWords : List (List Char) → List (List Char)
  | [] => []
  | [w] => [w]
  | w :: ws => (w ++ [',']) :: commaWords ws

def Fields.words : Fields → List (List Char)
  | .star => ["*".toList]
  | .names fs => commaWords fs

def Cond.words (c : Cond) : List (List Char) := c.whereKw.text :: c.field :: c.op.text :: c.value.splitOn ' '

/-- The words of an ORDER BY item, the last of them followed by `sep`. -/
def OrderItem.words (it : OrderItem) (sep : List Char) : List (List Char) :=
  match it.dir with
  | none => [it.field ++ sep]
  | some d => [it.field, d.text ++ sep]

def OrderItem.listWords : List OrderItem → List (List Char)
  | [] => []
  | [it] => it.words []
  | it :: its => it.words [','] ++ OrderItem.listWords its

def OrderBy.words (o : OrderBy) : List (List Char) := o.orderKw.text :: o.byKw.text :: OrderItem.listWords o.items

def Limit.words (l : Limit) : List (List Char) :=
  l.limitKw.text :: l.digits :: (match l.offset with
    | none => []
    | some o => [o.offsetKw.text, o.digits])

namespace SelectStmt

variable (st : SelectStmt)

def condWords : List (List Char) := (st.cond.map Cond.words).getD []

def orderWords : List (List Char) := (st.order.map OrderBy.words).getD []

def limitWords : List (List Char) := (st.limit.map Limit.words).getD []

/-- The statement: its words joined by single spaces. -/
def text : List Char :=
  unwords (st.selectKw.text :: st.fields.words ++ st.fromKw.text :: st.entity ::
    (st.condWords ++ st.orderWords ++ st.limitWords))

end SelectStmt

/-! ### What the parser should return -/

/-- An ORDER BY item as the grammar reads it: the field as written, or in
upper case when a direction is given. -/
def OrderItem.value (py : Py) (it : OrderItem) : PyVal :=
  match it.dir with
  | none => orderItem it.field "asc".toList
  | some (.asc _) => orderItem (upper py it.field) "asc".toList
  | some (.desc _) => orderItem (upper py it.field) "desc".toList

def Fields.parsed : Fields → List (List Char)
  | .star => ["*".toList]
  | .names fs => fs

/-- The filter of a WHERE clause: the field, the name of the operator, and the
value read by `_parse_sql_value`. -/
def Cond.filter (py : Py) (c : Cond) : PyVal :=
  .dict [("field".toList, .str c.field), ("op".toList, .str c.op.name),
    ("value".toList, parseSqlValue py c.value)]

/-- The SELECT as the grammar reads it. -/
def SelectStmt.parsed (py : Py) (st : SelectStmt) : Select where
  entity := st.entity
  fields := st.fields.parsed
  filterExpr := st.cond.map (Cond.filter py)
  orderBy := st.order.map fun o => .list (o.items.map (OrderItem.value py))
  limit := st.limit.map fun l => (decValue l.digits : Int)
  offset := (st.limit.bind Limit.offset).map fun o => (decValue o.digits : Int)

/-! ## Statements of the grammar -/

/-- The keywords that `_parse_select` searches for. -/
def selectKeys : List (List Char) :=
  ["FROM".toList, "WHERE".toList, "ORDER".toList, "LIMIT".toList, "OFFSET".toList]

/-- A name of the grammar: an identifier whose upper case is a word as long,
and none of those keywords. -/
def Name (py : Py) (w : List Char) : Prop := Ident py w ∧ UpperOk py w ∧ upper py w ∉ selectKeys

/-- A numeral: a non-empty run of ASCII digits. -/
def Numeral (ds : List Char) : Prop := ds ≠ [] ∧ ∀ c ∈ ds, c.isDigit = true

instance (py : Py) (w : List Char) : Decidable (Name py w) := inferInstanceAs (Decidable (_ ∧ _))

instance (ds : List Char) : Decidable (Numeral ds) := inferInstanceAs (Decidable (_ ∧ _))

/-- A value that the WHERE clause reads whole: no space at either end, no
newline, an upper case as long as itself, in whose words LIMIT does not
stand, and no ORDER before a BY. -/
structure ValueOk (py : Py) (v : List Char) : Prop where
  ne_nil : v ≠ []
  head : ∀ c ∈ v.head?, py.isspace c = false
  last : ∀ c ∈ v.getLast?, py.isspace c = false
  no_newline : '\n' ∉ v
  length_upper : (upper py v).length = v.length
  no_limit : "LIMIT".toList ∉ (upper py v).splitOn ' '
  no_order_by : ¬ ["ORDER".toList, "BY".toList] <:+: (upper py v).splitOn ' '

/-- A statement of the grammar. The value of the condition may hold OFFSET as
a word only when the LIMIT has an OFFSET of its own; the numerals are within
the digit limit of `int()`. -/
structure SelectStmt.WF (py : Py) (st : SelectStmt) : Prop where
  entity : Ident py st.entity ∧ UpperOk py st.entity
  fields : ∀ fs, st.fields = .names fs → fs ≠ [] ∧ ∀ f ∈ fs, Name py f
  cond : ∀ c ∈ st.cond, Name py c.field ∧ ValueOk py c.value ∧
    ("OFFSET".toList ∈ (upper py c.value).splitOn ' ' → ∃ l ∈ st.limit, l.offset ≠ none)
  order : ∀ o ∈ st.order, o.items ≠ [] ∧ ∀ it ∈ o.items, Name py it.field
  limit : ∀ l ∈ st.limit, (Numeral l.digits ∧ py.digitsFit l.digits.length = true) ∧
    ∀ o ∈ l.offset, Numeral o.digits ∧ py.digitsFit o.digits.length = true

/-- An ASCII digit is its own upper case, and no whitespace. -/
theorem digit_upper_solid {c : Char} (h : c.isDigit = true) :
    c.toNat < 128 ∧ c.toNat ∉ [9, 10, 11, 12, 13, 28, 29, 30, 31, 32] ∧ c.toUpper = c := by
  have hc : 48 ≤ c.toNat ∧ c.toNat ≤ 57 := by
    simp only [Char.isDigit, Bool.and_eq_true, decide_eq_true_eq] at h
    simpa [Char.toNat, UInt32.le_def, Fin.le_def, UInt32.toNat] using h
  have key : ∀ n : Fin 128, 48 ≤ (Char.ofNat n).toNat → (Char.ofNat n).toNat ≤ 57 →
      (Char.ofNat n).toUpper = Char.ofNat n := by decide
  refine ⟨by omega, by simp only [List.mem_cons, List.not_mem_nil, or_false, not_or]; omega, ?_⟩
  simpa using key ⟨c.toNat, by omega⟩ (by simpa using hc.1) (by simpa using hc.2)

theorem Numeral.asciiSolid {ds : List Char} (h : Numeral ds) : AsciiSolid ds :=
  fun c hc => ⟨(digit_upper_solid (h.2 c hc)).1, (digit_upper_solid (h.2 c hc)).2.1⟩

theorem Numeral.word {ds : List Char} (h : Numeral ds) : Word ds := fun hs => by
  have := (h.asciiSolid ' ' hs).2
  simp at this

theorem upper_numeral (py : Py) {ds : List Char} (h : Numeral ds) : upper py ds = ds := by
  rw [upper_ascii py fun c hc => (h.asciiSolid c hc).1]
  exact (List.map_congr_left fun c hc => (digit_upper_solid (h.2 c hc)).2.2).trans (List.map_id _)

theorem not_mem_selectKeys_comma (w : List Char) : w ++ [','] ∉ selectKeys := by
  intro h
  have key : ∀ k ∈ selectKeys, ',' ∉ k := by decide
  exact key _ h (by simp)

theorem upper_append_comma (py : Py) (w : List Char) : upper py (w ++ [',']) = upper py w ++ [','] := by
  simp

theorem Numeral.not_mem_selectKeys (py : Py) {ds : List Char} (h : Numeral ds) : upper py ds ∉ selectKeys := by
  obtain ⟨d, ds', rfl⟩ := List.exists_cons_of_ne_nil h.1
  have key : ∀ n : Fin 128, (Char.ofNat n).isDigit = true → ∀ k ∈ selectKeys, k.head? ≠ some (Char.ofNat n) := by
    decide
  rw [upper_numeral py h]
  intro hk
  exact key ⟨d.toNat, (h.asciiSolid d (List.mem_cons_self _ _)).1⟩ (by simpa using h.2 d (List.mem_cons_self _ _))
    _ hk (by simp)

section Upper

variable {py : Py}

theorem WhereOp.ascii (op : WhereOp) : ∀ c ∈ op.text, c.toNat < 128 := by
  cases op with
  | like k => exact k.ascii
  | isIn k => exact k.ascii
  | _ => decide

theorem WhereOp.upperOk (op : WhereOp) : UpperOk py op.text := by
  cases op with
  | like k => exact k.upperOk (by decide)
  | isIn k => exact k.upperOk (by decide)
  | _ => exact UpperOk.of_asciiSolid (by decide)

theorem WhereOp.upper_text (op : WhereOp) : upper py op.text = op.text.map Char.toUpper :=
  upper_ascii py op.ascii

theorem WhereOp.not_mem_selectKeys (op : WhereOp) : upper py op.text ∉ selectKeys := by
  cases op with
  | like k => rw [WhereOp.text, k.upper py]; decide
  | isIn k => rw [WhereOp.text, k.upper py]; decide
  | _ => rw [WhereOp.upper_text]; decide

theorem Dir.upperOk (d : Dir) : UpperOk py d.text := by
  cases d with
  | asc k => exact k.upperOk (by decide)
  | desc k => exact k.upperOk (by decide)

theorem Dir.not_mem_selectKeys (d : Dir) (sep : List Char) (hs : sep = [] ∨ sep = [',']) :
    upper py (d.text ++ sep) ∉ selectKeys := by
  rcases hs with rfl | rfl
  · cases d with
    | asc k => rw [Dir.text, List.append_nil, k.upper py]; decide
    | desc k => rw [Dir.text, List.append_nil, k.upper py]; decide
  · rw [upper_append_comma]; exact not_mem_selectKeys_comma _

theorem Name.not_mem_sep {w : List Char} (h : Name py w) (sep : List Char) (hs : sep = [] ∨ sep = [',']) :
    upper py (w ++ sep) ∉ selectKeys := by
  rcases hs with rfl | rfl
  · simpa using h.2.2
  · rw [upper_append_comma]; exact not_mem_selectKeys_comma _

theorem upperOk_sep {w : List Char} (h : UpperOk py w) (sep : List Char) (hs : sep = [] ∨ sep = [',']) :
    UpperOk py (w ++ sep) := by
  rcases hs with rfl | rfl
  · simpa using h
  · exact h.append_comma

end Upper

/-- The words of the upper case of a WHERE clause. -/
def Cond.upperWords (py : Py) (c : Cond) : List (List Char) :=
  "WHERE".toList :: upper py c.field :: upper py c.op.text :: (upper py c.value).splitOn ' '

theorem Cond.upperWords_spec {py : Py} (c : Cond) (hf : Name py c.field) (hv : ValueOk py c.value) :
    UpperWords py c.words (c.upperWords py) :=
  (UpperWords.keyword c.whereKw (by decide)).cons <|
    hf.2.1.upperWords.cons <|
    c.op.upperOk.upperWords.cons <|
    UpperWords.text hv.length_upper

theorem OrderItem.words_upper {py : Py} (it : OrderItem) (h : Name py it.field) (sep : List Char)
    (hs : sep = [] ∨ sep = [',']) : ∀ w ∈ it.words sep, UpperOk py w ∧ upper py w ∉ selectKeys := by
  unfold OrderItem.words
  split
  · simp only [List.mem_singleton, forall_eq]
    exact ⟨upperOk_sep h.2.1 sep hs, h.not_mem_sep sep hs⟩
  · rename_i d _
    simp only [List.mem_cons, List.mem_singleton, List.not_mem_nil, or_false, forall_eq_or_imp, forall_eq]
    exact ⟨⟨h.2.1, h.2.2⟩, upperOk_sep d.upperOk sep hs, d.not_mem_selectKeys sep hs⟩

theorem OrderItem.listWords_upper {py : Py} : ∀ {its : List OrderItem}, (∀ it ∈ its, Name py it.field) →
    ∀ w ∈ OrderItem.listWords its, UpperOk py w ∧ upper py w ∉ selectKeys
  | [], _ => by simp [OrderItem.listWords]
  | [it], h => it.words_upper (h it (List.mem_singleton_self _)) [] (Or.inl rfl)
  | it :: it' :: its, h => by
    intro w hw
    change w ∈ it.words [','] ++ OrderItem.listWords (it' :: its) at hw
    rw [List.mem_append] at hw
    rcases hw with hw | hw
    · exact it.words_upper (h it (List.mem_cons_self _ _)) [','] (Or.inr rfl) w hw
    · exact OrderItem.listWords_upper (fun x hx => h x (List.mem_cons_of_mem _ hx)) w hw

namespace SelectStmt

variable (py : Py) (st : SelectStmt)

/-- The words that follow the entity. -/
def clauseWords : List (List Char) := st.condWords ++ st.orderWords ++ st.limitWords

/-- The words of the upper case of the WHERE clause. -/
def condUpper : List (List Char) := (st.cond.map (Cond.upperWords py)).getD []

/-- The words of the upper case of the ORDER BY clause. -/
def orderUpper : List (List Char) := st.orderWords.map (upper py)

/-- The words of the upper case of the LIMIT clause. -/
def limitUpper : List (List Char) := st.limitWords.map (upper py)

variable {py st}

theorem condUpper_spec (h : st.WF py) : UpperWords py st.condWords (st.condUpper py) := by
  unfold condWords condUpper
  cases hc : st.cond with
  | none => exact UpperWords.nil
  | some c =>
    have := h.cond c (by simp [hc])
    exact c.upperWords_spec this.1 this.2.1

theorem orderWords_upper (h : st.WF py) : ∀ w ∈ st.orderWords, UpperOk py w ∧
    (upper py w = "ORDER".toList ∨ upper py w = "BY".toList ∨ upper py w ∉ selectKeys) := by
  unfold orderWords
  cases ho : st.order with
  | none => simp
  | some o =>
    have := h.order o (by simp [ho])
    intro w hw
    simp only [Option.map_some', Option.getD_some, OrderBy.words, List.mem_cons] at hw
    rcases hw with rfl | rfl | hw
    · exact ⟨o.orderKw.upperOk (by decide), Or.inl (o.orderKw.upper py)⟩
    · exact ⟨o.byKw.upperOk (by decide), Or.inr (Or.inl (o.byKw.upper py))⟩
    · have := OrderItem.listWords_upper this.2 w hw
      exact ⟨this.1, Or.inr (Or.inr this.2)⟩

theorem orderUpper_spec (h : st.WF py) : UpperWords py st.orderWords (st.orderUpper py) :=
  UpperWords.of_upperOk fun w hw => (orderWords_upper h w hw).1

theorem limitWords_upper (h : st.WF py) : ∀ w ∈ st.limitWords, UpperOk py w ∧
    (upper py w = "LIMIT".toList ∨ upper py w = "OFFSET".toList ∨ Numeral w) := by
  unfold limitWords
  cases hl : st.limit with
  | none => simp
  | some l =>
    have hl' := h.limit l (by simp [hl])
    intro w hw
    simp only [Option.map_some', Option.getD_some, Limit.words, List.mem_cons] at hw
    rcases hw with rfl | rfl | hw
    · exact ⟨l.limitKw.upperOk (by decide), Or.inl (l.limitKw.upper py)⟩
    · exact ⟨UpperOk.of_asciiSolid hl'.1.1.asciiSolid, Or.inr (Or.inr hl'.1.1)⟩
    · cases ho : l.offset with
      | none => simp [ho] at hw
      | some o =>
        have := (hl'.2 o (by simp [ho])).1
        simp only [ho, List.mem_cons, List.mem_singleton, List.not_mem_nil, or_false] at hw
        rcases hw with rfl | rfl
        · exact ⟨o.offsetKw.upperOk (by decide), Or.inr (Or.inl (o.offsetKw.upper py))⟩
        · exact ⟨UpperOk.of_asciiSolid this.asciiSolid, Or.inr (Or.inr this)⟩

theorem limitUpper_spec (h : st.WF py) : UpperWords py st.limitWords (st.limitUpper py) :=
  UpperWords.of_upperOk fun w hw => (limitWords_upper h w hw).1

/-- A key other than WHERE is among the words of the upper case of the WHERE
clause only as a word of its value. -/
theorem condUpper_not_mem (h : st.WF py) {k : List Char} (hks : k ∈ selectKeys) (hw : k ≠ "WHERE".toList)
    (hv : ∀ c ∈ st.cond, k ∉ (upper py c.value).splitOn ' ') : k ∉ st.condUpper py := by
  unfold condUpper
  cases hc : st.cond with
  | none => simp
  | some c =>
    have hc' := h.cond c (by simp [hc])
    simp only [Option.map_some', Option.getD_some, Cond.upperWords, List.mem_cons, not_or]
    exact ⟨hw, fun he => hc'.1.2.2 (he ▸ hks), fun he => c.op.not_mem_selectKeys (he ▸ hks),
      hv c (by simp [hc])⟩

theorem orderUpper_not_mem (h : st.WF py) {k : List Char} (hk : k ∈ selectKeys) (hk' : k ≠ "ORDER".toList) :
    k ∉ st.orderUpper py := by
  intro hm
  obtain ⟨w, hw, rfl⟩ := List.mem_map.mp hm
  rcases (orderWords_upper h w hw).2 with h' | h' | h'
  · exact hk' h'
  · rw [h'] at hk; revert hk; decide
  · exact h' hk

theorem limitUpper_not_mem (h : st.WF py) {k : List Char} (hk : k ∈ selectKeys) (hk' : k ≠ "LIMIT".toList)
    (hk'' : k ≠ "OFFSET".toList) : k ∉ st.limitUpper py := by
  intro hm
  obtain ⟨w, hw, rfl⟩ := List.mem_map.mp hm
  rcases (limitWords_upper h w hw).2 with h' | h' | h'
  · exact hk' h'
  · exact hk'' h'
  · exact h'.not_mem_selectKeys py hk

/-- The words after the entity, in upper case. -/
theorem clauses_upper (h : st.WF py) :
    UpperWords py (st.entity :: st.clauseWords)
      (upper py st.entity :: (st.condUpper py ++ st.orderUpper py ++ st.limitUpper py)) :=
  h.entity.2.upperWords.cons
    (((condUpper_spec h).append (orderUpper_spec h)).append (limitUpper_spec h))

theorem startsKey_cons_of_ne {ks : List (List Char)} {k w : List Char} (h : k ≠ w) (ws : List (List Char)) :
    startsKey (k :: ks) (w :: ws) = false := by
  simp [startsKey, List.isPrefixOf, h]

theorem wordFind_single (ks : List (List Char)) (w : List Char) : wordFind ks [w] = none := by
  simp [wordFind, startsKey]

/-- The key ` WHERE ` stands right after the entity, if anywhere. -/
theorem condUpper_none (hc : st.cond = none) : st.condUpper py = [] := by simp [condUpper, hc]

theorem condUpper_some {c : Cond} (hc : st.cond = some c) : st.condUpper py = c.upperWords py := by
  simp [condUpper, hc]

theorem wordFind_where (h : st.WF py) :
    wordFind ["WHERE".toList] (upper py st.entity :: (st.condUpper py ++ st.orderUpper py ++ st.limitUpper py)) =
      st.cond.map fun _ => st.entity.length := by
  cases hc : st.cond with
  | some c =>
    rw [condUpper_some hc, Cond.upperWords]
    simp [wordFind, startsKey, List.isPrefixOf, h.entity.2.1]
  | none =>
    rw [condUpper_none hc, List.nil_append, Option.map_none']
    refine wordFind_eq_none _ _ _ (Clear.of_not_mem ?_ _)
    rw [List.mem_append, not_or]
    exact ⟨orderUpper_not_mem h (by decide) (by decide), limitUpper_not_mem h (by decide) (by decide) (by decide)⟩

theorem orderUpper_some {o : OrderBy} (ho : st.order = some o) :
    st.orderUpper py = "ORDER".toList :: "BY".toList :: (OrderItem.listWords o.items).map (upper py) := by
  simp [orderUpper, orderWords, ho, OrderBy.words, o.orderKw.upper py, o.byKw.upper py]

theorem orderUpper_none (ho : st.order = none) : st.orderUpper py = [] := by
  simp [orderUpper, orderWords, ho]

theorem limitUpper_none (hl : st.limit = none) : st.limitUpper py = [] := by
  simp [limitUpper, limitWords, hl]

theorem limitUpper_some {l : Limit} (hl : st.limit = some l) :
    st.limitUpper py = "LIMIT".toList :: upper py l.digits ::
      (match l.offset with
        | none => []
        | some o => ["OFFSET".toList, upper py o.digits]) := by
  simp only [limitUpper, limitWords, hl, Option.map_some', Option.getD_some, Limit.words, List.map_cons,
    l.limitKw.upper py]
  cases l.offset <;> simp [Offset.offsetKw, Keyword.upper]

theorem listWords_ne_nil {its : List OrderItem} (h : its ≠ []) : OrderItem.listWords its ≠ [] := by
  match its, h with
  | [it], _ => cases hd : it.dir <;> simp [OrderItem.listWords, OrderItem.words, hd]
  | it :: it' :: its, _ =>
    change it.words [','] ++ OrderItem.listWords (it' :: its) ≠ []
    cases hd : it.dir <;> simp [OrderItem.words, hd]

/-- No clause after the WHERE clause starts with BY. -/
theorem head_order_limit : ∀ y ∈ (st.orderUpper py ++ st.limitUpper py).head?, y ≠ "BY".toList := by
  cases ho : st.order with
  | some o => rw [orderUpper_some ho]; simp
  | none =>
    rw [orderUpper_none ho, List.nil_append]
    cases hl : st.limit with
    | none => simp [limitUpper_none hl]
    | some l => rw [limitUpper_some hl]; simp

theorem clear_order_cond (h : st.WF py) :
    Clear ["ORDER".toList, "BY".toList] (st.condUpper py) (st.orderUpper py ++ st.limitUpper py) := by
  cases hc : st.cond with
  | none => rw [condUpper_none hc]; exact Clear.nil _ _
  | some c =>
    have hc' := h.cond c (by simp [hc])
    rw [condUpper_some hc]
    refine Clear.append (a := ["WHERE".toList, upper py c.field, upper py c.op.text])
      (Clear.of_not_mem ?_ _) (Clear.of_not_infix hc'.2.1.no_order_by head_order_limit)
    simp only [List.mem_cons, List.mem_singleton, List.not_mem_nil, or_false, not_or]
    exact ⟨by decide, fun he => hc'.1.2.2 (he ▸ (by decide : "ORDER".toList ∈ selectKeys)),
      fun he => (c.op.not_mem_selectKeys : upper py c.op.text ∉ selectKeys)
        (he ▸ (by decide : "ORDER".toList ∈ selectKeys))⟩

/-- The key ` ORDER BY ` stands right after the WHERE clause, if anywhere. -/
theorem wordFind_order (h : st.WF py) :
    wordFind ["ORDER".toList, "BY".toList]
        (upper py st.entity :: (st.condUpper py ++ st.orderUpper py ++ st.limitUpper py)) =
      st.order.map fun _ => (unwords (st.entity :: st.condWords)).length := by
  have hlen : (unwords (upper py st.entity :: st.condUpper py)).length =
      (unwords (st.entity :: st.condWords)).length :=
    (h.entity.2.upperWords.cons (condUpper_spec h)).length_eq
  rw [List.append_assoc, ← List.cons_append, wordFind_append _ _ _ _ (clear_order_cond h)]
  cases ho : st.order with
  | some o =>
    have hne := listWords_ne_nil (h.order o (by simp [ho])).1
    rw [orderUpper_some ho, if_pos, hlen]
    · rfl
    · obtain ⟨w, ws, hw⟩ := List.exists_cons_of_ne_nil hne
      simp [startsKey, List.isPrefixOf, hw]
  | none =>
    rw [orderUpper_none ho, List.nil_append, Option.map_none']
    cases hl : st.limit with
    | none => simp [limitUpper_none hl, startsKey, wordFind]
    | some l =>
      have hnm := limitUpper_not_mem h (k := "ORDER".toList) (by decide) (by decide) (by decide)
      rw [limitUpper_some hl] at hnm ⊢
      rw [startsKey_cons_of_ne (by decide), if_neg (by simp),
        wordFind_eq_none _ _ _ (Clear.of_not_mem (fun hm => hnm (List.mem_cons_of_mem _ hm)) _)]
      rfl

theorem upper_before_limit (h : st.WF py) :
    UpperWords py (st.entity :: (st.condWords ++ st.orderWords))
      (upper py st.entity :: (st.condUpper py ++ st.orderUpper py)) :=
  h.entity.2.upperWords.cons ((condUpper_spec h).append (orderUpper_spec h))

/-- LIMIT stands in no word of the WHERE clause but its keyword's. -/
theorem condUpper_not_mem_limit (h : st.WF py) : "LIMIT".toList ∉ st.condUpper py :=
  condUpper_not_mem h (by decide) (by decide) fun c hc => (h.cond c hc).2.1.no_limit

/-- The key ` LIMIT ` stands right after the ORDER BY clause, if anywhere. -/
theorem wordFind_limit (h : st.WF py) :
    wordFind ["LIMIT".toList] (upper py st.entity :: (st.condUpper py ++ st.orderUpper py ++ st.limitUpper py)) =
      st.limit.map fun _ => (unwords (st.entity :: (st.condWords ++ st.orderWords))).length := by
  have hclear : Clear ["LIMIT".toList] (st.condUpper py ++ st.orderUpper py) (st.limitUpper py) := by
    refine Clear.of_not_mem ?_ _
    rw [List.mem_append, not_or]
    exact ⟨condUpper_not_mem_limit h, orderUpper_not_mem h (by decide) (by decide)⟩
  rw [← List.cons_append, wordFind_append _ _ _ _ hclear]
  cases hl : st.limit with
  | some l =>
    rw [limitUpper_some hl, if_pos (by simp [startsKey, List.isPrefixOf]), (upper_before_limit h).length_eq]
    rfl
  | none => simp [limitUpper_none hl, startsKey, wordFind]

/-- Without an OFFSET of the LIMIT's own, the key ` OFFSET ` stands nowhere. -/
theorem wordFind_offset (h : st.WF py) (hno : ∀ l ∈ st.limit, l.offset = none) :
    wordFind ["OFFSET".toList] (upper py st.entity :: (st.condUpper py ++ st.orderUpper py ++ st.limitUpper py)) =
      none := by
  refine wordFind_eq_none _ _ _ (Clear.of_not_mem ?_ _)
  have hc : "OFFSET".toList ∉ st.condUpper py := condUpper_not_mem h (by decide) (by decide) fun c hc hm => by
    obtain ⟨l, hl, ho⟩ := (h.cond c hc).2.2 hm
    exact ho (hno l hl)
  have hl : "OFFSET".toList ∉ st.limitUpper py := by
    cases hl : st.limit with
    | none => simp [limitUpper_none hl]
    | some l =>
      rw [limitUpper_some hl, hno l (by simp [hl])]
      simp only [List.mem_cons, List.mem_singleton, List.not_mem_nil, or_false, not_or]
      exact ⟨by decide, fun he => (h.limit l (by simp [hl])).1.1.not_mem_selectKeys py (he ▸ by decide)⟩
  simp only [List.mem_append, not_or]
  exact ⟨⟨hc, orderUpper_not_mem h (by decide) (by decide)⟩, hl⟩

end SelectStmt

theorem mem_commaWords {w : List Char} : ∀ {fs : List (List Char)}, w ∈ commaWords fs →
    ∃ f ∈ fs, w = f ∨ w = f ++ [',']
  | [], h => by simp [commaWords] at h
  | [f], h => ⟨f, List.mem_singleton_self _, Or.inl (by simpa [commaWords] using h)⟩
  | f :: f' :: fs, h => by
    change w ∈ (f ++ [',']) :: commaWords (f' :: fs) at h
    rcases List.mem_cons.mp h with rfl | h
    · exact ⟨f, List.mem_cons_self _ _, Or.inr rfl⟩
    · obtain ⟨g, hg, he⟩ := mem_commaWords h
      exact ⟨g, List.mem_cons_of_mem _ hg, he⟩

theorem commaWords_ne_nil : ∀ {fs : List (List Char)}, fs ≠ [] → commaWords fs ≠ []
  | [f], _ => by simp [commaWords]
  | f :: f' :: fs, _ => by simp [commaWords]

theorem Fields.words_upper {py : Py} (F : Fields) (h : ∀ fs, F = .names fs → fs ≠ [] ∧ ∀ f ∈ fs, Name py f) :
    F.words ≠ [] ∧ ∀ w ∈ F.words, UpperOk py w ∧ upper py w ≠ "FROM".toList := by
  cases F with
  | star =>
    refine ⟨by simp [Fields.words], ?_⟩
    simp only [Fields.words, List.mem_singleton, forall_eq]
    exact ⟨UpperOk.of_asciiSolid (by decide), by rw [upper_ascii py (by decide)]; decide⟩
  | names fs =>
    obtain ⟨hne, hfs⟩ := h fs rfl
    refine ⟨commaWords_ne_nil hne, fun w hw => ?_⟩
    obtain ⟨f, hf, he | he⟩ := mem_commaWords hw <;> rw [he]
    · exact ⟨(hfs f hf).2.1, fun he => (hfs f hf).2.2 (he ▸ by decide)⟩
    · refine ⟨(hfs f hf).2.1.append_comma, fun he => not_mem_selectKeys_comma (upper py f) ?_⟩
      rw [← upper_append_comma, he]; decide

namespace SelectStmt

variable {py : Py} {st : SelectStmt}

/-- The words from the field list on, in upper case. -/
theorem sql_upper (h : st.WF py) :
    UpperWords py (st.fields.words ++ st.fromKw.text :: st.entity :: st.clauseWords)
      (st.fields.words.map (upper py) ++ "FROM".toList :: upper py st.entity ::
        (st.condUpper py ++ st.orderUpper py ++ st.limitUpper py)) :=
  (UpperWords.of_upperOk fun w hw => ((st.fields.words_upper h.fields).2 w hw).1).append <|
    (UpperWords.keyword st.fromKw (by decide)).cons (clauses_upper h)

/-- The key ` FROM ` stands right after the field list. -/
theorem wordFind_from (h : st.WF py) :
    wordFind ["FROM".toList] (st.fields.words.map (upper py) ++ "FROM".toList ::
      upper py st.entity :: (st.condUpper py ++ st.orderUpper py ++ st.limitUpper py)) =
      some (unwords st.fields.words).length := by
  obtain ⟨hne, hw⟩ := st.fields.words_upper h.fields
  obtain ⟨f, fs, hf⟩ := List.exists_cons_of_ne_nil hne
  have hclear : Clear ["FROM".toList] (fs.map (upper py))
      ("FROM".toList :: upper py st.entity :: (st.condUpper py ++ st.orderUpper py ++ st.limitUpper py)) := by
    refine Clear.of_not_mem (fun hm => ?_) _
    obtain ⟨w, hwm, he⟩ := List.mem_map.mp hm
    exact (hw w (hf ▸ List.mem_cons_of_mem _ hwm)).2 he
  rw [hf, List.map_cons, wordFind_append _ _ _ _ hclear, if_pos (by simp [startsKey, List.isPrefixOf]),
    ← List.map_cons, length_unwords_map _ fun w hwm => (hw w (hf ▸ hwm)).1.1]

end SelectStmt

theorem Numeral.not_space {ds : List Char} (h : Numeral ds) (py : Py) : ∀ c ∈ ds, py.isspace c = false :=
  h.asciiSolid.not_space

theorem Cond.unwords_words (c : Cond) :
    unwords c.words = c.whereKw.text ++ ' ' :: (c.field ++ ' ' :: (c.op.text ++ ' ' :: c.value)) := by
  obtain ⟨v, vs, hv⟩ := List.exists_cons_of_ne_nil (List.splitOnP_ne_nil (· == ' ') c.value)
  have hv' : c.value.splitOn ' ' = v :: vs := hv
  rw [Cond.words, hv', unwords_cons_cons, unwords_cons_cons, unwords_cons_cons, ← hv', unwords,
    List.intercalate_splitOn]

theorem Cond.segOk {py : Py} (c : Cond) (hv : ValueOk py c.value) : SegOk py c.words := by
  refine Or.inr ⟨by simp [Cond.unwords_words], fun x hx => ?_⟩
  rw [Cond.unwords_words, getLast?_append_cons _ _ (by simp), getLast?_append_cons _ _ (by simp),
    getLast?_append_cons _ _ hv.ne_nil] at hx
  exact hv.last x hx

section Solid

variable {py : Py}

theorem Numeral.solid {ds : List Char} (h : Numeral ds) : Solid py ds := ⟨h.1, h.not_space py⟩

end Solid

theorem firstOf_none_cons (is : List (Option Nat)) (len : Nat) : firstOf (none :: is) len = firstOf is len := rfl

theorem firstOf_single (o : Option Nat) (len : Nat) : firstOf [o] len = o.getD len := by
  cases o <;> rfl

theorem foldl_min_of_le {n : Nat} : ∀ {is : List Nat}, (∀ a ∈ is, n ≤ a) → is.foldl min n = n
  | [], _ => rfl
  | a :: is, h => by
    rw [List.foldl_cons, Nat.min_eq_left (h a (List.mem_cons_self _ _))]
    exact foldl_min_of_le fun x hx => h x (List.mem_cons_of_mem _ hx)

/-- A position found that no other found position comes before is the first. -/
theorem firstOf_some_cons {n : Nat} {is : List (Option Nat)} (h : ∀ i ∈ is, ∀ a ∈ i, n ≤ a) (len : Nat) :
    firstOf (some n :: is) len = n := by
  simp only [firstOf, List.filterMap_cons, id]
  exact foldl_min_of_le fun a ha => by
    obtain ⟨i, hi, hia⟩ := List.mem_filterMap.mp ha
    exact h i hi a hia

theorem unwords_commaWords : ∀ fs : List (List Char), unwords (commaWords fs) = commaList fs
  | [] => rfl
  | [f] => by rw [commaWords, unwords_singleton, commaList_singleton]
  | f :: f' :: fs => by
    change unwords ([f ++ [',']] ++ commaWords (f' :: fs)) = _
    rw [unwords_append (List.cons_ne_nil _ _) (commaWords_ne_nil (List.cons_ne_nil _ _)), unwords_commaWords (f' :: fs),
      unwords_singleton, commaList_cons_cons]
    simp

section Fields

variable {py : Py} (F : Fields) (h : ∀ fs, F = .names fs → fs ≠ [] ∧ ∀ f ∈ fs, Name py f)

include h

theorem Fields.words_solid : F.words ≠ [] ∧ ∀ w ∈ F.words, Solid py w := by
  cases F with
  | star =>
    refine ⟨by simp [Fields.words], fun w hw => ?_⟩
    simp only [Fields.words, List.mem_singleton] at hw
    subst hw
    exact ⟨by simp, fun c hc => by simp at hc; subst hc; rfl⟩
  | names fs =>
    obtain ⟨hne, hfs⟩ := h fs rfl
    refine ⟨commaWords_ne_nil hne, fun w hw => ?_⟩
    obtain ⟨f, hf, he | he⟩ := mem_commaWords hw <;> rw [he]
    · exact (hfs f hf).1.solid
    · exact (hfs f hf).1.solid.append_comma

/-- The field list, cut at its commas and each item stripped. -/
theorem Fields.split_words : (split ',' (strip py (unwords F.words))).map (strip py) = F.parsed := by
  rw [strip_unwords_solid (F.words_solid h).2]
  cases F with
  | star =>
    have hs : strip py (unwords ["*".toList]) = unwords ["*".toList] :=
      strip_unwords_solid (by simpa [Fields.words] using (Fields.star.words_solid h).2)
    rw [unwords_singleton] at hs
    rw [Fields.words, unwords_singleton, show split ',' "*".toList = ["*".toList] by decide, List.map_singleton, hs]
    rfl
  | names fs =>
    obtain ⟨hne, hfs⟩ := h fs rfl
    obtain ⟨f, fs', rfl⟩ := List.exists_cons_of_ne_nil hne
    rw [Fields.words, unwords_commaWords, Fields.parsed]
    exact split_commaList_strip py (fun x hx => (hfs x hx).1.comma_not_mem) (fun x hx => strip_ident py (hfs x hx).1)

end Fields

theorem Dir.solid {py : Py} (d : Dir) : Solid py d.text := by
  cases d with
  | asc k => exact k.solid (by decide) (by decide)
  | desc k => exact k.solid (by decide) (by decide)

theorem OrderItem.words_solid {py : Py} (it : OrderItem) (h : Ident py it.field) (sep : List Char)
    (hs : sep = [] ∨ sep = [',']) : ∀ w ∈ it.words sep, Solid py w := by
  have hsep : ∀ w, Solid py w → Solid py (w ++ sep) := by
    rcases hs with rfl | rfl
    · simp
    · exact fun w hw => hw.append_comma
  unfold OrderItem.words
  split
  · simpa using hsep _ h.solid
  · rename_i d _
    simpa using ⟨h.solid, hsep _ d.solid⟩

theorem OrderItem.listWords_solid {py : Py} : ∀ {its : List OrderItem}, (∀ it ∈ its, Ident py it.field) →
    ∀ w ∈ OrderItem.listWords its, Solid py w
  | [], _ => by simp [OrderItem.listWords]
  | [it], h => it.words_solid (h it (List.mem_singleton_self _)) [] (Or.inl rfl)
  | it :: it' :: its, h => by
    intro w hw
    change w ∈ it.words [','] ++ OrderItem.listWords (it' :: its) at hw
    rcases List.mem_append.mp hw with hw | hw
    · exact it.words_solid (h it (List.mem_cons_self _ _)) [','] (Or.inr rfl) w hw
    · exact OrderItem.listWords_solid (fun x hx => h x (List.mem_cons_of_mem _ hx)) w hw

namespace SelectStmt

variable {py : Py} {st : SelectStmt}

/-- The text after ` FROM `: the entity and the clauses. -/
def afterFrom (st : SelectStmt) : List Char := unwords (st.entity :: st.clauseWords)

theorem orderWords_solid (h : st.WF py) : ∀ w ∈ st.orderWords, Solid py w := by
  unfold orderWords
  cases ho : st.order with
  | none => simp
  | some o =>
    have ho' := h.order o (by simp [ho])
    intro w hw
    simp only [Option.map_some', Option.getD_some, OrderBy.words, List.mem_cons] at hw
    rcases hw with rfl | rfl | hw
    · exact o.orderKw.solid (by decide) (by decide)
    · exact o.byKw.solid (by decide) (by decide)
    · exact OrderItem.listWords_solid (fun it hit => (ho'.2 it hit).1) w hw

theorem limitWords_solid (h : st.WF py) : ∀ w ∈ st.limitWords, Solid py w := by
  unfold limitWords
  cases hl : st.limit with
  | none => simp
  | some l =>
    have hl' := h.limit l (by simp [hl])
    intro w hw
    simp only [Option.map_some', Option.getD_some, Limit.words, List.mem_cons] at hw
    rcases hw with rfl | rfl | hw
    · exact l.limitKw.solid (by decide) (by decide)
    · exact hl'.1.1.solid
    · cases ho : l.offset with
      | none => simp [ho] at hw
      | some o =>
        simp only [ho, List.mem_cons, List.mem_singleton, List.not_mem_nil, or_false] at hw
        rcases hw with rfl | rfl
        · exact o.offsetKw.solid (by decide) (by decide)
        · exact (hl'.2 o (by simp [ho])).1.solid

theorem condWords_segOk (h : st.WF py) : SegOk py st.condWords := by
  unfold condWords
  cases hc : st.cond with
  | none => exact Or.inl rfl
  | some c => exact c.segOk (h.cond c (by simp [hc])).2.1

/-- The text after FROM ends in no whitespace. -/
theorem after_endsOk (h : st.WF py) : EndsOk py (st.entity :: st.clauseWords) :=
  EndsOk.cons (fun c hc => isspace_of_isword py (h.entity.1.2 c (List.mem_of_mem_getLast? hc)))
    (((condWords_segOk h).append (SegOk.of_solid (orderWords_solid h))).append (SegOk.of_solid (limitWords_solid h)))

theorem text_eq (st : SelectStmt) :
    st.text = st.selectKw.text ++ ' ' :: unwords (st.fields.words ++ st.fromKw.text :: st.entity :: st.clauseWords) := by
  rw [text, List.cons_append, unwords_cons_of_ne_nil _ (by simp)]
  rfl

theorem fields_solid (h : st.WF py) : st.fields.words ≠ [] ∧ ∀ w ∈ st.fields.words, Solid py w :=
  st.fields.words_solid h.fields

/-- `sql[6:].strip()`: the text after SELECT. -/
theorem drop_select (h : st.WF py) :
    strip py (st.text.drop 6) = unwords (st.fields.words ++ st.fromKw.text :: st.entity :: st.clauseWords) := by
  obtain ⟨hne, hw⟩ := fields_solid h
  obtain ⟨f, fs, hf⟩ := List.exists_cons_of_ne_nil hne
  rw [text_eq, List.drop_left' (by rw [st.selectKw.length_eq]; rfl), strip_space_cons, hf, List.cons_append]
  have he := EndsOk.append_left (f :: fs ++ [st.fromKw.text]) h.entity.1.1 (after_endsOk h)
  simp only [List.cons_append, List.append_assoc, List.singleton_append] at he
  exact strip_unwords_cons (hw f (hf ▸ List.mem_cons_self _ _)) he

/-- ` FROM ` is found right after the field list. -/
theorem find_from (h : st.WF py) :
    find " FROM ".toList (upper py (unwords (st.fields.words ++ st.fromKw.text :: st.entity :: st.clauseWords))) =
      some (unwords st.fields.words).length := by
  rw [(sql_upper h).upper_eq, show " FROM ".toList = ' ' :: (unwords ["FROM".toList] ++ [' ']) from rfl,
    find_unwords (by simp) (by decide) (sql_upper h).words, wordFind_from h]

theorem fields_eq (h : st.WF py) :
    (split ',' (strip py ((unwords (st.fields.words ++ st.fromKw.text :: st.entity :: st.clauseWords)).take
      (unwords st.fields.words).length))).map (strip py) = st.fields.parsed := by
  rw [take_unwords_append (fields_solid h).1]
  exact st.fields.split_words h.fields

/-- `sql[from_idx + 6:].strip()`: the text after FROM. -/
theorem remaining_eq (h : st.WF py) :
    strip py ((unwords (st.fields.words ++ st.fromKw.text :: st.entity :: st.clauseWords)).drop
      ((unwords st.fields.words).length + 6)) = st.afterFrom := by
  rw [show (unwords st.fields.words).length + 6 = ((unwords st.fields.words).length + 1) + (st.fromKw.text.length + 1) by
      rw [st.fromKw.length_eq]; rfl,
    ← List.drop_drop, drop_unwords_append (fields_solid h).1, unwords_cons_cons,
    drop_word_space]
  exact strip_unwords_cons h.entity.1.solid (after_endsOk h)

theorem find_afterFrom (h : st.WF py) (ks : List (List Char)) (hks : ks ≠ []) (hk : ∀ k ∈ ks, Word k) :
    find (' ' :: (unwords ks ++ [' '])) (upper py st.afterFrom) =
      wordFind ks (upper py st.entity :: (st.condUpper py ++ st.orderUpper py ++ st.limitUpper py)) := by
  rw [afterFrom, (clauses_upper h).upper_eq]
  exact find_unwords hks hk (clauses_upper h).words

theorem find_where (h : st.WF py) :
    find " WHERE ".toList (upper py st.afterFrom) = st.cond.map fun _ => st.entity.length :=
  (find_afterFrom h (["WHERE".toList]) (by simp) (by decide)).trans (wordFind_where h)

theorem find_order (h : st.WF py) :
    find " ORDER BY ".toList (upper py st.afterFrom) =
      st.order.map fun _ => (unwords (st.entity :: st.condWords)).length :=
  (find_afterFrom h (["ORDER".toList, "BY".toList]) (by simp) (by decide)).trans (wordFind_order h)

theorem find_limit (h : st.WF py) :
    find " LIMIT ".toList (upper py st.afterFrom) =
      st.limit.map fun _ => (unwords (st.entity :: (st.condWords ++ st.orderWords))).length :=
  (find_afterFrom h (["LIMIT".toList]) (by simp) (by decide)).trans (wordFind_limit h)

theorem find_offset (h : st.WF py) (hno : ∀ l ∈ st.limit, l.offset = none) :
    find " OFFSET ".toList (upper py st.afterFrom) = none :=
  (find_afterFrom h (["OFFSET".toList]) (by simp) (by decide)).trans (wordFind_offset h hno)

/-! ### Where the clauses end -/

theorem limit_end :
    (st.limit.map fun _ => (unwords (st.entity :: (st.condWords ++ st.orderWords))).length).getD
      st.afterFrom.length = (unwords (st.entity :: (st.condWords ++ st.orderWords))).length := by
  cases hl : st.limit with
  | some l => rfl
  | none => simp [afterFrom, clauseWords, limitWords, hl]

theorem where_end :
    firstOf [st.order.map fun _ => (unwords (st.entity :: st.condWords)).length,
      st.limit.map fun _ => (unwords (st.entity :: (st.condWords ++ st.orderWords))).length]
      st.afterFrom.length = (unwords (st.entity :: st.condWords)).length := by
  cases ho : st.order with
  | some o =>
    refine firstOf_some_cons (fun i hi a ha => ?_) _
    rw [List.mem_singleton.mp hi] at ha
    obtain ⟨_, -, rfl⟩ := Option.mem_map.mp ha
    exact length_unwords_le_append (List.cons_ne_nil st.entity st.condWords) _
  | none =>
    rw [Option.map_none', firstOf_none_cons, firstOf_single, limit_end]
    simp [orderWords, ho]

theorem entity_end :
    firstOf [st.cond.map fun _ => st.entity.length,
      st.order.map fun _ => (unwords (st.entity :: st.condWords)).length,
      st.limit.map fun _ => (unwords (st.entity :: (st.condWords ++ st.orderWords))).length]
      st.afterFrom.length = st.entity.length := by
  cases hc : st.cond with
  | some c =>
    refine firstOf_some_cons (fun i hi a ha => ?_) _
    have hle : ∀ ws, st.entity.length ≤ (unwords (st.entity :: ws)).length := fun ws => by
      simpa [unwords_singleton] using length_unwords_le_append (List.cons_ne_nil st.entity []) ws
    simp only [List.mem_cons, List.mem_singleton, List.not_mem_nil, or_false] at hi
    rcases hi with rfl | rfl <;> obtain ⟨_, -, rfl⟩ := Option.mem_map.mp ha <;> exact hle _
  | none =>
    rw [Option.map_none', firstOf_none_cons, where_end]
    simp [condWords, hc, unwords_singleton]

/-! ### The text of each clause -/

/-- `remaining[:entity_end].strip()`. -/
theorem entity_eq (h : st.WF py) : strip py (st.afterFrom.take st.entity.length) = st.entity := by
  have ht := take_unwords_append (List.cons_ne_nil st.entity []) st.clauseWords
  simp only [List.singleton_append, unwords_singleton] at ht
  rw [afterFrom, ht, strip_ident py h.entity.1]

/-- `remaining[where_idx + 7 : where_end].strip()`: the condition. -/
theorem where_text (h : st.WF py) {c : Cond} (hc : st.cond = some c) :
    strip py ((st.afterFrom.take (unwords (st.entity :: st.condWords)).length).drop (st.entity.length + 7)) =
      c.field ++ ' ' :: (c.op.text ++ ' ' :: c.value) := by
  have hcw : st.condWords = c.words := by simp [condWords, hc]
  obtain ⟨hf, hv, -⟩ := h.cond c (by simp [hc])
  rw [afterFrom, clauseWords, List.append_assoc, ← List.cons_append, take_unwords_append (List.cons_ne_nil _ _), hcw,
    unwords_cons_of_ne_nil _ (by simp [Cond.words]), Cond.unwords_words,
    show st.entity.length + 7 = st.entity.length + c.whereKw.text.length + 2 by rw [c.whereKw.length_eq]; rfl,
    drop_two_words]
  refine strip_of_ends py (hf.1.head_not_space py _) fun x hx => hv.last x ?_
  rwa [getLast?_append_cons _ _ (by simp), getLast?_append_cons _ _ hv.ne_nil] at hx

/-- `remaining[order_idx + 10 : order_end].strip()`: the order list. -/
theorem order_text (h : st.WF py) {o : OrderBy} (ho : st.order = some o) :
    strip py ((st.afterFrom.take (unwords (st.entity :: (st.condWords ++ st.orderWords))).length).drop
      ((unwords (st.entity :: st.condWords)).length + 10)) = unwords (OrderItem.listWords o.items) := by
  have how : st.orderWords = o.words := by simp [orderWords, ho]
  obtain ⟨hne, hits⟩ := h.order o (by simp [ho])
  have e₁ : st.entity :: st.clauseWords = st.entity :: (st.condWords ++ st.orderWords) ++ st.limitWords := by
    simp [clauseWords]
  have e₂ : st.entity :: (st.condWords ++ st.orderWords) = st.entity :: st.condWords ++ o.words := by
    rw [how]; rfl
  rw [afterFrom, e₁, take_unwords_append (List.cons_ne_nil _ _), e₂, OrderBy.words,
    unwords_append (List.cons_ne_nil _ _) (List.cons_ne_nil _ _), unwords_cons_cons,
    unwords_cons_of_ne_nil _ (listWords_ne_nil hne),
    show (unwords (st.entity :: st.condWords)).length + 10 = ((unwords (st.entity :: st.condWords)).length + 1) +
      (o.orderKw.text.length + o.byKw.text.length + 2) by rw [o.orderKw.length_eq, o.byKw.length_eq]; rfl,
    ← List.drop_drop, drop_word_space, drop_two_words]
  exact strip_unwords_solid (OrderItem.listWords_solid fun it hit => (hits it hit).1)

/-- `remaining[limit_idx + 7:].strip()`: the limit and the offset. -/
theorem limit_text (h : st.WF py) {l : Limit} (hl : st.limit = some l) :
    strip py (st.afterFrom.drop ((unwords (st.entity :: (st.condWords ++ st.orderWords))).length + 7)) =
      unwords l.words.tail := by
  have hlw : st.limitWords = l.words := by simp [limitWords, hl]
  have e : st.entity :: st.clauseWords = st.entity :: (st.condWords ++ st.orderWords) ++ l.words := by
    simp [clauseWords, hlw]
  rw [afterFrom, e, Limit.words, unwords_append (List.cons_ne_nil _ _) (List.cons_ne_nil _ _), unwords_cons_cons,
    show (unwords (st.entity :: (st.condWords ++ st.orderWords))).length + 7 =
      ((unwords (st.entity :: (st.condWords ++ st.orderWords))).length + 1) + (l.limitKw.text.length + 1) by
      rw [l.limitKw.length_eq]; rfl,
    ← List.drop_drop, drop_word_space, drop_word_space]
  refine strip_unwords_solid fun w hw => limitWords_solid h w ?_
  rw [hlw, Limit.words]
  exact List.mem_cons_of_mem _ hw

end SelectStmt

end ormdb.dbapi
