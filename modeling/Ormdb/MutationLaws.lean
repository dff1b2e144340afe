-- The INSERT, UPDATE and DELETE statements of the grammar, and what the cursor
-- posts for each: the regex of each parser matches on its first try (the
-- `.+` of UPDATE after every longer try fails), and the lists come back item
-- by item.
import Mathlib.Data.List.Nodup
import Ormdb.Statements
import Ormdb.Effects

namespace ormdb.dbapi

open ormdb.py ormdb.regex

/-! ## Dicts -/

/-- A dict built from pairs with distinct keys holds the pairs, in order. -/
theorem dictOf_of_nodup {α : Type} (pairs : List (List Char × α)) (h : (pairs.map Prod.fst).Nodup) :
    dictOf pairs = pairs := by
  suffices ∀ acc : List (List Char × α), ((acc ++ pairs).map Prod.fst).Nodup →
      pairs.foldl (fun d kv => dictSet d kv.1 kv.2) acc = acc ++ pairs from this [] h
  clear h
  induction pairs with
  | nil => simp
  | cons kv pairs ih =>
    intro acc hnd
    rw [List.map_append, List.map_cons] at hnd
    have hnew : acc.any (·.1 == kv.1) = false := by
      have hd := List.disjoint_of_nodup_append hnd
      simp only [List.any_eq_false, beq_iff_eq]
      intro x hx he
      exact hd (List.mem_map_of_mem Prod.fst hx) (he ▸ List.mem_cons_self _ _)
    rw [List.foldl_cons, dictSet, if_neg (by simp [hnew])]
    simpa using ih (acc ++ [kv]) (by simpa using hnd)

/-- Every value of `dict(pairs)` is the value of one of the pairs. -/
theorem dictOf_values {α : Type} {P : α → Prop} (pairs : List (List Char × α)) (h : ∀ p ∈ pairs, P p.2) :
    ∀ kv ∈ dictOf pairs, P kv.2 := by
  suffices ∀ acc : List (List Char × α), (∀ kv ∈ acc, P kv.2) →
      ∀ kv ∈ pairs.foldl (fun d kv => dictSet d kv.1 kv.2) acc, P kv.2 from this [] (by simp)
  induction pairs with
  | nil => exact fun acc hacc => hacc
  | cons p ps ih =>
    intro acc hacc
    have hp := h p (List.mem_cons_self _ _)
    refine ih (fun q hq => h q (List.mem_cons_of_mem _ hq)) _ fun kv hkv => ?_
    change kv ∈ dictSet acc p.1 p.2 at hkv
    unfold dictSet at hkv
    split at hkv
    · obtain ⟨x, hx, rfl⟩ := List.mem_map.mp hkv
      split
      · exact hp
      · exact hacc x hx
    · rcases List.mem_append.mp hkv with hkv | hkv
      · exact hacc kv hkv
      · rw [List.mem_singleton.mp hkv]
        exact hp

/-! ## The payloads of parsed statements -/

section Payload

variable (py : Py)

/-- `_convert_value` returns on whatever `_parse_sql_value` returns: `None`, a
bool, an int, a float or a string. -/
theorem convertValue_parseSqlValue (t : List Char) : ∃ w, convertValue py (parseSqlValue py t) = .ok w := by
  unfold parseSqlValue
  dsimp only
  split_ifs <;> (try split) <;> exact ⟨_, rfl⟩

/-- The data list of parsed values is built. -/
theorem dataList_parsed {data : List (List Char × PyVal)} (h : ∀ kv ∈ data, ∃ t, kv.2 = parseSqlValue py t) :
    ∃ d, dataList py data = .ok d := by
  have hf : ∀ kv ∈ data, ∃ y, (convertValue py kv.2 >>= fun v =>
      pure (PyVal.dict [("field".toList, .str kv.1), ("value".toList, v)]) : Except PyErr PyVal) = .ok y := by
    intro kv hkv
    obtain ⟨t, ht⟩ := h kv hkv
    obtain ⟨w, hw⟩ := convertValue_parseSqlValue py t
    exact ⟨_, by rw [ht, hw]; rfl⟩
  obtain ⟨ds, hds⟩ := mapM_ok_of_forall _ hf
  exact ⟨_, by rw [dataList, hds]; rfl⟩

theorem updatePayload_parsed (entity : List Char) (id : List Int) {data : List (List Char × PyVal)}
    (h : ∀ kv ∈ data, ∃ t, kv.2 = parseSqlValue py t) : ∃ p, updatePayload py entity id data = .ok p := by
  obtain ⟨d, hd⟩ := dataList_parsed py h
  exact ⟨_, by rw [updatePayload, hd]; rfl⟩

theorem dictOf_map_parsed (assigns : List (List Char × Lit)) :
    ∀ kv ∈ dictOf (assigns.map fun a => (a.1, parseSqlValue py a.2.text)), ∃ t, kv.2 = parseSqlValue py t :=
  dictOf_values (P := fun v => ∃ t, v = parseSqlValue py t) _ fun p hp => by
    obtain ⟨a, -, rfl⟩ := List.mem_map.mp hp
    exact ⟨_, rfl⟩

end Payload

/-! ## INSERT -/

/-- `INSERT INTO e (f1, ..., fk) VALUES (l1, ..., lk)`. -/
def insertText (entity : List Char) (fields : List (List Char)) (values : List Lit) : List Char :=
  "INSERT INTO ".toList ++ entity ++ " (".toList ++ commaList fields ++ ") VALUES (".toList ++
    commaList (values.map Lit.text) ++ [')']

section Insert

variable (py : Py)

end Insert

/-! ## UPDATE and DELETE -/

/-- `f = l`. -/
def assignText (a : List Char × Lit) : List Char := a.1 ++ " = ".toList ++ a.2.text

/-- `UPDATE e SET f1 = l1, ..., fk = lk WHERE id = h`. -/
def updateText (entity : List Char) (assigns : List (List Char × Lit)) (id : IdText) : List Char :=
  "UPDATE ".toList ++ entity ++ " SET ".toList ++ commaList (assigns.map assignText) ++
    " WHERE id = ".toList ++ id.text

/-- `DELETE FROM e WHERE id = h`. -/
def deleteText (entity : List Char) (id : IdText) : List Char :=
  "DELETE FROM ".toList ++ entity ++ " WHERE id = ".toList ++ id.text

section UpdateDelete

variable (py : Py)

/-- ` WHERE id = h`, the end of UPDATE and DELETE, and anything after a quoted
identifier. -/
theorem firstTry_whereId (id : IdText) (tail : List Char) (ht : id.quote = none → tail = []) :
    FirstTry py true (Re.chain [spaces1, .lit "WHERE".toList, spaces1, .lit "id".toList, spaces, .lit ['='],
      spaces, optQuote, .group notQuotes, optQuote]) (" WHERE id = ".toList ++ id.text) tail [id.digits] := by
  have h := (firstTry_spaces1 py _ (by simp; rfl)).seq <|
    (FirstTry.lit_self (p := "WHERE".toList) (by decide) _).seq <|
    (firstTry_spaces1 py _ (by simp; rfl)).seq <|
    (FirstTry.lit_self (p := "id".toList) (by decide) _).seq <|
    (firstTry_spaces py _ (by simp; rfl)).seq <|
    (FirstTry.lit_self (p := ['=']) (by decide) _).seq <|
    (firstTry_spaces py _ (by
      rw [List.head?_append_of_ne_nil _ (by simp [IdText.text, id.digits_ne_nil])]
      exact id.head_not_space py)).seq <|
    firstTry_idText py id tail ht
  simpa using h

/-- After any character of ` WHERE id = h` and of a text after it with no `w`
in any case, the end of the pattern no longer matches: the `.+` before it
must give back every character of them. -/
theorem whereId_fails (id : IdText) {tail : List Char} (htail : ∀ x ∈ tail, x.toNat < 128 ∧ x.toLower ≠ 'w')
    {j : Nat} (hj : 0 < j) {α : Type} (k : List Char → List (List Char) → Option α) (g : List (List Char)) :
    (Re.chain [spaces1, .lit "WHERE".toList, spaces1, .lit "id".toList, spaces, .lit ['='],
      spaces, optQuote, .group notQuotes, optQuote]).go py true k
      ((" WHERE id = ".toList ++ id.text ++ tail).drop j) g = none := by
  refine go_spaces1_lit_none (p := 'W') ?_ k g
  obtain rfl | hj := Nat.eq_or_lt_of_le hj
  · left
    intro x hx
    have hW : ((" WHERE id = ".toList ++ id.text ++ tail).drop 1).head? = some 'W' := rfl
    rw [hW, Option.mem_def, Option.some.injEq] at hx
    subst hx
    rfl
  · right
    intro x hx
    have hx : x ∈ "HERE id = ".toList ++ id.text ++ tail := by
      have : j = 2 + (j - 2) := by omega
      rw [this, ← List.drop_drop] at hx
      exact List.mem_of_mem_drop hx
    have h : x.toNat < 128 ∧ x.toLower ≠ 'w' := by
      rcases List.mem_append.mp hx with hx | hx
      · rcases List.mem_append.mp hx with hx | hx
        · have key : ∀ y ∈ "HERE id = ".toList, y.toNat < 128 ∧ y.toLower ≠ 'w' := by decide
          exact key x hx
        · have h := id.text_facts py hx
          exact ⟨h.1, h.2.2.1⟩
      · exact htail x hx
    simp only [charEq, if_true, caseEq_ascii py (by decide : 'W'.toNat < 128) h.1]
    simpa using (Ne.symm h.2 : 'w' ≠ x.toLower)

theorem updatePattern_match {entity setClause : List Char} (he : Ident py entity) (hs : setClause ≠ [])
    (hh : ∀ x ∈ setClause.head?, py.isspace x = false) (hn : '\n' ∉ setClause) (id : IdText) (tail : List Char)
    (ht : id.quote = none → tail = []) (htail : ∀ x ∈ tail, x.toNat < 128 ∧ x.toLower ≠ 'w' ∧ x ≠ '\n') :
    rematch py true updatePattern ("UPDATE ".toList ++ entity ++ " SET ".toList ++ setClause ++
      " WHERE id = ".toList ++ id.text ++ tail) = some [entity, setClause, id.digits] := by
  have hrun : Cls.run py true .dot none (setClause ++ (" WHERE id = ".toList ++ id.text) ++ tail) =
      setClause.length + ((" WHERE id = ".toList ++ id.text).length + tail.length) := by
    have key : ∀ y ∈ " WHERE id = ".toList, y ≠ '\n' := by decide
    rw [Cls.run, List.takeWhile_eq_self_iff.mpr, List.length_append, List.length_append, Nat.add_assoc]
    intro x hx
    simp only [Cls.test, bne_iff_ne, ne_eq]
    simp only [List.mem_append] at hx
    rcases hx with (hx | hx | hx) | hx
    · rintro rfl; exact hn hx
    · exact key x hx
    · exact (id.text_facts py hx).2.1
    · exact (htail x hx).2.2
  have h := (FirstTry.lit_self (p := "UPDATE".toList) (by decide) _).seq <|
    (firstTry_spaces1 py _ (by rw [List.append_assoc]; exact he.head_not_space py _)).seq <|
    (firstTry_word1 py he _ (by simp; rfl)).seq <|
    (firstTry_spaces1 py _ (by simp; rfl)).seq <|
    (FirstTry.lit_self (p := "SET".toList) (by decide) _).seq <|
    (firstTry_spaces1 py _ (by rw [List.append_assoc, List.head?_append_of_ne_nil _ hs]; exact hh)).seq <|
    FirstTry.seq_group_rep_back hrun (List.length_pos.mpr hs) (fun j hj _ α k g =>
      whereId_fails py id (fun x hx => ⟨(htail x hx).1, (htail x hx).2.1⟩) hj k g) (firstTry_whereId py id tail ht)
  have := rematch_of_firstTry h
  simp only [List.append_assoc, List.nil_append, List.singleton_append, List.cons_append,
    List.append_nil] at this ⊢
  exact this

theorem deletePattern_match {entity : List Char} (he : Ident py entity) (id : IdText) (tail : List Char)
    (ht : id.quote = none → tail = []) :
    rematch py true deletePattern (deleteText entity id ++ tail) = some [entity, id.digits] := by
  have h := (FirstTry.lit_self (p := "DELETE".toList) (by decide) _).seq <|
    (firstTry_spaces1 py _ (by simp; rfl)).seq <|
    (FirstTry.lit_self (p := "FROM".toList) (by decide) _).seq <|
    (firstTry_spaces1 py _ (by rw [List.append_assoc]; exact he.head_not_space py _)).seq <|
    (firstTry_word1 py he _ (by simp; rfl)).seq <|
    firstTry_whereId py id tail ht
  have := rematch_of_firstTry h
  rw [deleteText]
  simp only [List.append_assoc, List.nil_append, List.singleton_append, List.cons_append,
    List.append_nil] at this ⊢
  exact this

/-- One assignment `f = l`, after any spaces, goes into the dict as the field
and the value of the literal. -/
theorem setAssignment_assign (d : List (List Char × PyVal)) (sp : List Char) {a : List Char × Lit}
    (hf : Ident py a.1) (hl : a.2.wf = true) (hsp : ∀ c ∈ sp, c = ' ') :
    setAssignment py d (sp ++ assignText a) = .ok (dictSet d a.1 (parseSqlValue py a.2.text)) := by
  have hsp' : ∀ c ∈ sp ++ a.1 ++ [' '], c ≠ '=' := by
    intro c hc
    simp only [List.mem_append, List.mem_singleton] at hc
    rcases hc with (hc | hc) | rfl
    · rw [hsp c hc]; decide
    · exact ne_of_isword (hf.2 c hc) rfl
    · decide
  have hspace : ∀ c ∈ sp, py.isspace c = true := fun c hc => by rw [hsp c hc]; rfl
  have htext : sp ++ assignText a = (sp ++ a.1 ++ [' ']) ++ '=' :: ' ' :: a.2.text := by
    simp [assignText]
  rw [setAssignment, htext, splitOnce_append (fun h => hsp' _ h rfl)]
  simp only [strip_spaces_append py hspace, List.append_assoc,
    strip_append_spaces py (List.forall_mem_singleton.mpr (isspace_space py)), strip_ident py hf, strip_space_cons,
    strip_lit py hl]

/-- A `foldlM` whose every step returns. -/
theorem foldlM_map_ok {α β γ ε : Type} (l : List α) (p : α → γ) (f : β → γ → Except ε β) (g : β → α → β)
    (h : ∀ b, ∀ x ∈ l, f b (p x) = .ok (g b x)) (init : β) :
    (l.map p).foldlM f init = .ok (l.foldl g init) := by
  induction l generalizing init with
  | nil => rfl
  | cons x l ih =>
    simp only [List.map_cons, List.foldlM_cons, h init x (List.mem_cons_self _ _), List.foldl_cons]
    exact ih (fun b y hy => h b y (List.mem_cons_of_mem _ hy)) _

theorem not_mem_assignText {c : Char} (hc : py.isword c = false) (hs : c ∉ " = ".toList)
    {b : List Char × Lit} (hb : Ident py b.1) (ht : c ∉ b.2.text) : c ∉ assignText b := by
  simp only [assignText, List.mem_append, not_or]
  exact ⟨⟨fun h => ne_of_isword (hb.2 c h) hc rfl, hs⟩, ht⟩

/-- The SET clause, split at its commas, goes into the dict assignment by
assignment. -/
theorem foldlM_setAssignment (a : List Char × Lit) (as : List (List Char × Lit))
    (hf : ∀ b ∈ a :: as, Ident py b.1) (hl : ∀ b ∈ a :: as, b.2.wf = true) :
    (assignText a :: (as.map assignText).map (' ' :: ·)).foldlM (setAssignment py) [] =
      .ok (dictOf ((a :: as).map fun b => (b.1, parseSqlValue py b.2.text))) := by
  have h0 := setAssignment_assign py [] [] (hf a (List.mem_cons_self _ _)) (hl a (List.mem_cons_self _ _))
    (by simp)
  rw [List.nil_append] at h0
  rw [List.foldlM_cons, h0, List.map_map]
  refine (foldlM_map_ok as _ (setAssignment py) (fun d b => dictSet d b.1 (parseSqlValue py b.2.text))
    (fun d b hb => setAssignment_assign py d [' '] (hf b (List.mem_cons_of_mem _ hb))
      (hl b (List.mem_cons_of_mem _ hb)) (by simp)) _).trans ?_
  simp [dictOf, List.foldl_map]

/-- The parse of an UPDATE of the grammar whose literals hold no comma and no
newline, and of any text after a quoted identifier that holds no `w` and no
newline: the entity, the digits of the identifier, and the dict of the
assignments. -/
theorem parseUpdate_updateText {entity : List Char} {assigns : List (List Char × Lit)} (he : Ident py entity)
    (ha : assigns ≠ []) (hf : ∀ a ∈ assigns, Ident py a.1)
    (hl : ∀ a ∈ assigns, a.2.wf = true ∧ ',' ∉ a.2.text ∧ '\n' ∉ a.2.text) (id : IdText) (tail : List Char)
    (ht : id.quote = none → tail = []) (htail : ∀ x ∈ tail, x.toNat < 128 ∧ x.toLower ≠ 'w' ∧ x ≠ '\n') :
    parseUpdate py (updateText entity assigns id ++ tail) =
      .ok (entity, id.digits, dictOf (assigns.map fun a => (a.1, parseSqlValue py a.2.text))) := by
  obtain ⟨a, as, rfl⟩ := List.exists_cons_of_ne_nil ha
  have hnot : ∀ {c : Char}, py.isword c = false → c ∉ " = ".toList → (∀ b ∈ a :: as, c ∉ b.2.text) →
      ∀ x ∈ (a :: as).map assignText, c ∉ x := by
    intro c hc hs ht x hx
    obtain ⟨b, hb, rfl⟩ := List.mem_map.mp hx
    exact not_mem_assignText py hc hs (hf b hb) (ht b hb)
  obtain ⟨t, hct⟩ := commaList_cons_eq_append (assignText a) (as.map assignText)
  have hhead : ∀ x ∈ (commaList ((a :: as).map assignText)).head?, py.isspace x = false := by
    rw [List.map_cons, hct, assignText, List.append_assoc, List.append_assoc]
    exact (hf a (List.mem_cons_self _ _)).head_not_space py _
  have hne : commaList ((a :: as).map assignText) ≠ [] := by
    rw [List.map_cons, hct, assignText]; simp [(hf a (List.mem_cons_self _ _)).1]
  rw [parseUpdate, updateText, updatePattern_match py he hne hhead
    (not_mem_commaList (by decide) (by decide) (hnot rfl (by decide) fun b hb => (hl b hb).2.2)) id tail ht
    htail]
  dsimp only
  rw [List.map_cons, split_commaList (hnot rfl (by decide) fun b hb => (hl b hb).2.1), strip_digits,
    foldlM_setAssignment py a as hf fun b hb => (hl b hb).1]
  rfl

theorem parseDelete_deleteText {entity : List Char} (he : Ident py entity) (id : IdText) (tail : List Char)
    (ht : id.quote = none → tail = []) : parseDelete py (deleteText entity id ++ tail) = .ok (entity, id.digits) := by
  rw [parseDelete, deletePattern_match py he id tail ht]
  dsimp only
  rw [strip_digits]

end UpdateDelete

/-! ## What `execute` posts -/

section Posted

variable (py : Py) (post : Request → Reply)

/-- `execute` without parameters on an open cursor posts what the dispatch of
the text posts from the reset cursor. -/
theorem execute_posted {op : List Char} (ht : strip py op = op) {s : Session} (hs : s.cursor.closed = false) :
    (after (execute py post op none s)).posted =
      (after (dispatch py post op { s with cursor := s.cursor.reset })).posted := by
  rw [execute_of_open py post op none hs]
  show (after ((pure (strip py op) >>= fun o => tryCatch (dispatch py post o) _) _)).posted = _
  rw [bind_pure', ht, after_tryCatch (fun e s => by cases e <;> rfl)]

/-- An error of the dispatch other than an HTTP error leaves `execute` on an
open cursor as it is. -/
theorem execute_dispatch_error {op : List Char} (ht : strip py op = op) {s s' : Session}
    (hs : s.cursor.closed = false) {e : PyErr} (he : ∀ h, e ≠ .httpError h)
    (hd : dispatch py post op { s with cursor := s.cursor.reset } = .error e s') :
    execute py post op none s = .error e s' := by
  rw [execute_of_open py post op none hs]
  show (pure (strip py op) >>= fun o => tryCatch (dispatch py post o) _) _ = _
  rw [bind_pure', ht, tryCatch_error hd]
  cases e <;> first | rfl | exact absurd rfl (he _)

theorem dispatch_insert {op rest : List Char} (h : upper py op = "INSERT".toList ++ rest) :
    dispatch py post op = executeInsert py post op := by
  simp [dispatch, h]

theorem dispatch_update {op rest : List Char} (h : upper py op = "UPDATE".toList ++ rest) :
    dispatch py post op = executeUpdate py post op := by
  simp [dispatch, h]

theorem dispatch_delete {op rest : List Char} (h : upper py op = "DELETE".toList ++ rest) :
    dispatch py post op = executeDelete py post op := by
  simp [dispatch, h]

/-- The reply of a mutation, read after the request: nothing more is posted. -/
theorem noPost_affected (result : PyVal) :
    NoPost (do
      let affected ← liftExcept (result.get "affected".toList (.int 0))
      setCursor fun c => { c with rowcount := affected }) :=
  NoPost.bind (noPost_liftExcept _) fun _ => noPost_setCursor _

theorem executeUpdate_posted {sql entity entityId : List Char} {data : List (List Char × PyVal)} {id : List Int}
    {payload : PyVal} (h : parseUpdate py sql = .ok (entity, entityId, data)) (hid : hexToUuid py entityId = .ok id)
    (hp : updatePayload py entity id data = .ok payload) (s : Session) :
    (after (executeUpdate py post sql s)).posted =
      s.posted ++ [⟨s.cursor.baseUrl ++ "/mutate".toList, payload⟩] := by
  unfold executeUpdate
  rw [h, bind_liftExcept_ok]
  dsimp only
  rw [hid, bind_liftExcept_ok, hp, bind_liftExcept_ok]
  exact posted_postJson_bind post _ _ (fun _ => noPost_affected _) s

theorem executeDelete_posted {sql entity entityId : List Char} {id : List Int}
    (h : parseDelete py sql = .ok (entity, entityId)) (hid : hexToUuid py entityId = .ok id) (s : Session) :
    (after (executeDelete py post sql s)).posted =
      s.posted ++ [⟨s.cursor.baseUrl ++ "/mutate".toList, deletePayload entity id⟩] := by
  unfold executeDelete
  rw [h, bind_liftExcept_ok]
  dsimp only
  rw [hid, bind_liftExcept_ok]
  exact posted_postJson_bind post _ _ (fun _ => noPost_affected _) s

end Posted

/-! ## What an INSERT posts -/

/-- A statement that ends with an identifier, and then with text that ends in
no whitespace, is its own `strip()`. -/
theorem strip_append_idText (py : Py) {pre : List Char} (hp : ∀ c ∈ pre.head?, py.isspace c = false)
    (hne : pre ≠ []) (id : IdText) {tail : List Char} (htl : ∀ c ∈ tail.getLast?, py.isspace c = false) :
    strip py (pre ++ id.text ++ tail) = pre ++ id.text ++ tail := by
  apply strip_of_ends py
  · rwa [List.append_assoc, List.head?_append_of_ne_nil _ hne]
  · intro c hc
    by_cases htn : tail = []
    · subst htn
      have hid : id.text ≠ [] := by simp [IdText.text, id.digits_ne_nil]
      rw [List.append_nil, List.getLast?_append_of_ne_nil _ hid] at hc
      exact (id.text_facts py (List.mem_of_mem_getLast? hc)).2.2.2
    · rw [List.getLast?_append_of_ne_nil _ htn] at hc
      exact htl c hc

theorem strip_updateText (py : Py) (entity : List Char) (assigns : List (List Char × Lit)) (id : IdText)
    (tail : List Char) (htl : ∀ c ∈ tail.getLast?, py.isspace c = false) :
    strip py (updateText entity assigns id ++ tail) = updateText entity assigns id ++ tail :=
  strip_append_idText py (by simp; rfl) (by simp) id htl

theorem strip_deleteText (py : Py) (entity : List Char) (id : IdText) (tail : List Char)
    (htl : ∀ c ∈ tail.getLast?, py.isspace c = false) :
    strip py (deleteText entity id ++ tail) = deleteText entity id ++ tail :=
  strip_append_idText py (by simp; rfl) (by simp) id htl

theorem upper_updateText (py : Py) (entity : List Char) (assigns : List (List Char × Lit)) (id : IdText)
    (tail : List Char) : ∃ rest, upper py (updateText entity assigns id ++ tail) = "UPDATE".toList ++ rest :=
  ⟨_, by simp only [updateText, upper_append, List.append_assoc]; rfl⟩

theorem upper_deleteText (py : Py) (entity : List Char) (id : IdText) (tail : List Char) :
    ∃ rest, upper py (deleteText entity id ++ tail) = "DELETE".toList ++ rest :=
  ⟨_, by simp only [deleteText, upper_append, List.append_assoc]; rfl⟩

/-- An UPDATE and a DELETE of the grammar, on an open cursor, each post one
request: the Update of the entity, with the bytes of the identifier and the
data list of the dict of the assignments (a repeated field keeps its first
place and takes its last value), provided its literals hold no comma and no
newline; and the Delete of the entity and the identifier. With distinct
fields, the dict is the assignments in order. -/
theorem execute_update_delete_posts (py : Py) (post : Request → Reply) {s : Session}
    (hs : s.cursor.closed = false) {entity : List Char} (he : Ident py entity) {assigns : List (List Char × Lit)}
    (ha : assigns ≠ []) (hf : ∀ a ∈ assigns, Ident py a.1)
    (hl : ∀ a ∈ assigns, a.2.wf = true ∧ ',' ∉ a.2.text ∧ '\n' ∉ a.2.text) (id : IdText) :
    (∃ payload, updatePayload py entity id.bytes (dictOf (assigns.map fun a => (a.1, parseSqlValue py a.2.text))) =
        .ok payload ∧
      (after (execute py post (updateText entity assigns id) none s)).posted =
        s.posted ++ [⟨s.cursor.baseUrl ++ "/mutate".toList, payload⟩]) ∧
    ((assigns.map Prod.fst).Nodup → dictOf (assigns.map fun a => (a.1, parseSqlValue py a.2.text)) =
      assigns.map fun a => (a.1, parseSqlValue py a.2.text)) ∧
    (after (execute py post (deleteText entity id) none s)).posted =
      s.posted ++ [⟨s.cursor.baseUrl ++ "/mutate".toList, deletePayload entity id.bytes⟩] := by
  obtain ⟨r₁, hu⟩ := upper_updateText py entity assigns id []
  obtain ⟨r₂, hd⟩ := upper_deleteText py entity id []
  rw [List.append_nil] at hu hd
  obtain ⟨payload, hp⟩ := updatePayload_parsed py entity id.bytes (dictOf_map_parsed py assigns)
  refine ⟨⟨payload, hp, ?_⟩, fun hnd => dictOf_of_nodup _ (by simpa using hnd), ?_⟩
  · rw [execute_posted py post (by simpa using strip_updateText py entity assigns id [] (by simp)) hs,
      dispatch_update py post hu, executeUpdate_posted py post
        (by simpa using parseUpdate_updateText py he ha hf hl id [] (fun _ => rfl) (by simp)) (hexToUuid_idText py id)
        hp]
    rfl
  · rw [execute_posted py post (by simpa using strip_deleteText py entity id [] (by simp)) hs,
      dispatch_delete py post hd, executeDelete_posted py post
        (by simpa using parseDelete_deleteText py he id [] fun _ => rfl) (hexToUuid_idText py id)]
    rfl

/-- An identifier in quotes, with a hyphen and hex digits of both cases. -/
def sampleId : IdText :=
  ⟨some '\'', "0123456789abcdef-0123456789ABCDEF".toList, by decide, by decide, by decide⟩

/-- An UPDATE of two fields, one a quoted literal with the other quote inside,
and a DELETE, of a quoted hyphenated identifier, on a cursor in use. -/
theorem execute_update_delete_posts_users :
    (∃ payload, updatePayload Py.ascii "users".toList sampleId.bytes
        (dictOf ([("name".toList, Lit.quoted '\'' "Ann \"A\" = B".toList), ("age".toList, .bare "42".toList)].map
          fun a => (a.1, parseSqlValue Py.ascii a.2.text))) = .ok payload ∧
      (after (execute Py.ascii (fun _ => .failed []) (updateText "users".toList
          [("name".toList, .quoted '\'' "Ann \"A\" = B".toList), ("age".toList, .bare "42".toList)] sampleId) none
          usedSession)).posted =
        usedSession.posted ++ [⟨usedSession.cursor.baseUrl ++ "/mutate".toList, payload⟩]) ∧
    (after (execute Py.ascii (fun _ => .failed []) (deleteText "users".toList sampleId) none usedSession)).posted =
      usedSession.posted ++ [⟨usedSession.cursor.baseUrl ++ "/mutate".toList,
        deletePayload "users".toList sampleId.bytes⟩] :=
  have h := execute_update_delete_posts Py.ascii (fun _ => .failed []) (s := usedSession) rfl (by decide)
    (List.cons_ne_nil ("name".toList, Lit.quoted '\'' "Ann \"A\" = B".toList) [("age".toList, .bare "42".toList)])
    (by decide) (by decide) sampleId
  ⟨h.1, h.2.2⟩

/-! ## A comma inside a SET literal -/

section CommaLiteral

variable (py : Py) (post : Request → Reply)

/-- `split(",")` of a text whose first comma ends `a` and whose next comma, if
there is one, ends `b`. -/
theorem split_first_two {a b t : List Char} (ha : ',' ∉ a) (hb : ',' ∉ b) (ht : t = [] ∨ ∃ r, t = ',' :: r) :
    ∃ T, split ',' (a ++ ',' :: (b ++ t)) = a :: b :: T := by
  have hna : ∀ x ∈ a, ¬(x == ',') = true := fun x hx h => ha (beq_iff_eq.mp h ▸ hx)
  have hnb : ∀ x ∈ b, ¬(x == ',') = true := fun x hx h => hb (beq_iff_eq.mp h ▸ hx)
  rw [split, List.splitOn, List.splitOnP_first _ _ hna ',' rfl]
  rcases ht with rfl | ⟨r, rfl⟩
  · exact ⟨[], by rw [List.append_nil, List.splitOnP_eq_single _ _ hnb]⟩
  · exact ⟨_, by rw [List.splitOnP_first _ _ hnb ',' rfl]⟩

/-- A list starts with its first item, and then ends or goes on at a comma. -/
theorem commaList_cons_split (x : List Char) (xs : List (List Char)) :
    ∃ t, commaList (x :: xs) = x ++ t ∧ (t = [] ∨ ∃ r, t = ',' :: r) := by
  cases xs with
  | nil => exact ⟨[], by rw [commaList_singleton, List.append_nil], .inl rfl⟩
  | cons y ys =>
    exact ⟨_, by rw [commaList_cons_cons, List.append_assoc]; rfl, .inr ⟨" ".toList ++ commaList (y :: ys), rfl⟩⟩

/-- An UPDATE whose first literal is quoted and holds a comma with no `=`
after it: `split(",")` cuts the literal, and the piece after the comma has no
`=` to unpack. -/
theorem parseUpdate_comma_literal {entity f : List Char} (he : Ident py entity) (hf : Ident py f) {q : Char}
    (hq : q = '\'' ∨ q = '"') {b₁ b₂ : List Char} (h₁ : ',' ∉ b₁ ∧ '\n' ∉ b₁) (h₂ : '=' ∉ b₂ ∧ ',' ∉ b₂ ∧ '\n' ∉ b₂)
    {as : List (List Char × Lit)} (has : ∀ a ∈ as, Ident py a.1 ∧ '\n' ∉ a.2.text) (id : IdText) :
    parseUpdate py (updateText entity ((f, .quoted q (b₁ ++ ',' :: b₂)) :: as) id) = .error (.valueError none) := by
  have hq' : q ≠ ',' ∧ q ≠ '=' ∧ q ≠ '\n' := by rcases hq with rfl | rfl <;> decide
  have hA : assignText (f, .quoted q (b₁ ++ ',' :: b₂)) = (f ++ " = ".toList ++ q :: b₁) ++ ',' :: (b₂ ++ [q]) := by
    simp [assignText, Lit.text]
  obtain ⟨t, hct, ht⟩ := commaList_cons_split (assignText (f, .quoted q (b₁ ++ ',' :: b₂))) (as.map assignText)
  have hne : commaList (((f, .quoted q (b₁ ++ ',' :: b₂)) :: as).map assignText) ≠ [] := by
    rw [List.map_cons, hct, hA]; simp
  have hhead : ∀ x ∈ (commaList (((f, .quoted q (b₁ ++ ',' :: b₂)) :: as).map assignText)).head?,
      py.isspace x = false := by
    rw [List.map_cons, hct, assignText, List.append_assoc, List.append_assoc]
    exact hf.head_not_space py _
  have hn : '\n' ∉ commaList (((f, .quoted q (b₁ ++ ',' :: b₂)) :: as).map assignText) := by
    refine not_mem_commaList (by decide) (by decide) fun x hx => ?_
    obtain ⟨a, ha, rfl⟩ := List.mem_map.mp hx
    rcases List.mem_cons.mp ha with rfl | ha
    · rw [hA]
      simp [h₁.2, h₂.2.2, hq'.2.2.symm, hf.not_mem (d := '\n') rfl]
    · exact not_mem_assignText py (by rfl) (by decide) (has a ha).1 (has a ha).2
  have hm := updatePattern_match py he hne hhead hn id [] (fun _ => rfl) (by simp)
  rw [List.append_nil] at hm
  obtain ⟨T, hT⟩ := split_first_two (a := f ++ " = ".toList ++ q :: b₁) (b := b₂ ++ [q])
    (by simp [h₁.1, hq'.1.symm, hf.not_mem (d := ',') rfl]) (by simp [h₂.2.1, hq'.1.symm]) ht
  have hset : ∃ d, setAssignment py [] (f ++ " = ".toList ++ q :: b₁) = .ok d := by
    have hfe : '=' ∉ f ++ [' '] := by simp [hf.not_mem (d := '=') rfl]
    rw [setAssignment, show f ++ " = ".toList ++ q :: b₁ = (f ++ [' ']) ++ '=' :: ' ' :: q :: b₁ by simp,
      splitOnce_append hfe]
    exact ⟨_, rfl⟩
  obtain ⟨d, hd⟩ := hset
  have hbad : setAssignment py d (b₂ ++ [q]) = .error (.valueError none) := by
    rw [setAssignment, splitOnce_of_not_mem (by simp [h₂.1, hq'.2.1.symm])]
  rw [parseUpdate, updateText, hm]
  dsimp only
  rw [List.map_cons, hct, hA, List.append_assoc, List.cons_append, hT, List.foldlM_cons, hd, ok_bind,
    List.foldlM_cons, hbad]
  rfl

/-- A statement whose parse raises an error other than an HTTP error raises
it out of `execute` on an open cursor, from the reset cursor: nothing is
posted. -/
theorem execute_update_parse_error {op rest : List Char} (ht : strip py op = op)
    (hu : upper py op = "UPDATE".toList ++ rest) {e : PyErr} (hp : parseUpdate py op = .error e)
    (he : ∀ h, e ≠ .httpError h) {s : Session} (hs : s.cursor.closed = false) :
    execute py post op none s = .error e { s with cursor := s.cursor.reset } := by
  refine execute_dispatch_error py post ht hs he ?_
  rw [dispatch_update py post hu]
  unfold executeUpdate
  rw [hp, bind_liftExcept_error]

end CommaLiteral

/-- The SET clause is split at every comma before quotes are looked at: an
UPDATE on an open cursor whose first literal is quoted and holds a comma with
no `=` after it raises `ValueError` from the unpacking of `split("=", 1)`, and
posts nothing. -/
theorem update_comma_literal_raises (py : Py) (post : Request → Reply) {s : Session} (hs : s.cursor.closed = false)
    {entity f : List Char} (he : Ident py entity) (hf : Ident py f) {q : Char} (hq : q = '\'' ∨ q = '"')
    {b₁ b₂ : List Char} (h₁ : ',' ∉ b₁ ∧ '\n' ∉ b₁) (h₂ : '=' ∉ b₂ ∧ ',' ∉ b₂ ∧ '\n' ∉ b₂)
    {as : List (List Char × Lit)} (has : ∀ a ∈ as, Ident py a.1 ∧ '\n' ∉ a.2.text) (id : IdText) :
    ∃ s', execute py post (updateText entity ((f, .quoted q (b₁ ++ ',' :: b₂)) :: as) id) none s =
      .error (.valueError none) s' ∧ s'.posted = s.posted := by
  obtain ⟨r, hu⟩ := upper_updateText py entity ((f, .quoted q (b₁ ++ ',' :: b₂)) :: as) id []
  rw [List.append_nil] at hu
  exact ⟨_, execute_update_parse_error py post (by simpa using strip_updateText py entity _ id [] (by simp)) hu
    (parseUpdate_comma_literal py he hf hq h₁ h₂ has id) (fun _ => PyErr.noConfusion) hs, rfl⟩

/-- `UPDATE users SET note = 'a, b', age = 3 WHERE id = '...'` on a cursor in
use. -/
theorem update_comma_literal_raises_note :
    ∃ s', execute Py.ascii (fun _ => .failed []) (updateText "users".toList
        [("note".toList, .quoted '\'' ("a".toList ++ ',' :: " b".toList)), ("age".toList, .bare "3".toList)]
        sampleId) none usedSession = .error (.valueError none) s' ∧ s'.posted = usedSession.posted :=
  update_comma_literal_raises Py.ascii (fun _ => .failed []) rfl (by decide) (by decide) (.inl rfl)
    (by decide) (by decide) (by decide) sampleId

end ormdb.dbapi
