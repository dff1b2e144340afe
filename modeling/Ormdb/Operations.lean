-- The operations of the Django backend as they meet the cursor. The
-- statements of `sql_flush` quote the table name, and the cursor reads a bare
-- word after `DELETE FROM`, so it refuses every one of them before anything
-- is posted; a statement that is a comment runs as nothing at all; and
-- `prep_for_like_query` escapes a value so that, in a LIKE pattern with the
-- escape character `\`, it stands for itself only.
import Ormdb.MutationLaws

namespace ormdb.django

open ormdb.py ormdb.regex ormdb.dbapi

/-! ## The operations -/

/-- `DatabaseOperations.quote_name`: a name that starts and ends with a double
quote is kept, any other is put in double quotes. -/
def quoteName (name : List Char) : List Char :=
  if name.head? = some '"' ∧ name.getLast? = some '"' then name else '"' :: name ++ ['"']

/-- `DatabaseOperations.sql_flush`: a `DELETE FROM` of each table. -/
def sqlFlush (tables : List (List Char)) : List (List Char) :=
  tables.map fun table => "DELETE FROM ".toList ++ quoteName table

/-- `DatabaseOperations.prep_for_like_query`: backslashes, then `%`, then `_`,
each escaped by a backslash. -/
def prepForLikeQuery (x : List Char) : List Char :=
  replace ['_'] "\\_".toList (replace ['%'] "\\%".toList (replace ['\\'] "\\\\".toList x))

/-! ## LIKE -/

/-- An item of a LIKE pattern: a character that matches itself, `_` or `%`. -/
inductive LikeItem where
  | lit (c : Char)
  | one
  | many
  deriving DecidableEq

/-- The items of a LIKE pattern whose escape character is `\`: an escaped
character stands for itself, and so does a `\` that ends the pattern. -/
def likeItems : List Char → List LikeItem
  | '\\' :: c :: p => .lit c :: likeItems p
  | '%' :: p => .many :: likeItems p
  | '_' :: p => .one :: likeItems p
  | c :: p => .lit c :: likeItems p
  | [] => []

/-- Whether the items match the whole text: `_` any one character, `%` any run. -/
def itemsMatch : List LikeItem → List Char → Bool
  | [], s => s.isEmpty
  | .many :: is, s => (List.range (s.length + 1)).any fun i => itemsMatch is (s.drop i)
  | .lit c :: is, d :: s => c == d && itemsMatch is s
  | .one :: is, _ :: s => itemsMatch is s
  | _ :: _, [] => false

/-- `s LIKE pattern ESCAPE '\'`. -/
def likeMatch (pattern s : List Char) : Bool := itemsMatch (likeItems pattern) s

/-! ## Escaping for LIKE -/

/-- `replace` of one character puts the new text for each of its occurrences. -/
theorem replace_char (a : Char) (new s : List Char) :
    replace [a] new s = s.flatMap fun c => if c = a then new else [c] := by
  suffices h : ∀ n, s.length ≤ n → replace.go [a] new n s = s.flatMap fun c => if c = a then new else [c] from
    h _ le_rfl
  induction s with
  | nil => intro n _; cases n <;> rfl
  | cons c s ih =>
    intro n hn
    obtain ⟨n, rfl⟩ : ∃ m, n = m + 1 := ⟨n - 1, by simp at hn; omega⟩
    have hpre : [a].isPrefixOf (c :: s) = (a == c) := by
      rw [List.isPrefixOf_cons₂, List.isPrefixOf_nil_left, Bool.and_true]
    have hs := ih n (by simpa using hn)
    by_cases hc : c = a
    · subst hc
      simp only [replace.go, hpre, beq_self_eq_true, ne_eq, List.cons_ne_nil, not_false_eq_true, and_self,
        if_true, List.length_singleton, List.drop_one, List.tail_cons, hs, List.flatMap_cons]
    · have hne : (a == c) = false := by simpa using Ne.symm hc
      simp only [replace.go, hpre, hne, and_false, if_false, hs, List.flatMap_cons, hc]
      rfl

/-- The escape `prep_for_like_query` gives one character. -/
def likeEscape (c : Char) : List Char := if c = '\\' ∨ c = '%' ∨ c = '_' then ['\\', c] else [c]

theorem prepForLikeQuery_eq (x : List Char) : prepForLikeQuery x = x.flatMap likeEscape := by
  rw [prepForLikeQuery, replace_char, replace_char, replace_char, List.flatMap_assoc, List.flatMap_assoc]
  congr 1
  funext c
  by_cases h₁ : c = '\\' <;> by_cases h₂ : c = '%' <;> by_cases h₃ : c = '_' <;> simp_all [likeEscape]

theorem likeItems_escape (c : Char) (p : List Char) : likeItems (likeEscape c ++ p) = .lit c :: likeItems p := by
  unfold likeEscape
  split
  · rename_i h
    rcases h with rfl | rfl | rfl <;> rfl
  · rename_i h
    simp only [not_or] at h
    simp [likeItems, h.1, h.2.1, h.2.2]

/-- An escaped value is a run of literal items, whatever the pattern goes on
with. -/
theorem likeItems_prep (x p : List Char) : likeItems (prepForLikeQuery x ++ p) = x.map .lit ++ likeItems p := by
  rw [prepForLikeQuery_eq]
  induction x with
  | nil => rfl
  | cons c x ih => rw [List.flatMap_cons, List.append_assoc, likeItems_escape, ih, List.map_cons, List.cons_append]

theorem itemsMatch_lits (x : List Char) (is : List LikeItem) (s : List Char) :
    itemsMatch (x.map .lit ++ is) s = true ↔ ∃ t, s = x ++ t ∧ itemsMatch is t = true := by
  induction x generalizing s with
  | nil => simp
  | cons c x ih =>
    cases s with
    | nil => simp [itemsMatch]
    | cons d s =>
      show (c == d && itemsMatch (x.map .lit ++ is) s) = true ↔ ∃ t, d :: s = c :: (x ++ t) ∧ _
      simp only [Bool.and_eq_true, beq_iff_eq, ih, List.cons.injEq]
      constructor
      · rintro ⟨rfl, t, rfl, h⟩
        exact ⟨t, ⟨rfl, rfl⟩, h⟩
      · rintro ⟨t, ⟨rfl, rfl⟩, h⟩
        exact ⟨rfl, t, rfl, h⟩

theorem itemsMatch_lits_exact (x s : List Char) : itemsMatch (x.map .lit) s = true ↔ s = x := by
  rw [← List.append_nil (x.map _), itemsMatch_lits]
  constructor
  · rintro ⟨t, rfl, h⟩
    cases t with
    | nil => exact List.append_nil x
    | cons _ _ => exact nomatch h
  · rintro rfl
    exact ⟨[], (List.append_nil _).symm, rfl⟩

theorem itemsMatch_many (is : List LikeItem) (s : List Char) :
    itemsMatch (.many :: is) s = true ↔ ∃ u t, s = u ++ t ∧ itemsMatch is t = true := by
  simp only [itemsMatch, List.any_eq_true, List.mem_range]
  constructor
  · rintro ⟨i, -, h⟩
    exact ⟨s.take i, s.drop i, (List.take_append_drop i s).symm, h⟩
  · rintro ⟨u, t, rfl, h⟩
    exact ⟨u.length, by simp only [List.length_append]; omega, by simpa using h⟩

theorem itemsMatch_any (s : List Char) : itemsMatch [.many] s = true :=
  (itemsMatch_many [] s).mpr ⟨s, [], (List.append_nil s).symm, rfl⟩

/-- `prep_for_like_query` makes a value a literal of LIKE: escaped, it matches
itself only, and with `%` after it, before it or around it, exactly the texts
that start with it, end with it or hold it. -/
theorem prep_for_like_literal (x s : List Char) :
    (likeMatch (prepForLikeQuery x) s = true ↔ s = x) ∧
    (likeMatch (prepForLikeQuery x ++ ['%']) s = true ↔ x <+: s) ∧
    (likeMatch ('%' :: prepForLikeQuery x) s = true ↔ x <:+ s) ∧
    (likeMatch ('%' :: prepForLikeQuery x ++ ['%']) s = true ↔ x <:+: s) := by
  have hexact : likeItems (prepForLikeQuery x) = x.map .lit := by
    have h := likeItems_prep x []
    rwa [List.append_nil, show likeItems [] = [] from rfl, List.append_nil] at h
  have hany : likeItems ['%'] = [.many] := rfl
  refine ⟨?_, ?_, ?_, ?_⟩
  · rw [likeMatch, hexact, itemsMatch_lits_exact]
  · rw [likeMatch, likeItems_prep, hany, itemsMatch_lits]
    simp only [itemsMatch_any, and_true]
    exact ⟨fun ⟨t, h⟩ => ⟨t, h.symm⟩, fun ⟨t, h⟩ => ⟨t, h.symm⟩⟩
  · show itemsMatch (.many :: likeItems (prepForLikeQuery x)) s = true ↔ _
    rw [hexact, itemsMatch_many]
    simp only [itemsMatch_lits_exact]
    constructor
    · rintro ⟨u, t, rfl, rfl⟩
      exact ⟨u, rfl⟩
    · rintro ⟨u, rfl⟩
      exact ⟨u, x, rfl, rfl⟩
  · show itemsMatch (.many :: likeItems (prepForLikeQuery x ++ ['%'])) s = true ↔ _
    rw [likeItems_prep, hany, itemsMatch_many]
    simp only [itemsMatch_lits, itemsMatch_any, and_true]
    constructor
    · rintro ⟨u, t, rfl, v, rfl⟩
      exact ⟨u, v, by rw [List.append_assoc]⟩
    · rintro ⟨u, v, rfl⟩
      exact ⟨u, x ++ v, by rw [List.append_assoc], v, rfl⟩

/-! ## Quoted names -/

/-- A quoted name starts and ends with a double quote. -/
theorem quoteName_ends (name : List Char) :
    (quoteName name).head? = some '"' ∧ (quoteName name).getLast? = some '"' := by
  unfold quoteName
  split
  · assumption
  · exact ⟨rfl, by rw [List.getLast?_append]; rfl⟩

/-! ## Statements on the cursor -/

section Cursor

variable (py : Py) (post : Request → Reply) {s : Session}

/-- A comment, run on an open cursor without parameters, returns: nothing is
posted, and the cursor is left reset. -/
theorem execute_comment (hs : s.cursor.closed = false) {op rest : List Char}
    (h : strip py op = "--".toList ++ rest) :
    execute py post op none s = .ok () { s with cursor := s.cursor.reset } := by
  rw [execute_of_open py post op none hs]
  show (pure (strip py op) >>= fun o => tryCatch (dispatch py post o) _) _ = _
  have hu : upper py ("--".toList ++ rest) = "--".toList ++ upper py rest := by rw [upper_append]; rfl
  have hd : dispatch py post ("--".toList ++ rest) = pure () := by
    simp only [dispatch, hu]
    simp
  rw [bind_pure', h]
  exact tryCatch_ok (by rw [hd]; rfl)

/-- The cursor's DELETE pattern matches no text with a double quote after
`DELETE FROM `: `\w+` cannot start there. -/
theorem rematch_delete_quoted (rest : List Char) :
    rematch py true deletePattern ("DELETE FROM \"".toList ++ rest) = none := by
  show (Re.seq (.lit "DELETE".toList) (.seq spaces1 (.seq (.lit "FROM".toList)
    (.seq spaces1 (.seq (.group word1) _))))).go py true (fun _ g => some g)
    ("DELETE".toList ++ ' ' :: ("FROM".toList ++ ' ' :: '"' :: rest)) [] = none
  rw [go_seq, go_lit, eatLit_self (by decide), Option.some_bind, go_seq,
    go_spaces1_single (fun x hx => by cases hx; rfl), go_seq, go_lit, eatLit_self (by decide),
    Option.some_bind, go_seq, go_spaces1_single (fun x hx => by cases hx; rfl), go_seq, go_group, word1,
    go_rep_one_none (fun x hx => by cases hx; rfl)]

/-- Every statement of `sql_flush`, run on an open cursor, raises the
`ProgrammingError` of a DELETE the cursor cannot parse: nothing is posted, and
the cursor is left reset. -/
theorem flush_statements_raise (hs : s.cursor.closed = false) (tables : List (List Char)) :
    ∀ stmt ∈ sqlFlush tables, execute py post stmt none s =
      .error (.programmingError ("Cannot parse DELETE: ".toList ++ stmt)) { s with cursor := s.cursor.reset } := by
  intro stmt hstmt
  obtain ⟨t, -, rfl⟩ := List.mem_map.mp hstmt
  obtain ⟨hhead, hlast⟩ := quoteName_ends t
  obtain ⟨rest, hq⟩ := List.head?_eq_some_iff.mp hhead
  have hstrip : strip py ("DELETE FROM ".toList ++ quoteName t) = "DELETE FROM ".toList ++ quoteName t :=
    strip_of_ends py (fun x hx => by cases hx; rfl)
      (by rw [List.getLast?_append, hlast]; exact fun x hx => by cases hx; rfl)
  have hdel : executeDelete py post ("DELETE FROM ".toList ++ quoteName t) { s with cursor := s.cursor.reset } =
      .error (.programmingError ("Cannot parse DELETE: ".toList ++ ("DELETE FROM ".toList ++ quoteName t)))
        { s with cursor := s.cursor.reset } := by
    unfold executeDelete parseDelete
    rw [hq, show "DELETE FROM ".toList ++ '"' :: rest = "DELETE FROM \"".toList ++ rest from rfl,
      rematch_delete_quoted]
    rfl
  rw [execute_of_open py post _ none hs]
  show (pure (strip py _) >>= fun o => tryCatch (dispatch py post o) _) _ = _
  have hu : upper py ("DELETE FROM ".toList ++ quoteName t) =
      "DELETE".toList ++ (" FROM ".toList ++ upper py (quoteName t)) := by
    rw [upper_append]; rfl
  rw [bind_pure', hstrip, dispatch_delete py post hu, tryCatch_error hdel]
  rfl

theorem flush_users_raises :
    usedSession.cursor.closed = false ∧ "DELETE FROM \"users\"".toList ∈ sqlFlush ["users".toList] ∧
    execute Py.ascii (fun _ => .failed []) "DELETE FROM \"users\"".toList none usedSession =
      .error (.programmingError ("Cannot parse DELETE: ".toList ++ "DELETE FROM \"users\"".toList))
        { usedSession with cursor := usedSession.cursor.reset } :=
  ⟨rfl, by decide, flush_statements_raise Py.ascii _ rfl ["users".toList] _ (by decide)⟩

end Cursor

end ormdb.django
