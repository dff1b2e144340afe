-- What the methods of the cursor do to the session, read off their code once:
-- the steps that keep a property of the cursor whether they return or raise,
-- the steps that cannot raise, and from them what `execute` leaves behind.
import Ormdb.Client

namespace ormdb.dbapi

open ormdb.py

variable {α β : Type}

/-! ## Running a step -/

/-- The session a step leaves, whether it returned or raised. -/
def after : EStateM.Result PyErr Session α → Session
  | .ok _ s => s
  | .error _ s => s

section Apply

variable {s s' : Session} {x : CursorM α} {f : α → CursorM β} {a : α} {e : PyErr}

theorem bind_ok (h : x s = .ok a s') : (x >>= f) s = f a s' := by
  show EStateM.bind x f s = _
  simp only [EStateM.bind, h]

theorem bind_error (h : x s = .error e s') : (x >>= f) s = .error e s' := by
  show EStateM.bind x f s = _
  simp only [EStateM.bind, h]

theorem tryCatch_ok {hd : PyErr → CursorM α} (h : x s = .ok a s') : tryCatch x hd s = .ok a s' := by
  show EStateM.tryCatch x hd s = _
  simp only [EStateM.tryCatch, h]

theorem tryCatch_error {hd : PyErr → CursorM α} (h : x s = .error e s') :
    tryCatch x hd s = hd e s' := by
  show EStateM.tryCatch x hd s = _
  simp only [EStateM.tryCatch, h]; rfl

variable (s)

@[simp] theorem pure_apply (a : α) : (pure a : CursorM α) s = .ok a s := rfl

@[simp] theorem throw_apply (e : PyErr) : (throw e : CursorM α) s = .error e s := rfl

@[simp] theorem bind_get (f : Session → CursorM β) : (get >>= f) s = f s s := bind_ok rfl

@[simp] theorem bind_pure' (a : α) (f : α → CursorM β) : (pure a >>= f) s = f a s := bind_ok rfl

@[simp] theorem bind_set (s₁ : Session) (f : PUnit → CursorM β) :
    ((set s₁ : CursorM PUnit) >>= f) s = f () s₁ := bind_ok rfl

@[simp] theorem bind_throw (e : PyErr) (f : α → CursorM β) : (throw e >>= f) s = .error e s :=
  bind_error rfl

@[simp] theorem bind_liftExcept_ok (a : α) (f : α → CursorM β) :
    (liftExcept (.ok a) >>= f) s = f a s := bind_ok rfl

@[simp] theorem bind_liftExcept_error (e : PyErr) (f : α → CursorM β) :
    (liftExcept (.error e) >>= f) s = .error e s := bind_error rfl

@[simp] theorem bind_setCursor (g : Cursor → Cursor) (f : Unit → CursorM β) :
    (setCursor g >>= f) s = f () { s with cursor := g s.cursor } := bind_ok rfl

@[simp] theorem setCursor_apply (g : Cursor → Cursor) :
    setCursor g s = .ok () { s with cursor := g s.cursor } := rfl

@[simp] theorem after_ok (a : α) : after (.ok a s : EStateM.Result PyErr Session α) = s := rfl

@[simp] theorem after_error (e : PyErr) : after (.error e s : EStateM.Result PyErr Session α) = s := rfl

end Apply

/-- `postJson` posts its one request and changes nothing else, whatever the
reply. -/
theorem after_postJson (post : Request → Reply) (path : String) (payload : PyVal) (s : Session) :
    after (postJson post path payload s) =
      { s with posted := s.posted ++ [⟨s.cursor.baseUrl ++ path.toList, payload⟩] } := by
  rw [postJson, bind_get, bind_set]
  cases post ⟨s.cursor.baseUrl ++ path.toList, payload⟩ with
  | failed msg => rfl
  | answered status body =>
    dsimp only
    split
    · cases body <;> rfl
    · rfl
  | unencodable f => rfl

/-! ## Steps that keep a property of the cursor -/

/-- `x` keeps `I` of the cursor, whether it returns or raises. -/
def Keeps (I : Cursor → Prop) (x : CursorM α) : Prop :=
  ∀ s, I s.cursor → I (after (x s)).cursor

/-- When `x` raises, it leaves a cursor of `I`. -/
def RaisesIn (I : Cursor → Prop) (x : CursorM α) : Prop :=
  ∀ s e s', I s.cursor → x s = .error e s' → I s'.cursor

/-- `x` never raises. -/
def NoRaise (x : CursorM α) : Prop := ∀ s e s', x s ≠ .error e s'

section Rules

variable {I : Cursor → Prop} {x : CursorM α} {f : α → CursorM β}

theorem Keeps.bind (hx : Keeps I x) (hf : ∀ a, Keeps I (f a)) : Keeps I (x >>= f) := by
  intro s hs
  have h := hx s hs
  cases hxs : x s with
  | ok a s' => rw [bind_ok hxs]; rw [hxs] at h; exact hf a s' h
  | error e s' => rw [bind_error hxs]; rw [hxs] at h; exact h

theorem Keeps.raisesIn (hx : Keeps I x) : RaisesIn I x := by
  intro s e s' hs he
  simpa [he] using hx s hs

theorem NoRaise.raisesIn (hx : NoRaise x) : RaisesIn I x :=
  fun s e s' _ he => absurd he (hx s e s')

theorem RaisesIn.bind (hx : Keeps I x) (hf : ∀ a, RaisesIn I (f a)) : RaisesIn I (x >>= f) := by
  intro s e s' hs he
  have h := hx s hs
  cases hxs : x s with
  | ok a s₁ => rw [bind_ok hxs] at he; rw [hxs] at h; exact hf a s₁ e s' h he
  | error e₁ s₁ => rw [bind_error hxs] at he; rw [hxs] at h; cases he; exact h

theorem NoRaise.bind (hx : NoRaise x) (hf : ∀ a, NoRaise (f a)) : NoRaise (x >>= f) := by
  intro s e s' he
  cases hxs : x s with
  | ok a s₁ => rw [bind_ok hxs] at he; exact hf a s₁ e s' he
  | error e₁ s₁ => exact hx s e₁ s₁ hxs

theorem keeps_pure (a : α) : Keeps I (pure a) := fun _ hs => hs

theorem keeps_throw (e : PyErr) : Keeps I (throw e : CursorM α) := fun _ hs => hs

theorem keeps_liftExcept (r : Except PyErr α) : Keeps I (liftExcept r) := by
  intro s hs; cases r <;> exact hs

theorem keeps_setCursor {g : Cursor → Cursor} (h : ∀ c, I c → I (g c)) : Keeps I (setCursor g) :=
  fun s hs => h s.cursor hs

theorem keeps_postJson (post : Request → Reply) (path : String) (payload : PyVal) :
    Keeps I (postJson post path payload) := by
  intro s hs
  rw [after_postJson]
  exact hs

theorem noRaise_pure (a : α) : NoRaise (pure a : CursorM α) := fun _ _ _ h => nomatch h

theorem noRaise_setCursor (g : Cursor → Cursor) : NoRaise (setCursor g) := fun _ _ _ h => nomatch h

theorem keeps_tryCatch {h : PyErr → CursorM α} (hx : Keeps I x) (hh : ∀ e, Keeps I (h e)) :
    Keeps I (tryCatch x h) := by
  intro s hs
  have h₁ := hx s hs
  cases hxs : x s with
  | ok a s' => rw [tryCatch_ok hxs]; rw [hxs] at h₁; exact h₁
  | error e s' => rw [tryCatch_error hxs]; rw [hxs] at h₁; exact hh e s' h₁

theorem raisesIn_tryCatch {h : PyErr → CursorM α} (hx : RaisesIn I x) (hh : ∀ e, Keeps I (h e)) :
    RaisesIn I (tryCatch x h) := by
  intro s e s' hs he
  cases hxs : x s with
  | ok a s₁ => rw [tryCatch_ok hxs] at he; cases he
  | error e₁ s₁ =>
    rw [tryCatch_error hxs] at he
    simpa [he] using hh e₁ s₁ (hx s e₁ s₁ hs hxs)

end Rules

/-! ## What is posted -/

/-- `x` posts nothing. -/
def NoPost (x : CursorM α) : Prop := ∀ s, (after (x s)).posted = s.posted

section Posts

variable {x : CursorM α} {f : α → CursorM β}

theorem NoPost.bind (hx : NoPost x) (hf : ∀ a, NoPost (f a)) : NoPost (x >>= f) := by
  intro s
  cases hxs : x s with
  | ok a s' => rw [bind_ok hxs, hf a s', ← hx s, hxs]; rfl
  | error e s' => rw [bind_error hxs, ← hx s, hxs]; rfl

theorem noPost_pure (a : α) : NoPost (pure a : CursorM α) := fun _ => rfl

theorem noPost_throw (e : PyErr) : NoPost (throw e : CursorM α) := fun _ => rfl

theorem noPost_liftExcept (r : Except PyErr α) : NoPost (liftExcept r) := by
  intro s; cases r <;> rfl

theorem noPost_setCursor (g : Cursor → Cursor) : NoPost (setCursor g) := fun _ => rfl

/-- A request, then steps that post nothing: the request is all that is posted. -/
theorem posted_postJson_bind (post : Request → Reply) (path : String) (payload : PyVal)
    {f : PyVal → CursorM β} (hf : ∀ a, NoPost (f a)) (s : Session) :
    (after ((postJson post path payload >>= f) s)).posted =
      s.posted ++ [⟨s.cursor.baseUrl ++ path.toList, payload⟩] := by
  have hp := after_postJson post path payload s
  cases hxs : postJson post path payload s with
  | ok a s' =>
    rw [hxs] at hp
    rw [bind_ok hxs, hf a s', show s' = _ from hp]
  | error e s' =>
    rw [hxs] at hp
    rw [bind_error hxs, after_error, show s' = _ from hp]

/-- A handler that only raises leaves what the step it guards posted. -/
theorem after_tryCatch {hd : PyErr → CursorM α} (hh : ∀ e s, after (hd e s) = s) (s : Session) :
    after (tryCatch x hd s) = after (x s) := by
  cases hxs : x s with
  | ok a s' => rw [tryCatch_ok hxs]
  | error e s' => rw [tryCatch_error hxs, hh]; rfl

end Posts

/-! ## What the dispatch writes

The dispatch writes only the result of the cursor: the description, the row
count, the rows and the last inserted id. The rows and the last inserted id
are its last writes, after which nothing raises. -/

/-- What the dispatch never writes: the position, whether the cursor is closed,
the array size and the URL. -/
def Cursor.frame (c : Cursor) : Nat × Bool × Int × List Char :=
  (c.rowIndex, c.closed, c.arraysize, c.baseUrl)

/-- A cursor with no rows and no last inserted id. -/
def Cursor.Clean (c : Cursor) : Prop := c.rows = [] ∧ c.lastInsertedId = .none

section Dispatch

variable (py : Py) (post : Request → Reply) (sql : List Char) (fr : Nat × Bool × Int × List Char)

theorem executeQuery_frame : Keeps (·.frame = fr) (executeQuery py post sql) :=
  Keeps.bind (keeps_liftExcept _) fun _ => Keeps.bind (keeps_postJson _ _ _) fun _ =>
    Keeps.bind (keeps_liftExcept _) fun entities => by
      cases entities with
      | nil => exact Keeps.bind (keeps_setCursor fun _ h => h) fun _ => keeps_setCursor fun _ h => h
      | cons _ _ =>
        exact Keeps.bind (keeps_liftExcept _) fun _ => Keeps.bind (keeps_setCursor fun _ h => h)
          fun _ => Keeps.bind (keeps_liftExcept _) fun _ =>
          Keeps.bind (keeps_setCursor fun _ h => h) fun _ => keeps_setCursor fun _ h => h

/-- A failed query leaves the rows and the last inserted id as they were: the
description is set before the rows are converted, the rows only after. -/
theorem executeQuery_raisesIn : RaisesIn Cursor.Clean (executeQuery py post sql) :=
  RaisesIn.bind (keeps_liftExcept _) fun _ => RaisesIn.bind (keeps_postJson _ _ _) fun _ =>
    RaisesIn.bind (keeps_liftExcept _) fun entities => by
      cases entities with
      | nil => exact NoRaise.raisesIn (NoRaise.bind (noRaise_setCursor _) fun _ => noRaise_setCursor _)
      | cons _ _ =>
        exact RaisesIn.bind (keeps_liftExcept _) fun _ => RaisesIn.bind (keeps_setCursor fun _ h => h)
          fun _ => RaisesIn.bind (keeps_liftExcept _) fun _ => NoRaise.raisesIn
          (NoRaise.bind (noRaise_setCursor _) fun _ => noRaise_setCursor _)

theorem executeInsert_frame : Keeps (·.frame = fr) (executeInsert py post sql) :=
  Keeps.bind (keeps_liftExcept _) fun (_, _) => Keeps.bind (keeps_liftExcept _) fun _ =>
    Keeps.bind (keeps_postJson _ _ _) fun _ =>
    Keeps.bind (keeps_liftExcept _) fun _ => Keeps.bind (keeps_setCursor fun _ h => h) fun _ =>
    Keeps.bind (keeps_liftExcept _) fun ids => by
      cases ids.truthy
      · exact keeps_pure _
      · exact Keeps.bind (keeps_liftExcept _) fun _ => keeps_setCursor fun _ h => h

/-- A failed insert may have set the row count, but not the last inserted id,
which is its last write. -/
theorem executeInsert_raisesIn : RaisesIn Cursor.Clean (executeInsert py post sql) :=
  RaisesIn.bind (keeps_liftExcept _) fun (_, _) => RaisesIn.bind (keeps_liftExcept _) fun _ =>
    RaisesIn.bind (keeps_postJson _ _ _) fun _ =>
    RaisesIn.bind (keeps_liftExcept _) fun _ => RaisesIn.bind (keeps_setCursor fun _ h => h) fun _ =>
    RaisesIn.bind (keeps_liftExcept _) fun ids => by
      cases ids.truthy
      · exact NoRaise.raisesIn (noRaise_pure _)
      · exact RaisesIn.bind (keeps_liftExcept _) fun _ => NoRaise.raisesIn (noRaise_setCursor _)

/-- The tail of an UPDATE and of a DELETE: the request, then the row count. -/
theorem keeps_mutation_tail {I : Cursor → Prop} (hI : ∀ c a, I c → I { c with rowcount := a })
    (path : String) (payload : PyVal) :
    Keeps I (do
      let result ← postJson post path payload
      let affected ← liftExcept (result.get "affected".toList (.int 0))
      setCursor fun c => { c with rowcount := affected }) :=
  Keeps.bind (keeps_postJson _ _ _) fun _ => Keeps.bind (keeps_liftExcept _) fun a =>
    keeps_setCursor fun c h => hI c a h

theorem keeps_executeUpdate {I : Cursor → Prop} (hI : ∀ c a, I c → I { c with rowcount := a }) :
    Keeps I (executeUpdate py post sql) :=
  Keeps.bind (keeps_liftExcept _) fun (_, _, _) => Keeps.bind (keeps_liftExcept _) fun _ =>
    Keeps.bind (keeps_liftExcept _) fun _ => keeps_mutation_tail post hI _ _

theorem keeps_executeDelete {I : Cursor → Prop} (hI : ∀ c a, I c → I { c with rowcount := a }) :
    Keeps I (executeDelete py post sql) :=
  Keeps.bind (keeps_liftExcept _) fun (_, _) => Keeps.bind (keeps_liftExcept _) fun _ =>
    keeps_mutation_tail post hI _ _

theorem dispatch_frame : Keeps (·.frame = fr) (dispatch py post sql) := by
  unfold dispatch; dsimp only
  split
  · exact executeQuery_frame py post sql fr
  split
  · exact executeInsert_frame py post sql fr
  split
  · exact keeps_executeUpdate py post sql fun _ _ h => h
  split
  · exact keeps_executeDelete py post sql fun _ _ h => h
  split
  · exact keeps_pure _
  · exact keeps_throw _

theorem dispatch_raisesIn : RaisesIn Cursor.Clean (dispatch py post sql) := by
  unfold dispatch; dsimp only
  split
  · exact executeQuery_raisesIn py post sql
  split
  · exact executeInsert_raisesIn py post sql
  split
  · exact (keeps_executeUpdate py post sql fun _ _ h => h).raisesIn
  split
  · exact (keeps_executeDelete py post sql fun _ _ h => h).raisesIn
  split
  · exact (keeps_pure _).raisesIn
  · exact (keeps_throw _).raisesIn

end Dispatch

/-! ## `execute` -/

section Execute

variable (py : Py) (post : Request → Reply) (operation : List Char)
  (parameters : Option (List (List Char × PyVal)))

/-- The handler of `execute`, which only raises. -/
theorem keeps_handler {I : Cursor → Prop} (e : PyErr) :
    Keeps I (match e with
      | .httpError h => throw (.operationalError h)
      | e => throw e : CursorM Unit) := by
  split <;> exact keeps_throw _

theorem runOperation_frame (fr : Nat × Bool × Int × List Char) :
    Keeps (·.frame = fr) (runOperation py post operation parameters) := by
  have hd := fun op => keeps_tryCatch (dispatch_frame py post op fr) keeps_handler
  unfold runOperation; dsimp only
  split
  · exact Keeps.bind (keeps_liftExcept _) hd
  · exact Keeps.bind (keeps_pure _) hd

theorem runOperation_raisesIn : RaisesIn Cursor.Clean (runOperation py post operation parameters) := by
  have hd := fun op => raisesIn_tryCatch (dispatch_raisesIn py post op) keeps_handler
  unfold runOperation; dsimp only
  split
  · exact RaisesIn.bind (keeps_liftExcept _) hd
  · exact RaisesIn.bind (keeps_pure _) hd

variable {s : Session}

/-- A closed cursor raises `InterfaceError` and changes nothing. -/
theorem execute_of_closed (h : s.cursor.closed = true) :
    execute py post operation parameters s = .error (.interfaceError "Cursor is closed".toList) s := by
  simp [execute, h]

/-- An open cursor is reset, then the operation is run. -/
theorem execute_of_open (h : s.cursor.closed = false) :
    execute py post operation parameters s =
      runOperation py post operation parameters { s with cursor := s.cursor.reset } := by
  simp [execute, h]

@[simp] theorem reset_frame (c : Cursor) : c.reset.frame = (0, c.closed, c.arraysize, c.baseUrl) := rfl

@[simp] theorem reset_reset (c : Cursor) : c.reset.reset = c.reset := rfl

theorem reset_clean (c : Cursor) : c.reset.Clean := ⟨rfl, rfl⟩

/-- On an open cursor `execute`, whether it returns or raises, leaves the
position at 0 and the cursor open, and keeps the array size and the URL. -/
theorem execute_frame (h : s.cursor.closed = false) :
    (after (execute py post operation parameters s)).cursor.frame =
      (0, false, s.cursor.arraysize, s.cursor.baseUrl) := by
  rw [execute_of_open py post operation parameters h, ← h]
  exact runOperation_frame py post operation parameters _ _ rfl

/-- A failed `execute` on an open cursor leaves no rows and no last inserted id. -/
theorem execute_raises_clean {e : PyErr} {s' : Session} (h : s.cursor.closed = false)
    (he : execute py post operation parameters s = .error e s') : s'.cursor.Clean := by
  rw [execute_of_open py post operation parameters h] at he
  exact runOperation_raisesIn py post operation parameters _ e s' (reset_clean _) he

/-- `execute` on an open cursor reads nothing of the previous result: it does
what it does on the same session with the result reset. -/
theorem execute_forgets_result (h : s.cursor.closed = false) :
    execute py post operation parameters s =
      execute py post operation parameters { s with cursor := s.cursor.reset } := by
  rw [execute_of_open py post operation parameters h,
    execute_of_open py post operation parameters (s := { s with cursor := s.cursor.reset }) h]
  rfl

/-- A cursor in use: it has read one of the two rows of a query, whose request
it posted, and has a description and a row count. -/
def usedSession : Session :=
  ⟨{ Cursor.init "http://db".toList with
      description := some ["id".toList, "name".toList], rowcount := .int 2, rowIndex := 1,
      rows := [[.int 1, .str "Ann".toList], [.int 2, .str "Bo".toList]] },
    [⟨"http://db/query".toList, .dict [("root_entity".toList, .str "users".toList)]⟩]⟩

/-! ## Parameters -/

end Execute

/-- A LIMIT that is no number raises the `ValueError` of `int()` out of
`execute`, not a `ProgrammingError`; nothing is posted. -/
theorem execute_limit_not_number (post : Request → Reply) (baseUrl : List Char) :
    execute Py.ascii post "SELECT * FROM t LIMIT x".toList none (Session.init baseUrl) =
      .error (.valueError none) (Session.init baseUrl) := by
  rw [execute_of_open _ _ _ _ rfl]
  rfl

end ormdb.dbapi
