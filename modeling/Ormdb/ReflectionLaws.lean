-- The reflection of the SQLAlchemy dialect against the introspection of the
-- Django backend. Both read the entities of one schema document and swallow
-- every exception; on every document they name the same tables, report the
-- same foreign keys and the same primary key, and the fields they describe
-- agree, although Django's `get_constraints` returns a dict it filled only
-- in part when a read raises.
import Ormdb.Reflection

namespace ormdb.reflect

open ormdb.py

/-! ## Loops over the entities -/

theorem catchAll_map {α β : Type} (f : α → β) (d : α) (x : Except PyErr α) :
    catchAll (f d) (f <$> x) = f (catchAll d x) := by
  cases x <;> rfl

/-- Two pickers that agree up to `f` collect lists that agree up to `map f`. -/
theorem collect_map {β γ : Type} (f : β → γ) {p : PyVal → Except PyErr (Option γ)}
    {q : PyVal → Except PyErr (Option β)} (h : ∀ x, p x = Option.map f <$> q x) :
    ∀ xs : List PyVal, collect xs p = List.map f <$> collect xs q
  | [] => rfl
  | x :: xs => by
    simp only [collect, h x]
    rcases q x with e | _ | y
    · rfl
    · exact collect_map f h xs
    · simp only [map_ok, Option.map_some', ok_bind, collect_map f h xs]
      cases collect xs q <;> rfl

/-- Two reflections of one table read the same entity: a relation that holds
of their bodies on every entity, of their absent values and of every error holds
of the two reflections. -/
theorem onTable_rel {α β : Type} (R : Except PyErr α → Except PyErr β → Prop) (schema : Except PyErr PyVal)
    (t : List Char) {a : α} {b : β} {f : PyVal → Except PyErr α} {g : PyVal → Except PyErr β}
    (herr : ∀ e, R (.error e) (.error e)) (habsent : R (.ok a) (.ok b)) (h : ∀ entity, R (f entity) (g entity)) :
    R (onTable schema t a f) (onTable schema t b g) := by
  unfold onTable
  rcases entitiesOf schema with e | ents
  · exact herr e
  · simp only [ok_bind]
    rcases firstNamed t ents with e | _ | ⟨_, entity⟩
    · exact herr e
    · exact habsent
    · exact h entity

/-- Bodies that agree up to `f` reflect tables that agree up to `f`. -/
theorem onTable_map {α β : Type} (f : α → β) (schema : Except PyErr PyVal) (t : List Char) (a : α)
    {b : PyVal → Except PyErr β} {c : PyVal → Except PyErr α} (h : ∀ e, b e = f <$> c e) :
    onTable schema t (f a) b = f <$> onTable schema t a c :=
  onTable_rel (fun x y => x = f <$> y) schema t (fun _ => rfl) rfl h

/-- One step of the loop of a comprehension: it returns when the pick of the
first item returns and the loop over the rest returns. -/
theorem collect_cons_ok {β : Type} {p : PyVal → Except PyErr (Option β)} {x : PyVal} {xs : List PyVal}
    {ys : List β} :
    collect (x :: xs) p = .ok ys ↔ ∃ o zs, p x = .ok o ∧ collect xs p = .ok zs ∧ ys = o.toList ++ zs := by
  rw [collect]
  rcases p x with e | _ | y
  · exact ⟨nofun, fun ⟨_, _, h, _⟩ => nomatch h⟩
  · exact ⟨fun h => ⟨none, ys, rfl, h, rfl⟩, fun ⟨_, _, h, hc, hys⟩ => by cases h; exact hys ▸ hc⟩
  · rw [ok_bind]
    rcases collect xs p with e | zs
    · exact ⟨nofun, fun ⟨_, _, _, h, _⟩ => nomatch h⟩
    · refine ⟨fun h => ⟨some y, zs, rfl, rfl, (Except.ok.inj h).symm⟩, fun ⟨_, _, h, hc, hys⟩ => ?_⟩
      cases h
      cases hc
      rw [hys]
      rfl

theorem collect_ok_all {β : Type} {p : PyVal → Except PyErr (Option β)} :
    ∀ {xs : List PyVal} {ys : List β}, collect xs p = .ok ys → ∀ x ∈ xs, ∃ o, p x = .ok o
  | [], _, _, _, hx => nomatch hx
  | x :: _, _, h, _, hx' => by
    obtain ⟨o, _, hp, hc, -⟩ := collect_cons_ok.mp h
    rcases List.mem_cons.mp hx' with rfl | hx'
    · exact ⟨o, hp⟩
    · exact collect_ok_all hc _ hx'

theorem collect_ok_mem {β : Type} {p : PyVal → Except PyErr (Option β)} :
    ∀ {xs : List PyVal} {ys : List β}, collect xs p = .ok ys → ∀ y ∈ ys, ∃ x ∈ xs, p x = .ok (some y)
  | [], _, h, _, hy => by cases h; exact nomatch hy
  | x :: _, _, h, _, hy' => by
    obtain ⟨o, _, hp, hc, rfl⟩ := collect_cons_ok.mp h
    rcases List.mem_append.mp hy' with hy' | hy'
    · cases o with
      | none => exact nomatch hy'
      | some y => exact ⟨x, .head _, List.mem_singleton.mp hy' ▸ hp⟩
    · obtain ⟨x', hx', h'⟩ := collect_ok_mem hc _ hy'
      exact ⟨x', .tail _ hx', h'⟩

theorem collect_ok_of_forall {β : Type} {p : PyVal → Except PyErr (Option β)} :
    ∀ {xs : List PyVal}, (∀ x ∈ xs, ∃ o, p x = .ok o) → ∃ ys, collect xs p = .ok ys
  | [], _ => ⟨[], rfl⟩
  | x :: _, h => by
    obtain ⟨zs, hzs⟩ := collect_ok_of_forall fun x' hx' => h x' (.tail _ hx')
    obtain ⟨o, ho⟩ := h x (.head _)
    exact ⟨_, collect_cons_ok.mpr ⟨o, zs, ho, hzs, rfl⟩⟩

theorem mem_collect {β : Type} {p : PyVal → Except PyErr (Option β)} {x : PyVal} {y : β} (hp : p x = .ok (some y)) :
    ∀ {xs : List PyVal} {ys : List β}, collect xs p = .ok ys → x ∈ xs → y ∈ ys
  | [], _, _, hx => nomatch hx
  | _ :: _, _, h, hx => by
    obtain ⟨o, _, hp', hc, rfl⟩ := collect_cons_ok.mp h
    rcases List.mem_cons.mp hx with rfl | hx
    · cases hp.symm.trans hp'
      exact List.mem_append_left _ (List.mem_singleton_self y)
    · exact List.mem_append_right _ (mem_collect hp hc hx)

theorem collect_cons_some {β : Type} {p : PyVal → Except PyErr (Option β)} {x : PyVal} {xs : List PyVal}
    {y : β} {ys : List β} (hx : p x = .ok (some y)) (hxs : collect xs p = .ok ys) :
    collect (x :: xs) p = .ok (y :: ys) :=
  collect_cons_ok.mpr ⟨_, _, hx, hxs, rfl⟩

theorem collect_cons_none {β : Type} {p : PyVal → Except PyErr (Option β)} {x : PyVal} {xs : List PyVal}
    {ys : List β} (hx : p x = .ok none) (hxs : collect xs p = .ok ys) : collect (x :: xs) p = .ok ys :=
  collect_cons_ok.mpr ⟨_, _, hx, hxs, rfl⟩

/-- Two pickers that agree up to `f` and `g` wherever the first returns: the
second collects a list wherever the first does, the same up to the two maps. -/
theorem collect_sim {β γ δ : Type} (f : β → δ) (g : γ → δ) {p : PyVal → Except PyErr (Option β)}
    {q : PyVal → Except PyErr (Option γ)} (h : ∀ x o, p x = .ok o → ∃ o', q x = .ok o' ∧ o.map f = o'.map g) :
    ∀ {xs : List PyVal} {ys : List β}, collect xs p = .ok ys → ∃ zs, collect xs q = .ok zs ∧ ys.map f = zs.map g
  | [], _, hc => by cases hc; exact ⟨[], rfl, rfl⟩
  | x :: _, _, hc => by
    obtain ⟨o, _, hp, hrest, rfl⟩ := collect_cons_ok.mp hc
    obtain ⟨o', hq, hmap⟩ := h x o hp
    obtain ⟨zs, hzs, hys⟩ := collect_sim f g h hrest
    have hhead : o.toList.map f = o'.toList.map g := by
      cases o <;> cases o' <;> simp_all
    exact ⟨o'.toList ++ zs, collect_cons_ok.mpr ⟨o', zs, hq, hzs, rfl⟩, by rw [List.map_append, List.map_append, hys, hhead]⟩

theorem mem_dictPut {κ α : Type} [DecidableEq κ] {d : List (κ × α)} {k : κ} {v : α} {r : κ × α}
    (h : r ∈ dictPut d k v) : r ∈ d ∨ r = (k, v) := by
  unfold dictPut at h
  split at h
  · obtain ⟨r', hr', rfl⟩ := List.mem_map.mp h
    split
    · exact .inr rfl
    · exact .inl hr'
  · exact (List.mem_append.mp h).imp_right List.mem_singleton.mp

/-- The lookup finds an entity once one is named `t` and every name reads. -/
theorem firstNamed_found {t : List Char} :
    ∀ {xs : List PyVal}, (∀ x ∈ xs, ∃ v, x.get "name".toList .none = .ok v) →
      (∃ x ∈ xs, x.get "name".toList .none = .ok (.str t)) → ∃ p, firstNamed t xs = .ok (some p)
  | [], _, ⟨_, hx, _⟩ => nomatch hx
  | x :: xs, hall, ⟨y, hy, hyt⟩ => by
    obtain ⟨v, hv⟩ := hall x (.head _)
    by_cases hvt : v = .str t
    · exact ⟨(0, x), by rw [firstNamed, hv, ok_bind, if_pos hvt]; rfl⟩
    · rcases List.mem_cons.mp hy with rfl | hy
      · exact absurd (Except.ok.inj (hv.symm.trans hyt)) hvt
      · obtain ⟨p, hp⟩ := firstNamed_found (fun x hx => hall x (.tail _ hx)) ⟨y, hy, hyt⟩
        exact ⟨(p.1 + 1, p.2), by rw [firstNamed, hv, ok_bind, if_neg hvt, hp]; rfl⟩

end ormdb.reflect

namespace ormdb.django

open ormdb.py ormdb.reflect

/-! ## Tables and keys -/

/-- Both backends keep an entity by the truth of its name and report that name. -/
theorem pick_table_agrees (e : PyVal) :
    (do if (← e.get "name".toList .none).truthy then some <$> e.get "name".toList (.str []) else pure none) =
      Option.map TableInfo.name <$> (do
        let name ← e.get "name".toList (.str [])
        return if name.truthy then some ⟨name, ['t']⟩ else none : Except PyErr (Option TableInfo)) := by
  cases e with
  | dict kvs =>
    simp only [PyVal.get, ok_bind]
    cases kvs.lookup "name".toList with
    | none => rfl
    | some v => cases hv : v.truthy <;> simp only [Option.getD_some, hv] <;> rfl
  | _ => rfl

/-- Django lists the tables the dialect names, in the same order, on every
document. -/
theorem tables_agree (schema : Except PyErr PyVal) :
    (getTableList schema).map TableInfo.name = dialect.getTableNames schema := by
  unfold getTableList dialect.getTableNames
  rw [← catchAll_map (List.map TableInfo.name), List.map_nil]
  congr 1
  cases entitiesOf schema with
  | error e => rfl
  | ok ents => exact (collect_map _ pick_table_agrees ents).symm

/-- Django's key columns are the dialect's foreign keys, column, target and `id`,
on every document. -/
theorem key_columns_agree (py : Py) (schema : Except PyErr PyVal) (t : List Char) :
    getKeyColumns py schema t = (dialect.getForeignKeys py schema t).map fun fk =>
      (fk.constrainedColumns.headD [], fk.referredTable, "id".toList) := by
  unfold getKeyColumns dialect.getForeignKeys
  rw [← catchAll_map (List.map _), List.map_nil]
  congr 1
  refine onTable_map (List.map _) schema t [] fun entity => ?_
  rcases entity.get "relations".toList (.list []) with e | rels
  · rfl
  simp only [ok_bind]
  rcases rels.iter with e | rels
  · rfl
  simp only [ok_bind]
  refine collect_map _ (fun rel => ?_) rels
  cases rel with
  | dict kvs =>
    simp only [keyColumnOf, isToOne, fkField, PyVal.get, ok_bind, except_pure]
    split <;> rfl
  | _ => rfl

/-! ## Relations -/

/-- A relation whose type reads is a dict. -/
theorem dict_of_isToOne {rel : PyVal} {b : Bool} (h : isToOne rel = .ok b) : ∃ kvs, rel = .dict kvs := by
  cases rel with
  | dict kvs => exact ⟨kvs, rfl⟩
  | _ => exact nomatch h

/-- The loop of `get_relations` against the loop of `get_key_columns` over the
same relations: when the first returns, so does the second, and every entry the
first adds is one the second appends, at the same target. -/
theorem relationsOf_keyColumns (py : Py) (fields : PyVal) :
    ∀ {rels : List PyVal} {acc out : List (Nat × PyVal × List Char)}, relationsOf py fields rels acc = .ok out →
      ∃ ks, collect rels (keyColumnOf py) = .ok ks ∧
        ∀ r ∈ out, r ∈ acc ∨ r.2.2 = "id".toList ∧ ∃ fk, (fk, r.2.1, "id".toList) ∈ ks
  | [], _, _, h => ⟨[], rfl, fun r hr => by cases h; exact .inl hr⟩
  | rel :: rels, acc, out, h => by
    unfold relationsOf at h
    rcases hto : isToOne rel with e | _ | _ <;> simp only [hto, ok_bind] at h
    · exact nomatch h
    · obtain ⟨ks, hks, hout⟩ := relationsOf_keyColumns py fields h
      exact ⟨ks, collect_cons_none (by rw [keyColumnOf, hto]; rfl) hks, hout⟩
    simp only [ite_true] at h
    obtain ⟨kvs, rfl⟩ := dict_of_isToOne hto
    obtain ⟨fk, hfk⟩ : ∃ fk, fkField py (.dict kvs) = .ok fk := ⟨_, rfl⟩
    obtain ⟨target, htarget⟩ : ∃ v, (PyVal.dict kvs).get "target".toList (.str []) = .ok v := ⟨_, rfl⟩
    have hkey : keyColumnOf py (.dict kvs) = .ok (some (fk, target, "id".toList)) := by
      rw [keyColumnOf, hto, ok_bind, if_pos rfl, hfk, ok_bind, htarget]
      rfl
    have hnew : ∀ {ks : List (List Char × PyVal × List Char)} {r : Nat × PyVal × List Char}, r ∈ acc ∨
        r.2.2 = "id".toList ∧ (∃ fk, (fk, r.2.1, "id".toList) ∈ ks) →
        r ∈ acc ∨ r.2.2 = "id".toList ∧ ∃ fk', (fk', r.2.1, "id".toList) ∈ (fk, target, "id".toList) :: ks :=
      fun h => h.imp_right fun ⟨hid, fk', hk⟩ => ⟨hid, fk', .tail _ hk⟩
    simp only [hfk, ok_bind] at h
    rcases hfs : fields.iter with e | fs <;> simp only [hfs, ok_bind] at h
    · exact nomatch h
    rcases hfound : firstNamed fk fs with e | _ | ⟨idx, _⟩ <;> simp only [hfound, ok_bind] at h
    · exact nomatch h
    · obtain ⟨ks, hks, hout⟩ := relationsOf_keyColumns py fields h
      exact ⟨_, collect_cons_some hkey hks, fun r hr => hnew (hout r hr)⟩
    rw [htarget, ok_bind] at h
    obtain ⟨ks, hks, hout⟩ := relationsOf_keyColumns py fields h
    refine ⟨_, collect_cons_some hkey hks, fun r hr => ?_⟩
    rcases hout r hr with hr | hr
    · rcases mem_dictPut hr with hr | rfl
      · exact .inl hr
      · exact .inr ⟨rfl, fk, .head _⟩
    · exact hnew (.inr hr)

/-- Every relation `get_relations` reports, `get_key_columns` reports too: a key
column that points at the same target's `id`. -/
theorem relations_in_key_columns (py : Py) (schema : Except PyErr PyVal) (t : List Char) :
    ∀ r ∈ getRelations py schema t, r.2.2 = "id".toList ∧ ∃ fk, (fk, r.2.1, "id".toList) ∈ getKeyColumns py schema t := by
  unfold getRelations getKeyColumns
  have none_in_error : ∀ {e : PyErr} {r : Nat × PyVal × List Char}, r ∉ catchAll [] (.error e) :=
    List.not_mem_nil _
  refine onTable_rel (fun x y => ∀ r ∈ catchAll [] x, r.2.2 = "id".toList ∧
    ∃ fk, (fk, r.2.1, "id".toList) ∈ catchAll ([] : List (List Char × PyVal × List Char)) y)
    schema t (fun _ _ h => absurd h none_in_error) (fun _ h => absurd h (List.not_mem_nil _)) fun entity => ?_
  dsimp only
  rcases entity.get "fields".toList (.list []) with e | fields
  · exact fun _ h => absurd h none_in_error
  rcases entity.get "relations".toList (.list []) with e | rv <;> simp only [ok_bind, error_bind]
  · exact fun _ h => absurd h none_in_error
  rcases rv.iter with e | rels <;> simp only [ok_bind, error_bind]
  · exact fun _ h => absurd h none_in_error
  rcases hout : relationsOf py fields rels [] with e | out
  · exact fun _ h => absurd h none_in_error
  obtain ⟨ks, hks, hmem⟩ := relationsOf_keyColumns py fields hout
  rw [hks]
  exact fun r hr => (hmem r hr).resolve_left (List.not_mem_nil r)

/-- A document with one entity `user`: a required uuid field `id`, a uuid field
`team_id`, and a many-to-one relation `team` kept in it. -/
def userSchema : Except PyErr PyVal :=
  .ok (.dict [("entities".toList, .list [.dict [("name".toList, .str "user".toList),
    ("fields".toList, .list [
      .dict [("name".toList, .str "id".toList), ("field_type".toList, .str "uuid".toList),
        ("required".toList, .bool true)],
      .dict [("name".toList, .str "team_id".toList), ("field_type".toList, .str "uuid".toList)]]),
    ("relations".toList, .list [.dict [("name".toList, .str "team".toList),
      ("type".toList, .str "many_to_one".toList), ("target".toList, .str "team".toList)]])]])])

theorem user_relation_key_column :
    (1, PyVal.str "team".toList, "id".toList) ∈ getRelations Py.ascii userSchema "user".toList ∧
    ("id".toList = "id".toList ∧
      ∃ fk, (fk, PyVal.str "team".toList, "id".toList) ∈ getKeyColumns Py.ascii userSchema "user".toList) :=
  ⟨by decide, relations_in_key_columns Py.ascii userSchema "user".toList (1, .str "team".toList, "id".toList) (by decide)⟩

/-! ## Columns -/

/-- A field the dialect reads as a column Django reads as a description, with
the same name, nullability and default. -/
theorem columnOf_fieldInfo (lowerHigh : Char → List Char) {field : PyVal} {c : dialect.Column}
    (h : dialect.columnOf lowerHigh field = .ok c) :
    ∃ fi, fieldInfoOf field = .ok fi ∧ (c.name, c.nullable, c.default) = (fi.name, fi.nullOk, fi.default) := by
  cases field with
  | dict kvs =>
    simp only [dialect.columnOf, fieldInfoOf, PyVal.get, ok_bind] at h ⊢
    revert h
    cases (kvs.lookup "field_type".toList).getD (.str "string".toList) with
    | str s => exact fun h => by cases h; exact ⟨_, rfl, rfl⟩
    | _ => exact fun h => nomatch h
  | _ => exact nomatch h

/-- Where the dialect reflects columns, Django describes the same fields: the
same names, nullability and defaults, in the same order. -/
theorem columns_agree_descriptions (lowerHigh : Char → List Char) (schema : Except PyErr PyVal) (t : List Char)
    (h : dialect.getColumns lowerHigh schema t ≠ []) :
    (dialect.getColumns lowerHigh schema t).map (fun c => (c.name, c.nullable, c.default)) =
      (getTableDescription schema t).map fun fi => (fi.name, fi.nullOk, fi.default) := by
  revert h
  unfold dialect.getColumns getTableDescription
  refine onTable_rel (fun (x : Except PyErr (List dialect.Column)) (y : Except PyErr (List FieldInfo)) =>
    catchAll [] x ≠ [] → (catchAll [] x).map (fun c => (c.name, c.nullable, c.default)) =
    (catchAll [] y).map fun fi => (fi.name, fi.nullOk, fi.default)) schema t (fun _ h => absurd rfl h)
    (fun h => absurd rfl h) fun entity => ?_
  dsimp only
  rcases entity.get "fields".toList (.list []) with e | fv <;> simp only [ok_bind, error_bind]
  · exact fun h => absurd rfl h
  rcases fv.iter with e | fs <;> simp only [ok_bind, error_bind]
  · exact fun h => absurd rfl h
  rcases hc : collect fs (fun field => some <$> dialect.columnOf lowerHigh field) with e | cs
  · exact fun h => absurd rfl h
  have hfield : ∀ field o, some <$> dialect.columnOf lowerHigh field = .ok o →
      ∃ o', some <$> fieldInfoOf field = .ok o' ∧
        o.map (fun c => (c.name, c.nullable, c.default)) = o'.map fun fi => (fi.name, fi.nullOk, fi.default) := by
    intro field o ho
    rcases hcol : dialect.columnOf lowerHigh field with e | c <;> rw [hcol] at ho
    · exact nomatch ho
    cases ho
    obtain ⟨fi, hfi, heq⟩ := columnOf_fieldInfo lowerHigh hcol
    exact ⟨some fi, by rw [hfi]; rfl, congrArg some heq⟩
  obtain ⟨zs, hzs, hmap⟩ := collect_sim _ _ hfield hc
  rw [hzs]
  exact fun _ => hmap

theorem user_columns_agree_descriptions :
    dialect.getColumns (fun c => [c]) userSchema "user".toList ≠ [] ∧
    (dialect.getColumns (fun c => [c]) userSchema "user".toList).map (fun c => (c.name, c.nullable, c.default)) =
      (getTableDescription userSchema "user".toList).map fun fi => (fi.name, fi.nullOk, fi.default) :=
  ⟨by decide, columns_agree_descriptions _ _ _ (by decide)⟩

/-! ## What `get_constraints` keeps -/

/-- The dict that a step of `get_constraints` leaves, whether it returns or raises. -/
def Gather.after {α : Type} : EStateM.Result PyErr (List (List Char × Constraint)) α → List (List Char × Constraint)
  | .ok _ d => d
  | .error _ d => d

/-- `x` keeps `P` of the dict, whether it returns or raises. -/
def Gather.Keeps {α : Type} (P : List (List Char × Constraint) → Prop) (x : Gather α) : Prop :=
  ∀ d, P d → P (Gather.after (x d))

section Keeps

variable {P : List (List Char × Constraint) → Prop}

theorem keeps_pure {α : Type} (a : α) : Gather.Keeps P (pure a) := fun _ h => h

theorem keeps_lift {α : Type} (x : Except PyErr α) : Gather.Keeps P (Gather.lift x) := by
  cases x <;> exact fun _ h => h

theorem Gather.Keeps.bind {α β : Type} {x : Gather α} {f : α → Gather β} (hx : Gather.Keeps P x)
    (hf : ∀ a, Gather.Keeps P (f a)) : Gather.Keeps P (x >>= f) := by
  intro d hd
  have := hx d hd
  show P (Gather.after (EStateM.bind x f d))
  unfold EStateM.bind
  cases h : x d with
  | ok a d' => rw [h] at this; exact hf a d' this
  | error e d' => rw [h] at this; exact this

theorem keeps_forM {xs : List PyVal} {f : PyVal → Gather Unit} (hf : ∀ x, Gather.Keeps P (f x)) :
    Gather.Keeps P (xs.forM f) := by
  induction xs with
  | nil => exact keeps_pure _
  | cons x xs ih => exact (hf x).bind fun _ => ih

theorem keeps_put {name : List Char} {c : Constraint} (h : ∀ d, P d → P (dictPut d name c)) :
    Gather.Keeps P (Gather.put name c) := fun d hd => h d hd

end Keeps

theorem lookup_dictPut_ne {α : Type} (d : List (List Char × α)) {k k' : List Char} (v : α) (h : k ≠ k') :
    (dictPut d k v).lookup k' = d.lookup k' := by
  have hne : (k' == k) = false := by simpa using Ne.symm h
  unfold dictPut
  split
  · clear ‹_›
    induction d with
    | nil => rfl
    | cons kv d ih =>
      obtain ⟨k₀, v₀⟩ := kv
      rw [List.map_cons]
      by_cases hk : k₀ = k
      · subst hk
        rw [if_pos rfl, List.lookup_cons, List.lookup_cons, hne, ih]
      · rw [if_neg hk, List.lookup_cons, List.lookup_cons, ih]
  · rw [List.lookup_append]
    simp [List.lookup_cons, hne]

@[simp] theorem lift_ok_bind {α β : Type} (a : α) (f : α → Gather β) : (Gather.lift (.ok a) >>= f) = f a := rfl

@[simp] theorem lift_error_bind {α β : Type} (e : PyErr) (f : α → Gather β) :
    (Gather.lift (.error e) >>= f) = throw e := rfl

theorem put_bind_apply {β : Type} (name : List Char) (c : Constraint) (f : Unit → Gather β) (d : List (List Char × Constraint)) :
    (Gather.put name c >>= f) d = f () (dictPut d name c) := rfl

/-- No name that `get_constraints` gives a field or a relation is the primary key's. -/
theorem name_ne_pkey (t s : List Char) {suf : List Char}
    (hsuf : suf = "_key".toList ∨ suf = "_fkey".toList ∨ suf = "_idx".toList) :
    t ++ "_".toList ++ s ++ suf ≠ t ++ "_pkey".toList := by
  intro h
  rw [List.append_assoc, List.append_assoc, List.append_cancel_left_eq] at h
  have h' : s ++ suf = "pkey".toList := List.cons_injective h
  have hl := congrArg List.length h'
  rcases hsuf with rfl | rfl | rfl <;> rcases s with _ | ⟨c, s⟩ <;> simp at h' hl

section Pkey

variable (py : Py) (t : List Char)

/-- The dict maps the primary key's name to its constraint. -/
def HoldsPkey (d : List (List Char × Constraint)) : Prop := d.lookup (t ++ "_pkey".toList) = some pkeyConstraint

theorem keeps_put_ne {s suf : List Char} (hsuf : suf = "_key".toList ∨ suf = "_fkey".toList ∨ suf = "_idx".toList)
    (c : Constraint) : Gather.Keeps (HoldsPkey t) (Gather.put (t ++ "_".toList ++ s ++ suf) c) :=
  keeps_put fun d hd => (lookup_dictPut_ne d c (name_ne_pkey t s hsuf)).trans hd

theorem putUnique_keeps (field : PyVal) : Gather.Keeps (HoldsPkey t) (putUnique py t field) := by
  unfold putUnique
  refine (keeps_lift _).bind fun _ => ?_
  split
  · exact (keeps_lift _).bind fun _ => keeps_put_ne t (.inl rfl) _
  · exact keeps_pure _

theorem putForeignKey_keeps (rel : PyVal) : Gather.Keeps (HoldsPkey t) (putForeignKey py t rel) := by
  unfold putForeignKey
  refine (keeps_lift _).bind fun _ => ?_
  split
  · exact (keeps_lift _).bind fun _ => (keeps_lift _).bind fun _ => keeps_put_ne t (.inr (.inl rfl)) _
  · exact keeps_pure _

theorem putIndex_keeps (field : PyVal) : Gather.Keeps (HoldsPkey t) (putIndex py t field) := by
  unfold putIndex
  refine (keeps_lift _).bind fun _ => ?_
  split
  · refine (keeps_lift _).bind fun _ => ?_
    split
    · exact (keeps_lift _).bind fun _ => keeps_put_ne t (.inr (.inr rfl)) _
    · exact keeps_pure _
  · exact keeps_pure _

end Pkey

/-- Django's constraints hold the primary key exactly when the dialect reports
one: a read that raises after the key went in leaves it in the dict. -/
theorem primary_key_agrees (py : Py) (schema : Except PyErr PyVal) (t : List Char) :
    (getConstraints py schema t).lookup (t ++ "_pkey".toList) =
      (dialect.getPkConstraint schema t).name.map fun _ => pkeyConstraint := by
  have hget : getConstraints py schema t = Gather.after (gatherConstraints py schema t []) := by
    unfold getConstraints
    cases gatherConstraints py schema t [] <;> rfl
  rw [hget]
  unfold gatherConstraints dialect.getPkConstraint onTable
  rcases entitiesOf schema with e | ents
  · rfl
  simp only [lift_ok_bind, ok_bind]
  rcases firstNamed t ents with e | _ | ⟨i, entity⟩
  · rfl
  · rfl
  simp only [lift_ok_bind, ok_bind]
  rw [put_bind_apply]
  show HoldsPkey t (Gather.after _)
  exact ((keeps_lift _).bind fun _ => (keeps_lift _).bind fun _ => (keeps_forM (putUnique_keeps py t)).bind fun _ =>
    (keeps_lift _).bind fun _ => (keeps_lift _).bind fun _ => (keeps_forM (putForeignKey_keeps py t)).bind fun _ =>
    (keeps_lift _).bind fun _ => (keeps_lift _).bind fun _ => keeps_forM (putIndex_keeps py t)) _ List.lookup_cons_self

/-- The pick of `get_table_names` reads every name, and keeps only a truthy one. -/
theorem pick_name_ok (e : PyVal) {o : Option PyVal}
    (h : (do if (← e.get "name".toList .none).truthy then some <$> e.get "name".toList (.str []) else pure none :
      Except PyErr (Option PyVal)) = .ok o) :
    ∃ v, e.get "name".toList .none = .ok v ∧ ∀ y, o = some y → v = y := by
  cases e with
  | dict kvs =>
    refine ⟨_, rfl, fun y hy => ?_⟩
    subst hy
    simp only [PyVal.get, ok_bind] at h ⊢
    revert h
    cases kvs.lookup "name".toList with
    | none => exact fun h => nomatch h
    | some w =>
      simp only [Option.getD_some]
      split
      · exact fun h => by cases h; rfl
      · exact fun h => nomatch h
  | _ => exact nomatch h

/-- A table `has_table` finds has the primary key `id`. -/
theorem has_table_pk_constraint (schema : Except PyErr PyVal) (t : List Char) (h : dialect.hasTable schema t = true) :
    dialect.getPkConstraint schema t = ⟨["id".toList], some (t ++ "_pkey".toList)⟩ := by
  unfold dialect.hasTable dialect.getTableNames at h
  unfold dialect.getPkConstraint onTable
  revert h
  rcases entitiesOf schema with e | ents
  · exact fun h => absurd h Bool.false_ne_true
  simp only [ok_bind]
  intro h
  generalize hc : collect ents _ = r at h
  rcases r with e | names
  · exact absurd h Bool.false_ne_true
  obtain ⟨p, hp⟩ : ∃ p, firstNamed t ents = .ok (some p) := by
    refine firstNamed_found (fun x hx => ?_) ?_
    · obtain ⟨o, ho⟩ := collect_ok_all hc x hx
      obtain ⟨v, hv, -⟩ := pick_name_ok x ho
      exact ⟨v, hv⟩
    · obtain ⟨x, hx, hpx⟩ := collect_ok_mem hc _ (List.mem_of_elem_eq_true h)
      obtain ⟨v, hv, hvy⟩ := pick_name_ok x hpx
      exact ⟨x, hx, (hvy _ rfl).symm ▸ hv⟩
  rw [hp]
  rfl

theorem user_has_table_pk_constraint :
    dialect.hasTable userSchema "user".toList = true ∧
    dialect.getPkConstraint userSchema "user".toList = ⟨["id".toList], some ("user".toList ++ "_pkey".toList)⟩ :=
  ⟨by decide, has_table_pk_constraint _ _ (by decide)⟩

end ormdb.django
