import Recathon.Store.Lifecycle

/-!
# Recathon.Store.Complete — when a build request completes, in the engine model

`createRStmt_realize` says where a build request that completes leads. This module runs a
request forward: from a realized state, `createRStmt_complete` says that it completes
when it validates, reads at least one cell, and every relation it creates has a name of
its own, that is, when the registry with the new recommender is well formed. Each
`INSERT` of a cell matches the columns of its table (`admits_dummyRow`, `admits_indexRow`;
the catalogue statements are `catalogue_done`).

This is a fact of the engine model, which runs each statement as data and never reads
the SQL text the code formats (`Recathon.Engine.Db`). PostgreSQL rejects more: a value
such as `O'Brien` ends the index-row INSERT inside a literal, and a repeated context
attribute repeats a column of the index-table CREATE. The lemmas here are used to show
that the code reaches the statement whose buffer overflows (`Recathon.Text.CellBuffer`)
and that a build which completed once completes again where its names are still free
(`build_destroy_commute`).

The request is run forward (`prelude_ok`, `cell_ok`, `cells_ok`, `runEvents_cleanup`)
only as far as showing that no statement fails; the state each part leads to is the one
`Recathon.Store.Build` computes.
-/

namespace Recathon

set_option autoImplicit false

/-! ## Rows that match their tables -/

theorem admits_dummyRow (userkey itemkey : String) :
    (Table.empty (viewColumns userkey itemkey)).admits dummyRow = true := by
  simp [Table.admits, viewColumns, dummyRow, Value.fits]

/-- Text values fit `VARCHAR` columns. -/
theorem fits_text_varchar {vs : List String} {cols : List Column}
    (varchar : ∀ c ∈ cols, c.type = .varchar) :
    ∀ a b, (a, b) ∈ (vs.map Value.text).zip cols → a.fits b.type = true := by
  intro a b mem
  obtain ⟨v, -, rfl⟩ := List.mem_map.1 (List.of_mem_zip mem).1
  rw [varchar b (List.of_mem_zip mem).2]
  rfl

/-- A cell's index row matches `<relname>Index` when the cell has as many model tables
as the index has model columns and one value per context attribute. -/
theorem admits_indexRow {method : RecMethod} {attList models : List String} {view : String}
    {count : Int} {attvalues : List String}
    (modelsLength : models.length = if method = .SVD then 2 else 1)
    (width : attvalues.length = attList.length) :
    (Table.empty (indexColumns method attList)).admits (indexRow models view count attvalues) =
      true := by
  by_cases svd : method = .SVD
  · obtain ⟨a, b, rfl⟩ := List.length_eq_two.1 (by simpa [svd] using modelsLength)
    simp [Table.admits, indexColumns, indexRow, svd, Value.fits, width]
    exact fits_text_varchar (by simp)
  · obtain ⟨a, rfl⟩ := List.length_eq_one.1 (by simpa [svd] using modelsLength)
    simp [Table.admits, indexColumns, indexRow, svd, Value.fits, width]
    exact fits_text_varchar (by simp)

theorem length_models (recStmt : CreateRStmt) (method : RecMethod) (ts : Timeval) :
    ((familyOf recStmt method).models ts).length = if method = .SVD then 2 else 1 := by
  cases method <;> rfl

/-! ## Statements that cannot fail -/

theorem runEvents_createTables_of_fresh (ms : List (String × List Column)) : ∀ {db : Db},
    (ms.map (ident ∘ Prod.fst)).Nodup → (keysOf db.tables).Disjoint (ms.map (ident ∘ Prod.fst)) →
    runEvents (ms.map fun m => .exec (.createTable m.1 m.2)) db =
      .ok ⟨db.tables ++ ms.map fun m => (ident m.1, Table.empty m.2)⟩ := by
  induction ms with
  | nil => intro db _ _; simp
  | cons m ms ih =>
      intro db nodup fresh
      rw [List.map_cons, List.nodup_cons] at nodup
      rw [List.map_cons, List.disjoint_cons_right] at fresh
      rw [List.map_cons, runEvents_cons, step_exec, Db.exec_createTable_of_fresh fresh.1]
      simp only [Except.bind]
      rw [ih nodup.2 (by
        rw [Db.keysOf_add, List.disjoint_append_left, List.singleton_disjoint]
        exact ⟨fresh.2, nodup.1⟩)]
      simp [Db.add]

theorem runEvents_map_call (calls : List BackendCall) (db : Db) :
    runEvents (calls.map .call) db = .ok db := by
  simpa using runEvents_calls calls [] db

/-- Freeing written slots changes nothing. -/
theorem runEvents_of_frees {es : List Event} (frees : ∀ e ∈ es, ∃ s, e = .pfree (some s))
    (db : Db) : runEvents es db = .ok db := by
  induction es with
  | nil => rfl
  | cons e es ih =>
      obtain ⟨s, rfl⟩ := frees e (List.mem_cons_self _ _)
      simpa [Except.bind] using ih fun e mem => frees e (List.mem_cons_of_mem _ mem)

/-- The cleanup after a loop that read a row frees only slots it wrote. -/
theorem runEvents_cleanup {n : Nat} (attnames : List String) {cursor : List (Tuple n)}
    (read : cursor ≠ []) (db : Db) : runEvents (cleanup attnames cursor) db = .ok db := by
  obtain ⟨t, last⟩ : ∃ t, cursor.getLast? = some t :=
    ⟨_, List.getLast?_eq_getLast cursor read⟩
  refine runEvents_of_frees (fun e mem => ?_) db
  simp only [cleanup, last, List.mem_flatMap, List.mem_cons, List.mem_singleton,
    List.not_mem_nil, or_false] at mem
  obtain ⟨⟨a, v⟩, inZip, rfl | rfl⟩ := mem
  · exact ⟨a, rfl⟩
  · obtain ⟨s, -, rfl⟩ := List.mem_map.1 (List.of_mem_zip inZip).2
    exact ⟨s, rfl⟩

/-! ## The request on the registry -/

namespace Recommender

variable (r : Recommender) (cs : List CellRec)

@[simp] theorem cells_addCells : (r.addCells cs).cells = r.cells ++ cs := rfl
@[simp] theorem indexKey_addCells : (r.addCells cs).indexKey = r.indexKey := rfl
@[simp] theorem cellTables_addCells : (r.addCells cs).cellTables = r.cellTables := rfl

end Recommender

namespace Registry

variable {base : Db} {recs : List Recommender} {r : Recommender}

/-- The index table of the recommender being built is found under its name. -/
theorem table?_indexKey (wf : (⟨true, recs ++ [r]⟩ : Registry).WF base) :
    ((⟨true, recs ++ [r]⟩ : Registry).realize base).table? r.indexKey = some r.indexTable := by
  have outside := wf.indexKey_outside
  rw [realize_snoc, Db.table?_append,
    (Db.table?_eq_none _ _).2 fun mem => outside (List.mem_append_left _ mem), Db.table?_cons_self]
  rfl

/-- The relations of the last cell a well-formed registry records are new to the state
before that cell. -/
theorem WF.cell_fresh {c : CellRec} (wf : (⟨true, recs ++ [r.addCell c]⟩ : Registry).WF base) :
    (keysOf (r.cellTables c)).Nodup ∧
      (keysOf ((⟨true, recs ++ [r]⟩ : Registry).realize base).tables).Disjoint
        (keysOf (r.cellTables c)) := by
  have nodup := wf.nodup
  rw [keysOf_own_addCell, List.nodup_append] at nodup
  refine ⟨nodup.2.1, fun k old new => ?_⟩
  simp only [realize, keysOf_append, List.mem_append] at old
  rcases old with inBase | own
  · have absent := wf.fresh k (by rw [keysOf_own_addCell]; exact List.mem_append_right _ new)
    exact (Db.table?_eq_none _ _).1 absent inBase
  · exact nodup.2.2 own new

theorem keysOf_own_addCells (cs : List CellRec) :
    keysOf (⟨true, recs ++ [r.addCells cs]⟩ : Registry).own =
      keysOf (⟨true, recs ++ [r]⟩ : Registry).own ++ keysOf (cs.flatMap r.cellTables) := by
  simp [own, infra, Recommender.tables]

/-- Forgetting the last cells of the recommender being built keeps a registry well
formed. -/
theorem WF.of_addCells {cs : List CellRec}
    (wf : (⟨true, recs ++ [r.addCells cs]⟩ : Registry).WF base) :
    (⟨true, recs ++ [r]⟩ : Registry).WF base := by
  have sub : List.Sublist (keysOf (⟨true, recs ++ [r]⟩ : Registry).own)
      (keysOf (⟨true, recs ++ [r.addCells cs]⟩ : Registry).own) := by
    rw [keysOf_own_addCells]; exact List.sublist_append_left _ _
  refine ⟨fun _ => rfl, wf.catalogue_free, wf.properties_free, wf.nodup.sublist sub,
    fun k mem => wf.fresh k (sub.subset mem), fun r' mem => ?_⟩
  rcases List.mem_append.1 mem with old | new
  · exact wf.validated r' (List.mem_append_left _ old)
  · obtain rfl := List.mem_singleton.1 new
    exact wf.validated (r'.addCells cs) (by simp)

/-- A cell whose relations are new completes: its `CREATE TABLE` statements find no
relation of their names, and its two `INSERT` statements find their tables and match
their columns. -/
theorem cell_ok (wf : (⟨true, recs ++ [r]⟩ : Registry).WF base) (ratings : BackendCall → Int)
    (attnames : List String) (ts : Timeval) {attvalues : List String}
    (width : attvalues.length = r.recStmt.attributes.length)
    (nodup : (r.family.cellKeys r.recStmt ts).Nodup)
    (fresh : (keysOf ((⟨true, recs ++ [r]⟩ : Registry).realize base).tables).Disjoint
      (r.family.cellKeys r.recStmt ts)) :
    ∃ db', runEvents (r.family.cell r.recStmt ratings attnames ts attvalues)
      ((⟨true, recs ++ [r]⟩ : Registry).realize base) = .ok db' := by
  set R := (⟨true, recs ++ [r]⟩ : Registry).realize base
  rw [Family.cellKeys, List.nodup_append, List.disjoint_singleton] at nodup
  rw [Family.cellKeys, List.disjoint_append_right, List.disjoint_singleton] at fresh
  obtain ⟨modelsNodup, -, viewNotModel⟩ := nodup
  obtain ⟨modelsFresh, viewFresh⟩ := fresh
  set D₁ : Db := ⟨R.tables ++ (r.family.models ts).map fun m => (ident m.1, Table.empty m.2)⟩
  have viewNew : ident (recViewName r.recStmt.relname ts) ∉ keysOf D₁.tables := by
    have keys : keysOf D₁.tables = keysOf R.tables ++ (r.family.models ts).map (ident ∘ Prod.fst) := by
      simp [D₁, keysOf]
    rw [keys, List.mem_append, not_or]
    exact ⟨viewFresh, viewNotModel⟩
  have indexFound : R.table? (ident (recIndexName r.recStmt.relname)) = some r.indexTable :=
    table?_indexKey wf
  have indexOther : ident (recIndexName r.recStmt.relname) ≠ ident (recViewName r.recStmt.relname ts) :=
    fun same => by
      rw [← same, ← Db.table?_eq_none, indexFound] at viewFresh
      exact Option.some_ne_none _ viewFresh
  have indexFound₁ : D₁.table? (ident (recIndexName r.recStmt.relname)) = some r.indexTable := by
    rw [Db.table?_append, show (⟨R.tables⟩ : Db) = R from rfl, indexFound]
    rfl
  have admitsIndex : r.indexTable.admits (r.family.cellRow r.recStmt ratings attnames ts attvalues) :=
    admits_indexRow (by rw [List.length_map]; exact length_models _ _ _) width
  rw [Family.cell_eq, runEvents_append, runEvents_append,
    runEvents_createTables_of_fresh _ modelsNodup modelsFresh]
  simp only [Except.bind, runEvents_cons, step_exec, Db.exec_createTable_of_fresh viewNew]
  rw [Db.exec_insert_of (by simp [(Db.table?_eq_none _ _).2 viewNew])
    (admits_dummyRow r.recStmt.userkey r.recStmt.itemkey)]
  simp only [runEvents_map_call, runEvents_nil, step_exec]
  have indexFound₃ : (((D₁.add (ident (recViewName r.recStmt.relname ts))
      (Table.empty (viewColumns r.recStmt.userkey r.recStmt.itemkey))).modify
        (ident (recViewName r.recStmt.relname ts)) (·.addRow dummyRow)).table?
          (ident (recIndexName r.recStmt.relname))) = some r.indexTable := by
    simp only [Db.table?_modify, Db.table?_add, if_neg indexOther, indexFound₁]
    rfl
  rw [Db.exec_insert_of indexFound₃ admitsIndex]
  exact ⟨_, rfl⟩

/-- A cell completes when the registry with it is well formed, and leads to that
registry. -/
theorem cell_run (ratings : BackendCall → Int) (ts : Timeval) {attvalues : List String}
    (width : attvalues.length = r.recStmt.attributes.length)
    (wf : (⟨true, recs ++ [r.addCell (r.family.cellRec ratings r.recStmt.attributes ts attvalues)]⟩ :
      Registry).WF base) :
    runEvents (r.family.cell r.recStmt ratings r.recStmt.attributes ts attvalues)
        ((⟨true, recs ++ [r]⟩ : Registry).realize base) =
      .ok ((⟨true, recs ++ [r.addCell (r.family.cellRec ratings r.recStmt.attributes ts attvalues)]⟩ :
        Registry).realize base) := by
  have wf₀ : (⟨true, recs ++ [r]⟩ : Registry).WF base :=
    (show (⟨true, recs ++ [r.addCells [_]]⟩ : Registry).WF base by simpa using wf).of_addCells
  obtain ⟨nodup, fresh⟩ := wf.cell_fresh
  obtain ⟨db₁, cell⟩ := cell_ok wf₀ ratings r.recStmt.attributes ts width
    (by simpa [Recommender.cellTables] using nodup) (by simpa [Recommender.cellTables] using fresh)
  obtain ⟨rfl, -⟩ := cell_step wf₀ ratings r.recStmt.attributes ts attvalues cell
  exact cell

/-- The cell loop completes when the registry with all its cells is well formed: each
row becomes one more cell of the recommender being built. -/
theorem cells_ok (ratings : BackendCall → Int) (clock : Nat → Timeval) {n : Nat}
    (cursor : List (Tuple n)) : ∀ (i : Nat) (r : Recommender), n = r.recStmt.attributes.length →
      (⟨true, recs ++ [r.addCells (r.family.cellRecs ratings r.recStmt.attributes clock i cursor)]⟩ :
        Registry).WF base →
      runEvents (r.family.cells r.recStmt ratings r.recStmt.attributes clock i cursor)
        ((⟨true, recs ++ [r]⟩ : Registry).realize base) =
        .ok ((⟨true, recs ++ [r.addCells (r.family.cellRecs ratings r.recStmt.attributes clock i cursor)]⟩ :
          Registry).realize base) := by
  induction cursor with
  | nil => intro i r _ _; simp [Family.cells, Family.cellRecs]
  | cons t rest ih =>
      intro i r width wf
      simp only [Family.cellRecs, Recommender.addCells_cons] at wf ⊢
      rw [Family.cells, runEvents_append,
        cell_run ratings (clock i) (t.length_eq.trans width) wf.of_addCells]
      exact ih (i + 1) (r.addCell (r.family.cellRec ratings r.recStmt.attributes (clock i) t.values))
        width wf

/-- The cell loop, from a realized state where the cells up to row `i` have names of their
own, runs every statement before the index-row INSERT of row `i`. -/
theorem cells_reach (ratings : BackendCall → Int) (clock : Nat → Timeval) {n : Nat}
    (cursor : List (Tuple n)) : ∀ (j : Nat) (r : Recommender) {i : Nat} {t : Tuple n},
      n = r.recStmt.attributes.length → cursor[i]? = some t →
      (⟨true, recs ++ [r.addCells (r.family.cellRecs ratings r.recStmt.attributes clock j
        (cursor.take (i + 1)))]⟩ : Registry).WF base →
      ∃ pre rest db, r.family.cells r.recStmt ratings r.recStmt.attributes clock j cursor =
          pre ++ .exec (.insert (recIndexName r.recStmt.relname) (r.family.cellRow r.recStmt ratings
            r.recStmt.attributes (clock (j + i)) t.values)) :: rest ∧
        runEvents pre ((⟨true, recs ++ [r]⟩ : Registry).realize base) = .ok db := by
  induction cursor with
  | nil => intro j r i t _ row; simp at row
  | cons t' rest ih =>
      intro j r i t width row wf
      cases i with
      | zero =>
          obtain rfl : t' = t := by simpa using row
          simp only [List.take_succ_cons, List.take_zero, Family.cellRecs, Recommender.addCells_cons,
            Recommender.addCells_nil] at wf
          have cell := cell_run ratings (clock j) (t'.length_eq.trans width) wf
          rw [Family.cell_eq] at cell
          obtain ⟨db, ran, -⟩ := runEvents_append_ok cell
          exact ⟨_, r.family.cells r.recStmt ratings r.recStmt.attributes clock (j + 1) rest, db,
            by simp [Family.cells, Family.cell_eq], ran⟩
      | succ i =>
          simp only [List.take_succ_cons, Family.cellRecs, Recommender.addCells_cons] at wf
          obtain ⟨pre, rest', db, split, ran⟩ := ih (j + 1)
            (r.addCell (r.family.cellRec ratings r.recStmt.attributes (clock j) t'.values)) width
            (by simpa using row) wf
          refine ⟨r.family.cell r.recStmt ratings r.recStmt.attributes (clock j) t'.values ++ pre, rest',
            db, ?_, ?_⟩
          · rw [Family.cells, show j + (i + 1) = j + 1 + i by omega, List.append_assoc]
            exact congrArg (_ ++ ·) split
          · rw [runEvents_append, cell_run ratings (clock j) (t'.length_eq.trans width) wf.of_addCells]
            exact ran

/-- The catalogue statements complete when `<relname>Index` is a new name. -/
theorem prelude_ok {reg : Registry} (wf : reg.WF base) (recStmt : CreateRStmt) (method : RecMethod)
    (fresh : ident (recIndexName recStmt.relname) ∉
      keysOf ((⟨true, reg.recommenders⟩ : Registry).realize base).tables) :
    ∃ db', runEvents (createPrelude recStmt method reg.installed) (reg.realize base) = .ok db' := by
  have absent : ident (recIndexName recStmt.relname) ∉ keysOf (((⟨true, reg.recommenders⟩ :
      Registry).realize base).modify "recmodelscatalogue" (·.addRow (catalogueRow recStmt
        recStmt.attributes.length))).tables := by simpa using fresh
  rw [createPrelude_eq_dropLast, runEvents_append, catalogue_done wf]
  exact ⟨_, show runEvents [_] _ = _ by
    rw [runEvents_cons, step_exec, Db.exec_createTable_of_fresh absent]; rfl⟩

/-- The catalogue statements of a request that validates lead, when the registry with the
new recommender is well formed, to that registry with the recommender and no cell. -/
theorem prelude_realize {reg : Registry} (wf : reg.WF base) {recStmt : CreateRStmt}
    {method : RecMethod} (valid : validateCreateRStmt recStmt = .ok method) {cs : List CellRec}
    (fresh : (⟨true, reg.recommenders ++ [⟨recStmt, method, cs⟩]⟩ : Registry).WF base) :
    runEvents (createPrelude recStmt method reg.installed) (reg.realize base) =
      .ok ((⟨true, reg.recommenders ++ [⟨recStmt, method, []⟩]⟩ : Registry).realize base) := by
  have indexFresh : ident (recIndexName recStmt.relname) ∉
      keysOf ((⟨true, reg.recommenders⟩ : Registry).realize base).tables := by
    simpa [realize_installed, Recommender.indexKey] using
      (WF.of_addCells (r := ⟨recStmt, method, []⟩) fresh).indexKey_outside
  obtain ⟨db₁, prelude⟩ := prelude_ok wf recStmt method indexFresh
  obtain ⟨-, rfl⟩ := prelude_done wf recStmt method prelude
  rw [prelude, (start_realize wf.install recStmt method (validateCreateRStmt_ok.1 valid) indexFresh).1]

/-- A request that validates, from a realized state where the cells up to row `i` have
names of their own, runs every statement before the index-row INSERT of row `i`, and then
the rest of the request from there. -/
theorem createRStmt_at_cell {reg : Registry} (wf : reg.WF base) {recStmt : CreateRStmt}
    {method : RecMethod} (valid : validateCreateRStmt recStmt = .ok method)
    (ratings : BackendCall → Int) (clock : Nat → Timeval)
    (cursor : List (Tuple recStmt.attributes.length)) {i : Nat} {t : Tuple recStmt.attributes.length}
    (row : (contextCells _ cursor)[i]? = some t)
    (fresh : (⟨true, reg.recommenders ++ [⟨recStmt, method, (familyOf recStmt method).cellRecs ratings
      recStmt.attributes clock 0 ((contextCells _ cursor).take (i + 1))⟩]⟩ : Registry).WF base) :
    ∃ pre rest db, createEvents recStmt method clock cursor ratings reg.installed =
        pre ++ .exec (.insert (recIndexName recStmt.relname) ((familyOf recStmt method).cellRow
          recStmt ratings recStmt.attributes (clock i) t.values)) :: rest ∧
      runEvents pre (reg.realize base) = .ok db ∧
      createRStmt recStmt clock cursor ratings (reg.realize base) =
        runEvents (.exec (.insert (recIndexName recStmt.relname) ((familyOf recStmt method).cellRow
          recStmt ratings recStmt.attributes (clock i) t.values)) :: rest) db := by
  have prelude := prelude_realize wf valid fresh
  obtain ⟨pre, rest, db, split, ran⟩ :=
    cells_reach ratings clock (contextCells _ cursor) 0 ⟨recStmt, method, []⟩ rfl row fresh
  rw [Nat.zero_add] at split
  have events : createEvents recStmt method clock cursor ratings reg.installed =
      (createPrelude recStmt method reg.installed ++
        ((familyOf recStmt method).stats.toList.map (.call ∘ .precompute) ++ pre)) ++
      .exec (.insert (recIndexName recStmt.relname) ((familyOf recStmt method).cellRow
        recStmt ratings recStmt.attributes (clock i) t.values)) ::
        (rest ++ cleanup recStmt.attributes (contextCells _ cursor)) := by
    rw [createEvents, createModels_eq_build, Family.build, show (familyOf recStmt method).cells recStmt
      ratings recStmt.attributes clock 0 (contextCells _ cursor) = _ from split]
    simp [Recommender.family]
  have reached : runEvents (createPrelude recStmt method reg.installed ++
      ((familyOf recStmt method).stats.toList.map (.call ∘ .precompute) ++ pre)) (reg.realize base) =
      .ok db := by
    rw [runEvents_append, prelude]
    simp only [Except.bind]
    rw [runEvents_append, ← List.map_map, runEvents_map_call]
    exact ran
  refine ⟨_, _, db, events, reached, ?_⟩
  rw [createRStmt_eq, valid]
  simp only [Except.bind]
  rw [relationExists_properties wf, events, runEvents_append, reached]
  rfl

/-- A build request from a realized state completes when it validates, reads at least
one cell, and every relation it creates has a name of its own. -/
theorem createRStmt_complete {reg : Registry} (wf : reg.WF base) (recStmt : CreateRStmt)
    (clock : Nat → Timeval) (cursor : List (Tuple recStmt.attributes.length))
    (ratings : BackendCall → Int) {method : RecMethod}
    (valid : validateCreateRStmt recStmt = .ok method) (reads : contextCells _ cursor ≠ [])
    (fresh : (⟨true, reg.recommenders ++ [⟨recStmt, method,
      (familyOf recStmt method).cellRecs ratings recStmt.attributes clock 0 (contextCells _ cursor)⟩]⟩ :
        Registry).WF base) :
    createRStmt recStmt clock cursor ratings (reg.realize base) =
      .ok ((⟨true, reg.recommenders ++ [⟨recStmt, method,
        (familyOf recStmt method).cellRecs ratings recStmt.attributes clock 0 (contextCells _ cursor)⟩]⟩ :
          Registry).realize base) := by
  rw [createRStmt_eq, valid]
  simp only [Except.bind]
  rw [relationExists_properties wf, createEvents, runEvents_append, prelude_realize wf valid fresh]
  simp only [Except.bind]
  rw [createModels_eq_build, Family.build, runEvents_append, runEvents_append, ← List.map_map,
    runEvents_map_call]
  have cells : runEvents ((familyOf recStmt method).cells recStmt ratings recStmt.attributes clock 0
      (contextCells _ cursor)) ((⟨true, reg.recommenders ++ [⟨recStmt, method, []⟩]⟩ : Registry).realize base) =
      .ok _ := cells_ok ratings clock (contextCells _ cursor) 0 ⟨recStmt, method, []⟩ rfl fresh
  simp only [Except.bind, cells]
  exact runEvents_cleanup _ reads _

end Registry

end Recathon
