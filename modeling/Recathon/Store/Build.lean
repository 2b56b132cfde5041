import Mathlib.Data.List.Nodup
import Recathon.Store.Registry

/-!
# Recathon.Store.Build — a build request, seen on the registry

A build request started from a realized state `reg.realize base` runs its prelude, the
statistics calls, one cell after another, and the cleanup. This module follows the
request statement by statement and says, for every prefix of it, which database it has
produced:

* `cell_prefix`: inside a cell, the relations created so far are a prefix of the cell's
  relations (`Family.cellKeys`), each of them new;
* `cell_step`: a completed cell is one more `CellRec` of the recommender being built;
* `cells_prefix`: the cell loop, by induction on the cursor, from the two above;
* `createEvents_prefix`: the whole request. Once `<relname>Index` exists, the state is
  the registry with the new recommender (holding the cells completed so far) plus the
  relations of the interrupted cell;
* `createRStmt_realize`: a build that completes takes a realized state to the realized
  state with one more recommender, whose cells are `Family.cellRecs` of the cursor.
-/

namespace Recathon

set_option autoImplicit false

/-! ## Statements on association lists -/

theorem runEvents_createTables (ms : List (String × List Column)) {db db' : Db}
    (ok : runEvents (ms.map fun m => .exec (.createTable m.1 m.2)) db = .ok db') :
    db' = ⟨db.tables ++ ms.map fun m => (ident m.1, Table.empty m.2)⟩ ∧
      (ms.map (ident ∘ Prod.fst)).Nodup ∧ (keysOf db.tables).Disjoint (ms.map (ident ∘ Prod.fst)) := by
  induction ms generalizing db with
  | nil => cases ok; simp
  | cons m ms ih =>
      obtain ⟨db₁, first, rest⟩ := runEvents_cons_ok ok
      obtain ⟨fresh, rfl⟩ := Db.exec_createTable first
      obtain ⟨rfl, nodup, disjoint⟩ := ih rest
      rw [Db.table?_eq_none] at fresh
      simp only [Db.keysOf_add, List.disjoint_append_left] at disjoint
      refine ⟨by simp [Db.add], List.nodup_cons.2 ⟨?_, nodup⟩,
        List.disjoint_cons_right.2 ⟨fresh, disjoint.1⟩⟩
      exact fun mem => disjoint.2 (List.mem_singleton_self _) mem

/-! ## One cell -/

namespace Family

variable (F : Family) (recStmt : CreateRStmt) (ratings : BackendCall → Int)
  (attnames : List String) (ts : Timeval) (attvalues : List String)

/-- The cell's index row. -/
def cellRow : Row :=
  indexRow ((F.models ts).map Prod.fst) (recViewName recStmt.relname ts)
    (numRatings ratings (F.populate ts attnames attvalues)) attvalues

theorem cell_eq : F.cell recStmt ratings attnames ts attvalues =
    (F.models ts).map (fun m => .exec (.createTable m.1 m.2)) ++
      (.exec (.createTable (recViewName recStmt.relname ts)
          (viewColumns recStmt.userkey recStmt.itemkey)) ::
        .exec (.insert (recViewName recStmt.relname ts) dummyRow) ::
        (F.populate ts attnames attvalues).toList.map .call) ++
      [.exec (.insert (recIndexName recStmt.relname) (F.cellRow recStmt ratings attnames ts attvalues))] := by
  simp [cell, cellRow]

theorem length_cell : (F.cell recStmt ratings attnames ts attvalues).length =
    (F.models ts).length + (F.populate ts attnames attvalues).toList.length + 3 := by
  simp [cell_eq]; omega

/-- Inside a cell, before its index row: the relations created so far are a prefix of the
cell's relations, all new; after every statement but the index `INSERT` they are the
cell's relations. -/
theorem cell_prefix {j : Nat} (short : j < (F.cell recStmt ratings attnames ts attvalues).length)
    {db db' : Db} (ok : runEvents ((F.cell recStmt ratings attnames ts attvalues).take j) db = .ok db') :
    ∃ P, db' = ⟨db.tables ++ P⟩ ∧ keysOf P <+: F.cellKeys recStmt ts ∧ (keysOf P).Nodup ∧
      (keysOf db.tables).Disjoint (keysOf P) ∧
      (j + 1 = (F.cell recStmt ratings attnames ts attvalues).length → P = F.cellTables recStmt ts) := by
  rw [length_cell] at short ⊢
  have names : (Prod.fst ∘ fun m : String × List Column => (ident m.1, Table.empty m.2)) =
      ident ∘ Prod.fst := rfl
  rw [cell_eq, List.take_append_of_le_length (by simp; omega)] at ok
  rcases runEvents_take_append ok with ⟨inside, ok⟩ | ⟨after, db₁, models, ok⟩
  · rw [← List.map_take] at ok
    obtain ⟨rfl, nodup, disjoint⟩ := runEvents_createTables _ ok
    simp only [List.length_map] at inside
    refine ⟨_, rfl, ?_, by simpa [keysOf] using nodup, by simpa [keysOf] using disjoint,
      fun _ => by omega⟩
    simp only [keysOf, List.map_map, names, Family.cellKeys, List.map_take]
    exact (List.take_prefix _ _).trans (List.prefix_append _ _)
  · obtain ⟨rfl, nodup, disjoint⟩ := runEvents_createTables _ models
    simp only [List.length_map] at after ok
    obtain ⟨i, rfl⟩ : ∃ i, j = (F.models ts).length + i := ⟨j - (F.models ts).length, by omega⟩
    rw [Nat.add_sub_cancel_left] at ok
    have keys : keysOf ((F.models ts).map fun m => (ident m.1, Table.empty m.2)) =
        (F.models ts).map (ident ∘ Prod.fst) := by simp [keysOf, names]
    cases i with
    | zero =>
        cases ok
        exact ⟨_, rfl, keys ▸ List.prefix_append _ _, keys ▸ nodup, keys ▸ disjoint,
          fun _ => by omega⟩
    | succ i =>
        rw [List.take_succ_cons] at ok
        obtain ⟨db₂, create, ok⟩ := runEvents_cons_ok ok
        obtain ⟨fresh, rfl⟩ := Db.exec_createTable create
        rw [Db.table?_eq_none] at fresh
        simp only [keysOf_append, List.mem_append, not_or, keys] at fresh
        have nodup' : (F.cellKeys recStmt ts).Nodup := by
          rw [Family.cellKeys, List.nodup_append]
          exact ⟨nodup, List.nodup_singleton _, List.disjoint_singleton.2 fresh.2⟩
        have disjoint' : (keysOf db.tables).Disjoint (F.cellKeys recStmt ts) :=
          List.disjoint_append_right.2 ⟨disjoint, List.disjoint_singleton.2 fresh.1⟩
        cases i with
        | zero =>
            cases ok
            let P := (F.models ts).map (fun m => (ident m.1, Table.empty m.2)) ++
              [(ident (recViewName recStmt.relname ts),
                Table.empty (viewColumns recStmt.userkey recStmt.itemkey))]
            have view : keysOf P = F.cellKeys recStmt ts := by simp [P, Family.cellKeys, keys]
            exact ⟨P, by simp [Db.add, P], view ▸ List.prefix_refl _, view ▸ nodup',
              view ▸ disjoint', fun _ => by omega⟩
        | succ i =>
            rw [List.take_succ_cons] at ok
            obtain ⟨db₃, insert, calls⟩ := runEvents_cons_ok ok
            obtain ⟨t, -, -, rfl⟩ := Db.exec_insert insert
            obtain rfl := runEvents_of_no_exec (fun s mem => by
              simpa using List.mem_of_mem_take mem) calls
            refine ⟨F.cellTables recStmt ts, ?_, by simp, by simpa using nodup',
              by simpa using disjoint', fun _ => rfl⟩
            rw [Db.add, Db.modify_append, Db.modify_of_not_mem (by simpa [keys] using fresh)]
            simp [Db.modify, Family.cellTables]

/-- A completed cell: its relations are added after everything else and its row is
appended to the index table, which stands anywhere in the database. -/
theorem cell_done {A B : List (String × Table)} {tI : Table}
    (outside : ident (recIndexName recStmt.relname) ∉ keysOf A ++ keysOf B) {db' : Db}
    (ok : runEvents (F.cell recStmt ratings attnames ts attvalues)
      ⟨A ++ (ident (recIndexName recStmt.relname), tI) :: B⟩ = .ok db') :
    db' = ⟨A ++ (ident (recIndexName recStmt.relname),
        tI.addRow (F.cellRow recStmt ratings attnames ts attvalues)) :: B ++ F.cellTables recStmt ts⟩ ∧
      (F.cellKeys recStmt ts).Nodup ∧
      (keysOf A ++ ident (recIndexName recStmt.relname) :: keysOf B).Disjoint (F.cellKeys recStmt ts) := by
  have split := cell_eq F recStmt ratings attnames ts attvalues
  obtain ⟨db₁, body, index⟩ := runEvents_append_ok (split ▸ ok)
  have body' : runEvents ((F.cell recStmt ratings attnames ts attvalues).take
      ((F.cell recStmt ratings attnames ts attvalues).length - 1))
      ⟨A ++ (ident (recIndexName recStmt.relname), tI) :: B⟩ = .ok db₁ := by
    rwa [← List.dropLast_eq_take, split, List.dropLast_concat]
  have len := length_cell F recStmt ratings attnames ts attvalues
  obtain ⟨P, rfl, -, nodup, disjoint, last⟩ := cell_prefix F recStmt ratings attnames ts attvalues
    (by omega) body'
  obtain rfl := last (by omega)
  simp only [keysOf_append, keysOf_cons, keysOf_cellTables] at nodup disjoint
  refine ⟨?_, nodup, disjoint⟩
  simp only [List.mem_append, not_or] at outside
  have fresh : ident (recIndexName recStmt.relname) ∉ keysOf B ++ keysOf (F.cellTables recStmt ts) :=
    by simpa [outside.2] using fun mem => disjoint (List.mem_append_right _ (List.mem_cons_self _ _)) mem
  obtain ⟨db₂, insert, done⟩ := runEvents_cons_ok index
  cases done
  obtain ⟨t, found, -, rfl⟩ := Db.exec_insert insert
  simp only [List.append_assoc, List.cons_append] at found ⊢
  rw [Db.table?_append, (Db.table?_eq_none _ _).2 outside.1, Db.table?_cons_self] at found
  cases found
  rw [Db.modify_append, Db.modify_of_not_mem outside.1, Db.modify_cons_self,
    Db.modify_of_not_mem (by simpa using fresh)]

end Family

/-! ## Cells on the registry -/

namespace Family

variable (F : Family) (ratings : BackendCall → Int) (attnames : List String)

/-- The record of the cell built at `ts` for `attvalues`. -/
def cellRec (ts : Timeval) (attvalues : List String) : CellRec :=
  ⟨ts, attvalues, numRatings ratings (F.populate ts attnames attvalues)⟩

/-- The records of the cells a loop over `cursor` builds, cell `i` at `clock i`. -/
def cellRecs (clock : Nat → Timeval) {n : Nat} : Nat → List (Tuple n) → List CellRec
  | _, [] => []
  | i, t :: rest => F.cellRec ratings attnames (clock i) t.values :: cellRecs clock (i + 1) rest

end Family

namespace Registry

variable {base : Db} {recs : List Recommender} {r : Recommender}

theorem realize_snoc (base : Db) (recs : List Recommender) (r : Recommender) :
    (⟨true, recs ++ [r]⟩ : Registry).realize base =
      ⟨(base.tables ++ [("recmodelscatalogue", catalogueTable (recs ++ [r])),
          ("recathonproperties", propertiesTable)] ++ recs.flatMap Recommender.tables) ++
        (r.indexKey, r.indexTable) :: r.cells.flatMap r.cellTables⟩ := by
  simp [realize, own, infra, Recommender.tables]

@[simp] theorem catalogueTable_addCell (c : CellRec) :
    catalogueTable (recs ++ [r.addCell c]) = catalogueTable (recs ++ [r]) := by
  simp [catalogueTable]

theorem keysOf_own_addCell (c : CellRec) :
    keysOf (⟨true, recs ++ [r.addCell c]⟩ : Registry).own =
      keysOf (⟨true, recs ++ [r]⟩ : Registry).own ++ keysOf (r.cellTables c) := by
  simp [own, infra, Recommender.tables]

/-- One more cell keeps a registry well formed when its relations are new. -/
theorem WF.addCell (wf : (⟨true, recs ++ [r]⟩ : Registry).WF base) (c : CellRec)
    (nodup : (keysOf (r.cellTables c)).Nodup)
    (disjoint : (keysOf ((⟨true, recs ++ [r]⟩ : Registry).realize base).tables).Disjoint
      (keysOf (r.cellTables c))) :
    (⟨true, recs ++ [r.addCell c]⟩ : Registry).WF base where
  installed _ := rfl
  catalogue_free := wf.catalogue_free
  properties_free := wf.properties_free
  nodup := by
    rw [keysOf_own_addCell, List.nodup_append]
    exact ⟨wf.nodup, nodup, fun k mem => disjoint (by simp [realize, mem])⟩
  fresh k mem := by
    rw [keysOf_own_addCell, List.mem_append] at mem
    rcases mem with old | new
    · exact wf.fresh k old
    · exact (Db.table?_eq_none _ _).2 fun inBase => disjoint (by simp [realize, inBase]) new
  validated r' mem := by
    simp only [List.mem_append, List.mem_singleton] at mem
    rcases mem with old | rfl
    · exact wf.validated r' (by simp [old])
    · exact wf.validated r (by simp)

/-- The index key of the recommender being built is used nowhere else. -/
theorem WF.indexKey_outside (wf : (⟨true, recs ++ [r]⟩ : Registry).WF base) :
    r.indexKey ∉ keysOf (base.tables ++ [("recmodelscatalogue", catalogueTable (recs ++ [r])),
        ("recathonproperties", propertiesTable)] ++ recs.flatMap Recommender.tables) ++
      keysOf (r.cells.flatMap r.cellTables) := by
  have split : keysOf (⟨true, recs ++ [r]⟩ : Registry).own =
      (["recmodelscatalogue", "recathonproperties"] ++ keysOf (recs.flatMap Recommender.tables)) ++
        r.indexKey :: keysOf (r.cells.flatMap r.cellTables) := by
    simp [own, infra, Recommender.tables]
  have nodup := wf.nodup
  rw [split, List.nodup_middle, List.nodup_cons] at nodup
  have inBase := (Db.table?_eq_none _ _).1 (wf.fresh r.indexKey (by simp [split]))
  simp only [keysOf_append, List.mem_append, not_or] at nodup ⊢
  exact ⟨⟨⟨inBase, by simpa using nodup.1.1.1⟩, nodup.1.1.2⟩, nodup.1.2⟩

@[simp] theorem row_cellRec (ratings : BackendCall → Int) (attnames : List String) (ts : Timeval)
    (attvalues : List String) :
    r.row (r.family.cellRec ratings attnames ts attvalues) =
      r.family.cellRow r.recStmt ratings attnames ts attvalues := rfl

@[simp] theorem cellTables_cellRec (ratings : BackendCall → Int) (attnames : List String)
    (ts : Timeval) (attvalues : List String) :
    r.cellTables (r.family.cellRec ratings attnames ts attvalues) = r.family.cellTables r.recStmt ts :=
  rfl

/-- A completed cell on the registry: the recommender being built gains its record. -/
theorem cell_step (wf : (⟨true, recs ++ [r]⟩ : Registry).WF base) (ratings : BackendCall → Int)
    (attnames : List String) (ts : Timeval) (attvalues : List String) {db' : Db}
    (ok : runEvents (r.family.cell r.recStmt ratings attnames ts attvalues)
      ((⟨true, recs ++ [r]⟩ : Registry).realize base) = .ok db') :
    db' = (⟨true, recs ++ [r.addCell (r.family.cellRec ratings attnames ts attvalues)]⟩ : Registry).realize base ∧
      (⟨true, recs ++ [r.addCell (r.family.cellRec ratings attnames ts attvalues)]⟩ : Registry).WF base := by
  rw [realize_snoc] at ok
  obtain ⟨rfl, nodup, disjoint⟩ :=
    r.family.cell_done r.recStmt ratings attnames ts attvalues wf.indexKey_outside ok
  refine ⟨by simp [realize_snoc, Recommender.indexKey], wf.addCell _ (by simpa using nodup) ?_⟩
  rw [realize_snoc]; simpa [Recommender.indexKey] using disjoint

/-! ## The prelude -/

theorem keysOf_own_snoc (recs : List Recommender) (r : Recommender) :
    keysOf (⟨true, recs ++ [r]⟩ : Registry).own =
      keysOf (⟨true, recs⟩ : Registry).own ++ keysOf r.tables := by
  simp [own, infra]

/-- A registry with the infrastructure tables in place. -/
theorem WF.install {reg : Registry} (wf : reg.WF base) :
    (⟨true, reg.recommenders⟩ : Registry).WF base := by
  obtain ⟨installed, recs⟩ := reg
  cases installed
  · obtain rfl : recs = [] := by
      by_contra some; exact Bool.false_ne_true (wf.installed some)
    refine ⟨fun _ => rfl, wf.catalogue_free, wf.properties_free, by simp [own, infra], ?_,
      by simp⟩
    simp only [own, infra, if_true, List.flatMap_nil, List.append_nil, keysOf_cons, keysOf_nil,
      List.mem_cons, List.not_mem_nil, or_false]
    rintro k (rfl | rfl)
    exacts [wf.catalogue_free, wf.properties_free]
  · exact wf

theorem realize_installed (base : Db) (recs : List Recommender) :
    (⟨true, recs⟩ : Registry).realize base =
      ⟨base.tables ++ ("recmodelscatalogue", catalogueTable recs) ::
        ("recathonproperties", propertiesTable) :: recs.flatMap Recommender.tables⟩ := by
  simp [realize, own, infra]

/-- A registry without the infrastructure stands for `base` itself. -/
theorem realize_not_installed {reg : Registry} (wf : reg.WF base) (installed : reg.installed = false) :
    reg.realize base = base := by
  obtain ⟨_, recs⟩ := reg
  subst installed
  obtain rfl : recs = [] := by
    by_contra some; exact Bool.false_ne_true (wf.installed some)
  simp [realize, own, infra]

theorem admits_catalogueRow (recs : List Recommender) (recStmt : CreateRStmt) (n : Nat) :
    (catalogueTable recs).admits (catalogueRow recStmt n) = true := by
  simp [Table.admits, catalogueTable, catalogueColumns, catalogueRow, Value.fits]

theorem admits_propertiesRow : (Table.empty propertiesColumns).admits propertiesRow = true := by
  decide

/-- The catalogue statements before the index-table CREATE complete from every realized
state: the catalogue, created if missing, gains the new row, and the properties table is
created with its row when the store was not installed. -/
theorem catalogue_done {reg : Registry} (wf : reg.WF base) (recStmt : CreateRStmt)
    (method : RecMethod) :
    runEvents (createPrelude recStmt method reg.installed).dropLast (reg.realize base) =
      .ok (((⟨true, reg.recommenders⟩ : Registry).realize base).modify "recmodelscatalogue"
        (·.addRow (catalogueRow recStmt recStmt.attributes.length))) := by
  obtain ⟨installed, recs⟩ := reg
  have catalogue := (Db.table?_eq_none _ _).1 wf.catalogue_free
  rw [createPrelude, List.dropLast_concat]
  cases installed with
  | true =>
      have found : ((⟨true, recs⟩ : Registry).realize base).table? "recmodelscatalogue" =
          some (catalogueTable recs) := by
        simp [realize_installed, Db.table?_append, wf.catalogue_free, Db.table?_cons_self]
      simp [Db.exec, found, admits_catalogueRow, Except.bind]
  | false =>
      obtain rfl : recs = [] := by
        by_contra some; exact Bool.false_ne_true (wf.installed some)
      have admits : (Table.empty catalogueColumns).admits
          (catalogueRow recStmt recStmt.attributes.length) = true := admits_catalogueRow [] _ _
      rw [realize_not_installed wf rfl]
      simp [Db.exec, wf.catalogue_free, wf.properties_free, Except.bind, admits, admits_propertiesRow]
      rw [Db.modify_add_self catalogue,
        Db.modify_add_self (by simpa using (Db.table?_eq_none _ _).1 wf.properties_free),
        realize_installed, Db.modify_append, Db.modify_of_not_mem catalogue]
      simp [Db.add, Db.modify, catalogueTable, propertiesTable]
      rfl

/-- The catalogue statements, from a realized state: the catalogue gains the new row, the
infrastructure is in place, and `<relname>Index` is created, under a name not used
before. -/
theorem prelude_done {reg : Registry} (wf : reg.WF base) (recStmt : CreateRStmt)
    (method : RecMethod) {db' : Db}
    (ok : runEvents (createPrelude recStmt method reg.installed) (reg.realize base) = .ok db') :
    ident (recIndexName recStmt.relname) ∉ keysOf ((⟨true, reg.recommenders⟩ : Registry).realize base).tables ∧
      db' = (((⟨true, reg.recommenders⟩ : Registry).realize base).modify "recmodelscatalogue"
          (·.addRow (catalogueRow recStmt recStmt.attributes.length))).add
        (ident (recIndexName recStmt.relname)) (Table.empty (indexColumns method recStmt.attributes)) := by
  rw [createPrelude_eq_dropLast, runEvents_append, catalogue_done wf] at ok
  obtain ⟨db₁, index, ok⟩ := runEvents_cons_ok ok
  cases ok
  obtain ⟨fresh, rfl⟩ := Db.exec_createTable index
  rw [Db.table?_eq_none] at fresh
  exact ⟨by simpa using fresh, rfl⟩

theorem catalogueTable_snoc (recs : List Recommender) (r : Recommender) :
    catalogueTable (recs ++ [r]) =
      (catalogueTable recs).addRow (catalogueRow r.recStmt r.recStmt.attributes.length) := by
  simp [catalogueTable, Table.addRow]

/-- After the prelude, the database is the registry with the new recommender, which has
no cells yet. -/
theorem start_realize {recs : List Recommender} (wf : (⟨true, recs⟩ : Registry).WF base)
    (recStmt : CreateRStmt) (method : RecMethod) (valid : getRecMethod recStmt.method = some method)
    (fresh : ident (recIndexName recStmt.relname) ∉ keysOf ((⟨true, recs⟩ : Registry).realize base).tables) :
    (((⟨true, recs⟩ : Registry).realize base).modify "recmodelscatalogue"
        (·.addRow (catalogueRow recStmt recStmt.attributes.length))).add
        (ident (recIndexName recStmt.relname)) (Table.empty (indexColumns method recStmt.attributes)) =
      (⟨true, recs ++ [⟨recStmt, method, []⟩]⟩ : Registry).realize base ∧
    (⟨true, recs ++ [⟨recStmt, method, []⟩]⟩ : Registry).WF base := by
  have nodup := wf.nodup
  simp only [own, infra, if_true, List.cons_append, List.nil_append, keysOf_cons,
    List.nodup_cons, List.mem_cons, not_or] at nodup
  have catalogue := (Db.table?_eq_none _ _).1 wf.catalogue_free
  have ownKeys : ∀ k ∈ keysOf (⟨true, recs⟩ : Registry).own,
      k ∈ keysOf ((⟨true, recs⟩ : Registry).realize base).tables := by
    intro k mem; simp [realize, mem]
  refine ⟨?_, ⟨fun _ => rfl, wf.catalogue_free, wf.properties_free, ?_, ?_, ?_⟩⟩
  · rw [realize_installed, realize_installed, Db.modify_append, Db.modify_of_not_mem catalogue,
      Db.modify_cons_self, Db.modify_of_not_mem (by simpa [keysOf] using nodup.1)]
    simp [Db.add, catalogueTable_snoc, Recommender.tables, Recommender.indexKey,
      Recommender.indexTable]
    rfl
  · rw [keysOf_own_snoc, List.nodup_append]
    exact ⟨wf.nodup, by simp [Recommender.tables],
      by simpa [Recommender.tables, Recommender.indexKey] using fun mem => fresh (ownKeys _ mem)⟩
  · intro k mem
    rw [keysOf_own_snoc, List.mem_append] at mem
    rcases mem with old | new
    · exact wf.fresh k old
    · simp only [Recommender.tables, Recommender.indexKey, List.flatMap_nil, keysOf_cons,
        keysOf_nil, List.mem_singleton] at new
      subst new
      exact (Db.table?_eq_none _ _).2 fun inBase => fresh (by simp [realize, inBase])
  · intro r mem
    simp only [List.mem_append, List.mem_singleton] at mem
    rcases mem with old | rfl
    · exact wf.validated r old
    · exact valid

/-- A database that a build of `r` has brought to: the registry with `r` as its last
recommender, followed by `P`, the relations an interrupted cell of `r` read at `ts`
created, all new. -/
structure Interrupted (base : Db) (recs : List Recommender) (r : Recommender) (ts : Timeval)
    (P : List (String × Table)) (db : Db) : Prop where
  eq : db = ⟨((⟨true, recs ++ [r]⟩ : Registry).realize base).tables ++ P⟩
  wf : (⟨true, recs ++ [r]⟩ : Registry).WF base
  within : keysOf P <+: r.family.cellKeys r.recStmt ts
  nodup : (keysOf P).Nodup
  fresh : (keysOf ((⟨true, recs ++ [r]⟩ : Registry).realize base).tables).Disjoint (keysOf P)

/-- The cell loop stopped after any number `j` of its events: the completed cells are
records of the recommender being built, followed by the relations of the interrupted
cell; when the loop has run to its end, no cell is interrupted. -/
theorem cells_prefix (ratings : BackendCall → Int) (attnames : List String)
    (clock : Nat → Timeval) {n : Nat} (cursor : List (Tuple n)) :
    ∀ (i j : Nat) (r : Recommender) {db' : Db}, (⟨true, recs ++ [r]⟩ : Registry).WF base →
      runEvents ((r.family.cells r.recStmt ratings attnames clock i cursor).take j)
        ((⟨true, recs ++ [r]⟩ : Registry).realize base) = .ok db' →
      ∃ m ≤ cursor.length, ∃ P, Interrupted base recs
          (r.addCells (r.family.cellRecs ratings attnames clock i (cursor.take m))) (clock (i + m)) P db' ∧
        ((r.family.cells r.recStmt ratings attnames clock i cursor).length ≤ j →
          m = cursor.length ∧ P = []) := by
  induction cursor with
  | nil =>
      intro i j r db' wf ok
      simp only [Family.cells, List.take_nil, runEvents_nil, Except.ok.injEq] at ok
      subst ok
      exact ⟨0, le_rfl, [], by simpa [Family.cellRecs] using
        (⟨by simp, wf, by simp, by simp, by simp⟩ : Interrupted base recs r (clock i) [] _),
        fun _ => ⟨rfl, rfl⟩⟩
  | cons t rest ih =>
      intro i j r db' wf ok
      rcases runEvents_take_append ok with ⟨inside, ok⟩ | ⟨after, db₁, cell, ok⟩
      · obtain ⟨P, rfl, within, nodup, fresh, -⟩ := r.family.cell_prefix _ _ _ _ _ inside ok
        refine ⟨0, Nat.zero_le _, P, by simpa [Family.cellRecs] using
          (⟨rfl, wf, within, nodup, fresh⟩ : Interrupted base recs r (clock i) P _), fun total => ?_⟩
        simp only [Family.cells, List.length_append] at total; omega
      · obtain ⟨rfl, wf₁⟩ := cell_step wf ratings attnames (clock i) t.values cell
        obtain ⟨m, le, P, stopped, whole⟩ := ih (i + 1) _ _ wf₁ (by simpa using ok)
        refine ⟨m + 1, by simpa using le, P, ?_, fun total => ?_⟩
        · rw [show i + (m + 1) = i + 1 + m by omega]
          simpa [Family.cellRecs] using stopped
        · simp only [Family.cells, List.length_append] at total
          obtain ⟨rfl, rfl⟩ := whole (by simp; omega)
          exact ⟨rfl, rfl⟩

/-! ## The whole request -/

theorem relationExists_properties {reg : Registry} (wf : reg.WF base) :
    (reg.realize base).relationExists "recathonproperties" = reg.installed := by
  cases installed : reg.installed
  · rw [realize_not_installed wf installed]
    simp [Db.relationExists, wf.properties_free]
  · obtain ⟨_, recs⟩ := reg
    subst installed
    simp [realize_installed, Db.relationExists, Db.table?_append, wf.properties_free,
      Db.table?, List.find?_cons]

/-- A request that validates, from a realized state, completes its catalogue statements
and then runs the index-table CREATE and the builder. -/
theorem createRStmt_at_index {reg : Registry} (wf : reg.WF base) {recStmt : CreateRStmt}
    {method : RecMethod} (valid : validateCreateRStmt recStmt = .ok method) (clock : Nat → Timeval)
    (cursor : List (Tuple recStmt.attributes.length)) (ratings : BackendCall → Int) :
    createRStmt recStmt clock cursor ratings (reg.realize base) =
      runEvents (.exec (.createTable (recIndexName recStmt.relname) (indexColumns method recStmt.attributes)) ::
          createModels recStmt recStmt.attributes recStmt.attributes.length method clock cursor ratings)
        (((⟨true, reg.recommenders⟩ : Registry).realize base).modify "recmodelscatalogue"
          (·.addRow (catalogueRow recStmt recStmt.attributes.length))) := by
  rw [createRStmt_eq, valid]
  simp only [Except.bind]
  rw [relationExists_properties wf, createEvents, createPrelude_eq_dropLast, List.append_assoc,
    runEvents_append, catalogue_done wf]
  rfl

/-- A build request stopped after any number `k` of its statements, once
`<relname>Index` exists: the registry holds the new recommender with the cells of the
first `m` cursor rows, and after it stand the relations of the cell of row `m`, named
from the clock reading `clock m` that cell takes. A request that ran to its end
interrupted no cell and completed one cell per cursor row. -/
theorem createEvents_prefix {reg : Registry} (wf : reg.WF base) (recStmt : CreateRStmt)
    (method : RecMethod) (valid : getRecMethod recStmt.method = some method)
    (clock : Nat → Timeval) (cursor : List (Tuple recStmt.attributes.length))
    (ratings : BackendCall → Int) {k : Nat} {db : Db}
    (started : (createPrelude recStmt method reg.installed).length ≤ k)
    (stopped : runEvents ((createEvents recStmt method clock cursor ratings reg.installed).take k)
      (reg.realize base) = .ok db) :
    ∃ m ≤ (contextCells _ cursor).length, ∃ P, Interrupted base reg.recommenders
        ((⟨recStmt, method, []⟩ : Recommender).addCells ((familyOf recStmt method).cellRecs ratings
          recStmt.attributes clock 0 ((contextCells _ cursor).take m))) (clock m) P db ∧
      ((createEvents recStmt method clock cursor ratings reg.installed).length ≤ k →
        m = (contextCells _ cursor).length ∧ P = []) := by
  rcases runEvents_take_append stopped with ⟨early, -⟩ | ⟨-, db₁, prelude, stopped⟩
  · omega
  obtain ⟨fresh, rfl⟩ := prelude_done wf recStmt method prelude
  obtain ⟨start, wf₀⟩ := start_realize wf.install recStmt method valid fresh
  rw [start] at stopped
  simp only [createEvents, List.length_append] at stopped ⊢
  rw [createModels_eq_build, Family.build, List.append_assoc] at stopped
  set r₀ : Recommender := ⟨recStmt, method, []⟩
  rcases runEvents_take_append stopped with ⟨inStats, stopped⟩ | ⟨-, db₂, stats, stopped⟩
  · obtain rfl := runEvents_of_no_exec (fun s mem => by simpa using List.mem_of_mem_take mem) stopped
    refine ⟨0, Nat.zero_le _, [], by simpa [Family.cellRecs] using (⟨by simp, wf₀, by simp, by simp,
      by simp⟩ : Interrupted base reg.recommenders r₀ (clock 0) [] _), fun whole => ?_⟩
    simp only [createModels_eq_build, Family.build, List.length_append] at whole; omega
  obtain rfl := runEvents_of_no_exec (fun s mem => by simp at mem) stats
  rcases runEvents_take_append stopped with ⟨inCells, stopped⟩ | ⟨-, db₃, cells, stopped⟩
  · obtain ⟨m, le, P, state, -⟩ :=
      cells_prefix ratings recStmt.attributes clock (contextCells _ cursor) 0 _ r₀ wf₀ stopped
    refine ⟨m, le, P, by simpa using state, fun whole => ?_⟩
    simp only [createModels_eq_build, Family.build, List.length_append] at whole; omega
  · obtain ⟨m, -, P, state, whole⟩ :=
      cells_prefix ratings recStmt.attributes clock (contextCells _ cursor) 0
      (r₀.family.cells recStmt ratings recStmt.attributes clock 0 (contextCells _ cursor)).length r₀ wf₀
      (by rw [List.take_length]; exact cells)
    obtain ⟨rfl, rfl⟩ := whole le_rfl
    obtain rfl := runEvents_of_no_exec
      (fun s mem => exec_not_mem_cleanup _ _ s (List.mem_of_mem_take mem)) stopped
    exact ⟨_, le_rfl, [], by simpa using state, fun _ => ⟨rfl, rfl⟩⟩

/-- A build request that completes, from a realized state, leads to the realized state
with one more recommender, whose cells are the cursor's rows in order. -/
theorem createRStmt_realize {reg : Registry} (wf : reg.WF base) (recStmt : CreateRStmt)
    (clock : Nat → Timeval) (cursor : List (Tuple recStmt.attributes.length))
    (ratings : BackendCall → Int) {db' : Db}
    (ok : createRStmt recStmt clock cursor ratings (reg.realize base) = .ok db') :
    ∃ method, validateCreateRStmt recStmt = .ok method ∧
      db' = (⟨true, reg.recommenders ++ [⟨recStmt, method,
        (familyOf recStmt method).cellRecs ratings recStmt.attributes clock 0 (contextCells _ cursor)⟩]⟩ :
          Registry).realize base ∧
      (⟨true, reg.recommenders ++ [⟨recStmt, method,
        (familyOf recStmt method).cellRecs ratings recStmt.attributes clock 0 (contextCells _ cursor)⟩]⟩ :
          Registry).WF base := by
  rw [createRStmt_eq, relationExists_properties wf] at ok
  rcases valid : validateCreateRStmt recStmt with e | method
  · simp [valid, Except.bind] at ok
  rw [valid] at ok
  obtain ⟨m, -, P, state, whole⟩ := createEvents_prefix wf recStmt method
    (validateCreateRStmt_ok.1 valid) clock cursor ratings
    (k := (createEvents recStmt method clock cursor ratings reg.installed).length)
    (by simp [createEvents]) (by simpa using ok)
  obtain ⟨rfl, rfl⟩ := whole le_rfl
  rw [List.take_length] at state
  refine ⟨method, rfl, ?_, ?_⟩
  · simpa [Recommender.addCells] using state.eq
  · simpa [Recommender.addCells] using state.wf

end Registry

end Recathon
