import Recathon.Store.Build

/-!
# Recathon.Store.Destroy — a destroy request, seen on the registry

`dropRecommender_realize`: on a realized state, followed by any relations `extra` with
names of their own, a destroy request whose name folds to the `relname` of a
recommender removes exactly that recommender: every relation it owns is dropped, its
catalogue row is deleted, and every other relation, the other recommenders' included,
is left as it was. `dropRecommender_cases` is the converse: a destroy that completes on
a realized state is always of that kind.

The destroy request finds its recommender by comparing `<lower name>Index` with the
text the build stored, `<relname>Index`, so only a `relname` written in lower case can
be found (`Recathon.Lifecycle`).
-/

namespace Recathon

set_option autoImplicit false

/-! ## Dropping relations -/

/-- `drop table` for names of relations that all exist, each once: the relations of
those names are gone and every other one is kept, in order. -/
theorem runEvents_dropTables (names : List String) :
    ∀ db : Db, (names.map ident).Nodup → (∀ n ∈ names, ident n ∈ keysOf db.tables) →
      runEvents (names.map fun n => .exec (.dropTable n)) db =
        .ok ⟨db.tables.filter fun p => p.1 ∉ names.map ident⟩ := by
  induction names with
  | nil => intro db _ _; simp
  | cons n ns ih =>
      intro db nodup present
      rw [List.map_cons, List.nodup_cons] at nodup
      have rest : ∀ n' ∈ ns, ident n' ∈ keysOf (db.remove (ident n)).tables := by
        intro n' mem
        rw [Db.mem_keysOf_remove]
        exact ⟨present n' (List.mem_cons_of_mem _ mem),
          fun same => nodup.1 (same ▸ List.mem_map_of_mem ident mem)⟩
      rw [List.map_cons, runEvents_cons, step_exec,
        Db.exec_dropTable_of_mem (present n (List.mem_cons_self _ _))]
      simp only [Except.bind]
      rw [ih _ nodup.2 rest]
      simp only [Db.remove, List.filter_filter, List.map_cons, List.mem_cons, not_or]
      congr 2
      exact List.filter_congr fun p _ => by rw [Bool.and_comm, Bool.decide_and]

/-! ## Reading the catalogue -/

theorem catalogueTable_columns (recs : List Recommender) :
    (catalogueTable recs).columns =
      [⟨"recommenderid", .serial⟩, ⟨"recommenderindexname", .varchar⟩, ⟨"usertable", .varchar⟩,
        ⟨"itemtable", .varchar⟩, ⟨"ratingtable", .varchar⟩, ⟨"userkey", .varchar⟩,
        ⟨"itemkey", .varchar⟩, ⟨"ratingval", .varchar⟩, ⟨"method", .varchar⟩,
        ⟨"contextattributes", .integer⟩] := by
  simp [catalogueTable, catalogueColumns]; decide

theorem getTupleString_indexname (recs : List Recommender) (recStmt : CreateRStmt) (n : Nat) :
    getTupleString (catalogueTable recs) (catalogueRow recStmt n) "recommenderindexname" =
      .ok (recIndexName recStmt.relname) := by
  simp [getTupleString, Table.column?, catalogueTable_columns, List.findIdx?_cons, catalogueRow,
    Value.out]

theorem getTupleString_method (recs : List Recommender) (recStmt : CreateRStmt) (n : Nat) :
    getTupleString (catalogueTable recs) (catalogueRow recStmt n) "method" = .ok recStmt.method := by
  simp [getTupleString, Table.column?, catalogueTable_columns, List.findIdx?_cons, catalogueRow,
    Value.out]

/-! ## Reading an index table -/

theorem indexColumns_folded (method : RecMethod) (attList : List String) :
    (Table.empty (indexColumns method attList)).columns =
      [⟨"systemid", .serial⟩] ++
      (if method = .SVD then [⟨"recusermodelname", .varchar⟩, ⟨"recitemmodelname", .varchar⟩]
        else [⟨"recmodelname", .varchar⟩]) ++
      [⟨"recviewname", .varchar⟩, ⟨"updatecounter", .integer⟩, ⟨"ratingtotal", .integer⟩,
        ⟨"querycounter", .integer⟩, ⟨"updaterate", .real⟩, ⟨"queryrate", .real⟩,
        ⟨"levelone_timestamp", .timestamp⟩] ++
      attList.map fun colname => ⟨ident colname, .varchar⟩ := by
  cases method <;> simp [indexColumns] <;> decide

namespace Recommender

variable (r : Recommender)

/-- The cell node the destroy scan builds from a cell's index row. -/
def cellOf (c : CellRec) : Cell :=
  ⟨(r.modelNames c).head?, (r.modelNames c).tail.head?,
    some (recViewName r.recStmt.relname c.timestamp)⟩

theorem indexTable_columns :
    r.indexTable.columns = (Table.empty (indexColumns r.method r.recStmt.attributes)).columns := rfl

/-- The scan reads back from each index row the names the build wrote into it, choosing
the SVD columns exactly for an SVD recommender. -/
theorem readCell_row (valid : getRecMethod r.recStmt.method = some r.method) (c : CellRec) :
    readCell (r.recStmt.method == "svd") r.indexTable (r.row c) = .ok (r.cellOf c) := by
  rw [← name_of_getRecMethod valid]
  simp only [readCell, getTupleString, Table.column?]
  rw [indexTable_columns, indexColumns_folded]
  obtain ⟨recStmt, method, cells⟩ := r
  cases method <;>
    simp [RecMethod.name, List.findIdx?_cons, row, indexRow, modelNames, family, familyOf,
      itemFamily, userFamily, svdFamily, cellOf, Value.out, bind, Except.bind, pure, Except.pure]

/-- The drops of a cell read back: its model tables, then its view. -/
theorem cellOf_drops (c : CellRec) :
    (r.cellOf c).drops =
      (r.modelNames c ++ [recViewName r.recStmt.relname c.timestamp]).map
        fun n => .exec (.dropTable n) := by
  obtain ⟨recStmt, method, cells⟩ := r
  cases method <;>
    simp [Cell.drops, cellOf, modelNames, family, familyOf, itemFamily, userFamily, svdFamily]

theorem mapM_readCell_rows (valid : getRecMethod r.recStmt.method = some r.method) :
    ∀ cells : List CellRec, (cells.map r.row).mapM (readCell (r.recStmt.method == "svd") r.indexTable) =
      .ok (cells.map r.cellOf)
  | [] => rfl
  | c :: cells => by
      simp only [List.map_cons, List.mapM_cons, readCell_row r valid, mapM_readCell_rows valid cells]
      rfl

end Recommender

namespace Registry

variable {base : Db} {recs : List Recommender}

theorem table?_catalogue (wf : (⟨true, recs⟩ : Registry).WF base) (extra : List (String × Table)) :
    (⟨((⟨true, recs⟩ : Registry).realize base).tables ++ extra⟩ : Db).table? "recmodelscatalogue" =
      some (catalogueTable recs) := by
  rw [realize_installed]
  simp [Db.table?_append, wf.catalogue_free, Db.table?_cons_self]

theorem recommenderExists_realize (wf : (⟨true, recs⟩ : Registry).WF base)
    (extra : List (String × Table)) (recname : String) :
    recommenderExists ⟨((⟨true, recs⟩ : Registry).realize base).tables ++ extra⟩ recname = true ↔
      ∃ r ∈ recs, r.recStmt.relname = recname := by
  simp [recommenderExists, table?_catalogue wf, getTupleString_indexname, Except.toOption,
    recIndexName_inj]

theorem getRecInfo_realize (wf : (⟨true, recs⟩ : Registry).WF base) (extra : List (String × Table))
    {pre post : List Recommender} {r : Recommender} (split : recs = pre ++ r :: post)
    (first : ∀ r' ∈ pre, r'.recStmt.relname ≠ r.recStmt.relname) :
    getRecInfo ⟨((⟨true, recs⟩ : Registry).realize base).tables ++ extra⟩
      (recIndexName r.recStmt.relname) = .ok r.recStmt.method := by
  subst split
  have skip : (pre.map fun r' => catalogueRow r'.recStmt r'.recStmt.attributes.length).find?
      (fun row => (getTupleString (catalogueTable (pre ++ r :: post)) row
        "recommenderindexname").toOption == some (recIndexName r.recStmt.relname)) = none := by
    simpa [getTupleString_indexname, Except.toOption, recIndexName_inj] using first
  simp only [getRecInfo, table?_catalogue wf, catalogueTable_rows, List.map_append, List.map_cons,
    List.find?_append, skip, Option.none_or]
  simp [getTupleString_indexname, getTupleString_method, Except.toOption]

/-- A destroy request for a name no recommender has fails at the catalogue lookup, naming
the folded name. -/
theorem dropRecommender_missing (wf : (⟨true, recs⟩ : Registry).WF base) (extra : List (String × Table))
    {name : String} (unknown : ∀ r ∈ recs, r.recStmt.relname ≠ lower name) :
    dropRecommender name ⟨((⟨true, recs⟩ : Registry).realize base).tables ++ extra⟩ =
      .error ("recommender " ++ lower name ++ " does not exist") := by
  have missing : recommenderExists ⟨((⟨true, recs⟩ : Registry).realize base).tables ++ extra⟩
      (lower name) = false := by
    rw [← Bool.not_eq_true, recommenderExists_realize wf]
    rintro ⟨r, mem, same⟩
    exact unknown r mem same
  simp [dropRecommender, dropRecStmt, missing, Db.relationExists, table?_catalogue wf extra, bind,
    Except.bind, pure, Except.pure]

/-! ## Destroying a recommender -/

variable {pre post : List Recommender} {r : Recommender}

theorem nodup_middle_disjoint {l₁ l₂ l₃ : List String} (nodup : (l₁ ++ l₂ ++ l₃).Nodup) :
    l₂.Nodup ∧ (l₁ ++ l₃).Disjoint l₂ := by
  rw [List.nodup_append, List.nodup_append] at nodup
  exact ⟨nodup.1.2.1, List.disjoint_append_left.2
    ⟨nodup.1.2.2, fun _ h₃ h₂ => nodup.2.2 (List.mem_append_right _ h₂) h₃⟩⟩

theorem keysOf_own_extra (extra : List (String × Table)) :
    keysOf ((⟨true, pre ++ r :: post⟩ : Registry).own ++ extra) =
      ("recmodelscatalogue" :: "recathonproperties" :: keysOf (pre.flatMap Recommender.tables)) ++
        keysOf r.tables ++ (keysOf (post.flatMap Recommender.tables) ++ keysOf extra) := by
  simp [own, infra]

theorem realize_extra (base : Db) (extra : List (String × Table)) :
    ((⟨true, pre ++ r :: post⟩ : Registry).realize base).tables ++ extra =
      base.tables ++ (("recmodelscatalogue", catalogueTable (pre ++ r :: post)) ::
        ("recathonproperties", propertiesTable) :: pre.flatMap Recommender.tables) ++ r.tables ++
        (post.flatMap Recommender.tables ++ extra) := by
  simp [realize_installed]

/-- The facts about names a destroy relies on: the recommender's relations have names of
their own, used nowhere else in the database. -/
structure Owned (base : Db) (pre : List Recommender) (r : Recommender) (post : List Recommender)
    (extra : List (String × Table)) : Prop where
  nodup : (keysOf r.tables).Nodup
  others : ("recmodelscatalogue" :: "recathonproperties" :: keysOf (pre.flatMap Recommender.tables) ++
    (keysOf (post.flatMap Recommender.tables) ++ keysOf extra)).Disjoint (keysOf r.tables)
  base : (keysOf base.tables).Disjoint (keysOf r.tables)

theorem WF.owned (wf : (⟨true, pre ++ r :: post⟩ : Registry).WF base) (extra : List (String × Table))
    (nodup : (keysOf ((⟨true, pre ++ r :: post⟩ : Registry).own ++ extra)).Nodup) :
    Owned base pre r post extra := by
  rw [keysOf_own_extra] at nodup
  obtain ⟨rNodup, rOthers⟩ := nodup_middle_disjoint nodup
  refine ⟨rNodup, rOthers, fun k inBase mine => ?_⟩
  have := wf.fresh k (by simp [own, infra, mine])
  exact (Db.table?_eq_none _ _).1 this inBase

theorem Owned.indexKey_ne {base : Db} {extra : List (String × Table)}
    (owned : Owned base pre r post extra) {r' : Recommender} (mem : r' ∈ pre ++ post) :
    r'.indexKey ≠ r.indexKey := by
  intro same
  have mine : r.indexKey ∈ keysOf r.tables := by simp [Recommender.tables]
  have theirs : r.indexKey ∈ keysOf r'.tables := by simp [Recommender.tables, ← same]
  rcases List.mem_append.1 mem with inPre | inPost
  · exact owned.others (List.mem_cons_of_mem _ (List.mem_cons_of_mem _ (List.mem_append_left _
      ((mem_keysOf_flatMap _ _ _).2 ⟨r', inPre, theirs⟩)))) mine
  · exact owned.others (List.mem_cons_of_mem _ (List.mem_cons_of_mem _ (List.mem_append_right _
      (List.mem_append_left _ ((mem_keysOf_flatMap _ _ _).2 ⟨r', inPost, theirs⟩))))) mine

theorem Owned.relname_ne {base : Db} {extra : List (String × Table)}
    (owned : Owned base pre r post extra) {r' : Recommender} (mem : r' ∈ pre ++ post) :
    r'.recStmt.relname ≠ r.recStmt.relname := fun same =>
  owned.indexKey_ne mem (by simp [Recommender.indexKey, same])

/-- A recommender's index table is found under its name. -/
theorem Owned.table?_indexKey {base : Db} {extra : List (String × Table)}
    (owned : Owned base pre r post extra) :
    (⟨((⟨true, pre ++ r :: post⟩ : Registry).realize base).tables ++ extra⟩ : Db).table? r.indexKey =
      some r.indexTable := by
  have mine : r.indexKey ∈ keysOf r.tables := by simp [Recommender.tables]
  have outside : r.indexKey ∉ keysOf (base.tables ++ (("recmodelscatalogue", catalogueTable (pre ++ r :: post)) ::
      ("recathonproperties", propertiesTable) :: pre.flatMap Recommender.tables)) := by
    simp only [keysOf_append, keysOf_cons, List.mem_append, not_or]
    exact ⟨fun inBase => owned.base inBase mine,
      fun mem => owned.others (List.mem_append_left _ mem) mine⟩
  rw [realize_extra, List.append_assoc, Db.table?_append, (Db.table?_eq_none _ _).2 outside]
  simp [Recommender.tables, Db.table?_cons_self]

/-- The names of a cell's relations, as its index row stores them. -/
def cellNames (r : Recommender) (c : CellRec) : List String :=
  r.modelNames c ++ [recViewName r.recStmt.relname c.timestamp]

theorem map_ident_cellNames (r : Recommender) (c : CellRec) :
    (cellNames r c).map ident = keysOf (r.cellTables c) := by
  simp [cellNames, Recommender.modelNames, Recommender.cellTables, Family.cellKeys]

/-- The reading phase on a realized state: it finds the recommender, reads its method and
its cells, and plans to drop every cell's relations, then the index, then the row; it
warns only when the recommender has no cell. -/
theorem dropRecStmt_realize (wf : (⟨true, pre ++ r :: post⟩ : Registry).WF base) {name : String}
    (named : lower name = r.recStmt.relname) {extra : List (String × Table)}
    (owned : Owned base pre r post extra) :
    dropRecStmt name ⟨((⟨true, pre ++ r :: post⟩ : Registry).realize base).tables ++ extra⟩ =
      .ok ⟨((r.cells.flatMap (cellNames r)).map fun n => .exec (.dropTable n)) ++
          [.exec (.dropTable (r.recStmt.relname ++ "index")),
            .exec (.deleteWhere "recmodelscatalogue" "recommenderindexname"
              (recIndexName r.recStmt.relname))],
        if r.cells = [] then ["failed to find cells for recommender " ++ r.recStmt.relname]
        else []⟩ := by
  have valid := wf.validated r (by simp)
  have found := (recommenderExists_realize wf extra r.recStmt.relname).2 ⟨r, by simp, rfl⟩
  have info := getRecInfo_realize wf extra rfl fun r' mem => owned.relname_ne (List.mem_append_left _ mem)
  have catalogue := table?_catalogue wf extra
  have index : (⟨((⟨true, pre ++ r :: post⟩ : Registry).realize base).tables ++ extra⟩ : Db).scan
      (r.recStmt.relname ++ "index") = .ok r.indexTable := by
    rw [Db.scan, ident_append_index, show ident (r.recStmt.relname ++ "Index") = r.indexKey from rfl,
      owned.table?_indexKey]
  have scan : scanLoop (r.recStmt.method == "svd") r.indexTable ⟨[], none, none⟩ r.indexTable.rows =
      .ok (listState (r.cells.map r.cellOf)) := by
    rw [show (⟨[], none, none⟩ : ScanState) = listState [] from rfl, scanLoop_eq,
      Recommender.indexTable_rows, r.mapM_readCell_rows valid]
    rfl
  simp only [dropRecStmt, named, Db.relationExists, catalogue, found, info, index, scan, bind,
    Except.bind, Option.isSome_some, Bool.not_true, Bool.false_eq_true, ↓reduceIte,
    dropLoop_listState]
  simp [pure, Except.pure, Recommender.cellOf_drops, List.flatMap_map, List.map_flatMap, cellNames,
    listState]

theorem catalogueTable_deleteRows
    (others : ∀ r' ∈ pre ++ post, r'.recStmt.relname ≠ r.recStmt.relname) :
    (catalogueTable (pre ++ r :: post)).deleteRows 1 (recIndexName r.recStmt.relname) =
      catalogueTable (pre ++ post) := by
  have keep : ∀ rs : List Recommender, (∀ r' ∈ rs, r'.recStmt.relname ≠ r.recStmt.relname) →
      (rs.map fun r' => catalogueRow r'.recStmt r'.recStmt.attributes.length).filter
        (fun row => row.get? 1 != some (.text (recIndexName r.recStmt.relname))) =
      rs.map fun r' => catalogueRow r'.recStmt r'.recStmt.attributes.length := by
    intro rs differ
    rw [List.filter_eq_self]
    intro row mem
    obtain ⟨r', mem', rfl⟩ := List.mem_map.1 mem
    simpa [catalogueRow, recIndexName_inj] using differ r' mem'
  simp only [Table.deleteRows, catalogueTable, List.map_append, List.map_cons, List.filter_append,
    List.filter_cons]
  rw [keep pre fun r' mem => others r' (List.mem_append_left _ mem),
    keep post fun r' mem => others r' (List.mem_append_right _ mem)]
  simp [catalogueRow]

@[simp] theorem ident_recmodelscatalogue : ident "recmodelscatalogue" = "recmodelscatalogue" := by
  decide
@[simp] theorem ident_recommenderindexname :
    ident "recommenderindexname" = "recommenderindexname" := by decide

/-- The database between the two phases of a destroy: the recommender's relations are gone
and its catalogue row is still there. -/
def dropped (base : Db) (pre : List Recommender) (r : Recommender) (post : List Recommender)
    (extra : List (String × Table)) : Db :=
  ⟨base.tables ++ (("recmodelscatalogue", catalogueTable (pre ++ r :: post)) ::
    ("recathonproperties", propertiesTable) :: pre.flatMap Recommender.tables) ++
    (post.flatMap Recommender.tables ++ extra)⟩

/-- The drop phase on a realized state: dropping every cell's relations and then
`<relname>index` removes exactly the recommender's relations. -/
theorem dropTables_realize {extra : List (String × Table)} (owned : Owned base pre r post extra) :
    runEvents (((r.cells.flatMap (cellNames r)).map fun n => .exec (.dropTable n)) ++
        [.exec (.dropTable (r.recStmt.relname ++ "index"))])
      ⟨((⟨true, pre ++ r :: post⟩ : Registry).realize base).tables ++ extra⟩ =
      .ok (dropped base pre r post extra) := by
  let names := r.cells.flatMap (cellNames r) ++ [r.recStmt.relname ++ "index"]
  have perm : List.Perm (names.map ident) (keysOf r.tables) := by
    simp only [names, List.map_append, List.map_flatMap, map_ident_cellNames, List.map_cons,
      List.map_nil, ident_append_index, Recommender.tables, keysOf_cons, keysOf_flatMap]
    exact List.perm_append_singleton _ _
  have gone : ∀ p : String × Table, p.1 ∈ names.map ident ↔ p.1 ∈ keysOf r.tables :=
    fun p => perm.mem_iff
  have kept : ∀ {l : List (String × Table)}, (keysOf l).Disjoint (keysOf r.tables) →
      l.filter (fun p => decide (p.1 ∉ names.map ident)) = l := fun disjoint =>
    List.filter_eq_self.2 fun p mem => by
      simpa [gone] using fun mine => disjoint (List.mem_map_of_mem Prod.fst mem) mine
  have mineGone : r.tables.filter (fun p => decide (p.1 ∉ names.map ident)) = [] :=
    List.filter_eq_nil_iff.2 fun p mem => by
      simpa only [decide_eq_true_eq, not_not, gone] using List.mem_map_of_mem Prod.fst mem
  have front := owned.others
  simp only [List.cons_append, List.disjoint_cons_left, List.disjoint_append_left] at front
  rw [show ((r.cells.flatMap (cellNames r)).map fun n => Event.exec (.dropTable n)) ++
      [.exec (.dropTable (r.recStmt.relname ++ "index"))] = names.map fun n => .exec (.dropTable n)
      by simp [names], realize_extra,
    runEvents_dropTables names _ (perm.nodup_iff.2 owned.nodup)
      (fun n mem => by simp [(gone (ident n, propertiesTable)).1 (List.mem_map_of_mem ident mem)])]
  rw [List.filter_append, List.filter_append, List.filter_append, kept owned.base,
    kept (by simpa only [keysOf_cons, List.disjoint_cons_left] using ⟨front.1, front.2.1, front.2.2.1⟩),
    mineGone, kept (by simpa only [keysOf_append, List.disjoint_append_left] using front.2.2.2),
    List.append_nil]
  rfl

/-- The catalogue phase: the DELETE removes the recommender's row, which leaves the
registry without the recommender. -/
theorem deleteCatalogue_realize (wf : (⟨true, pre ++ r :: post⟩ : Registry).WF base)
    {extra : List (String × Table)}
    (nodup : (keysOf ((⟨true, pre ++ r :: post⟩ : Registry).own ++ extra)).Nodup) :
    runEvents [.exec (.deleteWhere "recmodelscatalogue" "recommenderindexname"
        (recIndexName r.recStmt.relname))] (dropped base pre r post extra) =
      .ok ⟨((⟨true, pre ++ post⟩ : Registry).realize base).tables ++ extra⟩ := by
  have owned := wf.owned extra nodup
  have catBase := (Db.table?_eq_none _ _).1 wf.catalogue_free
  have catRest : "recmodelscatalogue" ∉ keysOf (("recathonproperties", propertiesTable) ::
      (pre.flatMap Recommender.tables ++ (post.flatMap Recommender.tables ++ extra))) := by
    rw [keysOf_own_extra, List.cons_append, List.cons_append, List.nodup_cons] at nodup
    have := nodup.1
    simp only [keysOf_cons, keysOf_append, List.mem_cons, List.mem_append, not_or] at this ⊢
    exact ⟨this.1.1.1, this.1.1.2, this.2.1, this.2.2⟩
  have found : (dropped base pre r post extra).table? (ident "recmodelscatalogue") =
      some (catalogueTable (pre ++ r :: post)) := by
    rw [ident_recmodelscatalogue, dropped, List.append_assoc, Db.table?_append,
      (Db.table?_eq_none _ _).2 catBase]
    simp [Db.table?_cons_self]
  have column : (catalogueTable (pre ++ r :: post)).column? (ident "recommenderindexname") = some 1 := by
    rw [ident_recommenderindexname, Table.column?, catalogueTable_columns]; rfl
  rw [runEvents_cons, step_exec, Db.exec_deleteWhere_of found column]
  simp only [Except.bind, runEvents_nil, ident_recmodelscatalogue, dropped, List.append_assoc,
    List.cons_append]
  rw [Db.modify_append, Db.modify_of_not_mem catBase, Db.modify_cons_self,
    Db.modify_of_not_mem catRest, catalogueTable_deleteRows fun r' mem => owned.relname_ne mem]
  simp [realize_installed]

/-- A destroy request on a realized state, followed by relations `extra` with names of
their own, for a name that folds to a recommender's `relname`: it drops exactly that
recommender's relations and deletes exactly its catalogue row. -/
theorem dropRecommender_realize (wf : (⟨true, pre ++ r :: post⟩ : Registry).WF base)
    {name : String} (named : lower name = r.recStmt.relname) (extra : List (String × Table))
    (nodup : (keysOf ((⟨true, pre ++ r :: post⟩ : Registry).own ++ extra)).Nodup) :
    dropRecommender name ⟨((⟨true, pre ++ r :: post⟩ : Registry).realize base).tables ++ extra⟩ =
      .ok ⟨((⟨true, pre ++ post⟩ : Registry).realize base).tables ++ extra⟩ := by
  have owned := wf.owned extra nodup
  rw [dropRecommender, dropRecStmt_realize wf named owned]
  simp only [bind, Except.bind]
  rw [show ∀ (es : List Event) (e f : Event), es ++ [e, f] = (es ++ [e]) ++ [f] from
      fun _ _ _ => by simp, runEvents_append, dropTables_realize owned]
  exact deleteCatalogue_realize wf nodup

/-- A reading phase that succeeds on a realized state has found one of its recommenders. -/
theorem dropRecStmt_cases {reg : Registry} (wf : reg.WF base) {name : String} {plan : DropPlan}
    (read : dropRecStmt name (reg.realize base) = .ok plan) :
    ∃ pre r post, reg.recommenders = pre ++ r :: post ∧ lower name = r.recStmt.relname ∧
      plan = ⟨((r.cells.flatMap (cellNames r)).map fun n => .exec (.dropTable n)) ++
          [.exec (.dropTable (r.recStmt.relname ++ "index")),
            .exec (.deleteWhere "recmodelscatalogue" "recommenderindexname"
              (recIndexName r.recStmt.relname))],
        if r.cells = [] then ["failed to find cells for recommender " ++ r.recStmt.relname]
        else []⟩ := by
  have found : recommenderExists (reg.realize base) (lower name) = true := by
    cases exists_ : recommenderExists (reg.realize base) (lower name)
    · cases catalogue : (reg.realize base).relationExists "recmodelscatalogue" <;>
        simp [dropRecStmt, exists_, catalogue, bind, Except.bind, pure, Except.pure] at read
    · rfl
  obtain ⟨installed, recs⟩ := reg
  cases installed
  · simp [realize_not_installed wf rfl, recommenderExists, wf.catalogue_free] at found
  have realized : (⟨true, recs⟩ : Registry).realize base =
      ⟨((⟨true, recs⟩ : Registry).realize base).tables ++ []⟩ := by simp
  rw [realized] at found read
  obtain ⟨r, mem, named⟩ := (recommenderExists_realize wf [] _).1 found
  obtain ⟨pre, post, rfl⟩ := List.append_of_mem mem
  rw [dropRecStmt_realize wf named.symm (wf.owned [] (by simpa using wf.nodup))] at read
  cases read
  exact ⟨pre, r, post, rfl, named.symm, rfl⟩

/-- A destroy request that completes on a realized state names one of its recommenders
and removes exactly that one. -/
theorem dropRecommender_cases {reg : Registry} (wf : reg.WF base) {name : String} {db' : Db}
    (ok : dropRecommender name (reg.realize base) = .ok db') :
    ∃ pre r post, reg.recommenders = pre ++ r :: post ∧ lower name = r.recStmt.relname ∧
      db' = (⟨true, pre ++ post⟩ : Registry).realize base := by
  obtain ⟨plan, read⟩ : ∃ plan, dropRecStmt name (reg.realize base) = .ok plan := by
    cases read : dropRecStmt name (reg.realize base) with
    | error e => simp [dropRecommender, read, bind, Except.bind] at ok
    | ok plan => exact ⟨plan, rfl⟩
  obtain ⟨pre, r, post, split, named, -⟩ := dropRecStmt_cases wf read
  obtain ⟨installed, recs⟩ := reg
  simp only at split
  subst split
  obtain rfl : installed = true := wf.installed (by simp)
  have realized : (⟨true, pre ++ r :: post⟩ : Registry).realize base =
      ⟨((⟨true, pre ++ r :: post⟩ : Registry).realize base).tables ++ []⟩ := by simp
  rw [realized, dropRecommender_realize wf named [] (by simpa using wf.nodup)] at ok
  cases ok
  exact ⟨pre, r, post, rfl, named, by simp⟩

end Registry

end Recathon
