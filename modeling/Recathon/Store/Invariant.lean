import Recathon.Store.Lifecycle

/-!
# Recathon.Store.Invariant — the store invariant over every run

`Reachable base db`: `db` is reached from `base` by completed build and destroy
requests, in any number and order, for any names. `reachable_realize` is the run lemma:
every reachable database is `reg.realize base` for a well-formed registry, because the
start is (`WF.empty`), a build keeps it so (`createRStmt_realize`) and so does a destroy
(`dropRecommender_cases`, `WF.erase`).

On a realized state the invariant reads, on the database itself (`StoreInvariant`):

* the catalogue's `recommenderIndexName` values are the recommenders' index names, one
  row per recommender, and each names an existing index table of its own;
* every model and view table an index row names exists, and the relations besides
  `base` and the two infrastructure tables are exactly the index tables and the tables
  the index rows name, each once: nothing is orphaned and nothing is shared;
* a destroy removes exactly one recommender and leaves the others as they were;
* `RecathonProperties`, once it exists, holds exactly its default row.
-/

namespace Recathon

set_option autoImplicit false

/-- The `recommenderIndexName` of every catalogue row, in row order. -/
def catalogueIndexNames (db : Db) : List String :=
  match db.table? "recmodelscatalogue" with
  | none => []
  | some t => t.rows.filterMap fun row => (getTupleString t row "recommenderindexname").toOption

/-- The databases completed requests reach from `base`. -/
inductive Reachable (base : Db) : Db → Prop
  | init : Reachable base base
  | build {db db' : Db} (recStmt : CreateRStmt) (clock : Nat → Timeval)
      (cursor : List (Tuple recStmt.attributes.length)) (ratings : BackendCall → Int) :
      Reachable base db → createRStmt recStmt clock cursor ratings db = .ok db' → Reachable base db'
  | destroy {db db' : Db} (name : String) :
      Reachable base db → dropRecommender name db = .ok db' → Reachable base db'

/-- The store invariant of a database `db` over `base`, with `reg` the recommenders it
holds. -/
structure StoreInvariant (base : Db) (reg : Registry) (db : Db) : Prop where
  /-- (a) one catalogue row per recommender, naming its own index table -/
  catalogue : catalogueIndexNames db = reg.recommenders.map fun r => recIndexName r.recStmt.relname
  index_distinct : (reg.recommenders.map Recommender.indexKey).Nodup
  index_exists : ∀ r ∈ reg.recommenders, db.table? r.indexKey = some r.indexTable
  /-- (b) the tables an index row names exist -/
  cells_exist : ∀ r ∈ reg.recommenders, ∀ c ∈ r.cells, ∀ n ∈ Registry.cellNames r c,
    ident n ∈ keysOf db.tables
  /-- (b) every other relation is an index table or named by exactly one index row -/
  owned : keysOf db.tables = keysOf base.tables ++ keysOf reg.infra ++
    reg.recommenders.flatMap fun r =>
      r.indexKey :: r.cells.flatMap fun c => (Registry.cellNames r c).map ident
  owned_once : (keysOf reg.infra ++ reg.recommenders.flatMap fun r =>
      r.indexKey :: r.cells.flatMap fun c => (Registry.cellNames r c).map ident).Nodup
  /-- (b) a destroy touches one recommender only -/
  destroy_frame : ∀ name db', dropRecommender name db = .ok db' →
    ∃ pre r post, reg.recommenders = pre ++ r :: post ∧
      db' = (⟨true, pre ++ post⟩ : Registry).realize base
  /-- (c) the properties table keeps its default row -/
  properties : ∀ t, db.table? "recathonproperties" = some t → t.rows = [propertiesRow]

namespace Registry

variable {base : Db} {pre post : List Recommender} {r : Recommender}

/-- Removing a recommender keeps a registry well formed. -/
theorem WF.erase {installed : Bool} (wf : (⟨installed, pre ++ r :: post⟩ : Registry).WF base) :
    (⟨true, pre ++ post⟩ : Registry).WF base := by
  have installed_true : installed = true := wf.installed (by simp)
  subst installed_true
  have sub : List.Sublist (keysOf (⟨true, pre ++ post⟩ : Registry).own)
      (keysOf (⟨true, pre ++ r :: post⟩ : Registry).own) := by
    simp only [own, infra, if_true, List.flatMap_append, List.flatMap_cons, keysOf_append,
      ← List.append_assoc]
    exact ((List.sublist_append_left _ _).append (List.Sublist.refl _))
  exact ⟨fun _ => rfl, wf.catalogue_free, wf.properties_free, wf.nodup.sublist sub,
    fun k mem => wf.fresh k (sub.subset mem),
    fun r' mem => wf.validated r' (by simp at mem ⊢; tauto)⟩

theorem indexKeys_sublist (recs : List Recommender) :
    List.Sublist (recs.map Recommender.indexKey) (keysOf (recs.flatMap Recommender.tables)) := by
  induction recs with
  | nil => simp
  | cons r recs ih =>
      simp only [List.map_cons, List.flatMap_cons, Recommender.tables, List.cons_append,
        keysOf_cons, keysOf_append]
      exact ih.trans (List.sublist_append_right _ _) |>.cons₂ _

theorem indexNames_rows (recs rows : List Recommender) :
    (rows.map fun r => catalogueRow r.recStmt r.recStmt.attributes.length).filterMap
        (fun row => (getTupleString (catalogueTable recs) row "recommenderindexname").toOption) =
      rows.map fun r => recIndexName r.recStmt.relname := by
  induction rows with
  | nil => rfl
  | cons r rows ih =>
      simp only [List.map_cons, List.filterMap_cons, getTupleString_indexname, ih]; rfl

/-- The keys of a realized state, read as the index tables and the names in index rows. -/
theorem keysOf_realize (reg : Registry) :
    keysOf (reg.realize base).tables = keysOf base.tables ++ keysOf reg.infra ++
      reg.recommenders.flatMap fun r =>
        r.indexKey :: r.cells.flatMap fun c => (cellNames r c).map ident := by
  simp [realize, own, keysOf_flatMap, Recommender.tables, map_ident_cellNames]

theorem WF.storeInvariant {reg : Registry} (wf : reg.WF base) :
    StoreInvariant base reg (reg.realize base) where
  catalogue := by
    obtain ⟨installed, recs⟩ := reg
    cases installed
    · obtain rfl : recs = [] := by
        by_contra some; exact Bool.false_ne_true (wf.installed some)
      simp [catalogueIndexNames, realize_not_installed wf rfl, wf.catalogue_free]
    · have found := table?_catalogue wf []
      rw [List.append_nil] at found
      simp only [catalogueIndexNames, found, catalogueTable_rows]
      exact indexNames_rows recs recs
  index_distinct := wf.nodup.sublist <| (indexKeys_sublist _).trans <| by
    simp only [own, keysOf_append]; exact List.sublist_append_right _ _
  index_exists r mem := by
    obtain ⟨installed, recs⟩ := reg
    obtain ⟨pre, post, rfl⟩ := List.append_of_mem mem
    have installed_true : installed = true := wf.installed (by simp)
    subst installed_true
    have found := (wf.owned [] (by simpa using wf.nodup)).table?_indexKey
    rwa [List.append_nil] at found
  cells_exist r mem c cell n named := by
    rw [keysOf_realize]
    exact List.mem_append_right _ (List.mem_flatMap.2 ⟨r, mem, List.mem_cons_of_mem _
      (List.mem_flatMap.2 ⟨c, cell, List.mem_map_of_mem ident named⟩)⟩)
  owned := keysOf_realize reg
  owned_once := by
    simpa [own, keysOf_flatMap, Recommender.tables, map_ident_cellNames] using wf.nodup
  destroy_frame _ _ destroyed := by
    obtain ⟨pre, r, post, split, -, rfl⟩ := dropRecommender_cases wf destroyed
    exact ⟨pre, r, post, split, rfl⟩
  properties t found := by
    obtain ⟨installed, recs⟩ := reg
    cases installed
    · simp [realize_not_installed wf rfl, wf.properties_free] at found
    · rw [realize_installed, Db.table?_append, Db.table?_cons_of_ne (by decide),
        Db.table?_cons_self] at found
      simp [wf.properties_free] at found
      subst found; rfl

/-- Every reachable database is a well-formed registry over `base`. -/
theorem reachable_realize {db : Db} (catalogue : base.table? "recmodelscatalogue" = none)
    (properties : base.table? "recathonproperties" = none) (reach : Reachable base db) :
    ∃ reg : Registry, reg.WF base ∧ db = reg.realize base := by
  induction reach with
  | init => exact ⟨⟨false, []⟩, WF.empty base catalogue properties, by simp [realize, own, infra]⟩
  | build recStmt clock cursor ratings _ built ih =>
      obtain ⟨reg, wf, rfl⟩ := ih
      obtain ⟨method, -, rfl, wf'⟩ := createRStmt_realize wf recStmt clock cursor ratings built
      exact ⟨_, wf', rfl⟩
  | destroy name _ destroyed ih =>
      obtain ⟨reg, wf, rfl⟩ := ih
      obtain ⟨pre, r, post, split, -, rfl⟩ := dropRecommender_cases wf destroyed
      obtain ⟨installed, recs⟩ := reg
      subst split
      exact ⟨_, wf.erase, rfl⟩

end Registry

end Recathon
