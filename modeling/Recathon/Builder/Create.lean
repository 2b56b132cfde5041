import Recathon.Builder.Skeleton

/-!
# Recathon.Builder.Create — `case T_CreateRStmt`

The build request: ensure `RecModelsCatalogue` exists and append the recommender's
row to it, create `RecathonProperties` with its default row if it is missing, create
`<relname>Index`, and dispatch on the method to one of the three builders.

`createRStmt_eq` turns the request into one event sequence, `createEvents`, with the
properties check answered on the state the request starts from; later modules reason
about prefixes of that sequence. `createModels_eq_build` is the dispatch seen through
the skeleton.

`createRStmt_without_cells_fails`: with context attributes and a cursor that yields no
row, no build completes. The cleanup after the empty loop frees `attvalues[0]`, which
no iteration wrote (`createModels_without_cells`).
-/

namespace Recathon

set_option autoImplicit false

/-- The columns of `RecModelsCatalogue`. -/
def catalogueColumns : List Column :=
  [⟨"recommenderId", .serial⟩, ⟨"recommenderIndexName", .varchar⟩, ⟨"userTable", .varchar⟩,
    ⟨"itemTable", .varchar⟩, ⟨"ratingTable", .varchar⟩, ⟨"userKey", .varchar⟩,
    ⟨"itemKey", .varchar⟩, ⟨"ratingVal", .varchar⟩, ⟨"method", .varchar⟩,
    ⟨"contextattributes", .integer⟩]

/-- `(default,'%sIndex','%s','%s','%s','%s','%s','%s','%s',%d)` -/
def catalogueRow (recStmt : CreateRStmt) (numatts : Nat) : Row :=
  [.default, .text (recIndexName recStmt.relname), .text recStmt.usertable,
    .text recStmt.itemtable, .text recStmt.ratingtable, .text recStmt.userkey,
    .text recStmt.itemkey, .text recStmt.ratingval, .text recStmt.method, .int numatts]

/-- The columns of `RecathonProperties`. -/
def propertiesColumns : List Column :=
  [⟨"update_threshold", .real⟩, ⟨"tail_length", .integer⟩, ⟨"verbose_queries", .boolean⟩]

/-- `VALUES (0.5, 0, true)` -/
def propertiesRow : Row := [.real 5 1, .int 0, .bool true]

/-- The columns of `<relname>Index`: two model-name columns for SVD, one otherwise,
then one `VARCHAR` column per context attribute. -/
def indexColumns (method : RecMethod) (attList : List String) : List Column :=
  [⟨"systemId", .serial⟩] ++
    (if method = .SVD then [⟨"recUserModelName", .varchar⟩, ⟨"recItemModelName", .varchar⟩]
      else [⟨"recModelName", .varchar⟩]) ++
    [⟨"recViewName", .varchar⟩, ⟨"updateCounter", .integer⟩, ⟨"ratingTotal", .integer⟩,
      ⟨"queryCounter", .integer⟩, ⟨"updateRate", .real⟩, ⟨"queryRate", .real⟩,
      ⟨"levelone_timestamp", .timestamp⟩] ++
    attList.map fun colname => ⟨colname, .varchar⟩

/-- The `switch (method)` over the builders. -/
def createModels (recStmt : CreateRStmt) (attList : List String) (numatts : Nat)
    (method : RecMethod) (clock : Nat → Timeval) (cursor : List (Tuple numatts))
    (ratings : BackendCall → Int) : List Event :=
  match method with
  | .itemCosCF | .itemPearCF => itemSimilarity recStmt attList numatts method clock cursor ratings
  | .userCosCF | .userPearCF => userSimilarity recStmt attList numatts method clock cursor ratings
  | .SVD => SVDSimilarity recStmt attList numatts clock cursor ratings

/-- `case T_CreateRStmt` of `standard_ProcessUtility`. -/
def createRStmt (recStmt : CreateRStmt) (clock : Nat → Timeval)
    (cursor : List (Tuple recStmt.attributes.length)) (ratings : BackendCall → Int) (db : Db) :
    Except String Db := do
  let method ← validateCreateRStmt recStmt
  let attList := recStmt.attributes
  let numatts := attList.length
  let db ← db.exec (.createTableIfNotExists "RecModelsCatalogue" catalogueColumns)
  let db ← db.exec (.insert "RecModelsCatalogue" (catalogueRow recStmt numatts))
  let db ← if db.relationExists "recathonproperties" then pure db else do
    let db ← db.exec (.createTable "RecathonProperties" propertiesColumns)
    db.exec (.insert "RecathonProperties" propertiesRow)
  let db ← db.exec (.createTable (recIndexName recStmt.relname) (indexColumns method attList))
  runEvents (createModels recStmt attList numatts method clock cursor ratings) db

@[simp] theorem ident_catalogue : ident "RecModelsCatalogue" = "recmodelscatalogue" := by decide
@[simp] theorem ident_properties : ident "RecathonProperties" = "recathonproperties" := by decide

/-- The family the dispatch selects. -/
def familyOf (recStmt : CreateRStmt) (method : RecMethod) : Family :=
  match method with
  | .itemCosCF | .itemPearCF => itemFamily recStmt method
  | .userCosCF | .userPearCF => userFamily recStmt method
  | .SVD => svdFamily recStmt

/-- The catalogue statements of a build request, in order. `propertiesExist` is the
answer of the `relationExists` check. -/
def createPrelude (recStmt : CreateRStmt) (method : RecMethod) (propertiesExist : Bool) :
    List Event :=
  [.exec (.createTableIfNotExists "RecModelsCatalogue" catalogueColumns),
    .exec (.insert "RecModelsCatalogue" (catalogueRow recStmt recStmt.attributes.length))] ++
  (if propertiesExist then []
    else [.exec (.createTable "RecathonProperties" propertiesColumns),
      .exec (.insert "RecathonProperties" propertiesRow)]) ++
  [.exec (.createTable (recIndexName recStmt.relname) (indexColumns method recStmt.attributes))]

/-- The index-table CREATE is the last catalogue statement. -/
theorem createPrelude_eq_dropLast (recStmt : CreateRStmt) (method : RecMethod)
    (propertiesExist : Bool) :
    createPrelude recStmt method propertiesExist = (createPrelude recStmt method propertiesExist).dropLast ++
      [.exec (.createTable (recIndexName recStmt.relname) (indexColumns method recStmt.attributes))] := by
  rw [createPrelude, List.dropLast_concat]

/-- Everything a build request does after validation, in order. -/
def createEvents (recStmt : CreateRStmt) (method : RecMethod) (clock : Nat → Timeval)
    (cursor : List (Tuple recStmt.attributes.length)) (ratings : BackendCall → Int)
    (propertiesExist : Bool) : List Event :=
  createPrelude recStmt method propertiesExist ++
    createModels recStmt recStmt.attributes recStmt.attributes.length method clock cursor ratings

theorem createRStmt_eq (recStmt : CreateRStmt) (clock : Nat → Timeval)
    (cursor : List (Tuple recStmt.attributes.length)) (ratings : BackendCall → Int) (db : Db) :
    createRStmt recStmt clock cursor ratings db =
      (validateCreateRStmt recStmt).bind fun method =>
        runEvents (createEvents recStmt method clock cursor ratings
          (db.relationExists "recathonproperties")) db := by
  unfold createRStmt
  rcases validateCreateRStmt recStmt with e | method
  · rfl
  rcases h₁ : db.exec (.createTableIfNotExists "RecModelsCatalogue" catalogueColumns) with e | db₁
  · simp [createEvents, createPrelude, Db.step, h₁, Except.bind, bind]
  rcases h₂ : db₁.exec (.insert "RecModelsCatalogue" (catalogueRow recStmt recStmt.attributes.length))
    with e | db₂
  · simp [createEvents, createPrelude, Db.step, h₁, h₂, Except.bind, bind]
  have same : db₂.relationExists "recathonproperties" = db.relationExists "recathonproperties" := by
    obtain ⟨t, -, -, rfl⟩ := Db.exec_insert h₂
    rcases Db.exec_createTableIfNotExists h₁ with ⟨-, rfl⟩ | ⟨-, rfl⟩ <;>
      simp [Db.relationExists]
  cases hp : db.relationExists "recathonproperties" <;>
    simp [createEvents, createPrelude, Db.step, h₁, h₂, hp, same, Except.bind, bind, pure,
      Except.pure]

theorem createModels_eq_build (recStmt : CreateRStmt) (attList : List String) (method : RecMethod)
    (clock : Nat → Timeval) (cursor : List (Tuple attList.length)) (ratings : BackendCall → Int) :
    createModels recStmt attList attList.length method clock cursor ratings =
      (familyOf recStmt method).build recStmt ratings attList clock (contextCells _ cursor) := by
  cases method <;>
    simp only [createModels, familyOf, itemSimilarity_eq_build, userSimilarity_eq_build,
      SVDSimilarity_eq_build]

/-- With context attributes and no cursor row, the builder's events fail from every
state: after the statistics calls, the cleanup frees `attnames[0]` and then
`attvalues[0]`, which no iteration wrote. -/
theorem createModels_without_cells (recStmt : CreateRStmt) (a : String) (as : List String)
    (method : RecMethod) (clock : Nat → Timeval) (ratings : BackendCall → Int) (db : Db) :
    runEvents (createModels recStmt (a :: as) (a :: as).length method clock [] ratings) db =
      .error "pfree of an uninitialised pointer" := by
  rw [createModels_eq_build]
  simp only [Family.build, contextCells, Family.cells, cleanup, List.getLast?_nil,
    List.length_cons, List.replicate_succ, List.zip_cons_cons, List.flatMap_cons,
    List.append_nil, ← List.map_map, runEvents_calls]
  simp [Db.step, Except.bind]

/-- A build with context attributes over an empty cursor never completes. -/
theorem createRStmt_no_cells {recStmt : CreateRStmt} (context : recStmt.attributes ≠ [])
    (clock : Nat → Timeval) (ratings : BackendCall → Int) (db db' : Db) :
    createRStmt recStmt clock [] ratings db ≠ .ok db' := by
  obtain ⟨relname, usertable, itemtable, ratingtable, userkey, itemkey, ratingval, method,
    _ | ⟨a, as⟩⟩ := recStmt
  · exact absurd rfl context
  rw [createRStmt_eq]
  rcases validateCreateRStmt ⟨relname, usertable, itemtable, ratingtable, userkey, itemkey,
    ratingval, method, a :: as⟩ with e | method
  · simp [Except.bind]
  · simp only [Except.bind, createEvents, runEvents_append]
    rcases runEvents (createPrelude _ method _) db with e | db₁
    · simp
    · simp only [createModels_without_cells]
      simp

theorem contextCells_ne_nil {n : Nat} {cursor : List (Tuple n)} (reads : n = 0 ∨ cursor ≠ []) :
    contextCells n cursor ≠ [] := by
  cases n <;> simp_all [contextCells]

/-- A completed build read at least one cell. -/
theorem contextCells_of_built {recStmt : CreateRStmt} {clock : Nat → Timeval}
    {cursor : List (Tuple recStmt.attributes.length)} {ratings : BackendCall → Int} {db db' : Db}
    (built : createRStmt recStmt clock cursor ratings db = .ok db') :
    contextCells _ cursor ≠ [] := by
  refine contextCells_ne_nil ?_
  by_cases empty : cursor = []
  · subst empty
    exact .inl (by_contra fun long =>
      createRStmt_no_cells (fun none => long (by simp [none])) clock ratings db db' built)
  · exact .inr empty

theorem createRStmt_without_cells_fails (recStmt : CreateRStmt) (a : String) (as : List String)
    (clock : Nat → Timeval) (ratings : BackendCall → Int) (db db' : Db) :
    createRStmt { recStmt with attributes := a :: as } clock [] ratings db ≠ .ok db' :=
  createRStmt_no_cells (List.cons_ne_nil a as) clock ratings db db'

end Recathon
