import Recathon.Destroy.CellList

/-!
# Recathon.Destroy.Drop — `case T_DropRecStmt`

The destroy request folds the name to lower case, checks that `RecModelsCatalogue`
exists and names the recommender, reads the stored method, scans `<name>index` into the
cell list, and then drops every cell's tables, the index table, and the catalogue row.

All reads come before the first statement, so `dropRecStmt` is the reading phase: it
either fails, having changed nothing, or returns the statements to run and the
warnings issued. `dropRecommender` runs them.
-/

namespace Recathon

set_option autoImplicit false

/-- Modelled from the spec: `recommenderExists` (not in this repository) looks the
recommender up in `RecModelsCatalogue` by its index name `<recname>Index`. -/
def recommenderExists (db : Db) (recname : String) : Bool :=
  match db.table? "recmodelscatalogue" with
  | none => false
  | some t => t.rows.any fun row =>
      (getTupleString t row "recommenderindexname").toOption == some (recIndexName recname)

/-- Modelled from the spec: `getRecInfo` (not in this repository) reads the catalogue
row of an index name; only its `method` is used here. -/
def getRecInfo (db : Db) (recindexname : String) : Except String String :=
  match db.table? "recmodelscatalogue" with
  | none => .error "relation recmodelscatalogue does not exist"
  | some t =>
      match t.rows.find? fun row =>
          (getTupleString t row "recommenderindexname").toOption == some recindexname with
      | none => .error ("no catalogue row for " ++ recindexname)
      | some row => getTupleString t row "method"

/-- What a destroy request will do once its reads succeed. -/
structure DropPlan where
  events : List Event
  warnings : List String

/-- The reading phase of `case T_DropRecStmt`. The walk cannot fail on a list the scan
built (`dropLoop_listState`); its error branch only makes the model total. -/
def dropRecStmt (name : String) (db : Db) : Except String DropPlan := do
  let recname := lower name
  if !db.relationExists "recmodelscatalogue" then throw "no recommenders have been created"
  if !recommenderExists db recname then throw ("recommender " ++ recname ++ " does not exist")
  let method ← getRecInfo db (recIndexName recname)
  let t ← db.scan (recname ++ "index")
  let st ← scanLoop (method == "svd") t ⟨[], none, none⟩ t.rows
  let warnings :=
    if st.chead.isNone then ["failed to find cells for recommender " ++ recname] else []
  match dropLoop st with
  | none => throw "broken cell list"
  | some drops =>
      pure ⟨drops ++ [.exec (.dropTable (recname ++ "index")),
        .exec (.deleteWhere "recmodelscatalogue" "recommenderindexname" (recIndexName recname))],
        warnings⟩

/-- The destroy request. -/
def dropRecommender (name : String) (db : Db) : Except String Db := do
  let plan ← dropRecStmt name db
  runEvents plan.events db

end Recathon
