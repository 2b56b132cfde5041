import Recathon.Builder.Request

/-!
# Recathon.Builder.Similarity — the three model builders

`itemSimilarity`, `userSimilarity` and `SVDSimilarity`, each as the source has it:
statistics computed once (CF only), then either the cell loop over the partition
cursor followed by the memory cleanup, or, for a context-free recommender, one cell
built directly. Every cell creates its model table(s) and its view, seeds the view
with the placeholder row, calls the backend, and appends its row to `<relname>Index`.

`userSimilarity` also prints progress lines to standard output; those are not
effects on the database and are left out.
-/

namespace Recathon

set_option autoImplicit false

/-- `(item1 INTEGER NOT NULL, item2 INTEGER NOT NULL, similarity REAL NOT NULL)` -/
def itemModelColumns : List Column :=
  [⟨"item1", .integer⟩, ⟨"item2", .integer⟩, ⟨"similarity", .real⟩]

/-- `(user1 INTEGER NOT NULL, user2 INTEGER NOT NULL, similarity REAL NOT NULL)` -/
def userModelColumns : List Column :=
  [⟨"user1", .integer⟩, ⟨"user2", .integer⟩, ⟨"similarity", .real⟩]

/-- `(users INTEGER NOT NULL, feature INTEGER NOT NULL, value REAL NOT NULL)` -/
def svdUserColumns : List Column :=
  [⟨"users", .integer⟩, ⟨"feature", .integer⟩, ⟨"value", .real⟩]

/-- `(items INTEGER NOT NULL, feature INTEGER NOT NULL, value REAL NOT NULL)` -/
def svdItemColumns : List Column :=
  [⟨"items", .integer⟩, ⟨"feature", .integer⟩, ⟨"value", .real⟩]

/-- `(%s INTEGER NOT NULL, %s INTEGER NOT NULL, PRIMARY KEY (%s, %s), recscore REAL NOT NULL)` -/
def viewColumns (userkey itemkey : String) : List Column :=
  [⟨userkey, .integer⟩, ⟨itemkey, .integer⟩, ⟨"recscore", .real⟩]

/-- `VALUES(-1,-1,-1)`, the placeholder row of every view. -/
def dummyRow : Row := [.int (-1), .int (-1), .int (-1)]

/-- `numRatings`: what the populate call returned, or its initial `0` if none was made. -/
def numRatings (ratings : BackendCall → Int) : Option BackendCall → Int
  | some c => ratings c
  | none => 0

/-- The memory cleanup after a cell loop, `pfree(attnames[i]); pfree(attvalues[i]);`
for each of the `numatts` slots. `attvalues` holds the last cursor row, or, if the
loop body never ran, the slots `palloc` left unwritten. -/
def cleanup {n : Nat} (attnames : List String) (cursor : List (Tuple n)) : List Event :=
  let attvalues : List (Option String) :=
    match cursor.getLast? with
    | some t => t.values.map some
    | none => List.replicate n none
  (attnames.zip attvalues).flatMap fun p => [.pfree (some p.1), .pfree p.2]

theorem exec_not_mem_cleanup {n : Nat} (attnames : List String) (cursor : List (Tuple n))
    (s : Stmt) : .exec s ∉ cleanup attnames cursor := by
  simp [cleanup]

section Item

variable (recStmt : CreateRStmt) (method : RecMethod)

/-- `vector_lengths` for cosine, `pearson_info` for Pearson, over the item table. -/
def itemStats : Option Precompute :=
  if method = .itemCosCF then
    some (.vectorLengths recStmt.itemtable recStmt.itemkey recStmt.ratingtable recStmt.ratingval)
  else if method = .itemPearCF then
    some (.pearsonInfo recStmt.itemtable recStmt.itemkey recStmt.ratingtable recStmt.ratingval)
  else none

/-- `updateItemCosModel` or `updateItemPearModel` for one cell. -/
def itemUpdate (recmodelname : String) (attnames attvalues : List String) : Option BackendCall :=
  if method = .itemCosCF then
    some (.updateItemCosModel recStmt.source recmodelname attnames attvalues
      (.vectorLengths recStmt.itemtable recStmt.itemkey recStmt.ratingtable recStmt.ratingval))
  else if method = .itemPearCF then
    some (.updateItemPearModel recStmt.source recmodelname attnames attvalues
      (.pearsonInfo recStmt.itemtable recStmt.itemkey recStmt.ratingtable recStmt.ratingval))
  else none

variable (ratings : BackendCall → Int)

/-- One pass of `itemSimilarity`'s cell loop. -/
def itemCell (attnames : List String) (timestamp : Timeval) (attvalues : List String) :
    List Event :=
  let recmodelname := recModelName recStmt.relname timestamp
  let update := itemUpdate recStmt method recmodelname attnames attvalues
  [.exec (.createTable recmodelname itemModelColumns),
    .exec (.createTable (recViewName recStmt.relname timestamp)
      (viewColumns recStmt.userkey recStmt.itemkey)),
    .exec (.insert (recViewName recStmt.relname timestamp) dummyRow)] ++
  update.toList.map .call ++
  [.exec (.insert (recIndexName recStmt.relname)
    ([.default, .text recmodelname, .text (recViewName recStmt.relname timestamp), .int 0,
      .int (numRatings ratings update), .int 0, .real 0 1, .real 0 1, .localtimestamp] ++
      attvalues.map .text))]

/-- `itemSimilarity`'s loop over the cursor; cell `i` reads the clock as `clock i`. -/
def itemCells (attnames : List String) (clock : Nat → Timeval) {n : Nat} :
    Nat → List (Tuple n) → List Event
  | _, [] => []
  | i, t :: rest => itemCell recStmt method ratings attnames (clock i) t.values ++
      itemCells attnames clock (i + 1) rest

/-- `itemSimilarity`'s context-free branch. -/
def itemContextFree (timestamp : Timeval) : List Event :=
  let recmodelname := recModelName recStmt.relname timestamp
  let update := itemUpdate recStmt method recmodelname [] []
  [.exec (.createTable recmodelname itemModelColumns),
    .exec (.createTable (recViewName recStmt.relname timestamp)
      (viewColumns recStmt.userkey recStmt.itemkey)),
    .exec (.insert (recViewName recStmt.relname timestamp) dummyRow)] ++
  update.toList.map .call ++
  [.exec (.insert (recIndexName recStmt.relname)
    [.default, .text recmodelname, .text (recViewName recStmt.relname timestamp), .int 0,
      .int (numRatings ratings update), .int 0, .real 0 1, .real 0 1, .localtimestamp])]

end Item

/-- `itemSimilarity`: item similarity matrices for each cell of a recommender. -/
def itemSimilarity (recStmt : CreateRStmt) (attList : List String) (numatts : Nat)
    (method : RecMethod) (clock : Nat → Timeval) (cursor : List (Tuple numatts))
    (ratings : BackendCall → Int) : List Event :=
  (itemStats recStmt method).toList.map (.call ∘ .precompute) ++
    if numatts > 0 then
      itemCells recStmt method ratings (attList.take numatts) clock 0 cursor ++
        cleanup (attList.take numatts) cursor
    else itemContextFree recStmt method ratings (clock 0)

section User

variable (recStmt : CreateRStmt) (method : RecMethod)

/-- `vector_lengths` for cosine, `pearson_info` for Pearson, over the user table. -/
def userStats : Option Precompute :=
  if method = .userCosCF then
    some (.vectorLengths recStmt.usertable recStmt.userkey recStmt.ratingtable recStmt.ratingval)
  else if method = .userPearCF then
    some (.pearsonInfo recStmt.usertable recStmt.userkey recStmt.ratingtable recStmt.ratingval)
  else none

/-- `updateUserCosModel` or `updateUserPearModel` for one cell. -/
def userUpdate (recmodelname : String) (attnames attvalues : List String) : Option BackendCall :=
  if method = .userCosCF then
    some (.updateUserCosModel recStmt.source recmodelname attnames attvalues
      (.vectorLengths recStmt.usertable recStmt.userkey recStmt.ratingtable recStmt.ratingval))
  else if method = .userPearCF then
    some (.updateUserPearModel recStmt.source recmodelname attnames attvalues
      (.pearsonInfo recStmt.usertable recStmt.userkey recStmt.ratingtable recStmt.ratingval))
  else none

variable (ratings : BackendCall → Int)

/-- One pass of `userSimilarity`'s cell loop. -/
def userCell (attnames : List String) (timestamp : Timeval) (attvalues : List String) :
    List Event :=
  let recmodelname := recModelName recStmt.relname timestamp
  let update := userUpdate recStmt method recmodelname attnames attvalues
  [.exec (.createTable recmodelname userModelColumns),
    .exec (.createTable (recViewName recStmt.relname timestamp)
      (viewColumns recStmt.userkey recStmt.itemkey)),
    .exec (.insert (recViewName recStmt.relname timestamp) dummyRow)] ++
  update.toList.map .call ++
  [.exec (.insert (recIndexName recStmt.relname)
    ([.default, .text recmodelname, .text (recViewName recStmt.relname timestamp), .int 0,
      .int (numRatings ratings update), .int 0, .real 0 1, .real 0 1, .localtimestamp] ++
      attvalues.map .text))]

/-- `userSimilarity`'s loop over the cursor. -/
def userCells (attnames : List String) (clock : Nat → Timeval) {n : Nat} :
    Nat → List (Tuple n) → List Event
  | _, [] => []
  | i, t :: rest => userCell recStmt method ratings attnames (clock i) t.values ++
      userCells attnames clock (i + 1) rest

/-- `userSimilarity`'s context-free branch. -/
def userContextFree (timestamp : Timeval) : List Event :=
  let recmodelname := recModelName recStmt.relname timestamp
  let update := userUpdate recStmt method recmodelname [] []
  [.exec (.createTable recmodelname userModelColumns),
    .exec (.createTable (recViewName recStmt.relname timestamp)
      (viewColumns recStmt.userkey recStmt.itemkey)),
    .exec (.insert (recViewName recStmt.relname timestamp) dummyRow)] ++
  update.toList.map .call ++
  [.exec (.insert (recIndexName recStmt.relname)
    [.default, .text recmodelname, .text (recViewName recStmt.relname timestamp), .int 0,
      .int (numRatings ratings update), .int 0, .real 0 1, .real 0 1, .localtimestamp])]

end User

/-- `userSimilarity`: user similarity matrices for each cell of a recommender. -/
def userSimilarity (recStmt : CreateRStmt) (attList : List String) (numatts : Nat)
    (method : RecMethod) (clock : Nat → Timeval) (cursor : List (Tuple numatts))
    (ratings : BackendCall → Int) : List Event :=
  (userStats recStmt method).toList.map (.call ∘ .precompute) ++
    if numatts > 0 then
      userCells recStmt method ratings (attList.take numatts) clock 0 cursor ++
        cleanup (attList.take numatts) cursor
    else userContextFree recStmt method ratings (clock 0)

section SVD

variable (recStmt : CreateRStmt) (ratings : BackendCall → Int)

/-- One pass of `SVDSimilarity`'s cell loop. -/
def svdCell (attnames : List String) (timestamp : Timeval) (attvalues : List String) :
    List Event :=
  let recusermodelname := recUserModelName recStmt.relname timestamp
  let recitemmodelname := recItemModelName recStmt.relname timestamp
  let update := BackendCall.SVDsimilarity recStmt.source recusermodelname recitemmodelname
    attnames attvalues
  [.exec (.createTable recusermodelname svdUserColumns),
    .exec (.createTable recitemmodelname svdItemColumns),
    .exec (.createTable (recViewName recStmt.relname timestamp)
      (viewColumns recStmt.userkey recStmt.itemkey)),
    .exec (.insert (recViewName recStmt.relname timestamp) dummyRow),
    .call update,
    .exec (.insert (recIndexName recStmt.relname)
      ([.default, .text recusermodelname, .text recitemmodelname,
        .text (recViewName recStmt.relname timestamp), .int 0, .int (ratings update), .int 0,
        .real 0 1, .real 0 1, .localtimestamp] ++ attvalues.map .text))]

/-- `SVDSimilarity`'s loop over the cursor. -/
def svdCells (attnames : List String) (clock : Nat → Timeval) {n : Nat} :
    Nat → List (Tuple n) → List Event
  | _, [] => []
  | i, t :: rest => svdCell recStmt ratings attnames (clock i) t.values ++
      svdCells attnames clock (i + 1) rest

/-- `SVDSimilarity`'s context-free branch. -/
def svdContextFree (timestamp : Timeval) : List Event :=
  let recusermodelname := recUserModelName recStmt.relname timestamp
  let recitemmodelname := recItemModelName recStmt.relname timestamp
  let update := BackendCall.SVDsimilarity recStmt.source recusermodelname recitemmodelname [] []
  [.exec (.createTable recusermodelname svdUserColumns),
    .exec (.createTable recitemmodelname svdItemColumns),
    .exec (.createTable (recViewName recStmt.relname timestamp)
      (viewColumns recStmt.userkey recStmt.itemkey)),
    .exec (.insert (recViewName recStmt.relname timestamp) dummyRow),
    .call update,
    .exec (.insert (recIndexName recStmt.relname)
      [.default, .text recusermodelname, .text recitemmodelname,
        .text (recViewName recStmt.relname timestamp), .int 0, .int (ratings update), .int 0,
        .real 0 1, .real 0 1, .localtimestamp])]

end SVD

/-- `SVDSimilarity`: user and item feature matrices for each cell of a recommender. -/
def SVDSimilarity (recStmt : CreateRStmt) (attList : List String) (numatts : Nat)
    (clock : Nat → Timeval) (cursor : List (Tuple numatts)) (ratings : BackendCall → Int) :
    List Event :=
  if numatts > 0 then
    svdCells recStmt ratings (attList.take numatts) clock 0 cursor ++
      cleanup (attList.take numatts) cursor
  else svdContextFree recStmt ratings (clock 0)

end Recathon
