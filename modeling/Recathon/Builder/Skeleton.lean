import Recathon.Builder.Similarity

/-!
# Recathon.Builder.Skeleton — one cell-building skeleton behind the three builders

The three builders differ only in a family descriptor (`Family`): the statistics
computed once, the model tables of a cell, and the populate call. `Family.build` is
the orchestration they share: statistics, then one cell per cursor row, then the
memory cleanup.

`itemSimilarity_eq_build`, `userSimilarity_eq_build` and `SVDSimilarity_eq_build` show
that each builder, context-free branch included, is the skeleton run over
`contextCells` of its cursor: the cursor itself when there are context attributes, and
one empty row when there are none. Later modules reason about `Family.build` only.
-/

namespace Recathon

set_option autoImplicit false

/-- What distinguishes one builder from another. -/
structure Family where
  /-- the statistics computed once per recommender, if any -/
  stats : Option Precompute
  /-- the model tables of the cell created at a clock reading: name and columns -/
  models : Timeval → List (String × List Column)
  /-- the populate call of that cell, given `attnames` and `attvalues` -/
  populate : Timeval → List String → List String → Option BackendCall

/-- A cell's row of `<relname>Index`: serial id, model name(s), view name,
`updateCounter`, `ratingTotal`, `queryCounter`, the two rates, the creation time, and
the context values. -/
def indexRow (models : List String) (view : String) (count : Int) (attvalues : List String) :
    Row :=
  .default :: models.map .text ++
    [.text view, .int 0, .int count, .int 0, .real 0 1, .real 0 1, .localtimestamp] ++
    attvalues.map .text

/-- The rows a build reads from the cursor: the cursor itself when there are context
attributes, one empty row when there are none. -/
def contextCells : (n : Nat) → List (Tuple n) → List (Tuple n)
  | 0, _ => [⟨[], rfl⟩]
  | _ + 1, cursor => cursor

theorem mem_contextCells {n : Nat} {cursor : List (Tuple n)} {t : Tuple n} (row : t ∈ cursor) :
    t ∈ contextCells n cursor := by
  cases n with
  | zero =>
      obtain ⟨_ | ⟨v, vs⟩, length⟩ := t
      · exact List.mem_singleton_self _
      · exact absurd length (Nat.succ_ne_zero _)
  | succ n => exact row

theorem contextCells_cases {n : Nat} {cursor : List (Tuple n)} {t : Tuple n}
    (read : t ∈ contextCells n cursor) : t ∈ cursor ∨ t.values = [] := by
  cases n with
  | zero => exact .inr (List.eq_nil_of_length_eq_zero t.length_eq)
  | succ n => exact .inl read

namespace Family

variable (F : Family) (recStmt : CreateRStmt) (ratings : BackendCall → Int)

/-- One cell. -/
def cell (attnames : List String) (timestamp : Timeval) (attvalues : List String) :
    List Event :=
  let update := F.populate timestamp attnames attvalues
  (F.models timestamp).map (fun m => .exec (.createTable m.1 m.2)) ++
  [.exec (.createTable (recViewName recStmt.relname timestamp)
      (viewColumns recStmt.userkey recStmt.itemkey)),
    .exec (.insert (recViewName recStmt.relname timestamp) dummyRow)] ++
  update.toList.map .call ++
  [.exec (.insert (recIndexName recStmt.relname)
    (indexRow ((F.models timestamp).map Prod.fst) (recViewName recStmt.relname timestamp)
      (numRatings ratings update) attvalues))]

/-- One cell per cursor row; cell `i` reads the clock as `clock i`. -/
def cells (attnames : List String) (clock : Nat → Timeval) {n : Nat} :
    Nat → List (Tuple n) → List Event
  | _, [] => []
  | i, t :: rest => F.cell recStmt ratings attnames (clock i) t.values ++
      cells attnames clock (i + 1) rest

/-- The skeleton. -/
def build (attnames : List String) (clock : Nat → Timeval) {n : Nat}
    (cursor : List (Tuple n)) : List Event :=
  F.stats.toList.map (.call ∘ .precompute) ++ F.cells recStmt ratings attnames clock 0 cursor ++
    cleanup attnames cursor

end Family

/-- The item-based CF family. -/
def itemFamily (recStmt : CreateRStmt) (method : RecMethod) : Family where
  stats := itemStats recStmt method
  models timestamp := [(recModelName recStmt.relname timestamp, itemModelColumns)]
  populate timestamp := itemUpdate recStmt method (recModelName recStmt.relname timestamp)

/-- The user-based CF family. -/
def userFamily (recStmt : CreateRStmt) (method : RecMethod) : Family where
  stats := userStats recStmt method
  models timestamp := [(recModelName recStmt.relname timestamp, userModelColumns)]
  populate timestamp := userUpdate recStmt method (recModelName recStmt.relname timestamp)

/-- The SVD family. -/
def svdFamily (recStmt : CreateRStmt) : Family where
  stats := none
  models timestamp := [(recUserModelName recStmt.relname timestamp, svdUserColumns),
    (recItemModelName recStmt.relname timestamp, svdItemColumns)]
  populate timestamp attnames attvalues :=
    some (.SVDsimilarity recStmt.source (recUserModelName recStmt.relname timestamp)
      (recItemModelName recStmt.relname timestamp) attnames attvalues)

section Refinement

variable (recStmt : CreateRStmt) (method : RecMethod) (ratings : BackendCall → Int)
  (clock : Nat → Timeval)

theorem itemCells_eq (attnames : List String) {n : Nat} :
    ∀ (i : Nat) (cursor : List (Tuple n)), itemCells recStmt method ratings attnames clock i cursor =
      (itemFamily recStmt method).cells recStmt ratings attnames clock i cursor
  | _, [] => rfl
  | i, t :: rest => by
      simp only [itemCells, Family.cells, itemCells_eq attnames (i + 1) rest]
      simp [itemCell, Family.cell, itemFamily, indexRow]

theorem userCells_eq (attnames : List String) {n : Nat} :
    ∀ (i : Nat) (cursor : List (Tuple n)), userCells recStmt method ratings attnames clock i cursor =
      (userFamily recStmt method).cells recStmt ratings attnames clock i cursor
  | _, [] => rfl
  | i, t :: rest => by
      simp only [userCells, Family.cells, userCells_eq attnames (i + 1) rest]
      simp [userCell, Family.cell, userFamily, indexRow]

theorem svdCells_eq (attnames : List String) {n : Nat} :
    ∀ (i : Nat) (cursor : List (Tuple n)), svdCells recStmt ratings attnames clock i cursor =
      (svdFamily recStmt).cells recStmt ratings attnames clock i cursor
  | _, [] => rfl
  | i, t :: rest => by
      simp only [svdCells, Family.cells, svdCells_eq attnames (i + 1) rest]
      simp [svdCell, Family.cell, svdFamily, indexRow, numRatings]

theorem itemSimilarity_eq_build (attList : List String) {n : Nat} (cursor : List (Tuple n))
    (numatts : attList.length = n) :
    itemSimilarity recStmt attList n method clock cursor ratings =
      (itemFamily recStmt method).build recStmt ratings attList clock (contextCells n cursor) := by
  subst numatts
  cases attList with
  | nil => simp [itemSimilarity, contextCells, Family.build, Family.cells, itemContextFree,
      Family.cell, itemFamily, indexRow, cleanup]
  | cons a as =>
      simp [itemSimilarity, contextCells, Family.build, itemCells_eq, itemFamily]

theorem userSimilarity_eq_build (attList : List String) {n : Nat} (cursor : List (Tuple n))
    (numatts : attList.length = n) :
    userSimilarity recStmt attList n method clock cursor ratings =
      (userFamily recStmt method).build recStmt ratings attList clock (contextCells n cursor) := by
  subst numatts
  cases attList with
  | nil => simp [userSimilarity, contextCells, Family.build, Family.cells, userContextFree,
      Family.cell, userFamily, indexRow, cleanup]
  | cons a as =>
      simp [userSimilarity, contextCells, Family.build, userCells_eq, userFamily]

theorem SVDSimilarity_eq_build (attList : List String) {n : Nat} (cursor : List (Tuple n))
    (numatts : attList.length = n) :
    SVDSimilarity recStmt attList n clock cursor ratings =
      (svdFamily recStmt).build recStmt ratings attList clock (contextCells n cursor) := by
  subst numatts
  cases attList with
  | nil => simp [SVDSimilarity, contextCells, Family.build, Family.cells, svdContextFree,
      Family.cell, svdFamily, indexRow, cleanup, numRatings]
  | cons a as =>
      simp [SVDSimilarity, contextCells, Family.build, svdCells_eq, svdFamily]

/-- Each of the three builders is the skeleton over `contextCells`, for every method,
attribute list and cursor. -/
theorem builders_share_skeleton (attList : List String) {n : Nat} (cursor : List (Tuple n))
    (numatts : attList.length = n) :
    itemSimilarity recStmt attList n method clock cursor ratings =
        (itemFamily recStmt method).build recStmt ratings attList clock (contextCells n cursor) ∧
      userSimilarity recStmt attList n method clock cursor ratings =
        (userFamily recStmt method).build recStmt ratings attList clock (contextCells n cursor) ∧
      SVDSimilarity recStmt attList n clock cursor ratings =
        (svdFamily recStmt).build recStmt ratings attList clock (contextCells n cursor) :=
  ⟨itemSimilarity_eq_build recStmt method ratings clock attList cursor numatts,
    userSimilarity_eq_build recStmt method ratings clock attList cursor numatts,
    SVDSimilarity_eq_build recStmt ratings clock attList cursor numatts⟩

theorem one_city_shares_skeleton :
    itemSimilarity (sampleStmt "foo") ["city"] 1 .itemCosCF sampleClock [⟨["paris"], rfl⟩]
          (fun _ => 3) =
        (itemFamily (sampleStmt "foo") .itemCosCF).build (sampleStmt "foo") (fun _ => 3) ["city"]
          sampleClock [⟨["paris"], rfl⟩] ∧
      userSimilarity (sampleStmt "foo") ["city"] 1 .itemCosCF sampleClock [⟨["paris"], rfl⟩]
          (fun _ => 3) =
        (userFamily (sampleStmt "foo") .itemCosCF).build (sampleStmt "foo") (fun _ => 3) ["city"]
          sampleClock [⟨["paris"], rfl⟩] ∧
      SVDSimilarity (sampleStmt "foo") ["city"] 1 sampleClock [⟨["paris"], rfl⟩] (fun _ => 3) =
        (svdFamily (sampleStmt "foo")).build (sampleStmt "foo") (fun _ => 3) ["city"] sampleClock
          [⟨["paris"], rfl⟩] :=
  builders_share_skeleton (sampleStmt "foo") .itemCosCF (fun _ => 3) sampleClock ["city"]
    [⟨["paris"], rfl⟩] rfl

end Refinement

end Recathon
