import Recathon.Builder.Create
import Recathon.Destroy.Drop

/-!
# Recathon.Utility.Process — the recommender statements in `standard_ProcessUtility`

`standard_ProcessUtility` first runs `check_xact_readonly`, whose list of node tags that
write includes `T_CreateRStmt` and `T_DropRecStmt`: in a read-only transaction both stop
at `PreventCommandIfReadOnly`, with the command tag `CreateCommandTag` gives them, before
any relation is read (`standardProcessUtility_readOnly`). Otherwise the switch runs
`case T_CreateRStmt` (`createRStmt`) or `case T_DropRecStmt` (`dropRecommender`).

A `UtilityStmt` is a recommender node with what its case reads besides the database: for
a build, the clock, the rows of the `SELECT DISTINCT` cursor and the rating counts of the
backend. `runUtilities` runs statements one after the other; the first `ERROR` ends the
transaction.
-/

namespace Recathon

set_option autoImplicit false

/-- The recommender nodes `standard_ProcessUtility` dispatches on, each with the inputs its
case reads from outside the database. -/
inductive UtilityStmt
  | createRStmt (recStmt : CreateRStmt) (clock : Nat → Timeval)
      (cursor : List (Tuple recStmt.attributes.length)) (ratings : BackendCall → Int)
  | dropRecStmt (relname : String)

/-- `CreateCommandTag`, on the two node tags the recommender patch adds. -/
def createCommandTag : UtilityStmt → String
  | .createRStmt .. => "CREATE RECOMMENDER"
  | .dropRecStmt _ => "DROP RECOMMENDER"

/-- `PreventCommandIfReadOnly`. -/
def preventCommandIfReadOnly (xactReadOnly : Bool) (cmdname : String) : Except String Unit :=
  if xactReadOnly then throw ("cannot execute " ++ cmdname ++ " in a read-only transaction")
  else pure ()

/-- `check_xact_readonly`: both recommender tags are among those that call
`PreventCommandIfReadOnly`. -/
def checkXactReadonly (xactReadOnly : Bool) (parsetree : UtilityStmt) : Except String Unit :=
  if !xactReadOnly then pure ()
  else preventCommandIfReadOnly xactReadOnly (createCommandTag parsetree)

/-- `standard_ProcessUtility`, on a recommender node. -/
def standardProcessUtility (xactReadOnly : Bool) (parsetree : UtilityStmt) (db : Db) :
    Except String Db := do
  checkXactReadonly xactReadOnly parsetree
  match parsetree with
  | .createRStmt recStmt clock cursor ratings => createRStmt recStmt clock cursor ratings db
  | .dropRecStmt relname => dropRecommender relname db

/-- Statements run one after the other in one transaction, until the first error. -/
def runUtilities (xactReadOnly : Bool) : List UtilityStmt → Db → Except String Db
  | [], db => .ok db
  | s :: rest, db => (standardProcessUtility xactReadOnly s db).bind (runUtilities xactReadOnly rest)

section Dispatch

variable (db : Db)

/-- A read-only transaction refuses either statement before it reads a relation, naming
its command. -/
@[simp] theorem standardProcessUtility_readOnly (s : UtilityStmt) :
    standardProcessUtility true s db =
      .error ("cannot execute " ++ createCommandTag s ++ " in a read-only transaction") := by
  cases s <;> rfl

@[simp] theorem standardProcessUtility_createRStmt (recStmt : CreateRStmt) (clock : Nat → Timeval)
    (cursor : List (Tuple recStmt.attributes.length)) (ratings : BackendCall → Int) :
    standardProcessUtility false (.createRStmt recStmt clock cursor ratings) db =
      createRStmt recStmt clock cursor ratings db :=
  rfl

@[simp] theorem standardProcessUtility_dropRecStmt (relname : String) :
    standardProcessUtility false (.dropRecStmt relname) db = dropRecommender relname db :=
  rfl

end Dispatch

@[simp] theorem runUtilities_nil (xactReadOnly : Bool) (db : Db) :
    runUtilities xactReadOnly [] db = .ok db :=
  rfl

@[simp] theorem runUtilities_cons (xactReadOnly : Bool) (s : UtilityStmt) (rest : List UtilityStmt)
    (db : Db) :
    runUtilities xactReadOnly (s :: rest) db =
      (standardProcessUtility xactReadOnly s db).bind (runUtilities xactReadOnly rest) :=
  rfl

end Recathon
