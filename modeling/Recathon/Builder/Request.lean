import Recathon.Engine.Db

/-!
# Recathon.Builder.Request — what a build request carries and what a build does

A `CREATE RECOMMENDER` statement reaches the builders as a `CreateRStmt` together with
the validated method, the context attribute list and `numatts`. Validation
(`validateCreateRStmt`) lives outside this repository; `validateCreateRStmt` below
keeps only the part the builders depend on: the method name selects the algorithm,
and `numatts` is the length of the attribute list.

A build interacts with three things besides the engine: the clock (`gettimeofday`,
once per cell), the partition cursor (the rows of `SELECT DISTINCT <attributes> FROM
<usertable>`), and the modelling backend (statistics precomputation and model
population, which returns the number of ratings used). The builders are modelled
as the sequence of `Event`s they produce, given one clock reading per cell, the cursor
rows and the count each backend call returns; `runEvents` executes such a sequence,
stopping at the first failure.
-/

namespace Recathon

set_option autoImplicit false

/-- `recMethod`. -/
inductive RecMethod
  | itemCosCF | itemPearCF | userCosCF | userPearCF | SVD
deriving DecidableEq, Repr

/-- Modelled from the spec: the spelling of each algorithm that `validateCreateRStmt`
(not in this repository) accepts, an unquoted identifier and so lower case. -/
def RecMethod.name : RecMethod → String
  | .itemCosCF => "itemcoscf"
  | .itemPearCF => "itempearcf"
  | .userCosCF => "usercoscf"
  | .userPearCF => "userpearcf"
  | .SVD => "svd"

/-- Modelled from the spec: the algorithm a method name selects, if any. -/
def getRecMethod (name : String) : Option RecMethod :=
  [RecMethod.itemCosCF, .itemPearCF, .userCosCF, .userPearCF, .SVD].find? (·.name == name)

/-- `CreateRStmt`: the parsed statement; `relname` is `recStmt->relation->relname`,
the table names are the `relname`s of their range variables. -/
structure CreateRStmt where
  relname : String
  usertable : String
  itemtable : String
  ratingtable : String
  userkey : String
  itemkey : String
  ratingval : String
  method : String
  attributes : List String
deriving DecidableEq, Repr

/-- Modelled from the spec: `validateCreateRStmt` (not in this repository) checks the
request before anything is created and returns the context attribute list, setting
`method` and `numatts`. Its checks on the source tables are out of scope; what the
builders depend on is that the method name selects the algorithm, the attribute list
is the statement's, and `numatts` is its length. -/
def validateCreateRStmt (recStmt : CreateRStmt) : Except String RecMethod :=
  match getRecMethod recStmt.method with
  | none => .error ("recommendation method " ++ recStmt.method ++ " not recognized")
  | some method => .ok method

theorem validateCreateRStmt_ok {recStmt : CreateRStmt} {method : RecMethod} :
    validateCreateRStmt recStmt = .ok method ↔ getRecMethod recStmt.method = some method := by
  unfold validateCreateRStmt
  split <;> simp_all

/-- A name selects the algorithm it spells. -/
theorem name_of_getRecMethod {name : String} {method : RecMethod}
    (found : getRecMethod name = some method) : method.name = name := by
  have := List.find?_some found
  simpa using this

/-- `struct timeval`, as `gettimeofday` fills it. -/
structure Timeval where
  tvSec : Int
  tvUsec : Nat
  tvUsec_lt : tvUsec < 1000000
deriving DecidableEq

/-- The `%ld%ld` suffix of every name a cell gets. -/
def Timeval.suffix (ts : Timeval) : String := toString ts.tvSec ++ toString ts.tvUsec

/-- `"%sIndex"`. -/
def recIndexName (relname : String) : String := relname ++ "Index"

theorem recIndexName_inj {a b : String} : recIndexName a = recIndexName b ↔ a = b := by
  simp [recIndexName, String.ext_iff, String.data_append]

/-- `"%sModel%ld%ld"`. -/
def recModelName (relname : String) (ts : Timeval) : String := relname ++ "Model" ++ ts.suffix

/-- `"%sUserModel%ld%ld"`. -/
def recUserModelName (relname : String) (ts : Timeval) : String :=
  relname ++ "UserModel" ++ ts.suffix

/-- `"%sItemModel%ld%ld"`. -/
def recItemModelName (relname : String) (ts : Timeval) : String :=
  relname ++ "ItemModel" ++ ts.suffix

/-- `"%sView%ld%ld"`. -/
def recViewName (relname : String) (ts : Timeval) : String := relname ++ "View" ++ ts.suffix

/-- A request for an item-cosine recommender without context attributes. -/
def sampleStmt (relname : String) : CreateRStmt :=
  ⟨relname, "users", "items", "ratings", "uid", "iid", "rating", "itemcoscf", []⟩

/-- A clock that reads second `i + 1` for cell `i`. -/
def sampleClock : Nat → Timeval := fun i => ⟨i + 1, 0, by decide⟩

/-- One row of the partition cursor: the text of each context attribute, in the
order `SELECT DISTINCT` lists them, which is the order of `attnames`. -/
structure Tuple (n : Nat) where
  values : List String
  length_eq : values.length = n
deriving DecidableEq

/-- The source relation and key columns every backend call receives. -/
structure Source where
  usertable : String
  itemtable : String
  ratingtable : String
  userkey : String
  itemkey : String
  ratingval : String
deriving DecidableEq, Repr

def CreateRStmt.source (recStmt : CreateRStmt) : Source :=
  ⟨recStmt.usertable, recStmt.itemtable, recStmt.ratingtable, recStmt.userkey,
    recStmt.itemkey, recStmt.ratingval⟩

/-- The per-recommender statistics: `vector_lengths` and `pearson_info` over the
entity table, its key, and the rating table and column. -/
inductive Precompute
  | vectorLengths (table key ratingtable ratingval : String)
  | pearsonInfo (table key ratingtable ratingval : String)
deriving DecidableEq, Repr

/-- A call into the modelling backend. A populate call receives the cell's context
as `attnames`/`attvalues` with `numatts` entries; the context-free path passes `NULL`
with `numatts = 0`, which is the empty list here. Its statistics argument names the
precomputation that produced them. -/
inductive BackendCall
  | precompute (p : Precompute)
  | updateItemCosModel (src : Source) (model : String) (attnames attvalues : List String)
      (stats : Precompute)
  | updateItemPearModel (src : Source) (model : String) (attnames attvalues : List String)
      (stats : Precompute)
  | updateUserCosModel (src : Source) (model : String) (attnames attvalues : List String)
      (stats : Precompute)
  | updateUserPearModel (src : Source) (model : String) (attnames attvalues : List String)
      (stats : Precompute)
  | SVDsimilarity (src : Source) (userModel itemModel : String) (attnames attvalues : List String)
deriving DecidableEq, Repr

/-- One effect of a build or destroy, in program order. `pfree none` frees a pointer
slot that was never written. -/
inductive Event
  | exec (s : Stmt)
  | call (c : BackendCall)
  | pfree (slot : Option String)
deriving DecidableEq, Repr

/-- One event. A backend call reads the rating data and writes only into the model
tables it is given, whose contents nothing here reads, so it leaves the catalogue
state as it was. Freeing an unwritten slot is undefined behaviour: an error. -/
def Db.step (db : Db) : Event → Except String Db
  | .exec s => db.exec s
  | .call _ => .ok db
  | .pfree none => .error "pfree of an uninitialised pointer"
  | .pfree (some _) => .ok db

/-- Run events in order, stopping at the first failure. -/
def runEvents : List Event → Db → Except String Db
  | [], db => .ok db
  | e :: es, db => (db.step e).bind (runEvents es)

@[simp] theorem runEvents_nil (db : Db) : runEvents [] db = .ok db := rfl

@[simp] theorem runEvents_cons (e : Event) (es : List Event) (db : Db) :
    runEvents (e :: es) db = (db.step e).bind (runEvents es) := rfl

theorem runEvents_append (es fs : List Event) (db : Db) :
    runEvents (es ++ fs) db = (runEvents es db).bind (runEvents fs) := by
  induction es generalizing db with
  | nil => rfl
  | cons e es ih =>
      simp only [List.cons_append, runEvents_cons]
      cases db.step e <;> simp [Except.bind, ih]

theorem runEvents_append_ok {es fs : List Event} {db db' : Db}
    (ok : runEvents (es ++ fs) db = .ok db') :
    ∃ db₁, runEvents es db = .ok db₁ ∧ runEvents fs db₁ = .ok db' := by
  rw [runEvents_append] at ok
  rcases h : runEvents es db with e | db₁
  · simp [h, Except.bind] at ok
  · exact ⟨db₁, rfl, by simpa [h, Except.bind] using ok⟩

theorem runEvents_cons_ok {e : Event} {es : List Event} {db db' : Db}
    (ok : runEvents (e :: es) db = .ok db') :
    ∃ db₁, db.step e = .ok db₁ ∧ runEvents es db₁ = .ok db' := by
  rw [runEvents_cons] at ok
  rcases h : db.step e with err | db₁
  · simp [h, Except.bind] at ok
  · exact ⟨db₁, rfl, by simpa [h, Except.bind] using ok⟩

@[simp] theorem step_exec (db : Db) (s : Stmt) : db.step (.exec s) = db.exec s := rfl
@[simp] theorem step_call (db : Db) (c : BackendCall) : db.step (.call c) = .ok db := rfl

@[simp] theorem step_pfree_some (db : Db) (name : String) : db.step (.pfree (some name)) = .ok db :=
  rfl

theorem runEvents_take_append {es fs : List Event} {j : Nat} {db db' : Db}
    (ok : runEvents ((es ++ fs).take j) db = .ok db') :
    (j < es.length ∧ runEvents (es.take j) db = .ok db') ∨
      (es.length ≤ j ∧ ∃ db₁, runEvents es db = .ok db₁ ∧
        runEvents (fs.take (j - es.length)) db₁ = .ok db') := by
  rw [List.take_append_eq_append_take] at ok
  by_cases short : j < es.length
  · refine .inl ⟨short, ?_⟩
    rwa [Nat.sub_eq_zero_of_le short.le, List.take_zero, List.append_nil] at ok
  · rw [List.take_of_length_le (by omega)] at ok
    exact .inr ⟨by omega, runEvents_append_ok ok⟩

/-- Backend calls and frees, with no statement among them, leave the database as it was. -/
theorem runEvents_of_no_exec {es : List Event} (no_exec : ∀ s, .exec s ∉ es) {db db' : Db}
    (ok : runEvents es db = .ok db') : db' = db := by
  induction es generalizing db with
  | nil => cases ok; rfl
  | cons e es ih =>
      obtain ⟨db₁, first, rest⟩ := runEvents_cons_ok ok
      have quiet : db₁ = db := by
        rcases e with s | c | _ | slot
        · exact absurd (List.mem_cons_self _ _) (no_exec s)
        · cases first; rfl
        · cases first
        · cases first; rfl
      subst quiet
      exact ih (fun s mem => no_exec s (List.mem_cons_of_mem _ mem)) rest

/-- The relation an event creates, if it is a `CREATE TABLE`, under its folded name. -/
def Event.creates : Event → List String
  | .exec (.createTable n _) => [ident n]
  | .exec (.createTableIfNotExists n _) => [ident n]
  | _ => []

/-- A step only adds the relation its `CREATE TABLE` names. -/
theorem keysOf_step {e : Event} {db db' : Db} (ok : db.step e = .ok db') :
    ∀ k ∈ keysOf db'.tables, k ∈ keysOf db.tables ∨ k ∈ e.creates := by
  intro k mem
  rcases e with s | c | _ | slot
  · cases s with
    | createTable n columns =>
        obtain ⟨-, rfl⟩ := Db.exec_createTable ok
        simpa [Event.creates] using mem
    | createTableIfNotExists n columns =>
        rcases Db.exec_createTableIfNotExists ok with ⟨-, rfl⟩ | ⟨-, rfl⟩
        · exact .inl mem
        · simpa [Event.creates] using mem
    | insert n row =>
        obtain ⟨-, -, -, rfl⟩ := Db.exec_insert ok
        exact .inl (by simpa using mem)
    | dropTable n =>
        obtain ⟨-, rfl⟩ := Db.exec_dropTable ok
        exact .inl (by simp at mem; exact mem.1)
    | deleteWhere n column value =>
        obtain ⟨t, i, -, -, rfl⟩ := Db.exec_deleteWhere ok
        exact .inl (by simpa using mem)
  · cases ok; exact .inl mem
  · cases ok
  · cases ok; exact .inl mem

/-- A run only adds the relations its `CREATE TABLE` statements name. -/
theorem keysOf_runEvents {es : List Event} {db db' : Db} (ok : runEvents es db = .ok db') :
    ∀ k ∈ keysOf db'.tables, k ∈ keysOf db.tables ∨ k ∈ es.flatMap Event.creates := by
  induction es generalizing db with
  | nil => cases ok; exact fun k mem => .inl mem
  | cons e es ih =>
      obtain ⟨db₁, first, rest⟩ := runEvents_cons_ok ok
      intro k mem
      rcases ih rest k mem with old | new
      · rcases keysOf_step first k old with older | created
        · exact .inl older
        · exact .inr (List.mem_append_left _ created)
      · exact .inr (List.mem_append_right _ new)

theorem runEvents_calls (calls : List BackendCall) (es : List Event) (db : Db) :
    runEvents (calls.map .call ++ es) db = runEvents es db := by
  induction calls <;> simp [*, Except.bind]

end Recathon
