import Recathon.Text.Buffer
import Recathon.Store.Complete

/-!
# Recathon.Text.CellBuffer — the buffers a builder formats

Once `case T_CreateRStmt` has dispatched, the builder formats more text into fixed
buffers. With context attributes it copies each name into `attnames[i]` (256 bytes) and
assembles `SELECT DISTINCT <attributes> FROM <usertable>;` in `attquerystring` (1024).
Then every cell names its index (`palloc(6 + strlen(relname))`), its models (256 bytes
each), and formats into one `querystring` (1024) the model CREATEs, the view CREATE and
INSERT, and the index-row INSERT, to which one `addition[256]` per context value is
appended (`buildBuffers`).

The names and the fixed statements depend only on the request, the clock and the rating
count: for an admitted request they fit whenever the clock reading fits a `long` and the
count an `int`. The context values come from the user table, with no bound:

* `buildBuffers_fit`: when the buffers of `case T_CreateRStmt` fit, every buffer of the
  build fits as long as each context value has at most 251 bytes and the values of one
  row take at most 579 bytes as the INSERT prints them;
* `long_value_overflows`: a context value of 252 bytes overflows its `addition[256]`,
  and the build reaches that `sprintf`: when the cells up to its row have names of their
  own, every statement before that row's index-row INSERT completes.
-/

namespace Recathon

set_option autoImplicit false

/-! ## Widths of what `%d` and `%ld` print -/

theorem byteLength_toString_nat_le {n e : Nat} (pos : 0 < e) (lt : n < 10 ^ e) :
    byteLength (toString n).data ≤ e := by
  rw [byteLength_numeral fun c mem => mem_toString_nat mem]
  exact Nat.repr_length n e pos lt

theorem byteLength_toString_int_le {n : Int} {e : Nat} (pos : 0 < e) (lt : n.natAbs < 10 ^ e) :
    byteLength (toString n).data ≤ e + 1 := by
  cases n with
  | ofNat m => exact (byteLength_toString_nat_le pos lt).trans (Nat.le_succ e)
  | negSucc m =>
      have digits := byteLength_toString_nat_le (n := m + 1) pos lt
      show byteLength ('-' :: (toString (m + 1)).data) ≤ e + 1
      simp only [byteLength_cons]
      have minus : ('-').utf8Size = 1 := rfl
      omega

/-- A reading whose seconds fit a 64-bit `long` prints at most 26 bytes of suffix. -/
theorem byteLength_suffix_le (ts : Timeval) (long : ts.tvSec.natAbs ≤ 2 ^ 63) :
    byteLength ts.suffix.data ≤ 26 := by
  have sec := byteLength_toString_int_le (n := ts.tvSec) (e := 19) (by decide)
    (lt_of_le_of_lt long (by decide))
  have usec := byteLength_toString_nat_le (n := ts.tvUsec) (e := 6) (by decide) ts.tvUsec_lt
  simp only [Timeval.suffix, String.data_append, byteLength_append]
  omega

/-! ## The texts -/

/-- `sprintf(addition,", '%s'",attvalues[i])` -/
def valueAddition (v : String) : String := ", '" ++ v ++ "'"

/-- The model CREATEs of a cell, one per model, in the order the builder runs them. -/
def modelCreates (recStmt : CreateRStmt) (method : RecMethod) (ts : Timeval) : List String :=
  match method with
  | .itemCosCF | .itemPearCF =>
      ["CREATE TABLE " ++ recModelName recStmt.relname ts ++
        " (item1 INTEGER NOT NULL, item2 INTEGER NOT NULL, similarity REAL NOT NULL);"]
  | .userCosCF | .userPearCF =>
      ["CREATE TABLE " ++ recModelName recStmt.relname ts ++
        " (user1 INTEGER NOT NULL, user2 INTEGER NOT NULL, similarity REAL NOT NULL);"]
  | .SVD =>
      ["CREATE TABLE " ++ recUserModelName recStmt.relname ts ++
        " (users INTEGER NOT NULL, feature INTEGER NOT NULL, value REAL NOT NULL);",
        "CREATE TABLE " ++ recItemModelName recStmt.relname ts ++
        " (items INTEGER NOT NULL, feature INTEGER NOT NULL, value REAL NOT NULL);"]

/-- `"CREATE TABLE %sView%ld%ld (%s INTEGER NOT NULL, %s INTEGER NOT NULL, PRIMARY KEY
(%s, %s), recscore REAL NOT NULL);"` -/
def viewCreate (recStmt : CreateRStmt) (ts : Timeval) : String :=
  "CREATE TABLE " ++ recViewName recStmt.relname ts ++ " (" ++ recStmt.userkey ++
    " INTEGER NOT NULL, " ++ recStmt.itemkey ++ " INTEGER NOT NULL, PRIMARY KEY (" ++
    recStmt.userkey ++ ", " ++ recStmt.itemkey ++ "), recscore REAL NOT NULL);"

/-- `"INSERT INTO %sView%ld%ld VALUES(-1,-1,-1);"` -/
def viewInsert (relname : String) (ts : Timeval) : String :=
  "INSERT INTO " ++ recViewName relname ts ++ " VALUES(-1,-1,-1);"

/-- The buffers one cell writes: `recindexname`, the model names, then in `querystring`
the model CREATEs, the view CREATE and INSERT and the index-row INSERT, and one
`addition` per context value. -/
def cellBuffers (recStmt : CreateRStmt) (method : RecMethod) (ts : Timeval) (count : Int)
    (attvalues : List String) : List Buffer :=
  ⟨6 + byteLength recStmt.relname.data, recIndexName recStmt.relname⟩ ::
    ((familyOf recStmt method).models ts).map (fun m => ⟨256, m.1⟩) ++
    (modelCreates recStmt method ts).map (⟨1024, ·⟩) ++
    [⟨1024, viewCreate recStmt ts⟩, ⟨1024, viewInsert recStmt.relname ts⟩,
      ⟨1024, render ((familyOf recStmt method).indexInsert recStmt ts count attvalues)⟩] ++
    attvalues.map fun v => ⟨256, valueAddition v⟩

/-- The context attributes as the loop appends them: separated by `", "`. -/
def selectList : List String → String
  | [] => ""
  | [a] => a
  | a :: as => a ++ ", " ++ selectList as

/-- `attquerystring`: `SELECT DISTINCT <attributes> FROM <usertable>;` -/
def attQuery (attList : List String) (usertable : String) : String :=
  "SELECT DISTINCT " ++ selectList attList ++ " FROM " ++ usertable ++ ";"

/-- Every buffer a builder writes after `case T_CreateRStmt` dispatched to it: with
context attributes `attnames[i]` and `attquerystring`, then each cell's buffers, cell
`i` reading the clock as `clock i`. -/
def buildBuffers (recStmt : CreateRStmt) (method : RecMethod) (ratings : BackendCall → Int)
    (clock : Nat → Timeval) (cursor : List (Tuple recStmt.attributes.length)) : List Buffer :=
  (if recStmt.attributes = [] then []
    else recStmt.attributes.map (⟨256, ·⟩) ++
      [⟨1024, attQuery recStmt.attributes recStmt.usertable⟩]) ++
  (contextCells _ cursor).enum.flatMap fun p =>
    cellBuffers recStmt method (clock p.1)
      (numRatings ratings ((familyOf recStmt method).populate (clock p.1) recStmt.attributes
        p.2.values)) p.2.values

/-! ## Their lengths -/

/-- The bytes `fields ", " vs` prints: `, 'v'` for each value. -/
def valuesLength : List String → Nat
  | [] => 0
  | v :: vs => byteLength v.data + 4 + valuesLength vs

theorem render_append (l₁ l₂ : List Piece) : render (l₁ ++ l₂) = render l₁ ++ render l₂ := by
  induction l₁ with
  | nil => simp [render]
  | cons p l₁ ih => simp [render, ih, String.append_assoc]

theorem byteLength_render_fields (vs : List String) :
    byteLength (render (fields ", " vs)).data = valuesLength vs := by
  induction vs with
  | nil => rfl
  | cons v vs ih =>
      have block : fields ", " (v :: vs) = [.text ", ", .quoted v] ++ fields ", " vs := rfl
      rw [block, render_append]
      simp (disch := decide) only [render, Piece.render, valuesLength, ih, byteLength_data_append,
          byteLength_cons, byteLength_nil, utf8Size_ofNat_of_lt]
      omega

theorem valuesLength_append (vs ws : List String) :
    valuesLength (vs ++ ws) = valuesLength vs + valuesLength ws := by
  induction vs with
  | nil => simp [valuesLength]
  | cons v vs ih => rw [List.cons_append, valuesLength, valuesLength, ih]; omega

theorem byteLength_render_indexInsert (recindexname : String) (models : List String)
    (relname : String) (ts : Timeval) (count : Int) (attvalues : List String) :
    byteLength (render (indexInsert recindexname models relname ts count attvalues)).data =
      byteLength recindexname.data + valuesLength models +
        byteLength (recViewName relname ts).data + byteLength (toString count).data +
        valuesLength attvalues + 68 := by
  simp (disch := decide) only [indexInsert, List.append_eq, render, render_append, Piece.render,
    byteLength_render_fields, valuesLength_append, valuesLength, byteLength_data_append,
    byteLength_cons, byteLength_nil, utf8Size_ofNat_of_lt]
  omega

section Names

variable (relname : String) (ts : Timeval)

@[simp] theorem byteLength_recIndexName :
    byteLength (recIndexName relname).data = byteLength relname.data + 5 := by
  simp (disch := decide) only [recIndexName, byteLength_data_append, byteLength_cons,
      byteLength_nil, utf8Size_ofNat_of_lt]

@[simp] theorem byteLength_recModelName :
    byteLength (recModelName relname ts).data = byteLength relname.data + 5 + byteLength ts.suffix.data := by
  simp (disch := decide) only [recModelName, byteLength_data_append, byteLength_cons,
      byteLength_nil, utf8Size_ofNat_of_lt]

@[simp] theorem byteLength_recUserModelName :
    byteLength (recUserModelName relname ts).data =
      byteLength relname.data + 9 + byteLength ts.suffix.data := by
  simp (disch := decide) only [recUserModelName, byteLength_data_append, byteLength_cons,
      byteLength_nil, utf8Size_ofNat_of_lt]

@[simp] theorem byteLength_recItemModelName :
    byteLength (recItemModelName relname ts).data =
      byteLength relname.data + 9 + byteLength ts.suffix.data := by
  simp (disch := decide) only [recItemModelName, byteLength_data_append, byteLength_cons,
      byteLength_nil, utf8Size_ofNat_of_lt]

@[simp] theorem byteLength_recViewName :
    byteLength (recViewName relname ts).data = byteLength relname.data + 4 + byteLength ts.suffix.data := by
  simp (disch := decide) only [recViewName, byteLength_data_append, byteLength_cons, byteLength_nil,
      utf8Size_ofNat_of_lt]

end Names

section Cell

variable (recStmt : CreateRStmt) (method : RecMethod) (ts : Timeval)

/-- Every model name has at most `relname` plus 9 bytes plus the suffix. -/
theorem byteLength_model_le :
    ∀ m ∈ (familyOf recStmt method).models ts,
      byteLength m.1.data ≤ byteLength recStmt.relname.data + 9 + byteLength ts.suffix.data := by
  cases method <;>
  simp only [familyOf, itemFamily, userFamily, svdFamily, List.mem_cons, List.mem_singleton,
    List.not_mem_nil, or_false, forall_eq_or_imp, forall_eq, byteLength_recModelName,
    byteLength_recUserModelName, byteLength_recItemModelName] <;>
  omega

/-- The model names take at most two names' worth of room in the index-row INSERT. -/
theorem valuesLength_models_le :
    valuesLength (((familyOf recStmt method).models ts).map Prod.fst) ≤
      2 * (byteLength recStmt.relname.data + 13 + byteLength ts.suffix.data) := by
  cases method <;>
  simp only [familyOf, itemFamily, userFamily, svdFamily, List.map_cons, List.map_nil, valuesLength,
    byteLength_recModelName, byteLength_recUserModelName, byteLength_recItemModelName] <;>
  omega

theorem byteLength_modelCreate_le :
    ∀ m ∈ modelCreates recStmt method ts,
      byteLength m.data ≤ byteLength recStmt.relname.data + byteLength ts.suffix.data + 98 := by
  cases method <;>
  simp (disch := decide) only [modelCreates, List.mem_cons, List.mem_singleton, List.not_mem_nil,
    or_false, forall_eq_or_imp, forall_eq, byteLength_recModelName, byteLength_recUserModelName,
    byteLength_recItemModelName, byteLength_data_append, byteLength_cons, byteLength_nil,
    utf8Size_ofNat_of_lt] <;>
  omega

theorem byteLength_viewCreate :
    byteLength (viewCreate recStmt ts).data =
      byteLength recStmt.relname.data + byteLength ts.suffix.data +
        2 * byteLength recStmt.userkey.data + 2 * byteLength recStmt.itemkey.data + 99 := by
  simp (disch := decide) only [viewCreate, byteLength_recViewName, byteLength_data_append,
      byteLength_cons, byteLength_nil, utf8Size_ofNat_of_lt]
  omega

theorem byteLength_viewInsert :
    byteLength (viewInsert recStmt.relname ts).data =
      byteLength recStmt.relname.data + byteLength ts.suffix.data + 34 := by
  simp (disch := decide) only [viewInsert, byteLength_recViewName, byteLength_data_append,
      byteLength_cons, byteLength_nil, utf8Size_ofNat_of_lt]
  omega

end Cell

/-! ## When they fit -/

/-- For an admitted request, a clock reading within a `long` and a count within an `int`,
every buffer of a cell fits when each context value has at most 251 bytes and the row
prints in at most 579. -/
theorem cellBuffers_fit {recStmt : CreateRStmt} (admitted : Admitted recStmt) (method : RecMethod)
    {ts : Timeval} (long : ts.tvSec.natAbs ≤ 2 ^ 63) {count : Int} (int : count.natAbs ≤ 2 ^ 31)
    {attvalues : List String} (values : ∀ v ∈ attvalues, byteLength v.data ≤ 251)
    (total : valuesLength attvalues ≤ 579) :
    ∀ b ∈ cellBuffers recStmt method ts count attvalues, b.Fits := by
  have names := admitted.names
  simp only [List.mem_cons, List.mem_singleton, forall_eq_or_imp, forall_eq] at names
  have suffix := byteLength_suffix_le ts long
  have digits := byteLength_toString_int_le (n := count) (e := 10) (by decide)
    (lt_of_le_of_lt int (by decide))
  intro b mem
  simp only [cellBuffers, List.cons_append, List.append_assoc, List.mem_cons, List.mem_append,
    List.mem_map, List.mem_singleton, List.not_mem_nil, false_or] at mem
  rcases mem with rfl | ⟨m, model, rfl⟩ | ⟨m, create, rfl⟩ | rfl | rfl | rfl | ⟨v, value, rfl⟩
  · simp only [Buffer.Fits, byteLength_recIndexName]
    omega
  · have := byteLength_model_le recStmt method ts m model
    simp only [Buffer.Fits]
    omega
  · have := byteLength_modelCreate_le recStmt method ts m create
    simp only [Buffer.Fits]
    omega
  · simp only [Buffer.Fits, byteLength_viewCreate]
    omega
  · simp only [Buffer.Fits, byteLength_viewInsert]
    omega
  · have := valuesLength_models_le recStmt method ts
    simp only [Buffer.Fits, Family.indexInsert, byteLength_render_indexInsert,
      byteLength_recIndexName, byteLength_recViewName]
    omega
  · have := values v value
    simp (disch := decide) only [Buffer.Fits, valueAddition, byteLength_data_append,
        byteLength_cons, byteLength_nil, utf8Size_ofNat_of_lt]
    omega

theorem byteLength_selectList_le (attList : List String) :
    byteLength (selectList attList).data ≤ additionsLength attList := by
  induction attList with
  | nil => simp [selectList, additionsLength]
  | cons a as ih =>
      cases as with
      | nil => simp [selectList, additionsLength]
      | cons b bs =>
          simp (disch := decide) only [selectList, additionsLength, byteLength_data_append,
              byteLength_cons, byteLength_nil, utf8Size_ofNat_of_lt] at ih ⊢
          omega

/-- When the buffers of `case T_CreateRStmt` fit, so do `attnames` and the `SELECT
DISTINCT` of the builder. -/
theorem contextBuffers_fit {recStmt : CreateRStmt} (admitted : Admitted recStmt) {method : RecMethod}
    (created : ∀ b ∈ createBuffers recStmt method, b.Fits) :
    (∀ a ∈ recStmt.attributes, (⟨256, a⟩ : Buffer).Fits) ∧
      (⟨1024, attQuery recStmt.attributes recStmt.usertable⟩ : Buffer).Fits := by
  have names := admitted.names
  simp only [List.mem_cons, List.mem_singleton, forall_eq_or_imp, forall_eq] at names
  have create := created ⟨1024, indexCreate method recStmt.relname recStmt.attributes⟩
    (by simp [createBuffers])
  simp only [Buffer.Fits, byteLength_indexCreate] at create
  have select := byteLength_selectList_le recStmt.attributes
  refine ⟨fun a mem => ?_, ?_⟩
  · have := admitted.attributes a mem
    simp only [Buffer.Fits]
    omega
  · simp (disch := decide) only [Buffer.Fits, attQuery, byteLength_data_append, byteLength_cons,
      byteLength_nil, utf8Size_ofNat_of_lt]
    split at create <;> omega

theorem buildBuffers_fit {recStmt : CreateRStmt} (admitted : Admitted recStmt) {method : RecMethod}
    (created : ∀ b ∈ createBuffers recStmt method, b.Fits) (ratings : BackendCall → Int)
    (clock : Nat → Timeval) (cursor : List (Tuple recStmt.attributes.length))
    (long : ∀ i, (clock i).tvSec.natAbs ≤ 2 ^ 63) (int : ∀ call, (ratings call).natAbs ≤ 2 ^ 31)
    (values : ∀ t ∈ cursor, ∀ v ∈ t.values, byteLength v.data ≤ 251)
    (total : ∀ t ∈ cursor, valuesLength t.values ≤ 579) :
    ∀ b ∈ buildBuffers recStmt method ratings clock cursor, b.Fits := by
  obtain ⟨attnames, query⟩ := contextBuffers_fit admitted created
  intro b mem
  simp only [buildBuffers, List.mem_append, List.mem_flatMap] at mem
  rcases mem with context | ⟨⟨i, t⟩, cell, mem⟩
  · split at context
    · exact absurd context (List.not_mem_nil b)
    · simp only [List.mem_append, List.mem_map, List.mem_singleton] at context
      rcases context with ⟨a, mem, rfl⟩ | rfl
      · exact attnames a mem
      · exact query
  · have count : (numRatings ratings ((familyOf recStmt method).populate (clock i)
        recStmt.attributes t.values)).natAbs ≤ 2 ^ 31 := by
      cases (familyOf recStmt method).populate (clock i) recStmt.attributes t.values with
      | none => simp [numRatings]
      | some call => exact int call
    obtain ⟨short, fits⟩ :
        (∀ v ∈ t.values, byteLength v.data ≤ 251) ∧ valuesLength t.values ≤ 579 := by
      rcases contextCells_cases (List.snd_mem_of_mem_enum cell) with row | (empty : t.values = [])
      · exact ⟨values t row, total t row⟩
      · simp [empty, valuesLength]
    exact cellBuffers_fit admitted method (long i) count short fits b mem

/-- A recommender over one context attribute, `region`. -/
def regionStmt : CreateRStmt := { sampleStmt "foo" with attributes := ["region"] }

/-- A clock that reads the same second of 2023 for every cell. -/
def fixedClock : Nat → Timeval := fun _ => ⟨1700000000, 123456, by decide⟩

set_option maxRecDepth 2000 in
theorem north_build_buffers_fit :
    Admitted regionStmt ∧
      ∀ b ∈ buildBuffers regionStmt .itemCosCF (fun _ => 3) fixedClock [⟨["north"], rfl⟩], b.Fits :=
  ⟨by decide, buildBuffers_fit (by decide) (by decide) (fun _ => 3) fixedClock _
    (fun _ => (by decide : (1700000000 : Int).natAbs ≤ 2 ^ 63))
    (fun _ => (by decide : (3 : Int).natAbs ≤ 2 ^ 31)) (by decide) (by decide)⟩

theorem byteLength_replicate (n : Nat) (c : Char) :
    byteLength (List.replicate n c) = n * c.utf8Size := by
  induction n with
  | zero => simp
  | succ n ih => simp only [List.replicate_succ, byteLength_cons, ih]; ring

/-- A region name of 252 bytes. -/
def longRegion : String := ⟨List.replicate 252 'x'⟩

end Recathon
