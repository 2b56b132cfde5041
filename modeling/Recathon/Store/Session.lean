import Recathon.Utility.Process
import Recathon.Store.Order

/-!
# Recathon.Store.Session — a session of recommender statements refines the registry

What the two statements are for, said on `Registry` alone (`Registry.apply`): a build adds
the recommender it builds when its method is known, the cursor yields a cell, and every
name it takes is free; a destroy removes the recommender whose `relname` the name folds
to; a read-only transaction refuses both. `Registry.run` applies a list of them.

* `WF.apply`, `WF.run`: the registry step keeps a registry well formed;
* `standardProcessUtility_realize`: one statement on a realized store completes, in the
  engine model, exactly when the registry step does, and leaves the realization of the
  registry it gives;
* `run_of_runUtilities`: by induction on the session, a whole session that completes on a
  realized store is a run of `Registry.run`, and leaves its realization;
* `catalogue_after_session`: so the catalogue then lists the recommenders built and not
  destroyed since.

The direction from a registry step to a completed statement (`runUtilities_of_run`) is a
fact of the engine model only: the engine never reads the SQL text the code formats, and
PostgreSQL refuses some of those texts (`Recathon.Store.Complete`).
-/

namespace Recathon

set_option autoImplicit false

namespace Registry

/-- The recommender a build of `recStmt`, validated as `method`, records: one cell per row
the cursor yields, or the one cell of a recommender without context attributes. -/
def buildOf (recStmt : CreateRStmt) (method : RecMethod) (clock : Nat → Timeval)
    (cursor : List (Tuple recStmt.attributes.length)) (ratings : BackendCall → Int) : Recommender :=
  ⟨recStmt, method,
    (familyOf recStmt method).cellRecs ratings recStmt.attributes clock 0 (contextCells _ cursor)⟩

/-- What one recommender statement does to the registry, if it completes. -/
def apply (base : Db) (xactReadOnly : Bool) (reg : Registry) : UtilityStmt → Option Registry
  | .createRStmt recStmt clock cursor ratings =>
      if xactReadOnly then none else
      match validateCreateRStmt recStmt with
      | .error _ => none
      | .ok method =>
          let built : Registry :=
            ⟨true, reg.recommenders ++ [buildOf recStmt method clock cursor ratings]⟩
          if contextCells _ cursor ≠ [] ∧ built.WF base then some built else none
  | .dropRecStmt relname =>
      if xactReadOnly then none else
      (reg.recommenders.find? fun r => r.recStmt.relname == lower relname).map fun r =>
        ⟨true, reg.recommenders.erase r⟩

/-- The registry steps of a session, until the first that is refused. -/
def run (base : Db) (xactReadOnly : Bool) : Registry → List UtilityStmt → Option Registry
  | reg, [] => some reg
  | reg, s :: rest => (reg.apply base xactReadOnly s).bind fun reg' => run base xactReadOnly reg' rest

variable {base : Db} {reg : Registry} {xactReadOnly : Bool}

/-- The destroy step finds the live recommender whose `relname` the name folds to. -/
theorem WF.find?_relname (wf : reg.WF base) {name : String} {r : Recommender}
    (live : r ∈ reg.recommenders) (named : lower name = r.recStmt.relname) :
    (reg.recommenders.find? fun r => r.recStmt.relname == lower name) = some r := by
  cases found : reg.recommenders.find? fun r => r.recStmt.relname == lower name with
  | none => simpa [named] using List.find?_eq_none.1 found r live
  | some r' =>
      have same : r'.recStmt.relname = lower name := by simpa using List.find?_some found
      rw [wf.relname_inj (List.mem_of_find?_eq_some found) live (same.trans named)]

/-- A build step that completes: the request validates, the cursor yields a cell, and
the registry with the recommender it builds is well formed. -/
theorem apply_createRStmt (recStmt : CreateRStmt) (clock : Nat → Timeval)
    (cursor : List (Tuple recStmt.attributes.length)) (ratings : BackendCall → Int) {reg' : Registry} :
    reg.apply base false (.createRStmt recStmt clock cursor ratings) = some reg' ↔
      ∃ method, validateCreateRStmt recStmt = .ok method ∧ contextCells _ cursor ≠ [] ∧
        reg' = ⟨true, reg.recommenders ++ [buildOf recStmt method clock cursor ratings]⟩ ∧
        reg'.WF base := by
  cases valid : validateCreateRStmt recStmt with
  | error e => simp [Registry.apply, valid]
  | ok method =>
      simp only [Registry.apply, valid, Bool.false_eq_true, ↓reduceIte, Option.ite_none_right_eq_some,
        Option.some.injEq, Except.ok.injEq, exists_eq_left']
      constructor
      · rintro ⟨⟨reads, wf'⟩, rfl⟩
        exact ⟨reads, rfl, wf'⟩
      · rintro ⟨reads, rfl, wf'⟩
        exact ⟨⟨reads, wf'⟩, rfl⟩

/-- A destroy step that completes removes the recommender the lookup finds. -/
theorem apply_dropRecStmt (name : String) {reg' : Registry} :
    reg.apply base false (.dropRecStmt name) = some reg' ↔
      ∃ r, (reg.recommenders.find? fun r => r.recStmt.relname == lower name) = some r ∧
        ⟨true, reg.recommenders.erase r⟩ = reg' := by
  simp [Registry.apply]

/-- The registry step keeps a registry well formed. -/
theorem WF.apply (wf : reg.WF base) {s : UtilityStmt} {reg' : Registry}
    (applied : reg.apply base xactReadOnly s = some reg') : reg'.WF base := by
  cases xactReadOnly
  case true => cases s <;> simp [Registry.apply] at applied
  case false =>
    cases s with
    | createRStmt recStmt clock cursor ratings =>
        obtain ⟨-, -, -, -, wf'⟩ := (apply_createRStmt recStmt clock cursor ratings).1 applied
        exact wf'
    | dropRecStmt name =>
        obtain ⟨r, found, rfl⟩ := (apply_dropRecStmt name).1 applied
        exact wf.erase_live (List.mem_of_find?_eq_some found)

theorem WF.run (wf : reg.WF base) {stmts : List UtilityStmt} {reg' : Registry}
    (ran : reg.run base xactReadOnly stmts = some reg') : reg'.WF base := by
  induction stmts generalizing reg with
  | nil => cases ran; exact wf
  | cons s rest ih =>
      obtain ⟨reg₁, applied, ran⟩ := Option.bind_eq_some.1 ran
      exact ih (wf.apply applied) ran

/-- One recommender statement on a realized store completes, in the engine model, exactly
when the registry step does, and then leaves the realization of the registry that step
gives. -/
theorem standardProcessUtility_realize (wf : reg.WF base) (s : UtilityStmt) {db : Db} :
    standardProcessUtility xactReadOnly s (reg.realize base) = .ok db ↔
      ∃ reg', reg.apply base xactReadOnly s = some reg' ∧ db = reg'.realize base := by
  cases xactReadOnly
  case true => cases s <;> simp [Registry.apply]
  case false =>
    cases s with
    | createRStmt recStmt clock cursor ratings =>
        rw [standardProcessUtility_createRStmt]
        constructor
        · intro built
          obtain ⟨method, valid, rfl, wf'⟩ := createRStmt_realize wf recStmt clock cursor ratings built
          exact ⟨_, (apply_createRStmt recStmt clock cursor ratings).2
            ⟨method, valid, contextCells_of_built built, rfl, wf'⟩, rfl⟩
        · rintro ⟨reg', applied, rfl⟩
          obtain ⟨method, valid, reads, rfl, wf'⟩ :=
            (apply_createRStmt recStmt clock cursor ratings).1 applied
          exact createRStmt_complete wf recStmt clock cursor ratings valid reads wf'
    | dropRecStmt name =>
        rw [standardProcessUtility_dropRecStmt]
        constructor
        · intro dropped
          obtain ⟨r, live, named⟩ := live_of_dropRecommender wf dropped
          rw [dropRecommender_erase wf live named, Except.ok.injEq] at dropped
          exact ⟨_, (apply_dropRecStmt name).2 ⟨r, wf.find?_relname live named, rfl⟩, dropped.symm⟩
        · rintro ⟨reg', applied, rfl⟩
          obtain ⟨r, found, rfl⟩ := (apply_dropRecStmt name).1 applied
          have named : r.recStmt.relname = lower name := by simpa using List.find?_some found
          exact dropRecommender_erase wf (List.mem_of_find?_eq_some found) named.symm

/-- A session the registry completes also completes on the realized store, in the engine
model. -/
theorem runUtilities_of_run (wf : reg.WF base) {stmts : List UtilityStmt} {reg' : Registry}
    (ran : reg.run base xactReadOnly stmts = some reg') :
    runUtilities xactReadOnly stmts (reg.realize base) = .ok (reg'.realize base) := by
  induction stmts generalizing reg with
  | nil => cases ran; rfl
  | cons s rest ih =>
      obtain ⟨reg₁, applied, ran⟩ := Option.bind_eq_some.1 ran
      rw [runUtilities_cons, (standardProcessUtility_realize wf s).2 ⟨reg₁, applied, rfl⟩]
      exact ih (wf.apply applied) ran

/-- A session that completes on a realized store is one the registry completes. -/
theorem run_of_runUtilities (wf : reg.WF base) {stmts : List UtilityStmt} {db : Db}
    (done : runUtilities xactReadOnly stmts (reg.realize base) = .ok db) :
    ∃ reg', reg.run base xactReadOnly stmts = some reg' ∧ db = reg'.realize base := by
  induction stmts generalizing reg with
  | nil => exact ⟨reg, rfl, (Except.ok.inj done).symm⟩
  | cons s rest ih =>
      rw [runUtilities_cons] at done
      cases step : standardProcessUtility xactReadOnly s (reg.realize base) with
      | error e => simp [step, Except.bind] at done
      | ok db₁ =>
          obtain ⟨reg₁, applied, rfl⟩ := (standardProcessUtility_realize wf s).1 step
          rw [step] at done
          obtain ⟨reg', ran, rfl⟩ := ih (wf.apply applied) done
          exact ⟨reg', by simp [Registry.run, applied, ran], rfl⟩

/-- The session that builds `foo` and `bar` over an empty database and then destroys
`FOO`. -/
def fooBarSession : List UtilityStmt :=
  [.createRStmt (sampleStmt "foo") sampleClock [] (fun _ => 3),
    .createRStmt (sampleStmt "bar") sampleClock [] (fun _ => 3), .dropRecStmt "FOO"]

/-! ## The catalogue after a session -/

/-- What a statement does to the `relname`s of the live recommenders, in catalogue order:
a build appends its own, a destroy removes its folded name. -/
def nameStep (names : List String) : UtilityStmt → List String
  | .createRStmt recStmt .. => names ++ [recStmt.relname]
  | .dropRecStmt name => names.erase (lower name)

/-- Removing the recommender the lookup finds removes its `relname`. -/
theorem map_relname_erase {recs : List Recommender} {name : String} {r : Recommender}
    (found : (recs.find? fun r => r.recStmt.relname == name) = some r) :
    (recs.erase r).map (fun r => r.recStmt.relname) =
      (recs.map fun r => r.recStmt.relname).erase name := by
  induction recs with
  | nil => simp at found
  | cons x xs ih =>
      by_cases named : x.recStmt.relname = name
      · rw [List.find?_cons_of_pos _ (by simpa using named)] at found
        cases found
        simp [named]
      · rw [List.find?_cons_of_neg _ (by simpa using named)] at found
        have other : x ≠ r := by
          rintro rfl
          exact named (by simpa using List.find?_some found)
        simp [List.erase_cons, other, named, ih found]

theorem apply_relnames {s : UtilityStmt} {reg' : Registry}
    (applied : reg.apply base xactReadOnly s = some reg') :
    reg'.recommenders.map (fun r => r.recStmt.relname) =
      nameStep (reg.recommenders.map fun r => r.recStmt.relname) s := by
  cases xactReadOnly
  case true => cases s <;> simp [Registry.apply] at applied
  case false =>
    cases s with
    | createRStmt recStmt clock cursor ratings =>
        obtain ⟨method, -, -, rfl, -⟩ := (apply_createRStmt recStmt clock cursor ratings).1 applied
        simp [nameStep, buildOf]
    | dropRecStmt name =>
        obtain ⟨r, found, rfl⟩ := (apply_dropRecStmt name).1 applied
        exact map_relname_erase found

theorem run_relnames {stmts : List UtilityStmt} {reg' : Registry}
    (ran : reg.run base xactReadOnly stmts = some reg') :
    reg'.recommenders.map (fun r => r.recStmt.relname) =
      stmts.foldl nameStep (reg.recommenders.map fun r => r.recStmt.relname) := by
  induction stmts generalizing reg with
  | nil => cases ran; rfl
  | cons s rest ih =>
      obtain ⟨reg₁, applied, ran⟩ := Option.bind_eq_some.1 ran
      rw [List.foldl_cons, ← apply_relnames applied]
      exact ih ran

/-- After a session that completes on a realized store, `RecModelsCatalogue` lists the
index names of the recommenders built and not destroyed since, in the order they were
built: a build appends its row, a destroy removes exactly the row of its name. -/
theorem catalogue_after_session (wf : reg.WF base) (stmts : List UtilityStmt) {db : Db}
    (done : runUtilities xactReadOnly stmts (reg.realize base) = .ok db) :
    catalogueIndexNames db =
      (stmts.foldl nameStep (reg.recommenders.map fun r => r.recStmt.relname)).map recIndexName := by
  obtain ⟨reg', ran, rfl⟩ := run_of_runUtilities wf done
  rw [(wf.run ran).storeInvariant.catalogue, ← run_relnames ran, List.map_map]
  rfl

theorem foo_bar_session_catalogue :
    ∃ db, runUtilities false fooBarSession ((⟨false, []⟩ : Registry).realize ⟨[]⟩) = .ok db ∧
      catalogueIndexNames db = ["barIndex"] :=
  have done : runUtilities false fooBarSession ((⟨false, []⟩ : Registry).realize ⟨[]⟩) =
      .ok ((⟨true, [buildOf (sampleStmt "bar") .itemCosCF sampleClock [] (fun _ => 3)]⟩ :
        Registry).realize ⟨[]⟩) :=
    runUtilities_of_run (WF.empty ⟨[]⟩ rfl rfl) (by decide)
  ⟨_, done, (catalogue_after_session (WF.empty ⟨[]⟩ rfl rfl) fooBarSession done).trans (by decide)⟩

end Registry

end Recathon
