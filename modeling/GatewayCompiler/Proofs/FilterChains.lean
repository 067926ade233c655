import GatewayCompiler.Render.Listener
import Mathlib.Data.List.Find
import Mathlib.Data.List.Induction

/-!
# Which filters a connection manager holds

A connection manager holds one filter for each name among the entries that it is made from.  What a
host, a route or a cluster changes about filters is said under their names, so that the names have to
be those of entries.

## Main statements

* `find?_selectEntries`, `mem_httpFilters` — the entry that counts under a name.
* `mem_names_httpFilters` — the names of the filters of a connection manager.
* `nodup_names_httpFilters_iff` — when they differ.
* `mem_names_of_overrides` — what is changed has an entry.
* `Route.overrideNames_entries` — the filters that a route changes have entries of the route.
-/

namespace GatewayCompiler

open Proxy

/-! ### The filters of a connection manager -/

theorem selectEntry_keyedBy {chosen : OrderedMap String ChainEntry}
    (h : chosen.KeyedBy ChainEntry.name) (entry : ChainEntry) :
    (selectEntry chosen entry).KeyedBy ChainEntry.name := by
  unfold selectEntry
  split
  · exact h.insert rfl
  · split
    · exact h.insert rfl
    · exact h

theorem contains_selectEntry {chosen : OrderedMap String ChainEntry} {entry : ChainEntry}
    {name : String} :
    (selectEntry chosen entry).contains name ↔ name = entry.name ∨ chosen.contains name := by
  unfold selectEntry
  split
  · exact OrderedMap.contains_insert
  · next existing hfound =>
    split
    · exact OrderedMap.contains_insert
    · -- nothing changes, and the name is there already
      constructor
      · exact .inr
      · rintro (rfl | h)
        · exact OrderedMap.contains_eq_true_iff.mpr ⟨existing, hfound⟩
        · exact h

theorem selectEntries_keyedBy (entries : List ChainEntry) :
    (selectEntries entries).KeyedBy ChainEntry.name := by
  unfold selectEntries
  exact List.foldlRecOn (motive := fun m : OrderedMap String ChainEntry =>
    m.KeyedBy ChainEntry.name) _ _ OrderedMap.KeyedBy.empty fun _ h entry _ =>
      selectEntry_keyedBy h entry

/-- Every name among the entries is kept by `selectEntries`, and no other one. -/
theorem contains_selectEntries {entries : List ChainEntry} {name : String} :
    (selectEntries entries).contains name ↔ ∃ e ∈ entries, e.name = name := by
  have hfold : ∀ chosen : OrderedMap String ChainEntry,
      (entries.foldl selectEntry chosen).contains name ↔
        chosen.contains name ∨ ∃ e ∈ entries, e.name = name := by
    -- over the entries, for every choice made so far: the fold starts at the empty one
    induction entries with
    | nil => simp
    | cons e rest ih =>
      intro chosen
      rw [List.foldl_cons, ih, contains_selectEntry]
      simp only [List.mem_cons, exists_eq_or_imp, eq_comm (a := name)]
      rw [or_comm (a := e.name = name), or_assoc]
  rw [selectEntries, hfold]
  simp [OrderedMap.contains, show ({} : OrderedMap String ChainEntry) = OrderedMap.empty from rfl]

/-- What is kept under the name of an entry when the entry `e` is considered. -/
theorem find?_selectEntry_self (chosen : OrderedMap String ChainEntry) (e : ChainEntry) :
    (selectEntry chosen e).find? e.name = some (match chosen.find? e.name with
      | none => e
      | some existing => if existing.disabled && !e.disabled then e else existing) := by
  unfold selectEntry
  cases hfound : chosen.find? e.name with
  | none => exact OrderedMap.find?_insert_self _ _ _
  | some existing =>
    simp only
    by_cases hreplace : existing.disabled && !e.disabled
    · rw [if_pos hreplace, if_pos hreplace]
      exact OrderedMap.find?_insert_self _ _ _
    · rw [if_neg hreplace, if_neg hreplace, hfound]

/-- `chosen? entries name` is the entry of a name that counts: the first one that is on, or else the
first one. -/
def chosen? (entries : List ChainEntry) (name : String) : Option ChainEntry :=
  (entries.find? fun e => e.name = name && !e.disabled).or (entries.find? fun e => e.name = name)

/-- The entry that is kept under a name is the one that counts, `chosen? entries name`. -/
theorem find?_selectEntries (entries : List ChainEntry) (name : String) :
    (selectEntries entries).find? name = chosen? entries name := by
  -- every further entry comes last
  induction entries using List.reverseRecOn with
  | nil => rfl
  | append_singleton entries e ih =>
    have hlast : selectEntries (entries ++ [e]) = selectEntry (selectEntries entries) e := by
      rw [selectEntries, List.foldl_append]
      rfl
    rw [hlast, chosen?, List.find?_append, List.find?_append]
    by_cases hname : e.name = name
    · subst hname
      rw [find?_selectEntry_self, ih, chosen?]
      cases hfirst : entries.find? fun f => f.name = e.name with
      | none =>
        have hnone : entries.find? (fun f => f.name = e.name && !f.disabled) = none := by
          rw [List.find?_eq_none] at hfirst ⊢
          intro f hf
          simp only [Bool.and_eq_true, not_and]
          exact fun hname => absurd hname (hfirst f hf)
        cases he : e.disabled <;> simp [hnone, he]
      | some first =>
        cases hon : entries.find? fun f => f.name = e.name && !f.disabled with
        | none =>
          -- all earlier ones of the name are off
          have hoff : first.disabled := by
            have hkey := List.find?_some hfirst
            have hnot := List.find?_eq_none.mp hon first (List.mem_of_find?_eq_some hfirst)
            simp_all
          cases he : e.disabled <;> simp [hoff, he]
        | some on =>
          have hkey : on.name = e.name ∧ on.disabled = false := by simpa using List.find?_some hon
          simp [hkey.2]
    · have hother : (selectEntry (selectEntries entries) e).find? name
          = (selectEntries entries).find? name := by
        unfold selectEntry
        split
        · exact OrderedMap.find?_insert_of_ne _ _ (Ne.symm hname)
        · split
          · exact OrderedMap.find?_insert_of_ne _ _ (Ne.symm hname)
          · rfl
      rw [hother, ih, chosen?]
      simp [hname]

/-- Where the entries that are on come first, the first entry of a name counts. -/
theorem chosen?_append {on off : List ChainEntry} (hon : ∀ e ∈ on, e.disabled = false)
    (hoff : ∀ e ∈ off, e.disabled = true) (name : String) :
    chosen? (on ++ off) name = (on ++ off).find? fun e => e.name = name := by
  have hsome : (on.find? fun e => e.name = name && !e.disabled) = on.find? fun e => e.name = name :=
    List.find?_congr fun e he => by simp [hon e he]
  have hnone : (off.find? fun e => e.name = name && !e.disabled) = none := by
    rw [List.find?_eq_none]
    intro e he
    simp [hoff e he]
  rw [chosen?, List.find?_append, List.find?_append, hsome, hnone, Option.or_none,
    ← Option.or_assoc, Option.or_self]

/-- A connection manager holds the entries that count, and the router.  Nothing else is in it. -/
theorem mem_httpFilters {entries : List ChainEntry} {m : HttpFilterMessage} :
    m ∈ httpFilters entries ↔
      (∃ e, chosen? entries e.name = some e ∧ e.message = m) ∨
        m = ⟨routerName, false, .router⟩ := by
  unfold httpFilters
  rw [List.mem_append, List.mem_singleton, List.mem_map]
  refine or_congr (exists_congr fun e => and_congr_left fun _ => ?_) Iff.rfl
  rw [List.mem_mergeSort, ← find?_selectEntries]
  exact (selectEntries_keyedBy entries).mem_values_iff

/-- Every name among the entries is kept once, whatever order the entries are put in. -/
theorem perm_names_selectEntries (entries : List ChainEntry) :
    (((selectEntries entries).values.mergeSort ChainEntry.before).map ChainEntry.name).Perm
      (selectEntries entries).keys := by
  rw [← (selectEntries_keyedBy entries).map_values]
  exact (List.mergeSort_perm _ _).map _

/-- The filters of a connection manager are those of entries, and the router comes last. -/
theorem names_httpFilters (entries : List ChainEntry) :
    (httpFilters entries).map HttpFilterMessage.name =
      ((selectEntries entries).values.mergeSort ChainEntry.before).map ChainEntry.name
        ++ [routerName] := by
  unfold httpFilters
  rw [List.map_append, List.map_map]
  rfl

/-- A connection manager holds a filter for every name among the entries, and the router. -/
theorem mem_names_httpFilters {entries : List ChainEntry} {name : String} :
    name ∈ (httpFilters entries).map HttpFilterMessage.name ↔
      (∃ e ∈ entries, e.name = name) ∨ name = routerName := by
  rw [names_httpFilters, List.mem_append, List.mem_singleton]
  refine or_congr ?_ Iff.rfl
  rw [← contains_selectEntries, OrderedMap.contains_iff_mem_keys]
  exact (perm_names_selectEntries entries).mem_iff

/-- In front of the router every name comes once, as `selectEntries` keeps one entry for each. -/
theorem nodup_names_dropLast_httpFilters (entries : List ChainEntry) :
    ((httpFilters entries).dropLast.map HttpFilterMessage.name).Nodup := by
  rw [List.map_dropLast, names_httpFilters, List.dropLast_concat]
  exact (perm_names_selectEntries entries).nodup_iff.mpr (OrderedMap.keys_nodup _)

/-- Every name comes once if and only if no entry has the name of the router. -/
theorem nodup_names_httpFilters_iff {entries : List ChainEntry} :
    ((httpFilters entries).map HttpFilterMessage.name).Nodup ↔
      ∀ e ∈ entries, e.name ≠ routerName := by
  rw [names_httpFilters, (List.perm_append_singleton routerName _).nodup_iff, List.nodup_cons,
    (perm_names_selectEntries entries).nodup_iff, (perm_names_selectEntries entries).mem_iff,
    and_iff_left (OrderedMap.keys_nodup _), ← OrderedMap.contains_iff_mem_keys,
    contains_selectEntries]
  simp

/-! ### Filters that are changed -/

/-- A filter that is changed makes an entry, whether it is on or off: where `override?` finds
settings, so does `inChain?`. -/
theorem Filter.exists_inChain? {f : Filter} {scope : FilterScope} {o : FilterOverride}
    (h : f.override? scope = some o) (disabled : Bool) :
    ∃ e, f.inChain? scope disabled = some e ∧ e.name = f.name := by
  unfold Filter.override? at h
  split at h
  · next hboth =>
    obtain ⟨hkind, hconfig⟩ := hboth
    obtain ⟨rank, hrank⟩ := Option.isSome_iff_exists.mp hkind
    obtain ⟨config, hconfig⟩ := Option.isSome_iff_exists.mp hconfig
    exact ⟨⟨f.name, rank, config, disabled⟩, by simp [Filter.inChain?, hrank, hconfig], rfl⟩
  · cases h

/-- Every filter that is changed has an entry among those of the same filters. -/
theorem mem_names_of_overrides {filters : List Filter} {scope : FilterScope} {name : String}
    (h : name ∈ (overrides filters scope).keys) (disabled : Bool) :
    ∃ e ∈ filters.filterMap (·.inChain? scope disabled), e.name = name := by
  unfold overrides at h
  rw [← OrderedMap.contains_iff_mem_keys, OrderedMap.contains_ofList] at h
  obtain ⟨⟨name', o⟩, hmem, rfl⟩ := List.mem_map.mp h
  obtain ⟨f, hf, hsome⟩ := List.mem_filterMap.mp hmem
  obtain ⟨o', ho, heq⟩ := Option.map_eq_some_iff.mp hsome
  cases heq
  obtain ⟨e, he, hname⟩ := Filter.exists_inChain? ho disabled
  exact ⟨e, List.mem_filterMap.mpr ⟨f, hf, he⟩, hname⟩

/-! ### Names in messages -/

namespace Proxy

/-- `s.names` are the clusters that requests may go to. -/
def ClusterSpecifier.names : ClusterSpecifier → List String
  | .cluster name => [name]
  | .weighted clusters => clusters.map WeightedCluster.name

/-- `a.clusterNames` are the clusters that the requests of a route may go to, none for a
redirect. -/
def Action.clusterNames : Action → List String
  | .redirect => []
  | .route action => action.clusters.names

/-- `s.overrideNames` are the filters that are changed where requests are split. -/
def ClusterSpecifier.overrideNames : ClusterSpecifier → List String
  | .cluster _ => []
  | .weighted clusters => clusters.flatMap fun c => c.overrides.keys

/-- `a.overrideNames` are the filters that an action changes, none for a redirect. -/
def Action.overrideNames : Action → List String
  | .redirect => []
  | .route action => action.clusters.overrideNames

/-- `r.overrideNames` are the filters that a route and the clusters behind it change. -/
def RouteMessage.overrideNames (r : RouteMessage) : List String :=
  r.overrides.keys ++ r.action.overrideNames

/-- `h.overrideNames` are the filters that a host, its routes and their clusters change. -/
def VirtualHostMessage.overrideNames (h : VirtualHostMessage) : List String :=
  h.overrides.keys ++ h.routes.flatMap RouteMessage.overrideNames

end Proxy

/-! ### Split requests -/

/-- `Shares clusters known` says what is known of the clusters that requests are split over: they
stand in `known` under their names, and each of them is one of `clusters`, with what its filters
change. -/
structure Shares (clusters : List Cluster) (known : OrderedMap String WeightedCluster) : Prop where
  /-- Each stands under its name. -/
  keyed : known.KeyedBy WeightedCluster.name
  /-- Each was given. -/
  given : ∀ name w, known.find? name = some w → ∃ c ∈ clusters, c.messageName = name ∧
    w.overrides = overrides c.filters .cluster

theorem Shares.addShare {clusters : List Cluster} {known : OrderedMap String WeightedCluster}
    (h : Shares clusters known) {share : Cluster × Nat} (hshare : share.1 ∈ clusters) :
    Shares clusters (addShare known share) := by
  unfold GatewayCompiler.addShare
  simp only
  split
  · exact ⟨h.keyed.insert rfl,
      OrderedMap.forall_find?_insert h.given ⟨share.1, hshare, rfl, rfl⟩⟩
  · -- a share that is added to changes nothing but its weight
    next entry hentry =>
    have hname : entry.name = share.1.messageName :=
      h.keyed _ (OrderedMap.mem_of_find?_eq_some hentry)
    exact ⟨h.keyed.insert hname,
      OrderedMap.forall_find?_insert h.given (h.given _ entry hentry)⟩

theorem shares_foldl_addShare (clusters : List Cluster) :
    Shares clusters ((shares clusters).foldl addShare {}) := by
  refine List.foldlRecOn (motive := fun m => Shares clusters m) _ _
    ⟨OrderedMap.KeyedBy.empty, by rintro _ _ ⟨⟩⟩ ?_
  intro known hknown share hshare
  obtain ⟨c, hc, rfl⟩ := List.mem_map.mp hshare
  exact hknown.addShare hc

/-- Requests go to given clusters only, under the names of their messages. -/
theorem clusterSpecifier_names {clusters : List Cluster} {name : String}
    (h : name ∈ (clusterSpecifier clusters).names) : ∃ c ∈ clusters, c.messageName = name := by
  unfold clusterSpecifier at h
  split at h
  · next only => exact ⟨only, List.mem_singleton_self only, (List.mem_singleton.mp h).symm⟩
  · have hshares := shares_foldl_addShare clusters
    rw [ClusterSpecifier.names, hshares.keyed.map_values, ← OrderedMap.contains_iff_mem_keys] at h
    obtain ⟨w, hfind⟩ := OrderedMap.contains_eq_true_iff.mp h
    obtain ⟨c, hc, hname, -⟩ := hshares.given name w hfind
    exact ⟨c, hc, hname⟩

/-- Where requests are split, only filters of the clusters are changed. -/
theorem clusterSpecifier_overrideNames {clusters : List Cluster} {name : String}
    (h : name ∈ (clusterSpecifier clusters).overrideNames) :
    ∃ c ∈ clusters, name ∈ (overrides c.filters .cluster).keys := by
  unfold clusterSpecifier at h
  split at h
  · cases h
  · obtain ⟨w, hw, hname⟩ := List.mem_flatMap.mp h
    obtain ⟨⟨key, w⟩, hmem, rfl⟩ := List.mem_map.mp hw
    obtain ⟨c, hc, -, hoverrides⟩ :=
      (shares_foldl_addShare clusters).given key w (OrderedMap.find?_eq_some_of_mem hmem)
    rw [hoverrides] at hname
    exact ⟨c, hc, hname⟩

/-! ### Routes -/

/-- Filters of a route do not change where its requests go: `applyFilter` keeps the clusters. -/
theorem applyFilter_clusters (a : RouteAction) (f : Filter) :
    (applyFilter a f).clusters = a.clusters := by
  unfold applyFilter
  split
  · unfold applySettings
    split <;> rfl
  · rfl

theorem Route.action_clusters (r : Route) : r.action.clusters = clusterSpecifier r.clusters := by
  have hbase : r.baseAction.clusters = clusterSpecifier r.clusters := by
    unfold Route.baseAction
    simp only
    split <;> rfl
  unfold Route.action
  refine List.foldlRecOn (motive := fun a : RouteAction => a.clusters = clusterSpecifier r.clusters)
    _ _ hbase ?_
  intro a ha f _
  rw [applyFilter_clusters, ha]

/-- The requests of a route go to its clusters, in whatever role it is sent. -/
theorem Route.message_clusterNames {role : ListenerRole} {r : Route} {name : String}
    (h : name ∈ (r.message role).action.clusterNames) : ∃ c ∈ r.clusters, c.messageName = name := by
  unfold Route.message at h
  simp only at h
  split at h
  · cases h
  · rw [Action.clusterNames, r.action_clusters] at h
    exact clusterSpecifier_names h

/-- The filters that a route changes have entries of the route, apart from the one that asks
elsewhere whether a request is authorized. -/
theorem Route.overrideNames_entries {role : ListenerRole} {r : Route} {name : String}
    (h : name ∈ (r.message role).overrideNames) (hother : name ≠ authorizationFilterName) :
    ∃ e ∈ VirtualHost.entriesOfRoute r, e.name = name := by
  -- what filters of a cluster change has an entry of the cluster
  have hcluster : ∀ c ∈ r.clusters, name ∈ (GatewayCompiler.overrides c.filters .cluster).keys →
      ∃ e ∈ VirtualHost.entriesOfRoute r, e.name = name := by
    intro c hc hname
    obtain ⟨e, he, hname⟩ := mem_names_of_overrides hname true
    exact ⟨e, List.mem_append_right _ (List.mem_flatMap.mpr ⟨c, hc, he⟩), hname⟩
  rcases List.mem_append.mp h with h | h
  · change name ∈ r.overrides.keys at h
    unfold Route.overrides at h
    rw [← OrderedMap.contains_iff_mem_keys, OrderedMap.contains_ofList, List.map_append,
      List.map_append, List.mem_append, List.mem_append] at h
    rcases h with (h | h) | h
    · obtain ⟨e, he, hname⟩ := mem_names_of_overrides h true
      exact ⟨e, List.mem_append_left _ he, hname⟩
    · change name ∈ (GatewayCompiler.overrides (soleFilters r.clusters) .cluster).keys at h
      cases hclusters : r.clusters with
      | nil =>
        rw [hclusters] at h
        cases h
      | cons c rest =>
        cases rest with
        | nil =>
          rw [hclusters] at h
          exact hcluster c (by simp [hclusters]) h
        | cons d rest =>
          rw [hclusters] at h
          cases h
    · split at h
      · exact absurd (List.mem_singleton.mp h) hother
      · cases h
  · change name ∈ (r.message role).action.overrideNames at h
    unfold Route.message at h
    simp only at h
    split at h
    · cases h
    · rw [Action.overrideNames, r.action_clusters] at h
      obtain ⟨c, hc, hname⟩ := clusterSpecifier_overrideNames h
      exact hcluster c hc hname

end GatewayCompiler
