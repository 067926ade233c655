import GatewayCompiler.Proofs.Snapshot

/-!
# The shares of clusters

Requests and whole connections are split in two different ways.  Requests are split over the names of
clusters: clusters of one name have one entry, to which the share of each of them is added until the
greatest share is reached.  Connections are split over the clusters themselves, and the entries are only
sorted.  Both ways count the same weights, so that a name gets the same share of either.

## Main definitions

* `countedWeight` — the weight that counts for a cluster among others.
* `shareOf` — what the entries of a name come to.
* `SplitsRequests`, `SplitsConnections` — what is said of the two splits.

## Main statements

* `weightAt_foldl_addShare` — the share of a name after any number of clusters.
* `SplitsConnections.shareOf_eq` — the share of a name is the same in both splits.
* `splits_agree` — the two splits of a list of clusters, and that they agree.
-/

namespace GatewayCompiler

open Proxy

/-! ### Weights and shares -/

/-- `countedWeight clusters c` is the weight that counts for a cluster of a list: its own one, or
one where no cluster of the list has any weight. -/
def countedWeight (clusters : List Cluster) (c : Cluster) : Nat :=
  if ∀ d ∈ clusters, d.weight = 0 then 1 else c.weight

/-- `countedShares clusters` are the names of clusters with the weights that count for them. -/
def countedShares (clusters : List Cluster) : List (String × Nat) :=
  clusters.map fun c => (c.messageName, countedWeight clusters c)

/-- `shareOf name entries` is what the entries of a name come to. -/
def shareOf (name : String) : List (String × Nat) → Nat
  | [] => 0
  | e :: rest => (if e.1 = name then e.2 else 0) + shareOf name rest

@[simp] theorem shareOf_nil (name : String) : shareOf name [] = 0 := rfl

theorem shareOf_cons (name : String) (e : String × Nat) (entries : List (String × Nat)) :
    shareOf name (e :: entries) = (if e.1 = name then e.2 else 0) + shareOf name entries := rfl

/-- The order of the entries does not matter. -/
theorem shareOf_congr {entries others : List (String × Nat)} (h : entries.Perm others)
    (name : String) : shareOf name entries = shareOf name others := by
  induction h with
  | nil => rfl
  | cons e _ ih => rw [shareOf_cons, shareOf_cons, ih]
  | swap d e rest =>
    rw [shareOf_cons, shareOf_cons, shareOf_cons, shareOf_cons]
    omega
  | trans _ _ ih ih' => rw [ih, ih']

/-- A name without an entry has no share, as there is nothing to add up. -/
theorem shareOf_eq_zero {name : String} {entries : List (String × Nat)}
    (h : name ∉ entries.map Prod.fst) : shareOf name entries = 0 := by
  induction entries with
  | nil => rfl
  | cons e rest ih =>
    rw [List.map_cons, List.mem_cons, not_or] at h
    rw [shareOf_cons, if_neg (Ne.symm h.1), ih h.2]

/-- Where the names differ, a name has the share of its entry. -/
theorem shareOf_of_mem {e : String × Nat} {entries : List (String × Nat)}
    (hnodup : (entries.map Prod.fst).Nodup) (he : e ∈ entries) : shareOf e.1 entries = e.2 := by
  induction entries with
  | nil => cases he
  | cons d rest ih =>
    rw [List.map_cons, List.nodup_cons] at hnodup
    rw [shareOf_cons]
    rcases List.mem_cons.mp he with rfl | hrest
    · rw [if_pos rfl, shareOf_eq_zero hnodup.1, Nat.add_zero]
    · have hne : d.1 ≠ e.1 := fun heq => hnodup.1 (heq ▸ List.mem_map_of_mem hrest)
      rw [if_neg hne, ih hnodup.2 hrest, Nat.zero_add]

theorem shares_eq (clusters : List Cluster) :
    shares clusters = clusters.map fun c => (c, countedWeight clusters c) := by
  unfold shares countedWeight
  simp

theorem named_shares (clusters : List Cluster) :
    (shares clusters).map (fun s => (s.1.messageName, s.2)) = countedShares clusters := by
  rw [shares_eq, List.map_map]
  rfl

/-- Weights that are at most `maxShare` count as such weights. -/
theorem countedWeight_le {clusters : List Cluster} (fits : ∀ c ∈ clusters, c.weight ≤ maxShare)
    {c : Cluster} (hc : c ∈ clusters) : countedWeight clusters c ≤ maxShare := by
  unfold countedWeight
  split
  · decide
  · exact fits c hc

/-! ### Requests -/

/-- `weightAt known name` is the share of a name among those that are known; nothing where the name
is not. -/
def weightAt (known : OrderedMap String WeightedCluster) (name : String) : Nat :=
  ((known.find? name).map WeightedCluster.weight).getD 0

/-- `addShare` adds the share of a cluster to the one of its name, up to `maxShare`, and leaves all
other names alone. -/
theorem weightAt_addShare {known : OrderedMap String WeightedCluster} {share : Cluster × Nat}
    (hshare : share.2 ≤ maxShare) (name : String) :
    weightAt (addShare known share) name =
      if share.1.messageName = name then min maxShare (weightAt known name + share.2)
      else weightAt known name := by
  unfold addShare weightAt
  simp only
  split
  · next hfind =>
    rw [OrderedMap.find?_insert]
    by_cases hname : share.1.messageName = name
    · rw [if_pos hname.symm, if_pos hname, ← hname, hfind]
      -- the first share of a name is not cut, as it is not too great
      show share.2 = min maxShare (0 + share.2)
      omega
    · rw [if_neg (Ne.symm hname), if_neg hname]
  · next entry hfind =>
    rw [OrderedMap.find?_insert]
    by_cases hname : share.1.messageName = name
    · rw [if_pos hname.symm, if_pos hname, ← hname, hfind]
      show min (entry.weight + share.2) maxShare = min maxShare (entry.weight + share.2)
      omega
    · rw [if_neg (Ne.symm hname), if_neg hname]

/-- A cluster makes its name known. -/
theorem contains_addShare {known : OrderedMap String WeightedCluster} {share : Cluster × Nat}
    {name : String} :
    (addShare known share).contains name ↔ name = share.1.messageName ∨ known.contains name := by
  unfold addShare
  simp only
  split <;> exact OrderedMap.contains_insert

/-- Cutting the share after each cluster comes to the same as cutting it at the end, since `min`
with `maxShare` absorbs what is added. -/
theorem weightAt_foldl_addShare {list : List (Cluster × Nat)}
    (hlist : ∀ s ∈ list, s.2 ≤ maxShare) {known : OrderedMap String WeightedCluster} {name : String}
    (hknown : weightAt known name ≤ maxShare) :
    weightAt (list.foldl addShare known) name =
      min maxShare (weightAt known name + shareOf name (list.map fun s => (s.1.messageName, s.2))) := by
  -- over the list, for whatever shares are known so far
  induction list generalizing known with
  | nil =>
    rw [List.foldl_nil, List.map_nil, shareOf_nil]
    omega
  | cons s rest ih =>
    have hstep : weightAt (addShare known s) name = _ := weightAt_addShare (hlist s List.mem_cons_self) name
    have hrest : ∀ s' ∈ rest, s'.2 ≤ maxShare := fun s' hs' => hlist s' (List.mem_cons_of_mem _ hs')
    rw [List.foldl_cons, List.map_cons, shareOf_cons]
    by_cases hname : s.1.messageName = name
    · rw [if_pos hname] at hstep
      rw [ih hrest (by omega), hstep, if_pos hname]
      omega
    · rw [if_neg hname] at hstep
      rw [ih hrest (by omega), hstep, if_neg hname, Nat.zero_add]

/-- All names become known, and no other ones beside those that were. -/
theorem contains_foldl_addShare {list : List (Cluster × Nat)}
    {known : OrderedMap String WeightedCluster} {name : String} :
    (list.foldl addShare known).contains name ↔
      (∃ s ∈ list, s.1.messageName = name) ∨ known.contains name := by
  induction list generalizing known with
  | nil => simp
  | cons s rest ih =>
    rw [List.foldl_cons, ih, contains_addShare, List.exists_mem_cons_iff, eq_comm (a := name),
      or_left_comm, or_assoc]

/-- `SplitsRequests clusters split` says that requests to clusters are split: there is one entry for
each name, in the order of the names, and its share is what the weights of the clusters of the name
come to. -/
structure SplitsRequests (clusters : List Cluster) (split : List WeightedCluster) : Prop where
  /-- The names increase. -/
  increasing : Increasing (split.map WeightedCluster.name)
  /-- They are the names of the clusters. -/
  names : ∀ name, name ∈ split.map WeightedCluster.name ↔ ∃ c ∈ clusters, c.messageName = name
  /-- The weights of a name are added up. -/
  weight : ∀ w ∈ split, w.weight = min maxShare (shareOf w.name (countedShares clusters))

theorem splitsRequests_foldl_addShare {clusters : List Cluster}
    (fits : ∀ c ∈ clusters, c.weight ≤ maxShare) :
    SplitsRequests clusters ((shares clusters).foldl addShare {}).values := by
  have hkeyed := (shares_foldl_addShare clusters).keyed
  have hnames := hkeyed.map_values
  -- the map has the names as its keys, in increasing order, and a name is there once
  refine ⟨?_, fun name => ?_, fun w hw => ?_⟩
  · rw [hnames]
    exact OrderedMap.keys_increasing _
  · have hnone : ({} : OrderedMap String WeightedCluster).contains name = false := rfl
    rw [hnames, ← OrderedMap.contains_iff_mem_keys, contains_foldl_addShare, hnone, shares_eq]
    simp
  · obtain ⟨⟨key, w'⟩, hmem, rfl⟩ := List.mem_map.mp hw
    have hkey : w'.name = key := hkeyed _ hmem
    have hfits : ∀ s ∈ shares clusters, s.2 ≤ maxShare := by
      rw [shares_eq]
      intro s hs
      obtain ⟨c, hc, rfl⟩ := List.mem_map.mp hs
      exact countedWeight_le fits hc
    have hempty : weightAt {} key = 0 := rfl
    have hfold : weightAt ((shares clusters).foldl addShare {}) key = _ :=
      weightAt_foldl_addShare hfits (by rw [hempty]; omega)
    rw [named_shares, hempty, Nat.zero_add, weightAt, OrderedMap.find?_eq_some_of_mem hmem] at hfold
    show w'.weight = _
    rw [hkey]
    exact hfold

/-! ### Connections -/

/-- `SplitsConnections clusters entries` says that connections to clusters are split: there is one
entry for each cluster, in the order of the names. -/
structure SplitsConnections (clusters : List Cluster) (entries : List (String × Nat)) : Prop where
  /-- They are the clusters with the weights that count for them. -/
  perm : entries.Perm (countedShares clusters)
  /-- The names do not decrease. -/
  ordered : entries.Pairwise fun p q => (compare p.1 q.1).isLE

theorem splitsConnections_mergeSort (clusters : List Cluster) :
    SplitsConnections clusters
      (((shares clusters).map fun s => (s.1.messageName, s.2)).mergeSort fun a b =>
        (compare a.1 b.1).isLE) := by
  rw [named_shares]
  refine ⟨List.mergeSort_perm _ _, List.pairwise_mergeSort ?_ (fun a b => isLE_total a.1 b.1) _⟩
  intro a b c hab hbc
  exact Std.TransCmp.isLE_trans hab hbc

/-! ### Both -/

theorem clusterSpecifier_of_several {clusters : List Cluster} (several : clusters.length ≠ 1) :
    clusterSpecifier clusters = .weighted ((shares clusters).foldl addShare {}).values := by
  unfold clusterSpecifier
  split
  · exact absurd rfl several
  · rfl

theorem tcpClusters_of_several {clusters : List Cluster} (several : clusters.length ≠ 1) :
    tcpClusters clusters = .weighted
      (((shares clusters).map fun s => (s.1.messageName, s.2)).mergeSort fun a b =>
        (compare a.1 b.1).isLE) := by
  unfold tcpClusters
  split
  · exact absurd rfl several
  · rfl

/-- In both splits a name gets the same share, up to `maxShare`. -/
theorem SplitsConnections.shareOf_eq {clusters : List Cluster} {entries : List (String × Nat)}
    {split : List WeightedCluster} (hconnections : SplitsConnections clusters entries)
    (hrequests : SplitsRequests clusters split) (name : String) :
    min maxShare (shareOf name entries)
      = shareOf name (split.map fun w => (w.name, w.weight)) := by
  have hnames : (split.map fun w => (w.name, w.weight)).map Prod.fst
      = split.map WeightedCluster.name := by
    rw [List.map_map]
    rfl
  rw [shareOf_congr hconnections.perm]
  by_cases hmem : name ∈ split.map WeightedCluster.name
  · obtain ⟨w, hw, rfl⟩ := List.mem_map.mp hmem
    have hnodup : ((split.map fun w => (w.name, w.weight)).map Prod.fst).Nodup := by
      rw [hnames]
      exact hrequests.increasing.nodup
    have hentry := List.mem_map_of_mem (f := fun w : WeightedCluster => (w.name, w.weight)) hw
    rw [shareOf_of_mem hnodup hentry]
    exact (hrequests.weight w hw).symm
  · -- no cluster has the name, so that there is nothing to split
    have hnone : name ∉ (countedShares clusters).map Prod.fst := by
      intro h
      obtain ⟨e, he, rfl⟩ := List.mem_map.mp h
      obtain ⟨c, hc, rfl⟩ := List.mem_map.mp he
      exact hmem ((hrequests.names _).mpr ⟨c, hc, rfl⟩)
    rw [← hnames] at hmem
    rw [shareOf_eq_zero hnone, shareOf_eq_zero hmem]
    exact Nat.min_eq_right (Nat.zero_le _)

/-- **Both splits agree.** Requests and connections to any number of clusters but one are split.  A
name has the same share of the requests as of the connections, up to the greatest share. -/
theorem splits_agree {clusters : List Cluster} (several : clusters.length ≠ 1)
    (fits : ∀ c ∈ clusters, c.weight ≤ maxShare) :
    ∃ split entries,
      clusterSpecifier clusters = .weighted split ∧ SplitsRequests clusters split ∧
      tcpClusters clusters = .weighted entries ∧ SplitsConnections clusters entries ∧
      ∀ name, min maxShare (shareOf name entries)
        = shareOf name (split.map fun w => (w.name, w.weight)) := by
  have hrequests := splitsRequests_foldl_addShare fits
  have hconnections := splitsConnections_mergeSort clusters
  exact ⟨_, _, clusterSpecifier_of_several several, hrequests, tcpClusters_of_several several,
    hconnections, hconnections.shareOf_eq hrequests⟩

/-- A cluster for a port of one service. -/
def weightedPort (number : Int) (weight : Nat) : Cluster where
  backend := {
    target := { service := { space := "default", name := "shop" }, portName := none, portNumber := number }
    transport := .http .plaintext }
  weight
  sni := none

/-- A port stands twice among the clusters and has the greatest share, `maxShare`, on its own. -/
def fullPorts : List Cluster := [weightedPort 80 maxShare, weightedPort 443 20, weightedPort 80 50]

theorem fullPorts_splits_agree :
    fullPorts.length ≠ 1 ∧ (∀ c ∈ fullPorts, c.weight ≤ maxShare) ∧
    ∃ split entries,
      clusterSpecifier fullPorts = .weighted split ∧ SplitsRequests fullPorts split ∧
      tcpClusters fullPorts = .weighted entries ∧ SplitsConnections fullPorts entries ∧
      ∀ name, min maxShare (shareOf name entries)
        = shareOf name (split.map fun w => (w.name, w.weight)) := by
  have several : fullPorts.length ≠ 1 := by decide
  have fits : ∀ c ∈ fullPorts, c.weight ≤ maxShare := by
    unfold fullPorts
    rw [List.forall_mem_cons, List.forall_mem_cons, List.forall_mem_singleton]
    decide
  exact ⟨several, fits, splits_agree several fits⟩

end GatewayCompiler
