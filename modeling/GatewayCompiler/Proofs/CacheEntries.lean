import GatewayCompiler.Cache

/-!
# The cache entry by entry

A cache keeps a map for every kind of resource.  Seen from outside it is one map, from a kind and an
identity to a resource: a resource that is taken is put at its key, one that is dropped leaves its
key empty, and the other keys are not touched.

## Main definitions

* `ResourceKind`, `ResourceKey` — a kind of resource, and a kind with an identity.
* `Cache.resource?` — the resource at a key.
* `Cache.without` — the cache with nothing at a key.

## Main statements

* `Cache.resource?_put`, `Cache.resource?_without` — the resources after a change.
* `Cache.remove?_eq` — what dropping a resource comes to.
* `Cache.ext_resource?` — caches with the same configuration and the same entries are equal.
-/

namespace GatewayCompiler

/-- The kinds of resource.  Each kind has a map of its own in a cache. -/
inductive ResourceKind
  /-- Ingresses. -/
  | ingress
  /-- Hosts. -/
  | gatewayHost
  /-- Further routes of hosts. -/
  | serviceRoute
  /-- Services. -/
  | service
  /-- Secrets. -/
  | secret
  /-- Filters for hosts. -/
  | httpFilter
  /-- Filters for routes and services. -/
  | routeFilter
  /-- Delegations of certificates. -/
  | delegation
  deriving DecidableEq, Repr

/-- What a resource is known by: its kind and its identity. -/
structure ResourceKey where
  /-- The kind. -/
  kind : ResourceKind
  /-- The identity among the resources of the kind. -/
  identity : Identity
  deriving DecidableEq, Repr

namespace Resource

/-- `r.kind` is the kind of the resource `r`, which says in which map of a cache it is kept. -/
def kind : Resource → ResourceKind
  | .ingress _ => .ingress
  | .gatewayHost _ => .gatewayHost
  | .serviceRoute _ => .serviceRoute
  | .service _ => .service
  | .secret _ => .secret
  | .httpFilter _ => .httpFilter
  | .routeFilter _ => .routeFilter
  | .delegation _ => .delegation

/-- `r.metadata` is the metadata of the resource `r`. -/
def metadata : Resource → Metadata
  | .ingress o => o.metadata
  | .gatewayHost o => o.metadata
  | .serviceRoute o => o.metadata
  | .service o => o.metadata
  | .secret o => o.metadata
  | .httpFilter o => o.metadata
  | .routeFilter o => o.metadata
  | .delegation o => o.metadata

/-- `r.key` is the key of the resource `r`, its kind with the identity that its metadata give. -/
def key (r : Resource) : ResourceKey := ⟨r.kind, r.metadata.identity⟩

end Resource

namespace Cache

/-- `c.resource? key` is the resource at `key` in the cache `c`, of whichever kind it is. -/
def resource? (c : Cache) (key : ResourceKey) : Option Resource :=
  match key.kind with
  | .ingress => (c.ingresses.find? key.identity).map .ingress
  | .gatewayHost => (c.gatewayHosts.find? key.identity).map .gatewayHost
  | .serviceRoute => (c.serviceRoutes.find? key.identity).map .serviceRoute
  | .service => (c.services.find? key.identity).map .service
  | .secret => (c.secrets.find? key.identity).map .secret
  | .httpFilter => (c.httpFilters.find? key.identity).map .httpFilter
  | .routeFilter => (c.routeFilters.find? key.identity).map .routeFilter
  | .delegation => (c.delegations.find? key.identity).map .delegation

/-- `c.without key` is the cache `c` with nothing at `key`. -/
def without (c : Cache) (key : ResourceKey) : Cache :=
  match key.kind with
  | .ingress => { c with ingresses := c.ingresses.erase key.identity }
  | .gatewayHost => { c with gatewayHosts := c.gatewayHosts.erase key.identity }
  | .serviceRoute => { c with serviceRoutes := c.serviceRoutes.erase key.identity }
  | .service => { c with services := c.services.erase key.identity }
  | .secret => { c with secrets := c.secrets.erase key.identity }
  | .httpFilter => { c with httpFilters := c.httpFilters.erase key.identity }
  | .routeFilter => { c with routeFilters := c.routeFilters.erase key.identity }
  | .delegation => { c with delegations := c.delegations.erase key.identity }

/-! ### Single changes -/

/-- At first there are no entries: `resource?` finds nothing in a new cache. -/
theorem resource?_new (config : CacheConfig) (key : ResourceKey) :
    ({ config } : Cache).resource? key = none := by
  obtain ⟨kind, identity⟩ := key
  cases kind <;> rfl

theorem config_put (c : Cache) (r : Resource) : (c.put r).config = c.config := by
  cases r <;> rfl

theorem config_without (c : Cache) (key : ResourceKey) : (c.without key).config = c.config := by
  obtain ⟨kind, identity⟩ := key
  cases kind <;> rfl

/-- Whether a resource is taken depends on the configuration alone. -/
theorem accepts_config (c : Cache) (r : Resource) :
    ({ config := c.config } : Cache).accepts r = c.accepts r := by
  cases r <;> rfl

/-- A resource is put at its key, and the entries of all other keys stay. -/
theorem resource?_put (c : Cache) (r : Resource) (key : ResourceKey) :
    (c.put r).resource? key = if key = r.key then some r else c.resource? key := by
  have hlaw : ∀ {ν : Type} (m : OrderedMap Identity ν) (i j : Identity) (x : ν) (wrap : ν → Resource),
      ((m.insert i x).find? j).map wrap = if j = i then some (wrap x) else (m.find? j).map wrap := by
    intro ν m i j x wrap
    rw [OrderedMap.find?_insert]
    split
    · rfl
    · rfl
  obtain ⟨kind, identity⟩ := key
  -- the maps of the other kinds stay the same
  cases r <;> cases kind <;>
    simp [put, resource?, Resource.key, Resource.kind, Resource.metadata, hlaw]

/-- The key is made empty, and the entries of all other keys stay. -/
theorem resource?_without (c : Cache) (key other : ResourceKey) :
    (c.without key).resource? other = if other = key then none else c.resource? other := by
  have hlaw : ∀ {ν : Type} (m : OrderedMap Identity ν) (i j : Identity) (wrap : ν → Resource),
      ((m.erase i).find? j).map wrap = if j = i then none else (m.find? j).map wrap := by
    intro ν m i j wrap
    split
    · next heq => rw [heq, OrderedMap.find?_erase_self, Option.map_none]
    · next hne => rw [OrderedMap.find?_erase_of_ne _ hne]
  obtain ⟨kind, i⟩ := key
  obtain ⟨kind', j⟩ := other
  cases kind <;> cases kind' <;> simp [without, resource?, hlaw]

/-- Dropping a resource empties its key, if there is anything; otherwise the cache refuses. -/
theorem remove?_eq (c : Cache) (r : Resource) :
    c.remove? r = if (c.resource? r.key).isSome then some (c.without r.key) else none := by
  have hlaw : ∀ {ν : Type} (m : OrderedMap Identity ν) (i : Identity)
      (rest : OrderedMap Identity ν → Cache), (eraseKey? m i).map rest =
        if (m.find? i).isSome then some (rest (m.erase i)) else none := by
    intro ν m i rest
    unfold eraseKey? OrderedMap.contains
    split
    · rfl
    · rfl
  cases r <;>
    simp only [remove?, hlaw, resource?, without, Resource.key, Resource.kind, Resource.metadata,
      Option.isSome_map]

/-- Caches with the same configuration and the same entries are equal, so that nothing about a cache
is left out by `resource?`. -/
theorem ext_resource? {c d : Cache} (hconfig : c.config = d.config)
    (h : ∀ key, c.resource? key = d.resource? key) : c = d := by
  -- a map is known by what is found in it, and the kind of a key tells in which map it is
  have hmap : ∀ {ν : Type} {m n : OrderedMap Identity ν} {wrap : ν → Resource}
      (_ : ∀ x y, wrap x = wrap y → x = y)
      (_ : ∀ i, (m.find? i).map wrap = (n.find? i).map wrap), m = n := by
    intro ν m n wrap hwrap heq
    exact OrderedMap.ext_find? fun i => Option.map_injective hwrap (heq i)
  cases c
  cases d
  congr
  · exact hmap (fun _ _ => Resource.ingress.inj) fun i => h ⟨.ingress, i⟩
  · exact hmap (fun _ _ => Resource.gatewayHost.inj) fun i => h ⟨.gatewayHost, i⟩
  · exact hmap (fun _ _ => Resource.serviceRoute.inj) fun i => h ⟨.serviceRoute, i⟩
  · exact hmap (fun _ _ => Resource.service.inj) fun i => h ⟨.service, i⟩
  · exact hmap (fun _ _ => Resource.secret.inj) fun i => h ⟨.secret, i⟩
  · exact hmap (fun _ _ => Resource.httpFilter.inj) fun i => h ⟨.httpFilter, i⟩
  · exact hmap (fun _ _ => Resource.routeFilter.inj) fun i => h ⟨.routeFilter, i⟩
  · exact hmap (fun _ _ => Resource.delegation.inj) fun i => h ⟨.delegation, i⟩

end Cache

end GatewayCompiler
