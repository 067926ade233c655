import GatewayCompiler.Build.Graph

/-!
# The listeners of a graph

A graph has the hosts of a build that have something to serve, and a listener is only there if it
has a host.

## Main definitions

* `Graph.host?` — a host of a listener.

## Main statements

* `Graph.hosts_of_mem_listeners` — the hosts of any listener.
* `Graph.host?_plain`, `Graph.host?_secure` — the hosts of a build that are in its graph.
-/

namespace GatewayCompiler

/-- `g.host? role name` is the host of a name at the listener of a role. -/
def Graph.host? (g : Graph) (role : Nat) (name : String) : Option Host :=
  (g.listener? role).bind fun l => l.hosts.find? name

namespace Graph

variable {plain secure : OrderedMap String Host} {statuses : Ledger Status}

/-- The two listeners of a graph, each of which is there if it has a host that is retained. -/
theorem listeners_ofListeners :
    (ofListeners [⟨Listener.plainRole, plain⟩, ⟨Listener.secureRole, secure⟩] statuses).listeners =
      (if (plain.filter Host.isRetained).isEmpty then []
        else [⟨Listener.plainRole, plain.filter Host.isRetained⟩]) ++
      (if (secure.filter Host.isRetained).isEmpty then []
        else [⟨Listener.secureRole, secure.filter Host.isRetained⟩]) := by
  unfold ofListeners Listener.prune
  simp only [List.map_cons, List.map_nil, List.filter_cons, List.filter_nil]
  by_cases hplain : (plain.filter Host.isRetained).isEmpty
  · by_cases hsecure : (secure.filter Host.isRetained).isEmpty
    · simp [hplain, hsecure]
    · simp [hplain, hsecure]
  · by_cases hsecure : (secure.filter Host.isRetained).isEmpty
    · simp [hplain, hsecure]
    · simp [hplain, hsecure]

/-- A listener has the hosts in plain text that have something to serve, or those over TLS. -/
theorem hosts_of_mem_listeners {l : Listener}
    (h : l ∈ (ofListeners [⟨Listener.plainRole, plain⟩, ⟨Listener.secureRole, secure⟩]
      statuses).listeners) :
    l.hosts = plain.filter Host.isRetained ∨ l.hosts = secure.filter Host.isRetained := by
  rw [listeners_ofListeners] at h
  rcases List.mem_append.mp h with h | h
  · split at h
    · cases h
    · rw [List.mem_singleton.mp h]
      exact .inl rfl
  · split at h
    · cases h
    · rw [List.mem_singleton.mp h]
      exact .inr rfl

/-- The hosts in plain text are those that have something to serve. -/
theorem host?_plain (name : String) :
    (ofListeners [⟨Listener.plainRole, plain⟩, ⟨Listener.secureRole, secure⟩] statuses).host?
      Listener.plainRole name = (plain.find? name).filter Host.isRetained := by
  unfold host? listener?
  rw [listeners_ofListeners, ← OrderedMap.find?_filter]
  by_cases hplain : (plain.filter Host.isRetained).isEmpty
  · rw [OrderedMap.find?_eq_none_of_isEmpty hplain, if_pos hplain]
    by_cases hsecure : (secure.filter Host.isRetained).isEmpty
    · rw [if_pos hsecure]
      rfl
    · rw [if_neg hsecure]
      simp [Listener.plainRole, Listener.secureRole]
  · rw [if_neg hplain]
    simp

/-- The hosts over TLS. -/
theorem host?_secure (name : String) :
    (ofListeners [⟨Listener.plainRole, plain⟩, ⟨Listener.secureRole, secure⟩] statuses).host?
      Listener.secureRole name = (secure.find? name).filter Host.isRetained := by
  unfold host? listener?
  rw [listeners_ofListeners, ← OrderedMap.find?_filter]
  have hrole : Listener.plainRole ≠ Listener.secureRole := by decide
  -- a listener stands only if it has hosts, so both cases ask whether there are any
  by_cases hsecure : (secure.filter Host.isRetained).isEmpty
  · rw [OrderedMap.find?_eq_none_of_isEmpty hsecure, if_pos hsecure]
    by_cases hplain : (plain.filter Host.isRetained).isEmpty
    · rw [if_pos hplain]
      rfl
    · rw [if_neg hplain]
      simp [hrole]
  · rw [if_neg hsecure]
    by_cases hplain : (plain.filter Host.isRetained).isEmpty
    · rw [if_pos hplain]
      simp
    · rw [if_neg hplain]
      simp [hrole]

end Graph

end GatewayCompiler
