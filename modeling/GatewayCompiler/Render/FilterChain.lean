import GatewayCompiler.Filter.Settings
import GatewayCompiler.Graph.Basic
import GatewayCompiler.Proxy.Message

/-!
# Filters in connection managers

A connection manager holds its filters in a fixed order: by rank, and by name within a rank.  Each
name comes once, and the router comes last.

## Main definitions

* `ChainEntry`, `Filter.inChain?` — a filter that is ready for a connection manager.
* `mergeByName` — layers of filters, in which the later one of a name counts.
* `selectEntries`, `httpFilters` — the filters of a connection manager.
* `overrides` — what filters change on a host, a route or a cluster.
-/

namespace GatewayCompiler

open Proxy

/-- A filter that is ready for a connection manager: its name, its place, its configuration and
whether it is off until a host turns it on. -/
structure ChainEntry where
  /-- The name. -/
  name : String
  /-- The place in the fixed order. -/
  rank : Nat
  /-- The configuration. -/
  config : HttpFilterConfig
  /-- Whether the filter is off where nothing turns it on. -/
  disabled : Bool
  deriving DecidableEq, Repr

/-- `f.chainConfig? scope` are the settings of a filter in a connection manager, if they make one.
Bad settings make none. -/
def Filter.chainConfig? (f : Filter) (scope : FilterScope) : Option HttpFilterConfig :=
  match f.settings scope with
  | .error _ => none
  | .ok settings =>
    match settings.chainConfig with
    | .error _ => none
    | .ok config => config

/-- `f.inChain? scope disabled` is the entry of a filter, if its kind and its settings make one. -/
def Filter.inChain? (f : Filter) (scope : FilterScope) (disabled : Bool) :
    Option ChainEntry := do
  let rank ← f.kind.chainRank
  let config ← f.chainConfig? scope
  return ⟨f.name, rank, config, disabled⟩

/-- `mergeByName layers` are layers of filters by name, in which the later one of a name counts. -/
def mergeByName (layers : List (List Filter)) : OrderedMap String Filter :=
  .ofList (layers.flatten.map fun f => (f.name, f))

/-- `selectEntry chosen entry` are the entries by name with one more.  The first one counts, but an
entry that is on replaces one that is off. -/
def selectEntry (chosen : OrderedMap String ChainEntry) (entry : ChainEntry) :
    OrderedMap String ChainEntry :=
  match chosen.find? entry.name with
  | none => chosen.insert entry.name entry
  | some existing =>
    -- so the order of the entries decides only among those that are alike
    if existing.disabled && !entry.disabled then chosen.insert entry.name entry else chosen

/-- `selectEntries entries` is one entry for each name, by `selectEntry` from the first to the
last. -/
def selectEntries (entries : List ChainEntry) : OrderedMap String ChainEntry :=
  entries.foldl selectEntry {}

/-- `a.before b` says that an entry stands before another one, or at the same place. -/
def ChainEntry.before (a b : ChainEntry) : Bool :=
  (compareLex (compareOn ChainEntry.rank) (compareOn ChainEntry.name) a b).isLE

/-- The name of the router. -/
def routerName : String := "envoy.filters.http.router"

/-- `e.message` is the filter of an entry as the proxy knows it. -/
def ChainEntry.message (e : ChainEntry) : HttpFilterMessage := ⟨e.name, e.disabled, e.config⟩

/-- `httpFilters entries` are the filters of a connection manager: one for each name, in order, and
the router behind them. -/
def httpFilters (entries : List ChainEntry) : List HttpFilterMessage :=
  ((selectEntries entries).values.mergeSort ChainEntry.before).map ChainEntry.message
    ++ [⟨routerName, false, .router⟩]

/-- `f.override? scope` is what a filter changes on a host, a route or a cluster.  It turns the
filter on that the connection manager holds; settings that make no such filter change nothing. -/
def Filter.override? (f : Filter) (scope : FilterScope) : Option FilterOverride :=
  if f.kind.isHttpFilter ∧ (f.chainConfig? scope).isSome then
    match f.settings scope with
    | .error _ => none
    | .ok settings =>
      match settings.overrideConfig with
      | .error _ => none
      | .ok config => some (.enabled config)
  else none

/-- `overrides filters scope` is what filters change, by their names; the last one of a name
counts. -/
def overrides (filters : List Filter) (scope : FilterScope) : Overrides :=
  .ofList (filters.filterMap fun f => (f.override? scope).map (f.name, ·))

end GatewayCompiler
