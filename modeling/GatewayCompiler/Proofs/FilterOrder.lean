import GatewayCompiler.Proofs.FilterChains

/-!
# The order of filters in a connection manager

The entries for a connection manager come from several places, so that a name may occur many times,
with different ranks and both on and off.  One entry of each name is picked, and only the picked
entries are put in order, each with its own rank.

## Main definitions

* `ChainEntry.Counts` — an entry is the one that is picked for its name.
* `ChainEntry.Precedes` — an entry comes in front of another one.
* `FillsChain` — picked entries in their order make a connection manager.

## Main statements

* `ChainEntry.counts_iff` — what the fold over the entries keeps is what is picked.
* `ChainEntry.precedes_of_before` — entries with different names do not have the same place.
* `exists_fillsChain` — the filters of a connection manager are the picked entries in their order.
-/

namespace GatewayCompiler

open Proxy

namespace ChainEntry

/-! ### Entries that count -/

/-- `e.Counts entries` says that `e` counts among `entries`: it is the first one of its name that is
on, or all of its name are off and it is the first of them. -/
inductive Counts (entries : List ChainEntry) (e : ChainEntry) : Prop
  /-- It is on, and those of its name in front of it are off. -/
  | on (before after : List ChainEntry) (split : entries = before ++ e :: after)
      (isOn : e.disabled = false) (first : ∀ x ∈ before, x.name = e.name → x.disabled = true)
  /-- None of its name is on, and none is in front of it. -/
  | off (before after : List ChainEntry) (split : entries = before ++ e :: after)
      (allOff : ∀ x ∈ entries, x.name = e.name → x.disabled = true)
      (first : ∀ x ∈ before, x.name ≠ e.name)

theorem counts_iff {entries : List ChainEntry} {e : ChainEntry} :
    e.Counts entries ↔ chosen? entries e.name = some e := by
  -- `chosen?` looks for the first that is on and then for the first at all, the two ways to count
  unfold chosen?
  rw [Option.or_eq_some_iff, List.find?_eq_some_iff_append, List.find?_eq_some_iff_append,
    List.find?_eq_none]
  simp only [Bool.and_eq_true, decide_eq_true_eq, not_and, Bool.not_eq_false,
    decide_true, true_and, Bool.not_eq_eq_eq_not, Bool.not_true, Bool.and_eq_false_iff,
    decide_eq_false_iff_not, Bool.not_false]
  constructor
  · rintro (⟨before, after, split, isOn, first⟩ | ⟨before, after, split, allOff, first⟩)
    · exact .inl ⟨isOn, before, after, split, fun x hx => Decidable.not_or_of_imp (first x hx)⟩
    · exact .inr ⟨allOff, before, after, split, first⟩
  · rintro (⟨isOn, before, after, split, first⟩ | ⟨allOff, before, after, split, first⟩)
    · exact .on before after split isOn fun x hx hname => (first x hx).resolve_left (not_not.mpr hname)
    · exact .off before after split allOff first

/-! ### The order -/

/-- `a.Precedes b` says that `a` comes in front of `b`: it has the lesser rank, or the lesser name
among entries of one rank. -/
inductive Precedes (a b : ChainEntry) : Prop
  /-- It has the lesser rank. -/
  | rank (h : a.rank < b.rank)
  /-- It has the lesser name. -/
  | name (hrank : a.rank = b.rank) (h : a.name < b.name)

theorem before_trans (a b c : ChainEntry) (hab : a.before b) (hbc : b.before c) : a.before c :=
  Std.TransCmp.isLE_trans hab hbc

theorem before_total (a b : ChainEntry) : a.before b || b.before a := isLE_total a b

/-- Entries with different names do not have the same place, so that `before` is strict on them. -/
theorem precedes_of_before {a b : ChainEntry} (h : a.before b) (hname : a.name ≠ b.name) :
    a.Precedes b := by
  -- the order compares the ranks first, and the names decide among equal ranks
  change ((compare a.rank b.rank).then (compare a.name b.name)).isLE at h
  cases hrank : compare a.rank b.rank with
  | lt => exact .rank (Nat.compare_eq_lt.mp hrank)
  | eq =>
    rw [hrank] at h
    refine .name (Nat.compare_eq_eq.mp hrank) ?_
    cases hcompare : compare a.name b.name with
    | lt => exact compareOfLessAndEq_eq_lt.mp hcompare
    | eq => exact absurd (Std.LawfulEqCmp.eq_of_compare hcompare) hname
    | gt =>
      rw [hcompare] at h
      cases h
  | gt =>
    rw [hrank] at h
    cases h

end ChainEntry

/-! ### The filters of a connection manager -/

/-- The entries `sorted` make the filters of a connection manager that is asked for `entries`: each of
them makes one filter, in the order of the list, and the router is behind them.  They are the entries
that `Counts` picks, one for each name, and `Precedes` puts them in a strict order. -/
structure FillsChain (entries sorted : List ChainEntry) : Prop where
  /-- The filter of an entry has its `name` and its `config`, and it is off if the entry is. -/
  sent : httpFilters entries =
    (sorted.map fun e => { name := e.name, disabled := e.disabled, config := e.config }) ++
      [{ name := routerName, disabled := false, config := .router }]
  /-- They are the entries that count among `entries`. -/
  picked : ∀ e, e ∈ sorted ↔ e.Counts entries
  /-- There is one for every name among `entries`. -/
  names : ∀ name, name ∈ sorted.map ChainEntry.name ↔ ∃ e ∈ entries, e.name = name
  /-- There is only one for a name. -/
  nodup : (sorted.map ChainEntry.name).Nodup
  /-- Each comes in front of those behind it: its rank is lower, or its name at the same rank. -/
  increasing : sorted.Pairwise ChainEntry.Precedes

/-- **What a connection manager is filled with.** Its filters in front of the router are the entries
that count, one for each name, and they increase by their ranks and by their names within a rank. -/
theorem exists_fillsChain (entries : List ChainEntry) : ∃ sorted, FillsChain entries sorted := by
  have hperm := perm_names_selectEntries entries
  have hnodup := hperm.nodup_iff.mpr (OrderedMap.keys_nodup _)
  refine ⟨_, rfl, fun e => ?_, fun name => ?_, hnodup, ?_⟩
  · rw [List.mem_mergeSort, ChainEntry.counts_iff, ← find?_selectEntries]
    exact (selectEntries_keyedBy entries).mem_values_iff
  · rw [hperm.mem_iff, ← OrderedMap.contains_iff_mem_keys, contains_selectEntries]
  · have hsorted := List.pairwise_mergeSort ChainEntry.before_trans ChainEntry.before_total
      (selectEntries entries).values
    -- the picked entries have different names, which leaves no two of them at one place
    exact (hsorted.and (List.pairwise_map.mp hnodup)).imp fun hboth =>
      ChainEntry.precedes_of_before hboth.1 hboth.2

end GatewayCompiler
