/-!
# Ordered maps

A map is the list of its entries in strictly increasing order of the keys.  Two maps with the same
entries are the same map, whatever the order in which the entries came, and every walk over a map
meets the keys in their order.

## Main definitions

* `OrderedMap κ ν` — the entries, with the proof that their keys increase.
* `find?`, `contains`, `insert`, `erase`, `insertNew` — look-up and update.
* `keys`, `values`, `toList`, `ofList`, `map` — views and conversions.
* `KeyedBy` — every value stands at the key that it gives itself.

## Main statements

* `find?_insert_self`, `find?_insert_of_ne` — an update is seen at its key only.
* `forall_find?_insert`, `forall_find?_change` — what holds of all values survives an update.
* `find?_erase_self`, `find?_erase_of_ne` — the same for a removal.
* `contains_iff_mem_keys`, `mem_of_find?_eq_some`, `find?_eq_some_of_mem` — look-ups and entries.
-/

namespace GatewayCompiler

universe u v w

/-- Of two things in an order, one does not come behind the other one. -/
theorem isLE_total {α : Type u} {cmp : α → α → Ordering} [Std.OrientedCmp cmp] (a b : α) :
    (cmp a b).isLE || (cmp b a).isLE := by
  have hswap : cmp b a = (cmp a b).swap := Std.OrientedCmp.eq_swap
  rw [hswap]
  cases cmp a b <;> rfl

/-- A map as the list of its entries in increasing order of the keys. -/
structure OrderedMap (κ : Type u) (ν : Type v) [Ord κ] where
  /-- The entries, in the order of their keys. -/
  toList : List (κ × ν)
  /-- Every key is smaller than the later ones. -/
  increasing : toList.Pairwise fun p q => compare p.1 q.1 = .lt

namespace OrderedMap

variable {κ : Type u} {ν : Type v} {μ : Type w} [Ord κ]

/-! ### Entry lists -/

/-- The entries with `value` at `key`: put at its place, or in place of the value there. -/
def insertEntry (key : κ) (value : ν) : List (κ × ν) → List (κ × ν)
  | [] => [(key, value)]
  | (k, x) :: rest =>
    match compare key k with
    | .lt => (key, value) :: (k, x) :: rest
    | .eq => (key, value) :: rest
    | .gt => (k, x) :: insertEntry key value rest

/-- The value at `key` in a list of entries. -/
def lookup? (key : κ) : List (κ × ν) → Option ν
  | [] => none
  | (k, x) :: rest => if compare key k = .eq then some x else lookup? key rest

theorem mem_insertEntry {key : κ} {value : ν} {p : κ × ν} {entries : List (κ × ν)} :
    p ∈ insertEntry key value entries → p = (key, value) ∨ p ∈ entries := by
  induction entries with
  | nil => simp [insertEntry]
  | cons q rest ih =>
    obtain ⟨k, x⟩ := q
    simp only [insertEntry]
    split
    · simp
    · intro h
      rcases List.mem_cons.mp h with h | h
      · exact Or.inl h
      · exact Or.inr (List.mem_cons_of_mem _ h)
    · intro h
      rcases List.mem_cons.mp h with h | h
      · exact Or.inr (by simp [h])
      · exact (ih h).imp_right (List.mem_cons_of_mem _)

/-- Updating keeps the keys in order. -/
theorem insertEntry_increasing [Std.TransOrd κ] (key : κ) (value : ν) {entries : List (κ × ν)}
    (h : entries.Pairwise fun p q => compare p.1 q.1 = .lt) :
    (insertEntry key value entries).Pairwise fun p q => compare p.1 q.1 = .lt := by
  induction entries with
  | nil => simp [insertEntry]
  | cons q rest ih =>
    obtain ⟨k, x⟩ := q
    obtain ⟨hk, hrest⟩ := List.pairwise_cons.mp h
    simp only [insertEntry]
    split
    · rename_i hlt
      refine List.pairwise_cons.mpr ⟨fun p hp => ?_, h⟩
      rcases List.mem_cons.mp hp with rfl | hp
      · exact hlt
      · exact Std.TransCmp.lt_trans hlt (hk p hp)
    · rename_i heq
      exact List.pairwise_cons.mpr
        ⟨fun p hp => Std.TransCmp.lt_of_eq_of_lt heq (hk p hp), hrest⟩
    · rename_i hgt
      refine List.pairwise_cons.mpr ⟨fun p hp => ?_, ih hrest⟩
      rcases mem_insertEntry hp with rfl | hp
      · exact Std.OrientedCmp.lt_of_gt hgt
      · exact hk p hp

/-! ### Maps -/

/-- The map without entries. -/
def empty : OrderedMap κ ν := ⟨[], List.Pairwise.nil⟩

instance : EmptyCollection (OrderedMap κ ν) := ⟨empty⟩

instance : Inhabited (OrderedMap κ ν) := ⟨empty⟩

/-- `m.find? key` is the value at `key`, if there is one. -/
def find? (m : OrderedMap κ ν) (key : κ) : Option ν := lookup? key m.toList

/-- `m.contains key` says that there is a value at `key`. -/
def contains (m : OrderedMap κ ν) (key : κ) : Bool := (m.find? key).isSome

/-- `m.keys` are the keys in their order. -/
def keys (m : OrderedMap κ ν) : List κ := m.toList.map Prod.fst

/-- `m.values` are the values in the order of their keys. -/
def values (m : OrderedMap κ ν) : List ν := m.toList.map Prod.snd

/-- The number of entries. -/
def size (m : OrderedMap κ ν) : Nat := m.toList.length

/-- Whether there is no entry. -/
def isEmpty (m : OrderedMap κ ν) : Bool := m.toList.isEmpty

/-- The map with `value` at `key`. -/
def insert [Std.TransOrd κ] (m : OrderedMap κ ν) (key : κ) (value : ν) : OrderedMap κ ν :=
  ⟨insertEntry key value m.toList, insertEntry_increasing key value m.increasing⟩

/-- The map with `value` at `key` unless there is a value already. -/
def insertNew [Std.TransOrd κ] (m : OrderedMap κ ν) (key : κ) (value : ν) : OrderedMap κ ν :=
  if m.contains key then m else m.insert key value

/-- The map without a value at `key`. -/
def erase (m : OrderedMap κ ν) (key : κ) : OrderedMap κ ν :=
  ⟨m.toList.filter fun p => compare key p.1 != .eq, m.increasing.filter _⟩

/-- `m.filter keep` are the entries whose value passes the test `keep`. -/
def filter (keep : ν → Bool) (m : OrderedMap κ ν) : OrderedMap κ ν :=
  ⟨m.toList.filter fun p => keep p.2, m.increasing.filter _⟩

/-- `m.map f` is the map with every value replaced by its image. -/
def map (f : ν → μ) (m : OrderedMap κ ν) : OrderedMap κ μ :=
  ⟨m.toList.map fun p => (p.1, f p.2), List.pairwise_map.mpr m.increasing⟩

/-- `OrderedMap.ofList entries` is the map that holds the last value of each key of a list. -/
def ofList [Std.TransOrd κ] (entries : List (κ × ν)) : OrderedMap κ ν :=
  entries.foldl (fun m p => m.insert p.1 p.2) empty

/-! ### Laws -/

@[simp] theorem toList_empty : (empty : OrderedMap κ ν).toList = [] := rfl

@[simp] theorem find?_empty (key : κ) : (empty : OrderedMap κ ν).find? key = none := rfl

theorem eq_of_toList_eq {m n : OrderedMap κ ν} (h : m.toList = n.toList) : m = n := by
  cases m; cases n; cases h; rfl

theorem lookup?_insertEntry_self [Std.ReflOrd κ] (key : κ) (value : ν)
    (entries : List (κ × ν)) : lookup? key (insertEntry key value entries) = some value := by
  induction entries with
  | nil => simp [insertEntry, lookup?, Std.ReflCmp.compare_self]
  | cons q rest ih =>
    obtain ⟨k, x⟩ := q
    simp only [insertEntry]
    split <;> rename_i h
    · simp [lookup?, Std.ReflCmp.compare_self]
    · simp [lookup?, Std.ReflCmp.compare_self]
    · simp [lookup?, h, ih]

theorem lookup?_insertEntry_of_ne [Std.TransOrd κ] {key other : κ} (value : ν)
    (hne : compare other key ≠ .eq) (entries : List (κ × ν)) :
    lookup? other (insertEntry key value entries) = lookup? other entries := by
  induction entries with
  | nil => simp [insertEntry, lookup?, hne]
  | cons q rest ih =>
    obtain ⟨k, x⟩ := q
    simp only [insertEntry]
    split <;> rename_i h
    · simp [lookup?, hne]
    · have hk : compare other k ≠ .eq := fun e =>
        hne (Std.TransCmp.eq_trans e (Std.OrientedCmp.eq_symm h))
      simp [lookup?, hne, hk]
    · simp only [lookup?, ih]

/-- An update is seen at its key. -/
@[simp] theorem find?_insert_self [Std.TransOrd κ] (m : OrderedMap κ ν) (key : κ) (value : ν) :
    (m.insert key value).find? key = some value :=
  lookup?_insertEntry_self key value m.toList

/-- An update is not seen at another key. -/
theorem find?_insert_of_ne [Std.TransOrd κ] [Std.LawfulEqOrd κ] (m : OrderedMap κ ν)
    {key other : κ} (value : ν) (h : other ≠ key) :
    (m.insert key value).find? other = m.find? other :=
  lookup?_insertEntry_of_ne value (fun e => h (Std.LawfulEqCmp.eq_of_compare e)) m.toList

theorem lookup?_filter_of_ne [Std.TransOrd κ] {key other : κ} (hne : compare other key ≠ .eq)
    (entries : List (κ × ν)) :
    lookup? other (entries.filter fun p => compare key p.1 != .eq)
      = lookup? other entries := by
  induction entries with
  | nil => rfl
  | cons q rest ih =>
    obtain ⟨k, x⟩ := q
    by_cases h : compare key k = .eq
    · have hk : compare other k ≠ .eq := fun e =>
        hne (Std.TransCmp.eq_trans e (Std.OrientedCmp.eq_symm h))
      simp [h, lookup?, hk, ih]
    · simp [h, lookup?, ih]

theorem lookup?_eq_none_of_forall {key : κ} {entries : List (κ × ν)}
    (h : ∀ p ∈ entries, compare key p.1 ≠ .eq) : lookup? key entries = none := by
  induction entries with
  | nil => rfl
  | cons q rest ih =>
    simp [lookup?, h q (List.mem_cons_self ..),
      ih fun p hp => h p (List.mem_cons_of_mem _ hp)]

/-- A removed key has no value. -/
@[simp] theorem find?_erase_self (m : OrderedMap κ ν) (key : κ) : (m.erase key).find? key = none :=
  lookup?_eq_none_of_forall fun p hp => by simpa using (List.mem_filter.mp hp).2

/-- A removal is not seen at another key. -/
theorem find?_erase_of_ne [Std.TransOrd κ] [Std.LawfulEqOrd κ] (m : OrderedMap κ ν)
    {key other : κ} (h : other ≠ key) : (m.erase key).find? other = m.find? other :=
  lookup?_filter_of_ne (fun e => h (Std.LawfulEqCmp.eq_of_compare e)) m.toList

/-- A look-up answers with an entry. -/
theorem mem_of_find?_eq_some [Std.LawfulEqOrd κ] {m : OrderedMap κ ν} {key : κ} {value : ν}
    (h : m.find? key = some value) : (key, value) ∈ m.toList := by
  obtain ⟨entries, hinc⟩ := m
  simp only [find?] at h
  change (key, value) ∈ entries
  clear hinc
  induction entries with
  | nil => simp [lookup?] at h
  | cons q rest ih =>
    obtain ⟨k, x⟩ := q
    simp only [lookup?] at h
    split at h
    · rename_i he
      cases Std.LawfulEqCmp.eq_of_compare he
      cases h
      exact List.mem_cons_self ..
    · exact List.mem_cons_of_mem _ (ih h)

/-- Every entry answers the look-up of its key. -/
theorem find?_eq_some_of_mem [Std.TransOrd κ] {m : OrderedMap κ ν} {key : κ} {value : ν}
    (h : (key, value) ∈ m.toList) : m.find? key = some value := by
  obtain ⟨entries, hinc⟩ := m
  simp only [find?] at h ⊢
  induction entries with
  | nil => simp at h
  | cons q rest ih =>
    obtain ⟨k, x⟩ := q
    obtain ⟨hk, hrest⟩ := List.pairwise_cons.mp hinc
    rcases List.mem_cons.mp h with he | he
    · cases he
      simp [lookup?, Std.ReflCmp.compare_self]
    · have hlt := hk _ he
      have hne : compare key k ≠ .eq := by
        intro e
        have := Std.OrientedCmp.eq_symm e
        simp [this] at hlt
      simp [lookup?, hne, ih hrest he]

/-- The keys of a map increase. -/
theorem keys_increasing (m : OrderedMap κ ν) :
    m.keys.Pairwise fun j k => compare j k = .lt :=
  List.pairwise_map.mpr m.increasing

theorem ne_of_compare_lt [Std.ReflOrd κ] {j k : κ} (h : compare j k = .lt) : j ≠ k := by
  rintro rfl
  simp [Std.ReflCmp.compare_self] at h

/-- No key comes twice. -/
theorem keys_nodup [Std.ReflOrd κ] (m : OrderedMap κ ν) : m.keys.Nodup :=
  m.keys_increasing.imp ne_of_compare_lt

/-- Among the keys with the property `P` there is a first one. -/
theorem exists_first_key [Std.TransOrd κ] (m : OrderedMap κ ν) {P : κ → Prop}
    (h : ∃ key ∈ m.keys, P key) :
    ∃ key ∈ m.keys, P key ∧ ∀ other ∈ m.keys, compare other key = .lt → ¬ P other := by
  classical
  obtain ⟨first, hfirst⟩ := Option.isSome_iff_exists.mp
    (List.find?_isSome.mpr (by simpa using h) : (m.keys.find? fun key => decide (P key)).isSome)
  obtain ⟨hhit, before, after, hsplit, hmiss⟩ := List.find?_eq_some_iff_append.mp hfirst
  refine ⟨first, List.mem_of_find?_eq_some hfirst, by simpa using hhit, fun other hother hlt => ?_⟩
  have hincreasing := m.keys_increasing
  rw [hsplit] at hincreasing hother
  -- what comes before in the order stands before in the list
  rcases List.mem_append.mp hother with hbefore | hbehind
  · simpa using hmiss other hbefore
  · rcases List.mem_cons.mp hbehind with rfl | hafter
    · exact absurd rfl (ne_of_compare_lt hlt)
    · have hgt := (List.pairwise_cons.mp (List.pairwise_append.mp hincreasing).2.1).1 other hafter
      rw [Std.OrientedCmp.gt_of_lt hgt] at hlt
      cases hlt

/-- Every found value is one of the values. -/
theorem mem_values_of_find?_eq_some {m : OrderedMap κ ν} {key : κ} {value : ν}
    [Std.LawfulEqOrd κ] (h : m.find? key = some value) : value ∈ m.values :=
  List.mem_map.mpr ⟨_, mem_of_find?_eq_some h, rfl⟩

/-- A key is present exactly when it is one of the keys. -/
theorem contains_iff_mem_keys [Std.TransOrd κ] [Std.LawfulEqOrd κ] {m : OrderedMap κ ν} {key : κ} :
    m.contains key = true ↔ key ∈ m.keys := by
  constructor
  · intro h
    obtain ⟨value, hv⟩ := Option.isSome_iff_exists.mp h
    exact List.mem_map.mpr ⟨_, mem_of_find?_eq_some hv, rfl⟩
  · intro h
    obtain ⟨⟨k, x⟩, hp, rfl⟩ := List.mem_map.mp h
    simp [contains, find?_eq_some_of_mem hp]

/-- What is found after an update: `value` at its `key`, and what was there elsewhere. -/
theorem find?_insert [DecidableEq κ] [Std.TransOrd κ] [Std.LawfulEqOrd κ] (m : OrderedMap κ ν)
    (key other : κ) (value : ν) :
    (m.insert key value).find? other = if other = key then some value else m.find? other := by
  split
  · next h => rw [h, find?_insert_self]
  · next h => exact m.find?_insert_of_ne value h

/-- What holds of every value at its key still holds when `value` is put in, if it holds of `value`
as well. -/
theorem forall_find?_insert [Std.TransOrd κ] [Std.LawfulEqOrd κ] {P : κ → ν → Prop}
    {m : OrderedMap κ ν} (hall : ∀ key value, m.find? key = some value → P key value) {key : κ}
    {value : ν} (hvalue : P key value) :
    ∀ other found, (m.insert key value).find? other = some found → P other found := by
  intro other found hfind
  by_cases heq : other = key
  · subst heq
    rw [find?_insert_self] at hfind
    cases hfind
    exact hvalue
  · rw [find?_insert_of_ne _ _ heq] at hfind
    exact hall other found hfind

/-- The same where a value is changed, or `missing` in its place if there is none at the key. -/
theorem forall_find?_change [Std.TransOrd κ] [Std.LawfulEqOrd κ] {P : κ → ν → Prop}
    {m : OrderedMap κ ν} (hall : ∀ key value, m.find? key = some value → P key value) {key : κ}
    {missing : ν} {change : ν → ν} (hmissing : P key missing)
    (hchange : ∀ value, P key value → P key (change value)) :
    ∀ other found, (m.insert key (change ((m.find? key).getD missing))).find? other = some found →
      P other found := by
  refine forall_find?_insert hall (hchange _ ?_)
  cases hold : m.find? key with
  | none => exact hmissing
  | some old => exact hall key old hold

/-- A new key is put between the entries before it and those after it. -/
theorem toList_insert_of_find?_eq_none [Std.TransOrd κ] {m : OrderedMap κ ν} {key : κ}
    (h : m.find? key = none) (value : ν) :
    ∃ before after, m.toList = before ++ after ∧
      (m.insert key value).toList = before ++ (key, value) :: after := by
  obtain ⟨entries, hinc⟩ := m
  change lookup? key entries = none at h
  change ∃ before after, entries = before ++ after ∧
    insertEntry key value entries = before ++ (key, value) :: after
  clear hinc
  induction entries with
  | nil => exact ⟨[], [], rfl, rfl⟩
  | cons q rest ih =>
    obtain ⟨k, x⟩ := q
    rw [lookup?] at h
    split at h
    · cases h
    · next hne =>
      cases hcmp : compare key k with
      | lt => exact ⟨[], (k, x) :: rest, rfl, by simp [insertEntry, hcmp]⟩
      | eq => exact absurd hcmp hne
      | gt =>
        obtain ⟨before, after, rfl, heq⟩ := ih h
        exact ⟨(k, x) :: before, after, rfl, by simp [insertEntry, hcmp, heq]⟩

/-- Which keys are present after an update. -/
theorem contains_insert [Std.TransOrd κ] [Std.LawfulEqOrd κ] {m : OrderedMap κ ν} {key other : κ}
    {value : ν} : (m.insert key value).contains other ↔ other = key ∨ m.contains other := by
  by_cases h : other = key
  · simp [contains, h]
  · simp [contains, h, m.find?_insert_of_ne value h]

/-- Which keys are present after a removal. -/
theorem contains_erase [Std.TransOrd κ] [Std.LawfulEqOrd κ] {m : OrderedMap κ ν} {key other : κ} :
    (m.erase key).contains other ↔ other ≠ key ∧ m.contains other := by
  by_cases h : other = key
  · simp [contains, h]
  · simp [contains, h, m.find?_erase_of_ne h]

/-- Nothing is found where there is no entry. -/
theorem find?_eq_none_of_isEmpty {m : OrderedMap κ ν} {key : κ} (h : m.isEmpty) :
    m.find? key = none := by
  obtain ⟨entries, hinc⟩ := m
  cases entries with
  | nil => rfl
  | cons p rest => simp [isEmpty] at h

theorem eq_empty_of_isEmpty {m : OrderedMap κ ν} (h : m.isEmpty) : m = {} :=
  eq_of_toList_eq (List.isEmpty_iff.mp h)

/-- What is found after all values are replaced by `f`. -/
theorem find?_map (f : ν → μ) (m : OrderedMap κ ν) (key : κ) :
    (m.map f).find? key = (m.find? key).map f := by
  obtain ⟨entries, hinc⟩ := m
  simp only [find?, map]
  clear hinc
  induction entries with
  | nil => rfl
  | cons q rest ih =>
    simp only [List.map_cons, lookup?]
    split
    · rfl
    · exact ih

/-- What is found after the values that fail the test `keep` are dropped. -/
theorem find?_filter [Std.TransOrd κ] [Std.LawfulEqOrd κ] (keep : ν → Bool) (m : OrderedMap κ ν)
    (key : κ) : (m.filter keep).find? key = (m.find? key).filter keep := by
  have hmem : ∀ value, (m.filter keep).find? key = some value ↔
      m.find? key = some value ∧ keep value := by
    intro value
    constructor
    · intro h
      obtain ⟨hmem, hkeep⟩ := List.mem_filter.mp (mem_of_find?_eq_some h)
      exact ⟨find?_eq_some_of_mem hmem, hkeep⟩
    · rintro ⟨h, hkeep⟩
      exact find?_eq_some_of_mem (List.mem_filter.mpr ⟨mem_of_find?_eq_some h, hkeep⟩)
  ext value
  rw [hmem, Option.filter_eq_some_iff]

theorem contains_eq_true_iff {m : OrderedMap κ ν} {key : κ} :
    m.contains key = true ↔ ∃ value, m.find? key = some value := Option.isSome_iff_exists

/-- A key is one of the `keys` once, if it is present. -/
theorem count_keys [DecidableEq κ] [Std.TransOrd κ] [Std.LawfulEqOrd κ] (m : OrderedMap κ ν)
    (key : κ) : m.keys.count key = if m.contains key then 1 else 0 := by
  rw [m.keys_nodup.count]
  simp only [contains_iff_mem_keys]

/-- Maps in which the same keys are present list them alike, whatever their values. -/
theorem keys_eq_of_contains [Std.TransOrd κ] [Std.LawfulEqOrd κ] {m : OrderedMap κ ν}
    {n : OrderedMap κ μ} (h : ∀ key, m.contains key = n.contains key) : m.keys = n.keys := by
  have hperm : m.keys.Perm n.keys := by
    refine (List.perm_ext_iff_of_nodup m.keys_nodup n.keys_nodup).mpr fun key => ?_
    rw [← contains_iff_mem_keys, h, contains_iff_mem_keys]
  refine hperm.eq_of_pairwise ?_ m.keys_increasing n.keys_increasing
  intro j k _ _ hjk hkj
  have hgt := Std.OrientedCmp.gt_of_lt hjk
  rw [hkj] at hgt
  cases hgt

/-- Maps with the same value at every key are equal, since the entries of a map are in the order of
their keys. -/
theorem ext_find? [Std.TransOrd κ] [Std.LawfulEqOrd κ] {m n : OrderedMap κ ν}
    (h : ∀ key, m.find? key = n.find? key) : m = n := by
  have hkeys : m.keys = n.keys := keys_eq_of_contains fun key => by rw [contains, contains, h]
  -- a map lists its keys with the values that are found there
  have hentries : ∀ m : OrderedMap κ ν,
      m.toList.map (Prod.map id some) = m.keys.map fun key => (key, m.find? key) := by
    intro m
    rw [keys, List.map_map]
    exact List.map_congr_left fun p hp => Prod.ext rfl (find?_eq_some_of_mem hp).symm
  have hinjective : ∀ p q : κ × ν, Prod.map id some p = Prod.map id some q → p = q := by
    rintro ⟨j, x⟩ ⟨k, y⟩ ⟨⟩
    rfl
  refine eq_of_toList_eq ((List.map_inj_right hinjective).mp ?_)
  rw [hentries m, hentries n, hkeys]
  exact List.map_congr_left fun key _ => Prod.ext rfl (h key)

/-- Which keys are present in a map made from a list. -/
theorem contains_ofList [Std.TransOrd κ] [Std.LawfulEqOrd κ] {entries : List (κ × ν)} {key : κ} :
    (ofList entries).contains key ↔ key ∈ entries.map Prod.fst := by
  have hfold : ∀ m : OrderedMap κ ν, (entries.foldl (fun m p => m.insert p.1 p.2) m).contains key ↔
      m.contains key ∨ key ∈ entries.map Prod.fst := by
    induction entries with
    | nil => simp
    | cons p rest ih =>
      intro m
      rw [List.foldl_cons, ih, contains_insert, List.map_cons, List.mem_cons, or_comm (a := key = p.1),
        or_assoc]
  rw [ofList, hfold]
  simp [contains]

/-- In a map made from a list the last entry of a key counts. -/
theorem find?_ofList [DecidableEq κ] [Std.TransOrd κ] [Std.LawfulEqOrd κ] (entries : List (κ × ν))
    (key : κ) :
    (ofList entries).find? key = (entries.reverse.find? fun p => p.1 = key).map Prod.snd := by
  have hfold : ∀ m : OrderedMap κ ν, (entries.foldl (fun m p => m.insert p.1 p.2) m).find? key =
      ((entries.reverse.find? fun p => p.1 = key).map Prod.snd).or (m.find? key) := by
    induction entries with
    | nil => exact fun m => rfl
    | cons p rest ih =>
      intro m
      rw [List.foldl_cons, ih, List.reverse_cons, List.find?_append, Option.map_or, Option.or_assoc,
        find?_insert]
      by_cases hkey : p.1 = key
      · simp [hkey]
      · simp [hkey, Ne.symm hkey]
  rw [ofList, hfold]
  exact Option.or_none

/-- A map made from a list holds the value of a key that stands in a later part of the list, where
all entries of the key have this `value`. -/
theorem find?_ofList_append [DecidableEq κ] [Std.TransOrd κ] [Std.LawfulEqOrd κ]
    (earlier : List (κ × ν)) {entries : List (κ × ν)} {key : κ} {value : ν}
    (hmem : (key, value) ∈ entries) (hsame : ∀ other, (key, other) ∈ entries → other = value) :
    (ofList (earlier ++ entries)).find? key = some value := by
  rw [find?_ofList, List.reverse_append, List.find?_append]
  cases hfind : entries.reverse.find? fun p => p.1 = key with
  | none =>
    have hnot := List.find?_eq_none.mp hfind _ (List.mem_reverse.mpr hmem)
    simp at hnot
  | some p =>
    have hkey : p.1 = key := by simpa using List.find?_some hfind
    have hlast : (key, p.2) ∈ entries := by
      rw [← hkey]
      exact List.mem_reverse.mp (List.mem_of_find?_eq_some hfind)
    exact congrArg some (hsame p.2 hlast)

/-! ### Values that know their keys -/

/-- `m.KeyedBy name` says that every value stands at the key that it gives itself. -/
def KeyedBy (name : ν → κ) (m : OrderedMap κ ν) : Prop := ∀ p ∈ m.toList, name p.2 = p.1

namespace KeyedBy

variable {name : ν → κ} {m : OrderedMap κ ν}

theorem empty : (OrderedMap.empty : OrderedMap κ ν).KeyedBy name := fun _ h => by cases h

theorem insert [Std.TransOrd κ] (h : m.KeyedBy name) {key : κ} {value : ν} (hname : name value = key) :
    (m.insert key value).KeyedBy name := by
  intro p hp
  rcases mem_insertEntry hp with rfl | hp
  · exact hname
  · exact h p hp

theorem insertNew [Std.TransOrd κ] (h : m.KeyedBy name) {key : κ} {value : ν}
    (hname : name value = key) : (m.insertNew key value).KeyedBy name := by
  unfold OrderedMap.insertNew
  split
  · exact h
  · exact h.insert hname

/-- The keys can be read off the values, by `name`. -/
theorem map_values (h : m.KeyedBy name) : m.values.map name = m.keys := by
  rw [values, keys, List.map_map]
  exact List.map_congr_left h

/-- The values of a map are those that are found under their keys. -/
theorem mem_values_iff [Std.TransOrd κ] [Std.LawfulEqOrd κ] (h : m.KeyedBy name) {v : ν} :
    v ∈ m.values ↔ m.find? (name v) = some v := by
  constructor
  · intro hv
    obtain ⟨p, hp, rfl⟩ := List.mem_map.mp hv
    rw [h p hp]
    exact find?_eq_some_of_mem hp
  · exact mem_values_of_find?_eq_some

/-- Among the values of a map there is one of a key at most, so that a `test` decides about it
alone. -/
theorem find?_values [DecidableEq κ] [Std.TransOrd κ] [Std.LawfulEqOrd κ] (h : m.KeyedBy name)
    (key : κ) (test : ν → Bool) :
    (m.values.find? fun v => name v = key && test v) = (m.find? key).filter test := by
  have hunique : ∀ v ∈ m.values, name v = key → m.find? key = some v := by
    intro v hv hkey
    rw [← hkey]
    exact h.mem_values_iff.mp hv
  cases hfind : m.find? key with
  | none =>
    rw [Option.filter_none, List.find?_eq_none]
    intro v hv hboth
    rw [Bool.and_eq_true, decide_eq_true_eq] at hboth
    rw [hunique v hv hboth.1] at hfind
    cases hfind
  | some value =>
    have hkey : name value = key := h _ (mem_of_find?_eq_some hfind)
    cases hfirst : m.values.find? fun v => name v = key && test v with
    | none =>
      have hnot := List.find?_eq_none.mp hfirst value (mem_values_of_find?_eq_some hfind)
      have htest : test value = false := by simpa [hkey] using hnot
      simp [Option.filter, htest]
    | some v =>
      have hboth := List.find?_some hfirst
      rw [Bool.and_eq_true, decide_eq_true_eq] at hboth
      rw [hunique v (List.mem_of_find?_eq_some hfirst) hboth.1] at hfind
      cases hfind
      simp [Option.filter, hboth.2]

end KeyedBy

end OrderedMap

end GatewayCompiler
