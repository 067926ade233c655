import GatewayCompiler.Proofs.CacheHistory
import Mathlib.Data.List.Induction

/-!
# The versions of a resource in a cache

A resource comes into a cache again and again, each time in a new version.  A version that is not
taken, because it is of another class or because it holds nothing that is good for TLS, leaves the
cache as it is.  The version that was taken before it then stays, although it is no longer the
latest one.

## Main definitions

* `lastInsert?` — the latest version at a key.
* `Operation.IsRefused` — a resource comes and is not taken.
* `Standing` — a version that was taken, and nothing but refused versions behind it.
* `Outdated` — a version stands although a later one has come.

## Main statements

* `visible_iff` — the visible versions are those that stand.
* `visible_latest_iff` — the latest version is the only one that may be visible, unless an outdated
  one stands.
* `outdated_visible` — an outdated version is visible.
-/

namespace GatewayCompiler

variable {config : CacheConfig} {key : ResourceKey} {ops before later : List Operation}
  {op : Operation} {r : Resource}

/-- `op.brings? key` is the version of a resource that the operation `op` brings to `key`, if it
brings one. -/
def Operation.brings? (key : ResourceKey) : Operation → Option Resource
  | .insert r => if r.key = key then some r else none
  | .remove _ => none

/-- `lastInsert? key ops` is the version of a resource that has come to `key` last, taken or not. -/
def lastInsert? (key : ResourceKey) (ops : List Operation) : Option Resource :=
  (ops.filterMap (Operation.brings? key)).getLast?

/-- `op.IsRefused config` says that a resource comes with `op` and is not taken, because the cache
watches other classes or the resource is not in order. -/
def Operation.IsRefused (config : CacheConfig) : Operation → Prop
  | .insert r => ({ config } : Cache).accepts r = false
  | .remove _ => False

/-- `Standing config key ops r later` says that the version `r` is taken at `key` by one of `ops`,
and that of the operations `later` behind it those on `key` are all refused. -/
structure Standing (config : CacheConfig) (key : ResourceKey) (ops : List Operation) (r : Resource)
    (later : List Operation) : Prop where
  /-- The version comes. -/
  comes : ∃ before, ops = before ++ .insert r :: later
  /-- It comes to the key. -/
  atKey : r.key = key
  /-- It is taken. -/
  taken : ({ config } : Cache).accepts r = true
  /-- What comes to the key later is refused, and the resource is not dropped. -/
  refused : ∀ op ∈ later, op.key = key → op.IsRefused config

/-- `Outdated config key ops r` says that `r` stands at `key` although a later version has come
there. -/
def Outdated (config : CacheConfig) (key : ResourceKey) (ops : List Operation) (r : Resource) :
    Prop := ∃ later, Standing config key ops r later ∧ ∃ op ∈ later, op.key = key

/-- Only a resource that comes is brought to a key, and to no other key than its own. -/
theorem Operation.brings?_eq_some : op.brings? key = some r ↔ op = .insert r ∧ r.key = key := by
  cases op with
  | insert s =>
    rw [Operation.brings?]
    constructor
    · intro h
      split at h
      · next hkey =>
        cases h
        exact ⟨rfl, hkey⟩
      · cases h
    · rintro ⟨⟨⟩, hkey⟩
      exact if_pos hkey
  | remove s =>
    refine ⟨nofun, ?_⟩
    rintro ⟨⟨⟩, -⟩

/-- What is refused at `key` has been brought there. -/
theorem Operation.IsRefused.exists_brings? (h : op.IsRefused config) (hkey : op.key = key) :
    ∃ s, op.brings? key = some s := by
  cases op with
  | insert s => exact ⟨s, Operation.brings?_eq_some.mpr ⟨rfl, hkey⟩⟩
  | remove s => exact h.elim

/-! ### One further operation -/

/-- The version `r` stands after a further operation `op` if it is the version that comes with `op`,
or if it has stood before and `op` is refused or for another key. -/
theorem standing_concat :
    (∃ later, Standing config key (ops ++ [op]) r later) ↔
      (op = .insert r ∧ r.key = key ∧ ({ config } : Cache).accepts r = true) ∨
        (∃ later, Standing config key ops r later) ∧ (op.key = key → op.IsRefused config) := by
  constructor
  · rintro ⟨later, ⟨before, hsplit⟩, hkey, htaken, hrefused⟩
    -- the last operation is the one that brought `r`, or it stands behind it and was refused
    rcases List.eq_nil_or_concat' later with rfl | ⟨init, last, rfl⟩
    · obtain ⟨-, hlast⟩ := List.append_inj' hsplit rfl
      exact .inl ⟨List.singleton_inj.mp hlast, hkey, htaken⟩
    · have hassoc : before ++ .insert r :: (init ++ [last])
          = (before ++ .insert r :: init) ++ [last] := by simp
      obtain ⟨hinit, hlast⟩ := List.append_inj' (hsplit.trans hassoc) rfl
      obtain rfl := List.singleton_inj.mp hlast
      exact .inr ⟨⟨init, ⟨before, hinit⟩, hkey, htaken, fun op hop =>
        hrefused op (List.mem_append_left _ hop)⟩, hrefused op (by simp)⟩
  · rintro (⟨rfl, hkey, htaken⟩ | ⟨⟨later, ⟨before, rfl⟩, hkey, htaken, hrefused⟩, hop⟩)
    · exact ⟨[], ⟨ops, rfl⟩, hkey, htaken, by simp⟩
    · refine ⟨later ++ [op], ⟨before, by simp⟩, hkey, htaken, fun other hother => ?_⟩
      rcases List.mem_append.mp hother with hother | hother
      · exact hrefused other hother
      · rw [List.mem_singleton.mp hother]
        exact hop

/-- The same holds of being visible, with `entry` for what is visible before. -/
theorem onEntry_eq_some {entry : Option Resource} :
    (op.onEntry config entry).2 = some r ↔
      (op = .insert r ∧ ({ config } : Cache).accepts r = true) ∨
        entry = some r ∧ op.IsRefused config := by
  cases op with
  | insert s =>
    unfold Operation.onEntry Operation.IsRefused
    simp only
    -- a resource that is taken becomes the entry, and one that is not leaves it
    by_cases htaken : ({ config } : Cache).accepts s = true
    · rw [if_pos htaken]
      constructor
      · rintro ⟨⟩
        exact .inl ⟨rfl, htaken⟩
      · rintro (⟨⟨⟩, -⟩ | ⟨-, hrefused⟩)
        · rfl
        · rw [htaken] at hrefused
          cases hrefused
    · rw [if_neg htaken]
      constructor
      · exact fun hentry => .inr ⟨hentry, Bool.eq_false_iff.mpr htaken⟩
      · rintro (⟨⟨⟩, htaken'⟩ | ⟨hentry, -⟩)
        · exact absurd htaken' htaken
        · exact hentry
  | remove s => simp [Operation.onEntry, Operation.IsRefused]

/-! ### Whole histories -/

/-- The visible versions are those that stand.  The operations are taken one by one from the end,
where `standing_concat` and `onEntry_eq_some` agree. -/
theorem visible_iff (config : CacheConfig) (key : ResourceKey) (ops : List Operation)
    (r : Resource) : (({ config } : Cache).after ops).resource? key = some r ↔
      ∃ later, Standing config key ops r later := by
  -- by induction on the last operation, which alone may change what is visible
  induction ops using List.reverseRecOn with
  | nil =>
    refine ⟨fun h => ?_, ?_⟩
    · rw [show ({ config } : Cache).after [] = { config } from rfl, Cache.resource?_new] at h
      cases h
    · rintro ⟨later, ⟨before, hsplit⟩, -⟩
      simp at hsplit
  | append_singleton ops op ih =>
    have hstep : ({ config } : Cache).after (ops ++ [op])
        = ((({ config } : Cache).after ops).perform op).2 := Cache.after_append _ _ _
    rw [hstep, Cache.resource?_perform, Cache.config_after, standing_concat, ← ih]
    by_cases hkey : op.key = key
    · rw [if_pos hkey.symm, onEntry_eq_some]
      constructor
      · rintro (⟨rfl, htaken⟩ | ⟨hentry, hrefused⟩)
        · exact .inl ⟨rfl, hkey, htaken⟩
        · exact .inr ⟨hentry, fun _ => hrefused⟩
      · rintro (⟨hinsert, -, htaken⟩ | ⟨hentry, hrefused⟩)
        · exact .inl ⟨hinsert, htaken⟩
        · exact .inr ⟨hentry, hrefused hkey⟩
    · rw [if_neg (Ne.symm hkey)]
      constructor
      · exact fun hentry => .inr ⟨hentry, fun h => absurd h hkey⟩
      · rintro (⟨rfl, hkey', -⟩ | ⟨hentry, -⟩)
        · exact absurd hkey' hkey
        · exact hentry

/-- What brings nothing to `key` does not change the latest version there. -/
theorem lastInsert?_append (h : ∀ op ∈ later, op.brings? key = none) :
    lastInsert? key (before ++ later) = lastInsert? key before := by
  rw [lastInsert?, List.filterMap_append, List.filterMap_eq_nil_iff.mpr h, List.append_nil,
    lastInsert?]

/-- A version that stands is the latest one, unless a later one has come to `key` and was
refused. -/
theorem Standing.lastInsert?_eq_iff (h : Standing config key ops r later) :
    lastInsert? key ops = some r ↔ ¬ ∃ op ∈ later, op.key = key := by
  obtain ⟨⟨before, rfl⟩, hkey, htaken, hrefused⟩ := h
  have hsplit : before ++ .insert r :: later = (before ++ [.insert r]) ++ later := by simp
  constructor
  · rintro hlast ⟨op, hop, hopKey⟩
    obtain ⟨s, hs⟩ := (hrefused op hop hopKey).exists_brings? hopKey
    have hne : later.filterMap (Operation.brings? key) ≠ [] :=
      List.ne_nil_of_mem (List.mem_filterMap.mpr ⟨op, hop, hs⟩)
    rw [lastInsert?, hsplit, List.filterMap_append, List.getLast?_append_of_ne_nil _ hne] at hlast
    obtain ⟨last, hmem, hbrings⟩ := List.mem_filterMap.mp (List.mem_of_getLast? hlast)
    -- the latest version comes after the one that stands, so it is refused
    obtain ⟨rfl, -⟩ := Operation.brings?_eq_some.mp hbrings
    have hrefuses := hrefused _ hmem hkey
    rw [Operation.IsRefused, htaken] at hrefuses
    cases hrefuses
  · intro hnone
    have hothers : ∀ op ∈ later, op.brings? key = none := by
      intro op hop
      by_contra hsome
      obtain ⟨s, hs⟩ := Option.ne_none_iff_exists'.mp hsome
      obtain ⟨rfl, hsKey⟩ := Operation.brings?_eq_some.mp hs
      exact hnone ⟨_, hop, hsKey⟩
    have hbrings : Operation.brings? key (.insert r) = some r :=
      Operation.brings?_eq_some.mpr ⟨rfl, hkey⟩
    rw [hsplit, lastInsert?_append hothers, lastInsert?, List.filterMap_append, List.filterMap_cons,
      hbrings]
    exact List.getLast?_concat

/-- A version is visible if and only if it stands: it was taken, and no later operation on its key
has taken another version or dropped the resource.  All visible versions are the latest ones if and
only if no outdated version stands. -/
theorem visible_latest_iff (config : CacheConfig) (key : ResourceKey) (ops : List Operation) :
    (∀ r, (({ config } : Cache).after ops).resource? key = some r ↔
      ∃ later, Standing config key ops r later) ∧
    ((∀ r, (({ config } : Cache).after ops).resource? key = some r → lastInsert? key ops = some r) ↔
      ¬ ∃ r, Outdated config key ops r) := by
  refine ⟨visible_iff config key ops, ?_, ?_⟩
  · rintro hlatest ⟨r, later, hstanding, hlater⟩
    have hlast := hlatest r ((visible_iff config key ops r).mpr ⟨later, hstanding⟩)
    exact hstanding.lastInsert?_eq_iff.mp hlast hlater
  · intro hnone r hvisible
    obtain ⟨later, hstanding⟩ := (visible_iff config key ops r).mp hvisible
    exact hstanding.lastInsert?_eq_iff.mpr fun hlater => hnone ⟨r, later, hstanding, hlater⟩

/-- The secret again, without its certificate and key. -/
def emptiedSecret : Secret := { webSecret with data := {} }

/-- After `webSecret` has lost its certificate, the version with the certificate is still visible:
the new version is refused before the old one is touched. -/
theorem outdated_visible :
    ¬ ∀ (ops : List Operation) (key : ResourceKey) (r : Resource),
      (({} : Cache).after ops).resource? key = some r → lastInsert? key ops = some r := by
  intro hlatest
  have hlast := hlatest [.insert (.secret webSecret), .insert (.secret emptiedSecret)]
    ⟨.secret, ⟨"default", "web"⟩⟩ (.secret webSecret) rfl
  have hdata : emptiedSecret.data.isEmpty = webSecret.data.isEmpty := by
    have hsame : some (Resource.secret emptiedSecret) = some (Resource.secret webSecret) := hlast
    rw [Resource.secret.inj (Option.some.inj hsame)]
  exact absurd hdata (by decide)

end GatewayCompiler
