import GatewayCompiler.Build.Graph
import GatewayCompiler.Proofs.CacheEntries
import Mathlib.Data.List.Basic

/-!
# The history of a cache

Several writers take resources into a cache and drop them again.  Each operation is done while the
cache is locked, so the operations of all writers come one after the other, in an order that
interleaves those of every single writer.  An operation reads and changes nothing but the entry at
its own key.  What becomes of an entry is therefore a matter of the operations on its key alone.

## Main definitions

* `Operation`, `Cache.perform`, `Cache.after` — operations on a cache.
* `Event`, `Cache.records` — operations of writers, with their answers.
* `entryAfter`, `entryAnswers` — what some operations do to an entry, and how they are answered.
* `SameOutcome` — two interleavings come to the same.

## Main statements

* `Cache.resource?_after`, `Cache.records_on` — an entry depends on the operations on its key.
* `interleavings_agree` — the order of operations on different keys does not matter.
-/

namespace GatewayCompiler

/-! ### Operations -/

/-- An operation on a cache. -/
inductive Operation
  /-- A resource comes, or a new version of it. -/
  | insert (r : Resource)
  /-- A resource goes. -/
  | remove (r : Resource)

/-- `op.key` is the key of the resource that comes or goes with the operation `op`. -/
def Operation.key : Operation → ResourceKey
  | .insert r | .remove r => r.key

/-- `op.onEntry config entry` is what the operation `op` does to the entry at its key, behind the
answer to it.  It is the operation on a whole cache as seen from a single key. -/
def Operation.onEntry (config : CacheConfig) (entry : Option Resource) :
    Operation → Bool × Option Resource
  | .insert r => if ({ config } : Cache).accepts r then (true, some r) else (false, entry)
  | .remove _ => (entry.isSome, none)

/-- `entryAfter config entry ops` is what the operations `ops`, one after the other, make of the
entry at their key. -/
def entryAfter (config : CacheConfig) (entry : Option Resource) (ops : List Operation) :
    Option Resource := ops.foldl (fun entry op => (op.onEntry config entry).2) entry

/-- `entryAnswers config entry ops` are the answers to the operations `ops` on an entry. -/
def entryAnswers (config : CacheConfig) : Option Resource → List Operation → List Bool
  | _, [] => []
  | entry, op :: rest =>
    (op.onEntry config entry).1 :: entryAnswers config (op.onEntry config entry).2 rest

theorem length_entryAnswers (config : CacheConfig) (entry : Option Resource)
    (ops : List Operation) : (entryAnswers config entry ops).length = ops.length := by
  induction ops generalizing entry with
  | nil => rfl
  | cons op rest ih => exact congrArg (· + 1) (ih _)

namespace Cache

/-- `c.perform op` answers whether the operation `op` is done, with the cache after it. -/
def perform (c : Cache) : Operation → Bool × Cache
  | .insert r => ((c.insert? r).isSome, (c.insert? r).getD c)
  | .remove r => ((c.remove? r).isSome, (c.remove? r).getD c)

/-- `c.after ops` is the cache after the operations `ops`. -/
def after (c : Cache) (ops : List Operation) : Cache := ops.foldl (fun c op => (c.perform op).2) c

/-- An operation that brings a resource puts it into the cache if it is acceptable. -/
theorem perform_insert (c : Cache) (r : Resource) :
    c.perform (.insert r) = if c.accepts r then (true, c.put r) else (false, c) := by
  simp only [perform, insert?]
  split
  · rfl
  · rfl

/-- An operation that drops a resource is done if there is anything at its key. -/
theorem perform_remove (c : Cache) (r : Resource) :
    c.perform (.remove r) =
      if (c.resource? r.key).isSome then (true, c.without r.key) else (false, c) := by
  simp only [perform, remove?_eq]
  split
  · rfl
  · rfl

theorem config_perform (c : Cache) (op : Operation) : (c.perform op).2.config = c.config := by
  cases op with
  | insert r =>
    rw [perform_insert]
    split
    · exact config_put c r
    · rfl
  | remove r =>
    rw [perform_remove]
    split
    · exact config_without c r.key
    · rfl

/-- An operation reads nothing but the entry at its key: `onEntry` gives the same answer. -/
theorem perform_answer (c : Cache) (op : Operation) :
    (c.perform op).1 = (op.onEntry c.config (c.resource? op.key)).1 := by
  cases op with
  | insert r =>
    rw [perform_insert, Operation.onEntry, accepts_config]
    cases c.accepts r with
    | true => rfl
    | false => rfl
  | remove r =>
    rw [perform_remove, Operation.onEntry, Operation.key]
    split
    · next hsome => rw [hsome]
    · next hnone => rw [Bool.eq_false_iff.mpr hnone]

/-- An operation changes nothing but the entry at its key, and there it does what `onEntry` says. -/
theorem resource?_perform (c : Cache) (op : Operation) (key : ResourceKey) :
    (c.perform op).2.resource? key =
      if key = op.key then (op.onEntry c.config (c.resource? key)).2 else c.resource? key := by
  cases op with
  | insert r =>
    rw [perform_insert, Operation.onEntry, accepts_config, Operation.key]
    -- a resource that is not accepted leaves the cache alone, at its own key and elsewhere
    cases c.accepts r with
    | true => exact resource?_put c r key
    | false => exact (ite_self _).symm
  | remove r =>
    rw [perform_remove, Operation.onEntry, Operation.key]
    split
    · exact resource?_without c r.key key
    · next hnone =>
      have hempty : c.resource? r.key = none := by simpa using hnone
      -- the cache refuses, so that the entry of the key was empty before
      split
      · next heq => rw [heq, hempty]
      · rfl

/-- What becomes of an entry depends on the operations on its key alone.  By induction on `ops`,
each step by `resource?_perform`. -/
theorem resource?_after (c : Cache) (ops : List Operation) (key : ResourceKey) :
    (c.after ops).resource? key =
      entryAfter c.config (c.resource? key) (ops.filter fun op => op.key = key) := by
  induction ops generalizing c with
  | nil => rfl
  | cons op rest ih =>
    change ((c.perform op).2.after rest).resource? key = _
    rw [ih, config_perform, resource?_perform]
    by_cases hkey : op.key = key
    · rw [List.filter_cons_of_pos (by simpa using hkey), if_pos hkey.symm]
      rfl
    · rw [List.filter_cons_of_neg (by simpa using hkey), if_neg (Ne.symm hkey)]

theorem config_after (c : Cache) (ops : List Operation) : (c.after ops).config = c.config :=
  List.foldlRecOn (motive := fun d : Cache => d.config = c.config) _ _ rfl
    fun d hd op _ => (config_perform d op).trans hd

theorem after_append (c : Cache) (ops further : List Operation) :
    c.after (ops ++ further) = (c.after ops).after further := List.foldl_append ..

end Cache

/-! ### Several writers -/

section Writers

variable {ω : Type}

/-- An operation of one of several writers.  A list of them is an interleaving of what the single
writers do. -/
structure Event (ω : Type) where
  /-- The writer. -/
  writer : ω
  /-- What the writer does. -/
  operation : Operation

/-- `operations events` are the operations of `events` in their order. -/
def operations (events : List (Event ω)) : List Operation := events.map Event.operation

/-- `eventsOn key events` are those of `events` that are about `key`. -/
def eventsOn (key : ResourceKey) (events : List (Event ω)) : List (Event ω) :=
  events.filter fun e => e.operation.key = key

/-- `operationsOn key events` are the operations on `key` in their order. -/
def operationsOn (key : ResourceKey) (events : List (Event ω)) : List Operation :=
  operations (eventsOn key events)

/-- `eventsOf writer events` are the events of one writer, in the order in which it makes them. -/
def eventsOf [DecidableEq ω] (writer : ω) (events : List (Event ω)) : List (Event ω) :=
  events.filter fun e => e.writer = writer

theorem filter_operations (key : ResourceKey) (events : List (Event ω)) :
    (operations events).filter (fun op => op.key = key) = operationsOn key events := List.filter_map

namespace Cache

/-- `c.records events` pairs each of `events` with the answer that it gets from the cache `c`. -/
def records (c : Cache) : List (Event ω) → List (Event ω × Bool)
  | [] => []
  | e :: rest => (e, (c.perform e.operation).1) :: (c.perform e.operation).2.records rest

/-- `c.answersOn key events` are the answers to the events on `key`. -/
def answersOn (c : Cache) (key : ResourceKey) (events : List (Event ω)) : List Bool :=
  ((c.records events).filter fun p => p.1.operation.key = key).map Prod.snd

/-- `c.answersTo writer events` are the answers that `writer` gets, in the order in which it gets
them. -/
def answersTo [DecidableEq ω] (c : Cache) (writer : ω) (events : List (Event ω)) : List Bool :=
  ((c.records events).filter fun p => p.1.writer = writer).map Prod.snd

theorem map_fst_records (c : Cache) (events : List (Event ω)) :
    (c.records events).map Prod.fst = events := by
  induction events generalizing c with
  | nil => rfl
  | cons e rest ih => exact congrArg (e :: ·) (ih _)

/-- How the events on `key` are answered depends on them alone: it is `entryAnswers` of the
operations on `key`. -/
theorem records_on (c : Cache) (key : ResourceKey) (events : List (Event ω)) :
    (c.records events).filter (fun p => p.1.operation.key = key) =
      (eventsOn key events).zip
        (entryAnswers c.config (c.resource? key) (operationsOn key events)) := by
  induction events generalizing c with
  | nil => rfl
  | cons e rest ih =>
    rw [records]
    by_cases hkey : e.operation.key = key
    · have heventsOn : eventsOn key (e :: rest) = e :: eventsOn key rest :=
        List.filter_cons_of_pos (by simpa using hkey)
      have hops : operationsOn key (e :: rest) = e.operation :: operationsOn key rest :=
        congrArg operations heventsOn
      rw [List.filter_cons_of_pos (by simpa using hkey), ih, config_perform, resource?_perform,
        if_pos hkey.symm, perform_answer, hkey, hops, heventsOn]
      rfl
    · have heventsOn : eventsOn key (e :: rest) = eventsOn key rest :=
        List.filter_cons_of_neg (by simpa using hkey)
      rw [List.filter_cons_of_neg (by simpa using hkey), ih, config_perform, resource?_perform,
        if_neg (Ne.symm hkey), operationsOn, operationsOn, heventsOn]

theorem answersOn_eq (c : Cache) (key : ResourceKey) (events : List (Event ω)) :
    c.answersOn key events =
      entryAnswers c.config (c.resource? key) (operationsOn key events) := by
  rw [answersOn, records_on]
  refine List.map_snd_zip (Nat.le_of_eq ?_)
  rw [length_entryAnswers, operationsOn, operations, List.length_map]

end Cache

/-- Lists of pairs are equal if their first parts are, and if the pairs of each key are listed
alike.  The keys take turns as the first parts say. -/
theorem eq_of_filter_eq {α β κ : Type} [DecidableEq κ] (key : α → κ) {l l' : List (α × β)}
    (hfst : l.map Prod.fst = l'.map Prod.fst)
    (hkeys : ∀ k, l.filter (fun p => key p.1 = k) = l'.filter fun p => key p.1 = k) : l = l' := by
  induction l generalizing l' with
  | nil => exact (List.map_eq_nil_iff.mp hfst.symm).symm
  | cons p rest ih =>
    obtain ⟨a, b⟩ := p
    cases l' with
    | nil => cases hfst
    | cons p' rest' =>
      obtain ⟨a', b'⟩ := p'
      obtain ⟨rfl, hrest⟩ := List.cons.inj hfst
      -- both lists begin with the first pair of its key
      have hfirst := hkeys (key a)
      rw [List.filter_cons_of_pos (by simp), List.filter_cons_of_pos (by simp)] at hfirst
      obtain ⟨heq, -⟩ := List.cons.inj hfirst
      obtain ⟨-, rfl⟩ := Prod.mk.inj heq
      refine congrArg ((a, b) :: ·) (ih hrest fun k => ?_)
      by_cases hk : key a = k
      · have htails := hkeys k
        rw [List.filter_cons_of_pos (by simpa using hk),
          List.filter_cons_of_pos (by simpa using hk)] at htails
        exact (List.cons.inj htails).2
      · have htails := hkeys k
        rwa [List.filter_cons_of_neg (by simpa using hk),
          List.filter_cons_of_neg (by simpa using hk)] at htails

/-- `SameOutcome c events events'` says that two interleavings come to the same for the cache `c`:
the caches after them are equal, each key gets the same answers, and all graphs that are built later
are equal too. -/
structure SameOutcome [Pattern.Engine] (c : Cache) (events events' : List (Event ω)) : Prop where
  /-- The cache is the same afterwards. -/
  cache : c.after (operations events) = c.after (operations events')
  /-- The operations on each key are answered alike. -/
  answers : ∀ key, c.answersOn key events = c.answersOn key events'
  /-- Every graph that is built later is the same. -/
  builds : ∀ later : List Operation,
    Graph.build ((c.after (operations events)).after later) =
      Graph.build ((c.after (operations events')).after later)

/-- What becomes of an entry, and how the operations on its key are answered, depends only on the
order of these operations.  Interleavings in which the operations on each key come in the same order
therefore come to the same.  If they are also the operations of the same writers, then every writer
whose own order is the same gets the same answers. -/
theorem interleavings_agree [Pattern.Engine] [DecidableEq ω] (c : Cache)
    (events events' : List (Event ω)) :
    (∀ key, (c.after (operations events)).resource? key =
        entryAfter c.config (c.resource? key) (operationsOn key events) ∧
      c.answersOn key events = entryAnswers c.config (c.resource? key) (operationsOn key events)) ∧
    ((∀ key, operationsOn key events = operationsOn key events') → SameOutcome c events events') ∧
    ((∀ key, eventsOn key events = eventsOn key events') → ∀ writer,
      eventsOf writer events = eventsOf writer events' →
        c.answersTo writer events = c.answersTo writer events') := by
  have hentry : ∀ (events : List (Event ω)) key, (c.after (operations events)).resource? key =
      entryAfter c.config (c.resource? key) (operationsOn key events) := by
    intro events key
    rw [c.resource?_after, filter_operations]
  refine ⟨fun key => ⟨hentry events key, c.answersOn_eq key events⟩, fun horders => ?_,
    fun horders writer hwriter => ?_⟩
  · have hcache : c.after (operations events) = c.after (operations events') := by
      refine Cache.ext_resource? ?_ fun key => ?_
      · rw [c.config_after, c.config_after]
      · rw [hentry, hentry, horders]
    refine ⟨hcache, fun key => ?_, fun later => by rw [hcache]⟩
    rw [c.answersOn_eq, c.answersOn_eq, horders]
  · -- the records of a writer are known by their events and by the records on each key
    refine congrArg (List.map Prod.snd) (eq_of_filter_eq (fun e => e.operation.key) ?_ fun key => ?_)
    · have hevents : ∀ events : List (Event ω),
          ((c.records events).filter fun p => p.1.writer = writer).map Prod.fst =
            eventsOf writer events := by
        intro events
        conv_rhs => rw [eventsOf, ← c.map_fst_records events, List.filter_map]
        rfl
      rw [hevents, hevents, hwriter]
    · rw [List.filter_comm, c.records_on, List.filter_comm, c.records_on, operationsOn, operationsOn,
        horders]

/-! ### Two writers -/

/-- A secret `web` with a certificate and its key. -/
def webSecret : Secret where
  metadata := { name := some "web", space := some "default" }
  data := .ofList [("tls.crt", [1]), ("tls.key", [2])]

/-- A service of the same name as `webSecret`, so that the two keys differ in their kinds only. -/
def webService : Service where
  metadata := { name := some "web", space := some "default" }
  type := none
  externalName := none
  ports := [⟨none, 80⟩]

/-- One writer takes `webSecret` in and drops it, and another one takes `webService` in between. -/
def betweenEvents : List (Event (Fin 2)) :=
  [⟨0, .insert (.secret webSecret)⟩, ⟨1, .insert (.service webService)⟩,
    ⟨0, .remove (.secret webSecret)⟩]

/-- The other writer takes `webService` in before. -/
def beforeEvents : List (Event (Fin 2)) :=
  [⟨1, .insert (.service webService)⟩, ⟨0, .insert (.secret webSecret)⟩,
    ⟨0, .remove (.secret webSecret)⟩]

/-- On each key the events of `betweenEvents` and `beforeEvents` come in the same order. -/
theorem eventsOn_between (key : ResourceKey) :
    eventsOn key betweenEvents = eventsOn key beforeEvents := by
  by_cases hsecret : key = ⟨.secret, ⟨"default", "web"⟩⟩
  · subst hsecret
    rfl
  · have hother : ¬ (Resource.secret webSecret).key = key := Ne.symm hsecret
    simp only [eventsOn, betweenEvents, beforeEvents, List.filter_cons, List.filter_nil,
      Operation.key, decide_eq_true_eq, hother, if_false]

/-- The two interleavings come to the same, and both writers get the same answers. -/
theorem interleavings_agree_between :
    (∀ key, eventsOn key betweenEvents = eventsOn key beforeEvents) ∧
      SameOutcome {} betweenEvents beforeEvents ∧
      ∀ writer, Cache.answersTo {} writer betweenEvents = Cache.answersTo {} writer beforeEvents := by
  obtain ⟨-, hagree, hwriters⟩ := interleavings_agree {} betweenEvents beforeEvents
  refine ⟨eventsOn_between, hagree fun key => congrArg operations (eventsOn_between key),
    fun writer => hwriters eventsOn_between writer ?_⟩
  match writer with
  | 0 => rfl
  | 1 => rfl

end Writers

end GatewayCompiler
