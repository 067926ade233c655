import GatewayCompiler.Build.Lookup

/-!
# What look-ups answer

A build remembers what it has looked up.  As long as it remembers only what the cache says, every
look-up answers from the cache: a secret is the cached one, and a port is one of the ports that the
cached service lists under the number.

## Main definitions

* `PortOf` — a resolved port is listed by a cached service.
* `Lookups.Sound` — only what the cache says is remembered.
* `Answers` — a look-up keeps what is remembered sound, and its answer is as described.
* `Yields` — a look-up may give an answer.
* `Determined` — the answer does not depend on what is remembered.
* `OneSecret` — a look-up asks for one secret at most, and its answer is as described.

## Main statements

* `Answers.bind`, `Answers.bindAttempt` — look-ups one after the other.
* `lookupPort_answers`, `lookupSecret_answers` — what ports and secrets are found.
-/

namespace GatewayCompiler.Build

variable {α β : Type} {cache : Cache}

/-- `PortOf cache identity number resolved` says that a cached service lists the port `resolved`
under `number`. -/
def PortOf (cache : Cache) (identity : Identity) (number : Int) (resolved : ResolvedPort) : Prop :=
  ∃ service port, cache.services.find? identity = some service ∧ port ∈ service.ports ∧
    port.number = number ∧ resolved = resolvePort identity service port

/-- `known.Sound cache` says that only what the cache says is remembered in `known`.  Every build
keeps this, so that a remembered port is as good as one that is looked up. -/
structure Lookups.Sound (cache : Cache) (known : Lookups) : Prop where
  /-- The ports are listed under their numbers. -/
  ports : ∀ key resolved, known.ports.find? key = some resolved →
    PortOf cache key.service key.number resolved
  /-- The secrets are the cached ones. -/
  secrets : ∀ identity secret, known.secrets.find? identity = some secret →
    cache.keyMaterial? identity = some secret

/-- At first nothing is remembered. -/
theorem Lookups.Sound.empty : Lookups.Sound cache {} where
  ports := by
    intro key resolved h
    cases h
  secrets := by
    intro identity secret h
    cases h

/-- A port that is listed may be remembered under its number. -/
theorem Lookups.Sound.insertPort {known : Lookups} {identity : Identity} {number : Int}
    {resolved : ResolvedPort} (h : known.Sound cache) (hof : PortOf cache identity number resolved) :
    Lookups.Sound cache { known with ports := known.ports.insert ⟨identity, number⟩ resolved } where
  ports := OrderedMap.forall_find?_insert h.ports hof
  secrets := h.secrets

/-- A cached secret may be remembered. -/
theorem Lookups.Sound.insertSecret {known : Lookups} {identity : Identity} {secret : KeyMaterial}
    (h : known.Sound cache) (hsecret : cache.keyMaterial? identity = some secret) :
    Lookups.Sound cache { known with secrets := known.secrets.insert identity secret } where
  ports := h.ports
  secrets := OrderedMap.forall_find?_insert h.secrets hsecret

/-- `Answers cache action Q` says that the look-up `action` keeps what is remembered sound, and its
answer is as described by `Q`. -/
def Answers (cache : Cache) (action : StateM Lookups α) (Q : α → Prop) : Prop :=
  ∀ known : Lookups, known.Sound cache →
    Q (action.run known).1 ∧ (action.run known).2.Sound cache

namespace Answers

theorem pure {Q : α → Prop} {a : α} (h : Q a) : Answers cache (Pure.pure a) Q :=
  fun _ hknown => ⟨h, hknown⟩

theorem mono {action : StateM Lookups α} {Q R : α → Prop} (h : Answers cache action Q)
    (himp : ∀ a, Q a → R a) : Answers cache action R :=
  fun known hknown => (h known hknown).imp_left (himp _)

theorem bind {action : StateM Lookups α} {next : α → StateM Lookups β} {Q : α → Prop}
    {R : β → Prop} (h : Answers cache action Q) (hnext : ∀ a, Q a → Answers cache (next a) R) :
    Answers cache (action >>= next) R := by
  intro known hknown
  obtain ⟨ha, hsound⟩ := h known hknown
  exact hnext _ ha _ hsound

/-- Look-ups one after the other, the first of which may fail; then the problem is the answer. -/
theorem bindAttempt {action : Attempt α} {next : α → Attempt β} {Q : Except Problem α → Prop}
    {R : Except Problem β → Prop} (h : Answers cache action.run Q)
    (hok : ∀ a, Q (.ok a) → Answers cache (next a).run R)
    (herror : ∀ problem, Q (.error problem) → R (.error problem)) :
    Answers cache (action >>= next).run R := by
  rw [ExceptT.run_bind]
  refine h.bind fun result hresult => ?_
  cases result with
  | ok a => exact hok a hresult
  | error problem => exact .pure (herror problem hresult)

/-- A look-up that cannot fail is followed by a part of a build that may fail. -/
theorem bindLift {action : StateM Lookups α} {next : α → Attempt β} {Q : α → Prop}
    {R : Except Problem β → Prop} (h : Answers cache action Q)
    (hnext : ∀ a, Q a → Answers cache (next a).run R) :
    Answers cache (ExceptT.run (liftM action >>= next)) R := by
  intro known hknown
  obtain ⟨ha, hsound⟩ := h known hknown
  exact hnext _ ha _ hsound

/-- A `check` that looks nothing up comes before the rest. -/
theorem bindExcept {check : Except Problem α} {next : α → Attempt β}
    {R : Except Problem β → Prop} (hok : ∀ a, check = .ok a → Answers cache (next a).run R)
    (herror : ∀ problem, check = .error problem → R (.error problem)) :
    Answers cache (ExceptT.run ((liftM check : Attempt α) >>= next)) R := by
  cases check with
  | ok a => exact hok a rfl
  | error problem => exact .pure (herror problem rfl)

end Answers

/-- `Yields cache action a` says that the look-up `action` may give the answer `a`, as long as only
what the cache says is remembered. -/
def Yields (cache : Cache) (action : StateM Lookups α) (a : α) : Prop :=
  ∃ known : Lookups, known.Sound cache ∧ (action.run known).1 = a

/-- Every answer that a look-up may give is as described by `Answers`. -/
theorem Yields.holds {action : StateM Lookups α} {Q : α → Prop} {a : α}
    (h : Yields cache action a) (hanswers : Answers cache action Q) : Q a := by
  obtain ⟨known, hknown, rfl⟩ := h
  exact (hanswers known hknown).1

/-- The answer of a look-up is one that it may give, which is the most that can be said of it. -/
theorem Answers.yields {action : StateM Lookups α} {Q : α → Prop} (h : Answers cache action Q) :
    Answers cache action (Yields cache action) :=
  fun known hknown => ⟨⟨known, hknown, rfl⟩, (h known hknown).2⟩

/-- `Determined cache action` says that the answer of a look-up does not depend on what is
remembered. -/
def Determined (cache : Cache) (action : StateM Lookups α) : Prop :=
  ∃ a, Answers cache action (· = a)

namespace Determined

theorem pure (a : α) : Determined cache (Pure.pure a) := ⟨a, .pure rfl⟩

/-- A part of a build that may fail is determined, if what comes after the found value is. -/
theorem bindLift {action : StateM Lookups α} {next : α → Attempt β} {a : α}
    (h : Answers cache action (· = a)) (hnext : Determined cache (next a).run) :
    Determined cache (ExceptT.run (liftM action >>= next)) := by
  obtain ⟨b, hb⟩ := hnext
  refine ⟨b, h.bindLift fun a' heq => ?_⟩
  rw [heq]
  exact hb

/-- The answer is the one given when nothing is remembered yet, that is, from `{}`. -/
theorem answers {action : StateM Lookups α} (h : Determined cache action) :
    Answers cache action (· = (action.run {}).1) := by
  obtain ⟨a, ha⟩ := h
  rw [(ha {} .empty).1]
  exact ha

end Determined

/-! ### Ports -/

theorem findPort?_eq_some {identity : Identity} {selector : PortSelector} {service : Service}
    {port : ServicePort} (h : findPort? cache identity selector = some (service, port)) :
    cache.services.find? identity = some service ∧ port ∈ service.ports ∧ selector.selects port := by
  unfold findPort? at h
  cases hs : cache.services.find? identity with
  | none => simp [hs] at h
  | some s =>
    cases hp : s.ports.find? selector.selects with
    | none => simp [hs, hp] at h
    | some p =>
      simp only [hs, hp, Option.bind_eq_bind, Option.bind_some, Option.pure_def,
        Option.some.injEq, Prod.mk.injEq] at h
      obtain ⟨rfl, rfl⟩ := h
      exact ⟨rfl, List.mem_of_find?_eq_some hp, List.find?_some hp⟩

/-- What `findPort?` finds under a number has that number. -/
theorem findPort?_number {identity : Identity} {number : Int} {service : Service}
    {port : ServicePort} (h : findPort? cache identity (.number number) = some (service, port)) :
    port.number = number := by
  have hselects := (findPort?_eq_some h).2.2
  simpa [PortSelector.selects] using hselects

/-- A port is found if the cached service lists one, and then it is listed under the same number,
though it may be remembered from a request for another name. -/
theorem lookupPort_answers (identity : Identity) (selector : PortSelector) :
    Answers cache (lookupPort cache identity selector) fun found =>
      match findPort? cache identity selector with
      | none => found = none
      | some (_, port) => ∃ resolved, found = some resolved ∧
          PortOf cache identity port.number resolved := by
  intro known hknown
  unfold lookupPort
  cases h : findPort? cache identity selector with
  | none => exact ⟨rfl, hknown⟩
  | some found =>
    obtain ⟨service, port⟩ := found
    obtain ⟨hservice, hport, -⟩ := findPort?_eq_some h
    -- a remembered port has the number of the one that was asked for, if not its name
    cases hmemo : known.ports.find? ⟨identity, port.number⟩ with
    | some resolved =>
      simp only [StateT.run_bind, StateT.run_get, pure_bind, hmemo, StateT.run_pure]
      exact ⟨⟨resolved, rfl, hknown.ports _ _ hmemo⟩, hknown⟩
    | none =>
      simp only [StateT.run_bind, StateT.run_get, pure_bind, hmemo, StateT.run_set,
        StateT.run_pure]
      have hof : PortOf cache identity port.number (resolvePort identity service port) :=
        ⟨service, port, hservice, hport, rfl, rfl⟩
      exact ⟨⟨_, rfl, hof⟩, hknown.insertPort hof⟩

/-- `spokenProtocol given resolved` is the protocol that a port of a service is spoken to in: the
given one, or else that of its annotations. -/
def spokenProtocol (given : Option Protocol) (resolved : ResolvedPort) : Protocol :=
  (given <|> resolved.protocol).getD .plaintext

/-- A backend is found if the cached service lists the port, and it is that port of the service. -/
theorem lookupBackend_answers (identity : Identity) (selector : PortSelector)
    (given : Option Protocol) :
    Answers cache (lookupBackend cache identity selector given) fun found =>
      match findPort? cache identity selector with
      | none => found = none
      | some (_, port) => ∃ resolved, PortOf cache identity port.number resolved ∧
          found = some ⟨resolved.target, .http (spokenProtocol given resolved)⟩ := by
  refine (lookupPort_answers identity selector).bind fun found hfound => ?_
  cases h : findPort? cache identity selector with
  | none =>
    rw [h] at hfound
    subst hfound
    exact .pure rfl
  | some p =>
    rw [h] at hfound
    obtain ⟨resolved, rfl, hof⟩ := hfound
    exact .pure ⟨resolved, hof, rfl⟩

/-! ### Secrets -/

/-- A cached secret is known by its identity: the one at which it stands. -/
theorem keyMaterial?_identity {identity : Identity} {secret : KeyMaterial}
    (h : cache.keyMaterial? identity = some secret) : secret.identity = identity := by
  obtain ⟨s, -, rfl⟩ := Option.map_eq_some_iff.mp h
  rfl

theorem keypair?_identity {identity : Identity} {secret : KeyMaterial}
    (h : cache.keypair? identity = some secret) : secret.identity = identity :=
  keyMaterial?_identity (Option.filter_eq_some_iff.mp h).1

theorem caBundle?_identity {identity : Identity} {secret : KeyMaterial}
    (h : cache.caBundle? identity = some secret) : secret.identity = identity :=
  keyMaterial?_identity (Option.filter_eq_some_iff.mp h).1

/-- What is found for a secret is the cached secret, remembered or not. -/
theorem lookupSecret_answers (identity : Identity) :
    Answers cache (lookupSecret cache identity) (· = cache.keyMaterial? identity) := by
  intro known hknown
  unfold lookupSecret
  -- remembering is transparent here, as the memo is keyed by all that was asked for
  cases hmemo : known.secrets.find? identity with
  | some secret =>
    simp only [StateT.run_bind, StateT.run_get, pure_bind, hmemo, StateT.run_pure]
    exact ⟨(hknown.secrets _ _ hmemo).symm, hknown⟩
  | none =>
    cases hsecret : cache.keyMaterial? identity with
    | none =>
      simp only [StateT.run_bind, StateT.run_get, pure_bind, hmemo, StateT.run_pure]
      exact ⟨rfl, hknown⟩
    | some secret =>
      simp only [StateT.run_bind, StateT.run_get, pure_bind, hmemo, StateT.run_set,
        StateT.run_pure]
      exact ⟨rfl, hknown.insertSecret hsecret⟩

/-! ### Look-ups of one secret -/

/-- `OneSecret cache P action` says that `action` looks up one secret at most, and that its answer
is as described by `P`, once the secret is the cached one.  Whatever is done with secrets only is of
this kind, so that `P` is all that there is to say about it. -/
inductive OneSecret (cache : Cache) (P : α → Prop) : StateM Lookups α → Prop
  /-- The answer is given at once. -/
  | answered {a : α} (holds : P a) : OneSecret cache P (pure a)
  /-- The answer is given when the secret is found, or found to be missing. -/
  | asked (identity : Identity) {next : Option KeyMaterial → StateM Lookups α}
      (answers : ∀ found, ∃ a, next found = pure a ∧ (found = cache.keyMaterial? identity → P a)) :
      OneSecret cache P (lookupSecret cache identity >>= next)

namespace OneSecret

variable {P : α → Prop} {action : StateM Lookups α}

/-- The secret may be looked up for what `keep` asks of it, as `lookupKeypair` and `lookupCaBundle`
do. -/
theorem filtered (identity : Identity) (keep : KeyMaterial → Bool)
    {next : Option KeyMaterial → StateM Lookups α}
    (answers : ∀ found, ∃ a, next found = pure a ∧
      (found = (cache.keyMaterial? identity).filter keep → P a)) :
    OneSecret cache P ((do return (← lookupSecret cache identity).filter keep) >>= next) := by
  change OneSecret cache P (lookupSecret cache identity >>= fun found => next (found.filter keep))
  refine .asked identity fun found => ?_
  obtain ⟨a, hnext, ha⟩ := answers (found.filter keep)
  exact ⟨a, hnext, fun hfound => ha (congrArg (Option.filter keep) hfound)⟩

/-- The same before a part of a build that may fail. -/
theorem filteredLift {P : Except Problem β → Prop} (identity : Identity)
    (keep : KeyMaterial → Bool) {next : Option KeyMaterial → Attempt β}
    (answers : ∀ found, ∃ result, (next found).run = pure result ∧
      (found = (cache.keyMaterial? identity).filter keep → P result)) :
    OneSecret cache P (ExceptT.run
      (liftM (do return (← lookupSecret cache identity).filter keep : StateM Lookups _) >>= next)) :=
  filtered identity keep answers

theorem mono {Q : α → Prop} (h : OneSecret cache P action) (himp : ∀ a, P a → Q a) :
    OneSecret cache Q action := by
  cases h with
  | answered holds => exact .answered (himp _ holds)
  | asked identity answers =>
    refine .asked identity fun found => ?_
    obtain ⟨a, hnext, ha⟩ := answers found
    exact ⟨a, hnext, fun hfound => himp a (ha hfound)⟩

/-- The answer is as described, and what is remembered stays sound. -/
theorem answers (h : OneSecret cache P action) : Answers cache action P := by
  cases h with
  | answered holds => exact .pure holds
  | asked identity answers =>
    refine (lookupSecret_answers identity).bind fun found hfound => ?_
    obtain ⟨a, hnext, ha⟩ := answers found
    rw [hnext]
    exact .pure (ha hfound)

/-- Secrets are remembered as the cache has them, so that the answer does not depend on the memo. -/
theorem determined (h : OneSecret cache P action) : Determined cache action := by
  cases h with
  | answered holds => exact .pure _
  | asked identity answers =>
    obtain ⟨a, hnext, -⟩ := answers (cache.keyMaterial? identity)
    refine ⟨a, (lookupSecret_answers identity).bind fun found hfound => ?_⟩
    rw [hfound, hnext]
    exact .pure rfl

end OneSecret

end GatewayCompiler.Build
