import GatewayCompiler.OrderedMap

/-!
# Identities

A resource is known by its namespace and its name.  Resources are ordered by namespace first.

## Main definitions

* `Identity` — a namespace and a name, with `Identity.text`.
* `Identity.ofReference` — what a reference such as `name` or `namespace/name` points at.
* `ObjectRef` — a routing object that carries a status.
-/

namespace GatewayCompiler

/-- The namespace and the name of a resource. -/
structure Identity where
  /-- The namespace. -/
  space : String
  /-- The name. -/
  name : String
  deriving DecidableEq, Repr, Inhabited

namespace Identity

instance : Ord Identity := ⟨compareLex (compareOn Identity.space) (compareOn Identity.name)⟩

instance : Std.TransOrd Identity :=
  inferInstanceAs (Std.TransCmp (compareLex (compareOn Identity.space) (compareOn Identity.name)))

instance : Std.LawfulEqOrd Identity where
  compare_self := Std.ReflCmp.compare_self
  eq_of_compare {a b} h := by
    obtain ⟨h₁, h₂⟩ := Ordering.then_eq_eq.mp
      (show (compare a.space b.space).then (compare a.name b.name) = .eq from h)
    have h₁ : a.space = b.space := Std.LawfulEqCmp.eq_of_compare h₁
    have h₂ : a.name = b.name := Std.LawfulEqCmp.eq_of_compare h₂
    cases a
    cases b
    cases h₁
    cases h₂
    rfl

/-- The identity as `namespace/name`. -/
def text (i : Identity) : String := i.space ++ "/" ++ i.name

/-- `Identity.ofReference reference home` is what a reference points at, seen from the namespace
`home`.  A reference with a slash names its own namespace before the first one; without anything
before it, the slashes in front are dropped. -/
def ofReference (reference home : String) : Identity :=
  let cs := reference.toList
  let space := cs.takeWhile (· ≠ '/')
  match cs.dropWhile (· ≠ '/') with
  | '/' :: name =>
    if space = [] then ⟨home, String.ofList (cs.dropWhile (· = '/'))⟩
    else ⟨String.ofList space, String.ofList name⟩
  | _ => ⟨home, reference⟩

end Identity

/-- The kinds of routing object that carry a status. -/
inductive ObjectKind
  /-- A host, or a part of one that another host delegates to. -/
  | gatewayHost
  /-- Further routes of a host. -/
  | serviceRoute
  deriving DecidableEq, Repr

namespace ObjectKind

/-- The name of a kind. -/
def text : ObjectKind → String
  | .gatewayHost => "GatewayHost"
  | .serviceRoute => "ServiceRoute"

/-- The place of a kind among the objects of one identity. -/
def rank : ObjectKind → Nat
  | .gatewayHost => 0
  | .serviceRoute => 1

theorem rank_injective {a b : ObjectKind} (h : a.rank = b.rank) : a = b := by
  cases a <;> cases b <;> simp_all [rank]

end ObjectKind

/-- A routing object that carries a status. -/
structure ObjectRef where
  /-- Which object of its kind. -/
  identity : Identity
  /-- The kind. -/
  kind : ObjectKind
  deriving DecidableEq, Repr

namespace ObjectRef

/-- The comparison of `ObjectRef`s by identity, and by kind among equal ones. -/
def order : ObjectRef → ObjectRef → Ordering :=
  compareLex (compareOn ObjectRef.identity) (compareOn fun o => o.kind.rank)

instance : Ord ObjectRef := ⟨order⟩

instance : Std.TransOrd ObjectRef :=
  inferInstanceAs (Std.TransCmp
    (compareLex (compareOn ObjectRef.identity) (compareOn fun o : ObjectRef => o.kind.rank)))

instance : Std.LawfulEqOrd ObjectRef where
  compare_self := Std.ReflCmp.compare_self
  eq_of_compare {a b} h := by
    obtain ⟨h₁, h₂⟩ := Ordering.then_eq_eq.mp
      (show (compare a.identity b.identity).then (compare a.kind.rank b.kind.rank) = .eq from h)
    have h₁ : a.identity = b.identity := Std.LawfulEqCmp.eq_of_compare h₁
    have h₂ := ObjectKind.rank_injective (Std.LawfulEqCmp.eq_of_compare h₂)
    cases a
    cases b
    cases h₁
    cases h₂
    rfl

/-- The object as `Kind namespace/name`. -/
def text (o : ObjectRef) : String := o.kind.text ++ " " ++ o.identity.text

end ObjectRef

end GatewayCompiler
