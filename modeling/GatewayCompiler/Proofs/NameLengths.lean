import GatewayCompiler.Proofs.Naming
import Mathlib.Data.List.Forall2

/-!
# The length of a name

A name is the text of its segments where that is short enough, the text with as few of the last
segments cut as it takes, or else the beginning of the digest.  It can also be made by cutting one
segment after the other, from the last one to the first, and by looking at the length each time.
That way is followed here with differences and quotients that may fail, and none of them does.

## Main definitions

* `cutName` — the text of the segments with some of the last ones cut.
* `CutsLast`, `Hopeless` — how many segments have to be cut, and that cutting does not help.
* `Named` — the name of segments.
* `difference?`, `quotient?`, `start?` — operations that may fail.
* `truncate?`, `cutDown?`, `hashname?` — a name made of them, segment by segment.

## Main statements

* `named_hashname`, `Named.eq_hashname` — segments have one name, and `hashname` is it.
* `length_hashname_le` — a name keeps to its limit.
* `hopeless_of_forall_lt` — cutting does not help where all segments are longer than their share.
* `hashname_four_of_long` — the name of four segments that is too long.
* `hashname?_eq` — nothing fails on the way to a name.
-/

namespace GatewayCompiler.Proxy

variable {limit count : Nat} {segments : List String} {name suffix : String}

/-! ### Lengths of texts with slashes -/

theorem length_joinSegments_cons (segment : String) {rest : List String} (h : rest ≠ []) :
    (joinSegments (segment :: rest)).length = segment.length + 1 + (joinSegments rest).length := by
  rw [joinSegments, String.intercalate_cons_of_ne_nil h, String.length_append,
    String.length_append]
  rfl

/-- Segments of at least `size` characters, with slashes between them, make a text of at least as
many as all of these. -/
theorem le_length_joinSegments {size : Nat} (h : ∀ s ∈ segments, size ≤ s.length) :
    segments.length * size + (segments.length - 1) ≤ (joinSegments segments).length := by
  induction segments with
  | nil => simp
  | cons segment rest ih =>
    have hsegment := h segment List.mem_cons_self
    cases rest with
    | nil => simpa [joinSegments] using hsegment
    | cons next others =>
      have hrest := ih fun s hs => h s (List.mem_cons_of_mem _ hs)
      rw [length_joinSegments_cons segment (List.cons_ne_nil _ _)]
      simp only [List.length_cons, Nat.succ_mul, Nat.add_sub_cancel] at hrest ⊢
      omega

/-! ### Cutting the last segments -/

/-- `cutName limit segments count` is the text of the segments with the last `count` of them cut to
equal shares of the limit. -/
def cutName (limit : Nat) (segments : List String) (count : Nat) : String :=
  joinSegments (shortenLast limit (cutSuffix segments) segments count)

theorem length_shortenLast (limit : Nat) (suffix : String) (segments : List String) (count : Nat) :
    (shortenLast limit suffix segments count).length = segments.length := by
  simp only [shortenLast, List.length_append, List.length_take, List.length_map, List.length_drop]
  omega

/-- Segments in front of the last `count` ones stand as they are, and the others are cut. -/
theorem getElem?_shortenLast (limit : Nat) (suffix : String) (segments : List String)
    (count place : Nat) :
    (shortenLast limit suffix segments count)[place]? =
      if place < segments.length - count then segments[place]?
      else segments[place]?.map fun s => truncate (limit / segments.length) s suffix := by
  rw [shortenLast]
  split
  · next h =>
    rw [List.getElem?_append_left (by rw [List.length_take]; omega), List.getElem?_take_of_lt h]
  · next h =>
    have hlength : (segments.take (segments.length - count)).length = segments.length - count := by
      rw [List.length_take]
      omega
    rw [List.getElem?_append_right (by omega), hlength, List.getElem?_map, List.getElem?_drop]
    congr 2
    omega

/-- Each segment stands as it is, or it is cut to its share of the `limit`. -/
theorem shows_shortenLast (limit : Nat) (suffix : String) (segments : List String) (count : Nat) :
    List.Forall₂ (Shows (limit / segments.length) suffix) segments
      (shortenLast limit suffix segments count) := by
  have hfront (xs : List String) : List.Forall₂ (Shows (limit / segments.length) suffix) xs xs :=
    List.forall₂_same.mpr fun _ _ => .whole
  have hback (xs : List String) : List.Forall₂ (Shows (limit / segments.length) suffix) xs
      (xs.map fun s => truncate (limit / segments.length) s suffix) :=
    List.forall₂_map_right_iff.mpr (List.forall₂_same.mpr fun s _ => Shows.truncate _ _ s)
  have hboth : List.Forall₂ (Shows (limit / segments.length) suffix)
      (segments.take (segments.length - count) ++ segments.drop (segments.length - count))
      (shortenLast limit suffix segments count) := List.rel_append (hfront _) (hback _)
  rwa [List.take_append_drop] at hboth

/-- `CutsLast limit segments count` says that the last `count` segments have to be cut for the name
to fit, and no more of them. -/
structure CutsLast (limit : Nat) (segments : List String) (count : Nat) : Prop where
  /-- The text does not fit as it is. -/
  long : limit ≤ (joinSegments segments).length
  /-- Some segment is cut. -/
  pos : 1 ≤ count
  /-- There are as many segments. -/
  le : count ≤ segments.length
  /-- The text fits with the segments cut. -/
  fits : (cutName limit segments count).length < limit
  /-- It does not with fewer of them. -/
  least : ∀ fewer, 1 ≤ fewer → fewer < count → limit ≤ (cutName limit segments fewer).length

/-- `Hopeless limit segments` says that the text does not fit, whatever is cut. -/
structure Hopeless (limit : Nat) (segments : List String) : Prop where
  /-- The text does not fit as it is. -/
  long : limit ≤ (joinSegments segments).length
  /-- It does not with segments cut. -/
  cut : ∀ count, 1 ≤ count → count ≤ segments.length →
    limit ≤ (cutName limit segments count).length

/-- `digestName limit segments` is the beginning of the digest, which is a name where nothing else
helps. -/
def digestName (limit : Nat) (segments : List String) : String :=
  firstChars limit (hash (textBytes (joinSegments segments)))

/-- `Named limit segments name` says that `name` is the name of segments, in one of the three ways
in which it is made. -/
inductive Named (limit : Nat) (segments : List String) : String → Prop
  /-- The text fits. -/
  | whole (fits : (joinSegments segments).length < limit) :
    Named limit segments (joinSegments segments)
  /-- The last segments are cut, as few as it takes. -/
  | cut {count : Nat} (cuts : CutsLast limit segments count) :
    Named limit segments (cutName limit segments count)
  /-- Nothing helps. -/
  | digest (hopeless : Hopeless limit segments) : Named limit segments (digestName limit segments)

/-! ### One name -/

/-- The segments that are cut are found by trying one more each time, so that no fewer would do. -/
theorem find?_range'_eq_some_iff (hlong : limit ≤ (joinSegments segments).length) :
    (List.range' 1 segments.length).find? (fun k => (cutName limit segments k).length < limit)
      = some count ↔ CutsLast limit segments count := by
  simp only [List.find?_range'_eq_some, List.mem_range'_1, decide_eq_true_eq,
    Bool.not_eq_true', decide_eq_false_iff_not, Nat.not_lt]
  constructor
  · rintro ⟨hfits, ⟨hpos, hle⟩, hleast⟩
    exact ⟨hlong, hpos, by omega, hfits, hleast⟩
  · rintro ⟨-, hpos, hle, hfits, hleast⟩
    exact ⟨hfits, ⟨hpos, by omega⟩, hleast⟩

theorem find?_range'_eq_none_iff (hlong : limit ≤ (joinSegments segments).length) :
    (List.range' 1 segments.length).find? (fun k => (cutName limit segments k).length < limit)
      = none ↔ Hopeless limit segments := by
  simp only [List.find?_eq_none, List.mem_range'_1, decide_eq_true_eq, Nat.not_lt]
  constructor
  · exact fun h => ⟨hlong, fun count hpos hle => h count ⟨hpos, by omega⟩⟩
  · rintro h count ⟨hpos, hle⟩
    exact h.cut count hpos (by omega)

/-- The three ways in which a name is made, with the search for what has to be cut. -/
theorem hashname_eq (limit : Nat) (segments : List String) :
    hashname limit segments =
      if (joinSegments segments).length < limit then joinSegments segments
      else ((List.range' 1 segments.length).find?
        fun k => (cutName limit segments k).length < limit).elim
          (digestName limit segments) (cutName limit segments) := by
  -- cutting and then looking at the length is looking for the count
  have hmap : ((List.range' 1 segments.length).map (cutName limit segments)).find?
      (fun name => name.length < limit) =
    ((List.range' 1 segments.length).find?
      fun k => (cutName limit segments k).length < limit).map (cutName limit segments) :=
    List.find?_map
  by_cases hlong : (joinSegments segments).length < limit
  · rw [if_pos hlong, hashname_of_fits hlong]
  · simp only [hashname, if_neg hlong]
    split
    · next name hname =>
      obtain ⟨count, hcount, rfl⟩ := Option.map_eq_some_iff.mp (hmap.symm.trans hname)
      rw [hcount, Option.elim_some]
    · next hnone =>
      rw [Option.map_eq_none_iff.mp (hmap.symm.trans hnone), Option.elim_none, digestName]

theorem CutsLast.hashname_eq (h : CutsLast limit segments count) :
    hashname limit segments = cutName limit segments count := by
  rw [Proxy.hashname_eq, if_neg (Nat.not_lt.mpr h.long), (find?_range'_eq_some_iff h.long).mpr h,
    Option.elim_some]

theorem Hopeless.hashname_eq (h : Hopeless limit segments) :
    hashname limit segments = digestName limit segments := by
  rw [Proxy.hashname_eq, if_neg (Nat.not_lt.mpr h.long), (find?_range'_eq_none_iff h.long).mpr h,
    Option.elim_none]

theorem named_hashname (limit : Nat) (segments : List String) :
    Named limit segments (hashname limit segments) := by
  by_cases hlong : (joinSegments segments).length < limit
  · rw [hashname_of_fits hlong]
    exact .whole hlong
  -- too long as a whole, so the least count that fits is taken, if there is one
  · have hlong := Nat.not_lt.mp hlong
    cases hfind : (List.range' 1 segments.length).find?
      fun k => (cutName limit segments k).length < limit with
    | some count =>
      have hcuts := (find?_range'_eq_some_iff hlong).mp hfind
      rw [hcuts.hashname_eq]
      exact .cut hcuts
    | none =>
      have hopeless := (find?_range'_eq_none_iff hlong).mp hfind
      rw [hopeless.hashname_eq]
      exact .digest hopeless

theorem Named.eq_hashname (h : Named limit segments name) : name = hashname limit segments := by
  cases h with
  | whole fits => exact (hashname_of_fits fits).symm
  | cut cuts => exact cuts.hashname_eq.symm
  | digest hopeless => exact hopeless.hashname_eq.symm

theorem Named.ways (h : Named limit segments name) :
    ((joinSegments segments).length < limit ∧ name = joinSegments segments) ∨
      (∃ count, CutsLast limit segments count ∧ name = cutName limit segments count) ∨
      (Hopeless limit segments ∧ name = digestName limit segments) := by
  cases h with
  | whole fits => exact .inl ⟨fits, rfl⟩
  | cut cuts => exact .inr (.inl ⟨_, cuts, rfl⟩)
  | digest hopeless => exact .inr (.inr ⟨hopeless, rfl⟩)

/-! ### Limits -/

theorem Named.length_le (h : Named limit segments name) : name.length ≤ limit := by
  cases h with
  | whole fits => exact Nat.le_of_lt fits
  | cut cuts => exact Nat.le_of_lt cuts.fits
  | digest =>
    rw [digestName, length_firstChars]
    exact Nat.min_le_left ..

/-- A name keeps to its `limit`, in whichever way it is made. -/
theorem length_hashname_le (limit : Nat) (segments : List String) :
    (hashname limit segments).length ≤ limit :=
  (named_hashname limit segments).length_le

/-- Cutting leaves as many characters as the share of a segment, of segments that have them. -/
theorem le_length_of_mem_shortenLast {size : Nat} (hshare : size ≤ limit / segments.length)
    (h : ∀ s ∈ segments, size ≤ s.length) {s : String}
    (hs : s ∈ shortenLast limit suffix segments count) : size ≤ s.length := by
  rcases List.mem_append.mp hs with hs | hs
  · exact h s (List.mem_of_mem_take hs)
  · obtain ⟨t, ht, rfl⟩ := List.mem_map.mp hs
    have := h t (List.mem_of_mem_drop ht)
    rw [length_truncate]
    omega

/-- All shares together, with slashes between them, leave no room: what is lost by rounding is no
more than the slashes take. -/
theorem le_shares (limit : Nat) {parts : Nat} (hparts : 0 < parts) :
    limit ≤ parts * (limit / parts) + (parts - 1) := by
  have hdiv := Nat.div_add_mod limit parts
  have hmod := Nat.mod_lt limit hparts
  omega

/-- Where all segments are longer than their share, cutting does not help, so that they are
`Hopeless`. -/
theorem hopeless_of_forall_lt (hsegments : segments ≠ [])
    (hlong : limit ≤ (joinSegments segments).length)
    (h : ∀ s ∈ segments, limit / segments.length < s.length) : Hopeless limit segments where
  long := hlong
  cut count _ _ := by
    have hshares := le_shares limit (List.length_pos_iff.mpr hsegments)
    have hcut : ∀ s ∈ shortenLast limit (cutSuffix segments) segments count,
        limit / segments.length ≤ s.length := fun s hs =>
      le_length_of_mem_shortenLast (Nat.le_refl _) (fun t ht => Nat.le_of_lt (h t ht)) hs
    have hlength := le_length_joinSegments hcut
    rw [length_shortenLast] at hlength
    exact Nat.le_trans hshares hlength

/-- A name of four segments that is too long, when the last segment is short: the other segments are
cut as far as needed. -/
theorem hashname_four_of_long {a b c d : String} (hlast : d.length ≤ limit / 4)
    (hroom : 3 * (limit / 4) + d.length + 3 < limit)
    (hlong : limit ≤ (joinSegments [a, b, c, d]).length) :
    ∃ a' b' c', Shows (limit / 4) (cutSuffix [a, b, c, d]) a a' ∧
      Shows (limit / 4) (cutSuffix [a, b, c, d]) b b' ∧
      Shows (limit / 4) (cutSuffix [a, b, c, d]) c c' ∧
      hashname limit [a, b, c, d] = joinSegments [a', b', c', d] := by
  have hlength : limit / [a, b, c, d].length = limit / 4 := rfl
  rcases (named_hashname limit [a, b, c, d]).ways with
    ⟨hfits, -⟩ | ⟨count, -, heq⟩ | ⟨hopeless, -⟩
  · exact absurd hlong (Nat.not_le.mpr hfits)
  · rw [heq, cutName]
    have hshows := shows_shortenLast limit (cutSuffix [a, b, c, d]) [a, b, c, d] count
    generalize shortenLast limit (cutSuffix [a, b, c, d]) [a, b, c, d] count = shown at hshows
    rw [hlength] at hshows
    obtain _ | ⟨ha, _ | ⟨hb, _ | ⟨hc, _ | ⟨hd, ⟨⟩⟩⟩⟩⟩ := hshows
    rw [hd.eq_of_le hlast]
    exact ⟨_, _, _, ha, hb, hc, rfl⟩
  · -- with all segments cut the name fits
    have hlonger := hopeless.cut 4 (by decide) (Nat.le_refl 4)
    have hcut (s : String) := length_truncate_le (limit / 4) s (cutSuffix [a, b, c, d])
    have hfour : cutName limit [a, b, c, d] 4 = joinSegments
      ([a, b, c, d].map fun s => truncate (limit / 4) s (cutSuffix [a, b, c, d])) := rfl
    rw [hfour, List.map_cons, List.map_cons, List.map_cons, List.map_cons, List.map_nil,
      length_joinSegments_four, truncate_of_le hlast] at hlonger
    have ha := hcut a
    have hb := hcut b
    have hc := hcut c
    omega

/-! ### Operations that may fail -/

/-- `difference? a b` is `a - b`, which there is none of where it would be below zero. -/
def difference? (a b : Nat) : Option Nat := if b ≤ a then some (a - b) else none

/-- `quotient? a b` is `a / b`, which there is none of by zero. -/
def quotient? (a b : Nat) : Option Nat := if b = 0 then none else some (a / b)

/-- `start? count text` are the first characters of a text that has as many. -/
def start? (count : Nat) (text : String) : Option String :=
  if count ≤ text.length then some (firstChars count text) else none

/-- The text cut to `limit` characters as by `truncate`. -/
def truncate? (limit : Nat) (text suffix : String) : Option String :=
  if text.length ≤ limit then some text
  else if limit ≤ suffix.length then some (firstChars limit suffix)
  else do
    let room ← difference? limit suffix.length
    let kept ← difference? room 1
    return firstChars kept text ++ "-" ++ suffix

/-- `cutAt? share suffix parts place` are the parts with the one at `place` cut. -/
def cutAt? (share : Nat) (suffix : String) (parts : List String) (place : Nat) :
    Option (List String) := do
  let part ← parts[place]?
  let short ← truncate? share part suffix
  return parts.set place short

/-- `cutDown? limit share suffix place parts` is the text of the parts when those in front of
`place` are cut one after the other, from the last one to the first, until it fits.  The answer has
no text if it never does. -/
def cutDown? (limit share : Nat) (suffix : String) : Nat → List String → Option (Option String)
  | 0, _ => some none
  | place + 1, parts => do
    let parts ← cutAt? share suffix parts place
    if (joinSegments parts).length < limit then return some (joinSegments parts)
    else cutDown? limit share suffix place parts

/-- `hashname? limit segments` is the name of segments, made segment by segment, with every step
that might fail marked as such. -/
def hashname? (limit : Nat) (segments : List String) : Option String := do
  let joined := joinSegments segments
  if joined.length < limit then return joined
  let digest := hash (textBytes joined)
  let suffix ← start? shortHashLength digest
  let share ← quotient? limit (max segments.length 1)
  match ← cutDown? limit share suffix segments.length segments with
  | some name => return name
  | none => return firstChars limit digest

theorem truncate?_eq (limit : Nat) (text suffix : String) :
    truncate? limit text suffix = some (truncate limit text suffix) := by
  unfold truncate? truncate
  split
  · rfl
  · split
    · rfl
    · next _ h =>
      rw [difference?, if_pos (by omega)]
      change (difference? (limit - suffix.length) 1).bind _ = _
      rw [difference?, if_pos (by omega)]
      rfl

/-- Cutting one more segment, the one in front of those that are cut already. -/
theorem cutAt?_shortenLast (limit : Nat) (suffix : String) {place : Nat}
    (h : place < segments.length) :
    cutAt? (limit / segments.length) suffix
        (shortenLast limit suffix segments (segments.length - (place + 1))) place
      = some (shortenLast limit suffix segments (segments.length - place)) := by
  have hpart : (shortenLast limit suffix segments (segments.length - (place + 1)))[place]?
      = some segments[place] := by
    rw [getElem?_shortenLast, if_pos (by omega), List.getElem?_eq_getElem h]
  rw [cutAt?, hpart]
  change (truncate? _ segments[place] suffix).bind _ = _
  rw [truncate?_eq]
  refine congrArg some (List.ext_getElem? fun other => ?_)
  rw [List.getElem?_set, getElem?_shortenLast, getElem?_shortenLast, length_shortenLast]
  -- the place cut now, those behind it that were cut before, and those in front
  rcases Nat.lt_trichotomy place other with hother | rfl | hother
  · rw [if_neg (by omega), if_neg (by omega), if_neg (by omega)]
  · rw [if_pos rfl, if_pos h, if_neg (by omega), List.getElem?_eq_getElem h]
    rfl
  · rw [if_neg (by omega), if_pos (by omega), if_pos (by omega)]

/-- Cutting segments one after the other finds the fewest that have to be cut.  The induction is on
the place; the parts behind it have been cut. -/
theorem cutDown?_shortenLast (limit : Nat) {place : Nat} (h : place ≤ segments.length) :
    cutDown? limit (limit / segments.length) (cutSuffix segments) place
        (shortenLast limit (cutSuffix segments) segments (segments.length - place))
      = some (((List.range' (segments.length - place + 1) place).find?
          fun count => (cutName limit segments count).length < limit).map
            (cutName limit segments)) := by
  induction place with
  | zero => rfl
  | succ place ih =>
    have hstart : segments.length - (place + 1) + 1 = segments.length - place := by omega
    rw [cutDown?, cutAt?_shortenLast limit _ (by omega), hstart, List.range'_succ]
    by_cases hfits : (cutName limit segments (segments.length - place)).length < limit
    · rw [List.find?_cons_of_pos (by simpa using hfits)]
      exact if_pos hfits
    · rw [List.find?_cons_of_neg (by simpa using hfits), ← ih (by omega)]
      exact if_neg hfits

theorem shortenLast_zero (limit : Nat) (suffix : String) (segments : List String) :
    shortenLast limit suffix segments 0 = segments := by
  simp [shortenLast]

theorem start?_hash (bytes : List UInt8) :
    start? shortHashLength (hash bytes) = some (firstChars shortHashLength (hash bytes)) := by
  rw [start?, if_pos (by rw [length_hash]; decide)]

/-- Nothing fails on the way to a name: `hashname?` always has the one of `hashname`. -/
theorem hashname?_eq (limit : Nat) (segments : List String) :
    hashname? limit segments = some (hashname limit segments) := by
  by_cases hfits : (joinSegments segments).length < limit
  · simp [hashname?, hashname, hfits]
  · rw [hashname_eq, if_neg hfits]
    simp only [hashname?, if_neg hfits, start?_hash, Option.bind_eq_bind, Option.bind_some]
    rw [quotient?, if_neg (by omega), Option.bind_some]
    -- without segments there is nothing to cut, and both end with the digits alone
    cases segments with
    | nil => rfl
    | cons segment rest =>
      have hparts := cutDown?_shortenLast limit (Nat.le_refl (segment :: rest).length)
      rw [Nat.sub_self, shortenLast_zero, Nat.zero_add] at hparts
      have hmax : max (segment :: rest).length 1 = (segment :: rest).length := by simp
      rw [hmax]
      change (cutDown? limit _ (cutSuffix (segment :: rest)) _ _).bind _ = _
      rw [hparts, Option.bind_some]
      cases (List.range' 1 (segment :: rest).length).find? fun count =>
        (cutName limit (segment :: rest) count).length < limit <;> rfl

/-! ### The name of segments -/

/-- **How a name is made.** A name is made without a division by zero or a difference below zero, it
keeps to its limit, and it is the one text of the three kinds.  Where all segments are longer than
their share, it is the beginning of the digest. -/
theorem hashname_made (limit : Nat) (segments : List String) :
    hashname? limit segments = some (hashname limit segments) ∧
      (hashname limit segments).length ≤ limit ∧
      (∀ name, Named limit segments name ↔ name = hashname limit segments) ∧
      (segments ≠ [] → limit ≤ (joinSegments segments).length →
        (∀ s ∈ segments, limit / segments.length < s.length) →
          Hopeless limit segments ∧ hashname limit segments = digestName limit segments) := by
  refine ⟨hashname?_eq limit segments, length_hashname_le limit segments, fun name => ?_,
    fun hsegments hlong hshare => ?_⟩
  · exact ⟨Named.eq_hashname, fun h => h ▸ named_hashname limit segments⟩
  · have hopeless := hopeless_of_forall_lt hsegments hlong hshare
    exact ⟨hopeless, hopeless.hashname_eq⟩

/-- Two segments of more than two characters have no name of up to four characters but digits. -/
theorem hashname_alpha_beta :
    (["alpha", "beta"] ≠ [] ∧ 4 ≤ (joinSegments ["alpha", "beta"]).length ∧
      ∀ s ∈ ["alpha", "beta"], 4 / ["alpha", "beta"].length < s.length) ∧
      Hopeless 4 ["alpha", "beta"] ∧ hashname 4 ["alpha", "beta"] = "a13c" := by
  have hlong : 4 ≤ (joinSegments ["alpha", "beta"]).length := by decide
  have hshare : ∀ s ∈ ["alpha", "beta"], 4 / ["alpha", "beta"].length < s.length := by decide
  obtain ⟨hopeless, hname⟩ :=
    (hashname_made 4 ["alpha", "beta"]).2.2.2 (List.cons_ne_nil _ _) hlong hshare
  exact ⟨⟨List.cons_ne_nil _ _, hlong, hshare⟩, hopeless, hname.trans (by decide +kernel)⟩

end GatewayCompiler.Proxy
