import GatewayCompiler.Proofs.NameLengths

/-!
# Segments with the same name

A name that is shortened holds digits of the digest of the whole text, so that texts with other
digits should have other names.  That is so among names that stand whole and among names that are
digits only.  But nothing keeps a text that stands whole from reading like a shortened one, and
two texts can be cut to the same one, each with its digits where the other has them from the start,
or with shares too small for the digits.  There is no other way for two names to meet, and where
segments have no slashes and room for the digits, one of the lists has to hold a segment that reads
like a cut one of the other list.

## Main definitions

* `Repeats` — a text stands whole and reads like the shortened one of other segments.
* `Meet` — two lists of segments are cut to the same text.
* `Mimics` — a segment reads like the cut one at the same place of another list.

## Main statements

* `hashname_eq_iff` — which names are the same although the digits differ.
* `archive_name_repeated` — two of them.
-/

namespace GatewayCompiler.Proxy

variable {limit count : Nat} {segments as bs : List String} {name : String}

/-! ### Digits and slashes -/

theorem free_of_mem_shortenLast (h : ∀ s ∈ segments, Free '/' s) {s : String}
    (hs : s ∈ shortenLast limit (cutSuffix segments) segments count) : Free '/' s := by
  rcases List.mem_append.mp hs with hs | hs
  · exact h s (List.mem_of_mem_take hs)
  · obtain ⟨t, ht, rfl⟩ := List.mem_map.mp hs
    exact free_truncate (h t (List.mem_of_mem_drop ht)) _ _

/-- There is a slash between two segments, so that a digest is no joined text. -/
theorem not_free_joinSegments (h : 2 ≤ segments.length) : ¬ Free '/' (joinSegments segments) := by
  match segments, h with
  | a :: b :: rest, _ =>
    intro hfree
    refine hfree ?_
    rw [joinSegments, String.intercalate_cons_of_ne_nil (List.cons_ne_nil _ _),
      String.toList_append, String.toList_append]
    simp

/-- Segments without slashes can be told from their joined text, if their number is known. -/
theorem joinSegments_inj (ha : ∀ s ∈ as, Free '/' s) (hb : ∀ s ∈ bs, Free '/' s)
    (hlength : as.length = bs.length) (h : joinSegments as = joinSegments bs) : as = bs := by
  cases as with
  | nil => exact (List.length_eq_zero_iff.mp hlength.symm).symm
  | cons a rest =>
    have hbs : bs ≠ [] := by
      rintro rfl
      cases hlength
    exact intercalate_inj ha hb (List.cons_ne_nil _ _) hbs h

/-! ### Three kinds of names -/

theorem free_digestName (limit : Nat) (segments : List String) :
    Free '/' (digestName limit segments) :=
  free_firstChars (free_hash _) _

theorem length_digestName (limit : Nat) (segments : List String) :
    (digestName limit segments).length = min limit 64 := by
  rw [digestName, length_firstChars, length_hash]

/-- Cutting does not help a single segment: its share is the whole `limit`, and a name is
shorter. -/
theorem CutsLast.two_le (h : CutsLast limit segments count) : 2 ≤ segments.length := by
  match segments, h with
  | [], h => exact absurd (Nat.le_trans h.pos h.le) (by decide)
  | [s], h =>
    obtain rfl : count = 1 := Nat.le_antisymm h.le h.pos
    have hlong : limit ≤ s.length := by simpa [joinSegments] using h.long
    have hfits : (truncate (limit / 1) s (cutSuffix [s])).length < limit := by
      simpa [cutName, shortenLast, joinSegments] using h.fits
    rw [length_truncate, Nat.div_one] at hfits
    omega
  | _ :: _ :: rest, _ =>
    rw [List.length_cons, List.length_cons]
    omega

/-- Segments that are cut have a slash between them, and a digest has none. -/
theorem CutsLast.cutName_ne_digestName (h : CutsLast limit as count) :
    cutName limit as count ≠ digestName limit bs := by
  intro heq
  have hfree : Free '/' (cutName limit as count) := by
    rw [heq]
    exact free_digestName limit bs
  refine not_free_joinSegments ?_ hfree
  rw [length_shortenLast]
  exact h.two_le

theorem cutSuffix_eq_of_digestName_eq (hlimit : shortHashLength ≤ limit)
    (h : digestName limit as = digestName limit bs) : cutSuffix as = cutSuffix bs := by
  have hdigits := congrArg (firstChars shortHashLength) h
  rwa [digestName, digestName, firstChars_firstChars hlimit, firstChars_firstChars hlimit]
    at hdigits

/-! ### Names that meet -/

/-- `Repeats limit as bs` says that the text of the segments `as` stands whole and reads like the
shortened one of `bs`. -/
inductive Repeats (limit : Nat) (as bs : List String) : Prop
  /-- Segments of the others are cut. -/
  | cut {count : Nat} (fits : (joinSegments as).length < limit) (cuts : CutsLast limit bs count)
    (same : joinSegments as = cutName limit bs count) : Repeats limit as bs
  /-- The other one is a single segment, and the limit has room for a whole digest. -/
  | digest {b : String} (room : 64 < limit) (long : limit ≤ b.length) (other : bs = [b])
    (same : as = [hash (textBytes b)]) : Repeats limit as bs

/-- `Meet limit as bs` says that both lists have to be cut, and the same text is left of them. -/
def Meet (limit : Nat) (as bs : List String) : Prop :=
  ∃ count count', CutsLast limit as count ∧ CutsLast limit bs count' ∧
    cutName limit as count = cutName limit bs count'

theorem hopeless_singleton {b : String} (h : limit ≤ b.length) : Hopeless limit [b] where
  long := by simpa [joinSegments] using h
  cut count hpos hle := by
    obtain rfl : count = 1 := Nat.le_antisymm hle hpos
    have hlength : (cutName limit [b] 1).length = min (limit / 1) b.length := by
      rw [← length_truncate _ _ (cutSuffix [b])]
      simp [cutName, shortenLast, joinSegments]
    rw [hlength, Nat.div_one]
    omega

theorem Repeats.hashname_eq (h : Repeats limit as bs) : hashname limit as = hashname limit bs := by
  cases h with
  | cut fits cuts same => rw [hashname_of_fits fits, cuts.hashname_eq, same]
  | @digest b room long other same =>
    subst other same
    have htext : joinSegments [hash (textBytes b)] = hash (textBytes b) := by simp [joinSegments]
    have hfits : (joinSegments [hash (textBytes b)]).length < limit := by
      rw [htext, length_hash]
      exact room
    rw [hashname_of_fits hfits, (hopeless_singleton long).hashname_eq, htext, digestName,
      firstChars_of_length_le (by rw [length_hash]; omega)]
    simp [joinSegments]

theorem Meet.hashname_eq (h : Meet limit as bs) : hashname limit as = hashname limit bs := by
  obtain ⟨count, count', hcuts, hcuts', heq⟩ := h
  rw [hcuts.hashname_eq, hcuts'.hashname_eq, heq]

/-- A text that stands whole is the name of other segments only if it reads like what is left of
them. -/
theorem repeats_of_named (hfits : (joinSegments as).length < limit)
    (hlength : as.length = bs.length) (hjoined : joinSegments as ≠ joinSegments bs)
    (h : Named limit bs (joinSegments as)) : Repeats limit as bs := by
  rcases h.ways with ⟨-, heq⟩ | ⟨count, hcuts, heq⟩ | ⟨hopeless, heq⟩
  · exact absurd heq hjoined
  · exact .cut hfits hcuts heq
  · -- the whole digest stands there, and it is no longer than a name may be
    have hdigest := length_digestName limit bs
    rw [← heq] at hdigest
    have hroom : 64 < limit := by omega
    have hwhole : joinSegments as = hash (textBytes (joinSegments bs)) := by
      rw [heq, digestName, firstChars_of_length_le (by rw [length_hash]; omega)]
    rcases Nat.lt_or_ge 1 as.length with hseveral | hsingle
    · have hfree : Free '/' (joinSegments as) := heq ▸ free_digestName limit bs
      exact absurd hfree (not_free_joinSegments hseveral)
    · rcases Nat.le_one_iff_eq_zero_or_eq_one.mp hsingle with hnone | hone
      · rw [List.eq_nil_of_length_eq_zero hnone,
          List.eq_nil_of_length_eq_zero (hlength.symm.trans hnone)] at hjoined
        exact absurd rfl hjoined
      · obtain ⟨a, rfl⟩ := List.length_eq_one_iff.mp hone
        obtain ⟨b, rfl⟩ := List.length_eq_one_iff.mp (hlength.symm.trans hone)
        have hlong : limit ≤ b.length := by simpa [joinSegments] using hopeless.long
        exact .digest hroom hlong rfl (by simpa [joinSegments] using hwhole)

/-- Names of segments with different digits are the same if one of them `Repeats` the other or if
they `Meet`.  The cases are the three ways in which each of the names is made. -/
theorem meets_of_hashname_eq (hlimit : shortHashLength ≤ limit) (hlength : as.length = bs.length)
    (hjoined : joinSegments as ≠ joinSegments bs) (hdigits : cutSuffix as ≠ cutSuffix bs)
    (h : hashname limit as = hashname limit bs) :
    Repeats limit as bs ∨ Repeats limit bs as ∨ Meet limit as bs := by
  have hnamed := named_hashname limit as
  have hnamed' := named_hashname limit bs
  -- by the way in which each name was made: whole, cut, or digits alone
  rcases hnamed.ways with ⟨hfits, heq⟩ | ⟨count, hcuts, heq⟩ | ⟨-, heq⟩
  · rw [← h, heq] at hnamed'
    exact .inl (repeats_of_named hfits hlength hjoined hnamed')
  · rcases hnamed'.ways with ⟨hfits', heq'⟩ | ⟨count', hcuts', heq'⟩ | ⟨-, heq'⟩
    · rw [h, heq'] at hnamed
      exact .inr (.inl (repeats_of_named hfits' hlength.symm hjoined.symm hnamed))
    · exact .inr (.inr ⟨count, count', hcuts, hcuts', heq.symm.trans (h.trans heq')⟩)
    · exact absurd (heq.symm.trans (h.trans heq')) hcuts.cutName_ne_digestName
  · rcases hnamed'.ways with ⟨hfits', heq'⟩ | ⟨count', hcuts', heq'⟩ | ⟨-, heq'⟩
    · rw [h, heq'] at hnamed
      exact .inr (.inl (repeats_of_named hfits' hlength.symm hjoined.symm hnamed))
    · exact absurd (heq'.symm.trans (h.symm.trans heq)) hcuts'.cutName_ne_digestName
    · exact absurd (cutSuffix_eq_of_digestName_eq hlimit (heq.symm.trans (h.trans heq'))) hdigits

/-! ### Segments that read like cut ones -/

/-- `Mimics limit as bs` says that a segment of `as` reads like the cut one at the same place of
`bs`. -/
def Mimics (limit : Nat) (as bs : List String) : Prop :=
  ∃ (place : Nat) (b : String), bs[place]? = some b ∧ limit / bs.length < b.length ∧
    as[place]? = some (truncate (limit / bs.length) b (cutSuffix bs))

/-- Some segment is really cut, or else the text would be as long as before. -/
theorem CutsLast.exists_cut (h : CutsLast limit bs count) :
    ∃ (place : Nat) (b : String), bs[place]? = some b ∧ limit / bs.length < b.length ∧
      (shortenLast limit (cutSuffix bs) bs count)[place]?
        = some (truncate (limit / bs.length) b (cutSuffix bs)) := by
  -- otherwise no segment was shortened, and the name is the whole text, which is too long
  refine Classical.byContradiction fun hnone => ?_
  have hsame : shortenLast limit (cutSuffix bs) bs count = bs := by
    refine List.ext_getElem? fun place => ?_
    rw [getElem?_shortenLast]
    split
    · rfl
    · next hplace =>
      cases hb : bs[place]? with
      | none => rfl
      | some b =>
        rw [Option.map_some, truncate_of_le]
        refine Nat.le_of_not_lt fun hlong => hnone ⟨place, b, hb, hlong, ?_⟩
        rw [getElem?_shortenLast, if_neg hplace, hb, Option.map_some]
  have hfits := h.fits
  rw [cutName, hsame] at hfits
  exact absurd h.long (Nat.not_le.mpr hfits)

/-- Lists without slashes that are left with the same segments: what is cut in one of them is not in
the other, as it would end in other digits. -/
theorem mimics_of_meet (hlength : as.length = bs.length) (hdigits : cutSuffix as ≠ cutSuffix bs)
    (hshare : shortHashLength ≤ limit / as.length) (ha : ∀ s ∈ as, Free '/' s)
    (hb : ∀ s ∈ bs, Free '/' s) (h : Meet limit as bs) : Mimics limit as bs := by
  obtain ⟨count, count', -, hcuts', heq⟩ := h
  obtain ⟨place, b, hget, hlong, hcut⟩ := hcuts'.exists_cut
  -- two cut names agree segment by segment, and each ends in the digits of its own list
  have hsegments := joinSegments_inj (fun s => free_of_mem_shortenLast ha)
    (fun s => free_of_mem_shortenLast hb)
    (by rw [length_shortenLast, length_shortenLast, hlength]) heq
  rw [← hsegments, getElem?_shortenLast] at hcut
  refine ⟨place, b, hget, hlong, ?_⟩
  split at hcut
  · exact hcut
  · obtain ⟨a, hget', hsame⟩ := Option.map_eq_some_iff.mp hcut
    rw [hget']
    -- if both were shortened they would end in the same digits
    by_cases hlong' : limit / as.length < a.length
    · rw [hlength] at hshare hlong' hsame
      exact absurd (cutSuffix_eq_of_truncate_eq hshare hlong' hlong hsame) hdigits
    · rw [← hsame, truncate_of_le (Nat.not_lt.mp hlong')]

theorem mimics_of_repeats (hlimit : limit ≤ 64) (hlength : as.length = bs.length)
    (ha : ∀ s ∈ as, Free '/' s) (hb : ∀ s ∈ bs, Free '/' s) (h : Repeats limit as bs) :
    Mimics limit as bs := by
  cases h with
  | cut fits cuts same =>
    obtain ⟨place, b, hget, hlong, hcut⟩ := cuts.exists_cut
    have hsegments := joinSegments_inj ha (fun s => free_of_mem_shortenLast hb)
      (by rw [length_shortenLast, hlength]) same
    exact ⟨place, b, hget, hlong, hsegments ▸ hcut⟩
  | digest room long other same => omega

/-! ### Which names are the same -/

/-- **When names collide.** Segments whose digests begin with different digits have the same name
exactly if the text of one list stands whole and reads like what is left of the other list, or if
both are cut to the same text.  If no segment has a slash, the limit is at most the length of a
digest and a share has room for the digits, this takes a segment that reads like a cut one. -/
theorem hashname_eq_iff (hlimit : 16 ≤ limit) (hlength : as.length = bs.length)
    (hjoined : joinSegments as ≠ joinSegments bs) (hdigits : cutSuffix as ≠ cutSuffix bs) :
    (hashname limit as = hashname limit bs ↔
      Repeats limit as bs ∨ Repeats limit bs as ∨ Meet limit as bs) ∧
    (limit ≤ 64 → shortHashLength ≤ limit / as.length → (∀ s ∈ as, Free '/' s) →
      (∀ s ∈ bs, Free '/' s) → hashname limit as = hashname limit bs →
        Mimics limit as bs ∨ Mimics limit bs as) := by
  have hdigitsFit : shortHashLength ≤ limit := Nat.le_trans (by decide) hlimit
  refine ⟨⟨meets_of_hashname_eq hdigitsFit hlength hjoined hdigits, ?_⟩, ?_⟩
  · rintro (hrepeats | hrepeats | hmeet)
    · exact hrepeats.hashname_eq
    · exact hrepeats.hashname_eq.symm
    · exact hmeet.hashname_eq
  · intro hdigest hshare ha hb heq
    rcases meets_of_hashname_eq hdigitsFit hlength hjoined hdigits heq with
      hrepeats | hrepeats | hmeet
    · exact .inl (mimics_of_repeats hdigest hlength ha hb hrepeats)
    · exact .inr (mimics_of_repeats hdigest hlength.symm hb ha hrepeats)
    · exact .inl (mimics_of_meet hlength hdigits hshare ha hb hmeet)

/-- The segments of the name of a cluster whose service has a long name. -/
def archiveSegments : List String :=
  ["default", "orders-archive-for-the-european-warehouses", "80", "1b1bb4f80f"]

/-- The segments of the name of a cluster whose service has a short name, which ends in the digits
of `archiveSegments`. -/
def ordersSegments : List String := ["default", "orders-a-24b360", "80", "1b1bb4f80f"]

theorem hashname_archiveSegments :
    hashname 60 archiveSegments = "default/orders-a-24b360/80/1b1bb4f80f" := by decide +kernel

theorem cutSuffix_archiveSegments : cutSuffix archiveSegments = "24b360" := by decide +kernel

theorem cutSuffix_ordersSegments : cutSuffix ordersSegments = "5a7fdd" := by decide +kernel

/-- The name of the service with the short name is that of the other one, although the digests of
the two begin with different digits. -/
theorem archive_name_repeated :
    16 ≤ 60 ∧ ordersSegments.length = archiveSegments.length ∧
      joinSegments ordersSegments ≠ joinSegments archiveSegments ∧
      cutSuffix ordersSegments ≠ cutSuffix archiveSegments ∧
      hashname 60 ordersSegments = hashname 60 archiveSegments := by
  refine ⟨by decide, rfl, by decide +kernel, ?_, ?_⟩
  · rw [cutSuffix_ordersSegments, cutSuffix_archiveSegments]
    decide
  · rw [hashname_archiveSegments]
    decide +kernel

/-- The short name reads like the long one when that is cut, and so does its text. -/
theorem orders_repeats_archive :
    (16 ≤ 60 ∧ ordersSegments.length = archiveSegments.length ∧
      joinSegments ordersSegments ≠ joinSegments archiveSegments ∧
      cutSuffix ordersSegments ≠ cutSuffix archiveSegments) ∧
      (Repeats 60 ordersSegments archiveSegments ∨ Repeats 60 archiveSegments ordersSegments ∨
        Meet 60 ordersSegments archiveSegments) ∧
      (Mimics 60 ordersSegments archiveSegments ∨ Mimics 60 archiveSegments ordersSegments) := by
  have hlength : ordersSegments.length = archiveSegments.length := rfl
  have hjoined : joinSegments ordersSegments ≠ joinSegments archiveSegments := by decide +kernel
  have hdigits : cutSuffix ordersSegments ≠ cutSuffix archiveSegments := by
    rw [cutSuffix_ordersSegments, cutSuffix_archiveSegments]
    decide
  have hsame : hashname 60 ordersSegments = hashname 60 archiveSegments := by
    rw [hashname_archiveSegments]
    decide +kernel
  have hfree : ∀ s ∈ ordersSegments, Free '/' s := by decide +kernel
  have hfree' : ∀ s ∈ archiveSegments, Free '/' s := by decide +kernel
  -- the equality of the names is computed once; what it means is taken from the theorem
  obtain ⟨hmeet, hmimics⟩ :=
    hashname_eq_iff (show 16 ≤ 60 by decide) hlength hjoined hdigits
  exact ⟨⟨by decide, hlength, hjoined, hdigits⟩, hmeet.mp hsame,
    hmimics (by decide) (by decide) hfree hfree' hsame⟩

end GatewayCompiler.Proxy
