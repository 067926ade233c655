import GatewayCompiler.Encoding.Hex
import GatewayCompiler.Proxy.Naming

/-!
# Texts that can be told apart

The names of messages are made of texts with separators between them.  They can be taken apart again
as far as the texts are free of the separator, from the front up to the first text that is not, and
in the same way from the back.

## Main definitions

* `Free` — a character does not come in a text.

## Main statements

* `intercalate_cons_inj`, `intercalate_concat_inj` — the first and the last of some texts.
* `intercalate_inj` — all of the texts.
* `toString_int_inj` — a number is told by its digits.
* `length_hashPrefix`, `free_hash` — digests in hexadecimal.
* `length_truncate` — the length of a text that is cut.
-/

namespace GatewayCompiler

/-! ### Lists with a separator -/

/-- What is in front of the first separator `sep`, and what is behind it, can be told. -/
theorem append_cons_inj {α : Type} {sep : α} {xs ys xs' ys' : List α} (hxs : sep ∉ xs)
    (hxs' : sep ∉ xs') (h : xs ++ sep :: ys = xs' ++ sep :: ys') : xs = xs' ∧ ys = ys' := by
  -- the first separator ends both lists, so neither may go on behind the other's
  induction xs generalizing xs' with
  | nil =>
    cases xs' with
    | nil => exact ⟨rfl, (List.cons.inj h).2⟩
    | cons x' rest' =>
      obtain ⟨rfl, -⟩ := List.cons.inj h
      exact absurd List.mem_cons_self hxs'
  | cons x rest ih =>
    cases xs' with
    | nil =>
      obtain ⟨rfl, -⟩ := List.cons.inj h
      exact absurd List.mem_cons_self hxs
    | cons x' rest' =>
      obtain ⟨rfl, hrest⟩ := List.cons.inj h
      obtain ⟨rfl, hys⟩ := ih (fun hmem => hxs (List.mem_cons_of_mem _ hmem))
        (fun hmem => hxs' (List.mem_cons_of_mem _ hmem)) hrest
      exact ⟨rfl, hys⟩

/-- What is in front of the last separator `sep`, and what is behind it, can be told. -/
theorem append_cons_inj_of_last {α : Type} {sep : α} {xs ys xs' ys' : List α} (hys : sep ∉ ys)
    (hys' : sep ∉ ys') (h : xs ++ sep :: ys = xs' ++ sep :: ys') : xs = xs' ∧ ys = ys' := by
  have hreverse := congrArg List.reverse h
  rw [List.reverse_append, List.reverse_append, List.reverse_cons, List.reverse_cons,
    List.append_assoc, List.append_assoc] at hreverse
  obtain ⟨hlast, hfront⟩ := append_cons_inj (fun hmem => hys (List.mem_reverse.mp hmem))
    (fun hmem => hys' (List.mem_reverse.mp hmem)) hreverse
  exact ⟨List.reverse_inj.mp hfront, List.reverse_inj.mp hlast⟩

/-! ### Texts with a separator -/

/-- `Free c text` says that the character `c` does not come in `text`. -/
def Free (c : Char) (text : String) : Prop := c ∉ text.toList

namespace Free

variable {c : Char} {s t : String}

theorem append (hs : Free c s) (ht : Free c t) : Free c (s ++ t) := by
  unfold Free
  rw [String.toList_append, List.mem_append]
  rintro (h | h)
  · exact hs h
  · exact ht h

instance : Decidable (Free c s) := inferInstanceAs (Decidable (c ∉ s.toList))

end Free

section Intercalate

variable {sep : Char} {p q : String} {ps qs : List String}

/-- The first of some texts can be told, if the separator does not come in it; those behind it need
not be free. -/
theorem intercalate_cons_inj (hp : Free sep p) (hq : Free sep q) (hps : ps ≠ []) (hqs : qs ≠ [])
    (h : (String.singleton sep).intercalate (p :: ps)
      = (String.singleton sep).intercalate (q :: qs)) :
    p = q ∧ (String.singleton sep).intercalate ps = (String.singleton sep).intercalate qs := by
  rw [String.intercalate_cons_of_ne_nil hps, String.intercalate_cons_of_ne_nil hqs,
    ← String.toList_inj] at h
  simp only [String.toList_append, String.toList_singleton, List.append_assoc,
    List.singleton_append] at h
  obtain ⟨hfirst, hrest⟩ := append_cons_inj hp hq h
  exact ⟨String.toList_inj.mp hfirst, String.toList_inj.mp hrest⟩

/-- The last of some texts can be told, if the separator does not come in it. -/
theorem intercalate_concat_inj (hp : Free sep p) (hq : Free sep q) (hps : ps ≠ []) (hqs : qs ≠ [])
    (h : (String.singleton sep).intercalate (ps ++ [p])
      = (String.singleton sep).intercalate (qs ++ [q])) :
    (String.singleton sep).intercalate ps = (String.singleton sep).intercalate qs ∧ p = q := by
  rw [String.intercalate_append_of_ne_nil hps (List.cons_ne_nil _ _),
    String.intercalate_append_of_ne_nil hqs (List.cons_ne_nil _ _), ← String.toList_inj] at h
  simp only [String.toList_append, String.toList_singleton, List.append_assoc,
    List.singleton_append, String.intercalate_singleton] at h
  obtain ⟨hfront, hlast⟩ := append_cons_inj_of_last hp hq h
  exact ⟨String.toList_inj.mp hfront, String.toList_inj.mp hlast⟩

/-- All of some texts can be told, if the separator comes in none of them. -/
theorem intercalate_inj (hps : ∀ p ∈ ps, Free sep p) (hqs : ∀ q ∈ qs, Free sep q) (hp : ps ≠ [])
    (hq : qs ≠ [])
    (h : (String.singleton sep).intercalate ps = (String.singleton sep).intercalate qs) :
    ps = qs := by
  have hlists : ps.map String.toList = qs.map String.toList := by
    rw [← String.toList_inj, String.toList_intercalate, String.toList_intercalate,
      String.toList_singleton] at h
    have hsplit := congrArg (List.splitOn sep) h
    rwa [List.splitOn_intercalate sep (by simpa [Free] using hps) (by simpa using hp),
      List.splitOn_intercalate sep (by simpa [Free] using hqs) (by simpa using hq)] at hsplit
  exact (List.map_inj_right fun _ _ => String.toList_inj.mp).mp hlists

end Intercalate

/-! ### Numbers -/

theorem repr_inj {m n : Nat} (h : m.repr = n.repr) : m = n := by
  rw [Nat.repr_eq_ofList_toDigits, Nat.repr_eq_ofList_toDigits] at h
  have hdigits : Nat.toDigits 10 m = Nat.toDigits 10 n := String.ofList_injective h
  rw [← Nat.ofDigitChars_toDigits (b := 10) (n := m) (by decide) (by decide), hdigits,
    Nat.ofDigitChars_toDigits (by decide) (by decide)]

theorem isDigit_of_mem_repr {n : Nat} {c : Char} (h : c ∈ n.repr.toList) : c.isDigit := by
  rw [Nat.repr_eq_ofList_toDigits, String.toList_ofList] at h
  exact Nat.isDigit_of_mem_toDigits (by decide) (by decide) h

/-- An integer is written with digits, behind a dash if it is negative. -/
theorem toString_int_eq (n : Int) :
    (0 ≤ n ∧ toString n = n.toNat.repr) ∨ (n < 0 ∧ toString n = "-" ++ (-n).toNat.repr) := by
  rw [Int.toString_eq_repr, Int.repr_eq_if]
  split
  · next h => exact .inl ⟨h, rfl⟩
  · next h => exact .inr ⟨by omega, rfl⟩

theorem toString_int_inj {m n : Int} (h : toString m = toString n) : m = n := by
  -- a sign is no digit, so a negative number is never written as a natural one
  have hsign : ∀ k l : Nat, k.repr ≠ "-" ++ l.repr := by
    intro k l heq
    have hmem : '-' ∈ k.repr.toList := by simp [heq]
    exact absurd (isDigit_of_mem_repr hmem) (by decide)
  rcases toString_int_eq m with ⟨hm, heq⟩ | ⟨hm, heq⟩
  · rcases toString_int_eq n with ⟨hn, heq'⟩ | ⟨hn, heq'⟩
    · have := repr_inj (heq.symm.trans (h.trans heq'))
      omega
    · exact absurd (heq.symm.trans (h.trans heq')) (hsign _ _)
  · rcases toString_int_eq n with ⟨hn, heq'⟩ | ⟨hn, heq'⟩
    · exact absurd (heq'.symm.trans (h.symm.trans heq)) (hsign _ _)
    · have := repr_inj ((String.append_right_inj "-").mp (heq.symm.trans (h.trans heq')))
      omega

/-- What is neither a digit nor a dash does not come in a number, whatever its sign. -/
theorem free_toString_int {c : Char} (hdigit : c.isDigit = false) (hdash : c ≠ '-') (n : Int) :
    Free c (toString n) := by
  intro hmem
  rcases toString_int_eq n with ⟨-, heq⟩ | ⟨-, heq⟩
  · rw [heq] at hmem
    simp [isDigit_of_mem_repr hmem] at hdigit
  · rw [heq, String.toList_append, List.mem_append] at hmem
    rcases hmem with hmem | hmem
    · exact hdash (by simpa using hmem)
    · simp [isDigit_of_mem_repr hmem] at hdigit

/-- A dash comes in a number at the front only. -/
theorem getElem?_toString_int_ne (n : Int) (k : Nat) : (toString n).toList[k + 1]? ≠ some '-' := by
  intro hget
  have hdash : ('-' : Char).isDigit := by
    rcases toString_int_eq n with ⟨-, heq⟩ | ⟨-, heq⟩
    · rw [heq] at hget
      exact isDigit_of_mem_repr (List.mem_of_getElem? hget)
    · rw [heq, String.toList_append] at hget
      exact isDigit_of_mem_repr (List.mem_of_getElem? (i := k) (by simpa using hget))
  exact absurd hdash (by decide)

/-! ### Digests -/

namespace Proxy

theorem slash_notMem_hexChars (bytes : List UInt8) : '/' ∉ Encoding.hexChars bytes := by
  have hdigit : ∀ n < 16, '/' ≠ Encoding.hexDigit n := by decide
  induction bytes with
  | nil => exact List.not_mem_nil
  | cons byte rest ih =>
    have hbyte := byte.toNat_lt
    rw [Encoding.hexChars, List.mem_cons, List.mem_cons]
    rintro (h | h | h)
    · exact hdigit _ (by omega) h
    · exact hdigit _ (by omega) h
    · exact ih h

/-- A digest of `count` bytes has two characters for each byte. -/
theorem length_hashPrefix (bytes : List UInt8) {count : Nat} (hcount : count ≤ 32) :
    (hashPrefix bytes count).length = 2 * count := by
  rw [hashPrefix, Encoding.hex, String.length_ofList, Encoding.length_hexChars, List.length_take,
    Digest.length_sha256, Nat.min_eq_left hcount]

theorem length_hash (bytes : List UInt8) : (hash bytes).length = 64 := by
  rw [hash, Encoding.hex, String.length_ofList, Encoding.length_hexChars, Digest.length_sha256]

theorem free_firstChars {c : Char} {text : String} (h : Free c text) (count : Nat) :
    Free c (firstChars count text) := by
  unfold Free
  rw [firstChars, String.toList_ofList]
  exact fun hmem => h (List.mem_of_mem_take hmem)

theorem free_hash (bytes : List UInt8) : Free '/' (hash bytes) := by
  unfold Free
  rw [hash, Encoding.hex, String.toList_ofList]
  exact slash_notMem_hexChars _

theorem free_hashPrefix (bytes : List UInt8) (count : Nat) : Free '/' (hashPrefix bytes count) := by
  unfold Free
  rw [hashPrefix, Encoding.hex, String.toList_ofList]
  exact slash_notMem_hexChars _

/-! ### Names of bounded length -/

theorem length_firstChars (count : Nat) (text : String) :
    (firstChars count text).length = min count text.length := by
  rw [firstChars, String.length_ofList, List.length_take, String.length_toList]

theorem firstChars_of_length_le {count : Nat} {text : String} (h : text.length ≤ count) :
    firstChars count text = text := by
  rw [firstChars, List.take_of_length_le (by rwa [String.length_toList]), String.ofList_toList]

theorem firstChars_firstChars {less count : Nat} (h : less ≤ count) (text : String) :
    firstChars less (firstChars count text) = firstChars less text := by
  rw [firstChars, firstChars, String.toList_ofList, List.take_take, Nat.min_eq_left h, firstChars]

/-- A text that is cut takes all the room that there is, and a short one stays as it is. -/
theorem length_truncate (limit : Nat) (text suffix : String) :
    (truncate limit text suffix).length = min limit text.length := by
  unfold truncate
  split
  · omega
  · split
    · rw [length_firstChars]
      omega
    · rw [String.length_append, String.length_append, length_firstChars]
      change _ + 1 + _ = _
      omega

/-- A text that is cut fits into its `limit`. -/
theorem length_truncate_le (limit : Nat) (text suffix : String) :
    (truncate limit text suffix).length ≤ limit := by
  rw [length_truncate]
  omega

theorem truncate_of_le {limit : Nat} {text : String} (h : text.length ≤ limit) (suffix : String) :
    truncate limit text suffix = text := by
  rw [truncate, if_pos h]

theorem truncate_of_lt {limit : Nat} {text suffix : String} (h : limit < text.length)
    (hsuffix : suffix.length < limit) :
    truncate limit text suffix = firstChars (limit - suffix.length - 1) text ++ "-" ++ suffix := by
  rw [truncate, if_neg (by omega), if_neg (by omega)]

/-- The suffix of a text that is cut can be told, if both suffixes have the same length. -/
theorem suffix_eq_of_truncate_eq {limit : Nat} {text text' suffix suffix' : String}
    (h : limit < text.length) (h' : limit < text'.length) (hsuffix : suffix.length < limit)
    (hlength : suffix.length = suffix'.length)
    (heq : truncate limit text suffix = truncate limit text' suffix') : suffix = suffix' := by
  have hlists : suffix.toList.length = suffix'.toList.length := by
    rw [String.length_toList, String.length_toList, hlength]
  rw [truncate_of_lt h hsuffix, truncate_of_lt h' (hlength ▸ hsuffix)] at heq
  have happend := congrArg String.toList heq
  rw [String.toList_append, String.toList_append (t := suffix')] at happend
  exact String.toList_inj.mp (List.append_inj_right' happend hlists)

theorem joinSegments_four (a b c d : String) :
    joinSegments [a, b, c, d] = a ++ "/" ++ b ++ "/" ++ c ++ "/" ++ d := by
  simp [joinSegments, String.append_assoc]

theorem length_joinSegments_four (a b c d : String) :
    (joinSegments [a, b, c, d]).length = a.length + b.length + c.length + d.length + 3 := by
  rw [joinSegments_four]
  simp only [String.length_append]
  change a.length + 1 + b.length + 1 + c.length + 1 + d.length = _
  omega

/-- The last two of four segments without slashes can be told, and what is in front of them. -/
theorem joinSegments_four_inj {a b c d a' b' c' d' : String} (hc : Free '/' c) (hc' : Free '/' c')
    (hd : Free '/' d) (hd' : Free '/' d')
    (h : joinSegments [a, b, c, d] = joinSegments [a', b', c', d']) :
    joinSegments [a, b] = joinSegments [a', b'] ∧ c = c' ∧ d = d' := by
  have hlast : (String.singleton '/').intercalate ([a, b, c] ++ [d])
      = (String.singleton '/').intercalate ([a', b', c'] ++ [d']) := h
  obtain ⟨hthree, rfl⟩ := intercalate_concat_inj hd hd' (by simp) (by simp) hlast
  have hthird : (String.singleton '/').intercalate ([a, b] ++ [c])
      = (String.singleton '/').intercalate ([a', b'] ++ [c']) := hthree
  obtain ⟨htwo, rfl⟩ := intercalate_concat_inj hc hc' (by simp) (by simp) hthird
  exact ⟨htwo, rfl, rfl⟩

/-- Two segments without slashes can be told. -/
theorem joinSegments_two_inj {a b a' b' : String} (ha : Free '/' a) (ha' : Free '/' a')
    (h : joinSegments [a, b] = joinSegments [a', b']) : a = a' ∧ b = b' := by
  have hfirst : (String.singleton '/').intercalate (a :: [b])
      = (String.singleton '/').intercalate (a' :: [b']) := h
  obtain ⟨rfl, hsecond⟩ := intercalate_cons_inj ha ha' (by simp) (by simp) hfirst
  simp only [String.intercalate_singleton] at hsecond
  exact ⟨rfl, hsecond⟩

/-- `Shows limit suffix segment shown` says that `segment` stands as `shown` in a name: as it is, or
cut. -/
inductive Shows (limit : Nat) (suffix segment : String) : String → Prop
  /-- It stands as it is. -/
  | whole : Shows limit suffix segment segment
  /-- It is too long and is cut. -/
  | cut (long : limit < segment.length) :
      Shows limit suffix segment (truncate limit segment suffix)

theorem Shows.truncate (limit : Nat) (suffix segment : String) :
    Shows limit suffix segment (truncate limit segment suffix) := by
  by_cases h : limit < segment.length
  · exact .cut h
  · rw [truncate_of_le (by omega)]
    exact .whole

theorem Shows.eq_of_le {limit : Nat} {suffix segment shown : String}
    (h : Shows limit suffix segment shown) (hle : segment.length ≤ limit) : shown = segment := by
  cases h with
  | whole => rfl
  | cut => exact truncate_of_le hle suffix

theorem hashname_of_fits {limit : Nat} {segments : List String}
    (h : (joinSegments segments).length < limit) :
    hashname limit segments = joinSegments segments := by
  simp [hashname, h]

/-- `cutSuffix segments` is what the segments of a name that is too long are cut with: the first
digits of their digest. -/
def cutSuffix (segments : List String) : String :=
  firstChars shortHashLength (hash (textBytes (joinSegments segments)))

theorem length_cutSuffix (segments : List String) :
    (cutSuffix segments).length = shortHashLength := by
  rw [cutSuffix, length_firstChars, length_hash]
  rfl

/-- The digits at the end of a segment that is cut can be told, where its share has room for
them. -/
theorem cutSuffix_eq_of_truncate_eq {share : Nat} {a b : String} {as bs : List String}
    (hshare : shortHashLength ≤ share) (ha : share < a.length) (hb : share < b.length)
    (h : truncate share a (cutSuffix as) = truncate share b (cutSuffix bs)) :
    cutSuffix as = cutSuffix bs := by
  have hlength := length_cutSuffix as
  have hlength' := length_cutSuffix bs
  rcases Nat.lt_or_eq_of_le hshare with hshare | rfl
  · exact suffix_eq_of_truncate_eq ha hb (by omega) (by omega) h
  · -- nothing but the digits is left of the segments
    rwa [truncate, truncate, if_neg (Nat.not_le.mpr ha), if_neg (Nat.not_le.mpr hb),
      if_pos (Nat.le_of_eq hlength.symm), if_pos (Nat.le_of_eq hlength'.symm),
      firstChars_of_length_le (Nat.le_of_eq hlength),
      firstChars_of_length_le (Nat.le_of_eq hlength')] at h

/-- A slash does not come into a segment when it is cut, as there is none in a digest. -/
theorem free_truncate {text : String} (h : Free '/' text) (share : Nat) (segments : List String) :
    Free '/' (truncate share text (cutSuffix segments)) := by
  have hsuffix : Free '/' (cutSuffix segments) := free_firstChars (free_hash _) _
  unfold truncate
  split
  · exact h
  · split
    · exact free_firstChars hsuffix _
    · exact ((free_firstChars h _).append (by decide)).append hsuffix

end Proxy

end GatewayCompiler
