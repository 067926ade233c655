import GatewayCompiler.Graph.Basic
import GatewayCompiler.Proofs.Naming
import Mathlib.Data.List.Infix

/-!
# What the key of a route tells

The key of a route lists its tests with commas between them.  Nothing in a path, the name of a header or
a value is marked, so that a text that looks like a further test, like the sign between a name and its
value or like the mark of a test that has to fail can be read in two ways.  Among the readings of a key
there is one without such texts, and only one.  A route is told by its key if it is this reading.

## Main definitions

* `joined` — parts of a text with the same text between them.
* `HeaderMatch.Legible`, `Route.Legible` — nothing in a test looks like something else.
* `Route.SameTests` — two routes have the same tests.
* `VirtualHost.Filled` — routes are added to a host one after the other.

## Main statements

* `exists_joined`, `joined_inj` — every text is cut in one way.
* `Route.exists_legible`, `Route.Legible.sameTests` — every key has one legible reading.
* `key_identifies_iff` — the routes that are told by their keys.
* `commas_confused` — two routes that are not.
-/

namespace GatewayCompiler

/-! ### Texts that are cut -/

section Joined

variable {α : Type} {x : α} {tail : List α}

/-- `joined lead first others` are parts with the text `lead` between them. -/
def joined (lead first : List α) (others : List (List α)) : List α :=
  first ++ others.flatMap (lead ++ ·)

theorem joined_nil (lead first : List α) : joined lead first [] = first := by simp [joined]

theorem joined_cons (lead first other : List α) (rest : List (List α)) :
    joined lead first (other :: rest) = first ++ (lead ++ joined lead other rest) := by
  simp [joined]

/-- What the first part begins with is what the whole begins with. -/
theorem joined_append_left (lead front first : List α) (others : List (List α)) :
    joined lead (front ++ first) others = front ++ joined lead first others := by
  simp [joined]

theorem joined_append (lead first second : List α) (others rest : List (List α)) :
    joined lead first (others ++ second :: rest)
      = joined lead first others ++ (lead ++ joined lead second rest) := by
  simp [joined]

/-- A text that begins with something that only stands at its own beginning does not overlap with
itself. -/
theorem isInfix_of_append_eq (hx : x ∉ tail) {front back back' : List α} (hfront : front ≠ [])
    (h : x :: tail ++ back = front ++ (x :: tail ++ back')) : x :: tail <:+: front := by
  cases front with
  | nil => exact absurd rfl hfront
  | cons y rest =>
    obtain ⟨rfl, htail⟩ := List.cons.inj h
    rcases List.append_eq_append_iff.mp htail with ⟨more, rfl, -⟩ | ⟨more, rfl, hmore⟩
    · exact ⟨[], more, rfl⟩
    · -- what is left over of the first text begins like the second one
      cases more with
      | nil => exact ⟨[], [], by simp⟩
      | cons z more =>
        obtain ⟨rfl, -⟩ := List.cons.inj hmore
        exact absurd (List.mem_append_right _ List.mem_cons_self) hx

/-- What is in front of the first place at which a text stands, and what is behind it, can be
told. -/
theorem append_lead_inj (hx : x ∉ tail) {xs ys xs' ys' : List α} (hxs : ¬ x :: tail <:+: xs)
    (hxs' : ¬ x :: tail <:+: xs') (h : xs ++ (x :: tail ++ ys) = xs' ++ (x :: tail ++ ys')) :
    xs = xs' ∧ ys = ys' := by
  rcases List.append_eq_append_iff.mp h with ⟨more, rfl, hmore⟩ | ⟨more, rfl, hmore⟩
  · by_cases hnil : more = []
    · subst hnil
      rw [List.nil_append] at hmore
      exact ⟨(List.append_nil xs).symm, List.append_cancel_left hmore⟩
    · exact absurd ((isInfix_of_append_eq hx hnil hmore).trans (List.suffix_append _ _).isInfix) hxs'
  · by_cases hnil : more = []
    · subst hnil
      rw [List.nil_append] at hmore
      exact ⟨List.append_nil xs', (List.append_cancel_left hmore).symm⟩
    · exact absurd ((isInfix_of_append_eq hx hnil hmore).trans (List.suffix_append _ _).isInfix) hxs

/-- The parts are told by the whole if the text between them stands in none of them. -/
theorem joined_inj (hx : x ∉ tail) {first first' : List α} {others others' : List (List α)}
    (hfirst : ¬ x :: tail <:+: first) (hothers : ∀ o ∈ others, ¬ x :: tail <:+: o)
    (hfirst' : ¬ x :: tail <:+: first') (hothers' : ∀ o ∈ others', ¬ x :: tail <:+: o)
    (h : joined (x :: tail) first others = joined (x :: tail) first' others') :
    first = first' ∧ others = others' := by
  -- over the later parts: none contains the lead, so the lead ends each part on both sides
  induction others generalizing first first' others' with
  | nil =>
    cases others' with
    | nil =>
      rw [joined_nil, joined_nil] at h
      exact ⟨h, rfl⟩
    | cons o' rest' =>
      rw [joined_nil, joined_cons] at h
      exact absurd ⟨first', _, by rw [List.append_assoc]; exact h.symm⟩ hfirst
  | cons o rest ih =>
    cases others' with
    | nil =>
      rw [joined_nil, joined_cons] at h
      exact absurd ⟨first, _, by rw [List.append_assoc]; exact h⟩ hfirst'
    | cons o' rest' =>
      rw [joined_cons, joined_cons] at h
      obtain ⟨rfl, hrest⟩ := append_lead_inj hx hfirst hfirst' h
      obtain ⟨rfl, rfl⟩ := ih (hothers o List.mem_cons_self)
        (fun p hp => hothers p (List.mem_cons_of_mem _ hp)) (hothers' o' List.mem_cons_self)
        (fun p hp => hothers' p (List.mem_cons_of_mem _ hp)) hrest
      exact ⟨rfl, rfl⟩

/-- Every text is cut into parts in which the text `lead` between them does not stand. -/
theorem exists_joined {lead : List α} (hlead : lead ≠ []) (text : List α) :
    ∃ first others, text = joined lead first others ∧ ¬ lead <:+: first ∧
      ∀ o ∈ others, ¬ lead <:+: o := by
  obtain ⟨n, hn⟩ : ∃ n, text.length = n := ⟨_, rfl⟩
  induction n using Nat.strong_induction_on generalizing text with
  | _ n ih =>
    -- by the length of the text: it is cut at a place where the lead stands, and both sides are
    -- shorter
    by_cases hinfix : lead <:+: text
    · obtain ⟨front, back, rfl⟩ := hinfix
      have hpos : 0 < lead.length := List.length_pos_of_ne_nil hlead
      rw [List.length_append, List.length_append] at hn
      obtain ⟨first, others, hfront, hfirst, hothers⟩ := ih front.length (by omega) front rfl
      obtain ⟨second, rest, hback, hsecond, hrest⟩ := ih back.length (by omega) back rfl
      refine ⟨first, others ++ second :: rest, ?_, hfirst, fun o ho => ?_⟩
      · rw [joined_append, ← hfront, ← hback, List.append_assoc]
      · rcases List.mem_append.mp ho with ho | ho
        · exact hothers o ho
        · rcases List.mem_cons.mp ho with rfl | ho
          · exact hsecond
          · exact hrest o ho
    · exact ⟨text, [], (joined_nil lead text).symm, hinfix, by simp⟩

end Joined

/-! ### Texts with signs -/

/-- What is in front of the first character of a kind, and what begins with it, can be told. -/
theorem append_inj_of_first {α : Type} {p : α → Prop} {xs ys xs' ys' : List α}
    (hxs : ∀ c ∈ xs, ¬ p c) (hxs' : ∀ c ∈ xs', ¬ p c) (hys : ∀ c ∈ ys.head?, p c)
    (hys' : ∀ c ∈ ys'.head?, p c) (h : xs ++ ys = xs' ++ ys') : xs = xs' ∧ ys = ys' := by
  rcases List.append_eq_append_iff.mp h with ⟨more, rfl, rfl⟩ | ⟨more, rfl, rfl⟩
  · cases more with
    | nil => exact ⟨(List.append_nil xs).symm, rfl⟩
    | cons c more => exact absurd (hys c (by simp)) (hxs' c (by simp))
  · cases more with
    | nil => exact ⟨List.append_nil xs', rfl⟩
    | cons c more => exact absurd (hys' c (by simp)) (hxs c (by simp))

/-- A text in which the character `c` does not stand is in front of it or behind it. -/
theorem isInfix_append_cons {α : Type} {c : α} {text xs ys : List α} (hc : c ∉ text)
    (h : text <:+: xs ++ c :: ys) : text <:+: xs ∨ text <:+: ys := by
  obtain ⟨front, back, h⟩ := h
  rw [List.append_assoc] at h
  -- the text starts in front of `c` or behind it, and it cannot run over it
  rcases List.append_eq_append_iff.mp h with ⟨more, rfl, hmore⟩ | ⟨more, rfl, hmore⟩
  · rcases List.append_eq_append_iff.mp hmore with ⟨rest, rfl, -⟩ | ⟨rest, rfl, hrest⟩
    · exact .inl ⟨front, rest, by rw [List.append_assoc]⟩
    · cases rest with
      | nil => exact .inl ⟨front, [], by simp⟩
      | cons d rest =>
        obtain ⟨rfl, -⟩ := List.cons.inj hrest
        exact absurd (List.mem_append_right _ List.mem_cons_self) hc
  · cases more with
    | nil =>
      cases text with
      | nil => exact .inl ⟨[], xs, rfl⟩
      | cons d rest =>
        obtain ⟨rfl, -⟩ := List.cons.inj hmore
        exact absurd List.mem_cons_self hc
    | cons d more =>
      obtain ⟨-, rfl⟩ := List.cons.inj hmore
      exact .inr ⟨more, back, List.append_assoc more text back⟩

/-! ### Tests as texts -/

/-- `headerLead` is what stands in a key in front of each test of a header. -/
def headerLead : List Char := ",header:".toList

theorem headerLead_ne_nil : headerLead ≠ [] := by decide

/-- `Whole text` says that nothing in a text looks like a further test of a header. -/
def Whole (text : String) : Prop := ¬ headerLead <:+: text.toList

theorem whole_ofList {text : List Char} : Whole (String.ofList text) ↔ ¬ headerLead <:+: text := by
  rw [Whole, String.toList_ofList]

theorem whole_empty : Whole "" := by
  rw [Whole, String.toList_empty, List.infix_nil]
  exact headerLead_ne_nil

/-- `invertMark invert` is the mark of a test that has to fail. -/
def invertMark (invert : Bool) : List Char := if invert then ['!'] else []

/-- `IsSign c` says that the character `c` is a sign between a name and a value. -/
def IsSign (c : Char) : Prop := c = '=' ∨ c = '~'

instance (c : Char) : Decidable (IsSign c) := inferInstanceAs (Decidable (_ ∨ _))

namespace HeaderMatch

/-- `h.front` is the test up to the sign, with the mark in front of the name or behind it. -/
def front (h : HeaderMatch) : List Char :=
  if h.kind = .present then invertMark h.invert ++ h.name.toList
  else h.name.toList ++ invertMark h.invert

/-- `h.back` is the test from the sign on, which is nothing if there is no sign. -/
def back (h : HeaderMatch) : List Char :=
  match h.kind with
  | .present => []
  | .exact => '=' :: h.value.toList
  | .contains => '~' :: h.value.toList

/-- `h.body` is what a test is written as behind the words that all tests of headers begin with. -/
def body (h : HeaderMatch) : List Char := h.front ++ h.back

theorem toList_text (h : HeaderMatch) : h.text.toList = "header:".toList ++ h.body := by
  obtain ⟨name, value, kind, invert⟩ := h
  cases kind <;> cases invert <;> simp [text, body, front, back, invertMark, toString]

/-- `h.Legible` says that nothing in the test of a header looks like something else. -/
structure Legible (h : HeaderMatch) : Prop where
  /-- The name does not look like a further test. -/
  name : Whole h.name
  /-- Nor does the value. -/
  value : Whole h.value
  /-- No character of the name looks like the sign in front of a value. -/
  signless : ∀ c ∈ h.name.toList, ¬ IsSign c
  /-- Where nothing is compared, there is no value, and nothing looks like the mark in front. -/
  alone : h.kind = .present → h.value = "" ∧ (h.invert = false → ¬ ['!'] <+: h.name.toList)
  /-- Where something is compared, nothing looks like the mark behind the name. -/
  compared : h.kind ≠ .present → h.invert = false → ¬ ['!'] <:+ h.name.toList

/-! #### Marks -/

theorem exists_mark_front (text : List Char) :
    ∃ invert name, text = invertMark invert ++ name ∧ (invert = false → ¬ ['!'] <+: name) := by
  by_cases h : ['!'] <+: text
  · obtain ⟨name, rfl⟩ := h
    exact ⟨true, name, rfl, by simp⟩
  · exact ⟨false, text, rfl, fun _ => h⟩

theorem exists_mark_behind (text : List Char) :
    ∃ invert name, text = name ++ invertMark invert ∧ (invert = false → ¬ ['!'] <:+ name) := by
  by_cases h : ['!'] <:+ text
  · obtain ⟨name, rfl⟩ := h
    exact ⟨true, name, rfl, by simp⟩
  · exact ⟨false, text, (List.append_nil text).symm, fun _ => h⟩

theorem mark_front_inj {invert invert' : Bool} {name name' : List Char}
    (h : invert = false → ¬ ['!'] <+: name) (h' : invert' = false → ¬ ['!'] <+: name')
    (heq : invertMark invert ++ name = invertMark invert' ++ name') :
    invert = invert' ∧ name = name' := by
  cases invert <;> cases invert'
  · exact ⟨rfl, heq⟩
  · exact absurd ⟨name', heq.symm⟩ (h rfl)
  · exact absurd ⟨name, heq⟩ (h' rfl)
  · exact ⟨rfl, List.append_cancel_left heq⟩

theorem mark_behind_inj {invert invert' : Bool} {name name' : List Char}
    (h : invert = false → ¬ ['!'] <:+ name) (h' : invert' = false → ¬ ['!'] <:+ name')
    (heq : name ++ invertMark invert = name' ++ invertMark invert') :
    invert = invert' ∧ name = name' := by
  cases invert <;> cases invert'
  · exact ⟨rfl, List.append_cancel_right heq⟩
  · exact absurd ⟨name', heq.symm.trans (List.append_nil name)⟩ (h rfl)
  · exact absurd ⟨name, heq.trans (List.append_nil name')⟩ (h' rfl)
  · exact ⟨rfl, List.append_cancel_right heq⟩

theorem forall_mark_not_sign {invert : Bool} : ∀ c ∈ invertMark invert, ¬ IsSign c := by
  intro c hc
  cases invert with
  | false => cases hc
  | true =>
    rw [List.mem_singleton.mp hc]
    decide

/-! #### Readings of tests of headers -/

/-- A text with a sign compares a value: the first sign is the one that was written. -/
theorem exists_legible_of_sign {text : List Char} (htext : ¬ headerLead <:+: text)
    (hsign : ∃ c ∈ text, IsSign c) : ∃ h : HeaderMatch, h.Legible ∧ h.body = text := by
  -- the first sign in the text: in front of it stands the name, behind it the value
  obtain ⟨c, hfind⟩ : ∃ c, text.find? (fun c => decide (IsSign c)) = some c := by
    rw [← Option.isSome_iff_exists, List.find?_isSome]
    simpa using hsign
  obtain ⟨hc, front, value, rfl, hfront⟩ := List.find?_eq_some_iff_append.mp hfind
  obtain ⟨invert, name, rfl, hmark⟩ := exists_mark_behind front
  have hname : Whole (.ofList name) := whole_ofList.mpr fun hlead => htext
    (hlead.trans ⟨[], invertMark invert ++ c :: value, by simp⟩)
  have hvalue : Whole (.ofList value) := whole_ofList.mpr fun hlead => htext
    (hlead.trans ⟨name ++ invertMark invert ++ [c], [], by simp⟩)
  have hlegible : ∀ kind : HeaderMatchKind, kind ≠ .present →
      Legible ⟨.ofList name, .ofList value, kind, invert⟩ := by
    intro kind hkind
    refine ⟨hname, hvalue, fun c hc => ?_, fun h => absurd h hkind, fun _ => ?_⟩
    · rw [String.toList_ofList] at hc
      simpa using hfront c (List.mem_append_left _ hc)
    · rw [String.toList_ofList]
      exact hmark
  rcases of_decide_eq_true hc with rfl | rfl
  · exact ⟨_, hlegible .exact nofun, by simp [body, HeaderMatch.front, back]⟩
  · exact ⟨_, hlegible .contains nofun, by simp [body, HeaderMatch.front, back]⟩

/-- A text without a sign asks for the presence of a header, as there is nothing to compare with. -/
theorem exists_legible_of_signless {text : List Char} (htext : ¬ headerLead <:+: text)
    (hsign : ∀ c ∈ text, ¬ IsSign c) : ∃ h : HeaderMatch, h.Legible ∧ h.body = text := by
  obtain ⟨invert, name, rfl, hmark⟩ := exists_mark_front text
  have hname : Whole (.ofList name) := whole_ofList.mpr fun hlead => htext
    (hlead.trans ⟨invertMark invert, [], by simp⟩)
  have hsignless : ∀ c ∈ (String.ofList name).toList, ¬ IsSign c := by
    intro c hc
    rw [String.toList_ofList] at hc
    exact hsign c (List.mem_append_right _ hc)
  rw [← String.toList_ofList (l := name)] at hmark
  exact ⟨⟨.ofList name, "", .present, invert⟩,
    ⟨hname, whole_empty, hsignless, fun _ => ⟨rfl, hmark⟩, fun h => absurd rfl h⟩,
    by simp [body, front, back]⟩

/-- A text in which nothing looks like a further test is the test of a header, and a `Legible`
one. -/
theorem exists_legible {text : List Char} (htext : ¬ headerLead <:+: text) :
    ∃ h : HeaderMatch, h.Legible ∧ h.body = text := by
  by_cases hsign : ∃ c ∈ text, IsSign c
  · exact exists_legible_of_sign htext hsign
  · push Not at hsign
    exact exists_legible_of_signless htext hsign

namespace Legible

variable {h h' : HeaderMatch}

theorem front_not_sign (legible : h.Legible) : ∀ c ∈ h.front, ¬ IsSign c := by
  intro c hc
  unfold front at hc
  split at hc
  · exact (List.mem_append.mp hc).elim (forall_mark_not_sign c) (legible.signless c)
  · exact (List.mem_append.mp hc).elim (legible.signless c) (forall_mark_not_sign c)

theorem back_sign : ∀ c ∈ h.back.head?, IsSign c := by
  intro c hc
  unfold back at hc
  split at hc
  · cases hc
  · exact .inl (Option.some.inj hc).symm
  · exact .inr (Option.some.inj hc).symm

theorem front_not_lead (legible : h.Legible) : ¬ headerLead <:+: h.front := by
  have hmark : '!' ∉ headerLead := by decide
  have hnil : ¬ headerLead <:+: [] := by decide
  intro hlead
  unfold front at hlead
  cases hinvert : h.invert <;> rw [hinvert] at hlead <;> split at hlead
  · exact legible.name hlead
  · exact legible.name (by simpa [invertMark] using hlead)
  · exact (isInfix_append_cons hmark hlead).elim hnil legible.name
  · exact (isInfix_append_cons hmark hlead).elim legible.name hnil

/-- Nothing in the test as a whole looks like a further one, either. -/
theorem body_not_lead (legible : h.Legible) : ¬ headerLead <:+: h.body := by
  intro hlead
  unfold body back at hlead
  split at hlead
  · rw [List.append_nil] at hlead
    exact legible.front_not_lead hlead
  · exact (isInfix_append_cons (by decide) hlead).elim legible.front_not_lead legible.value
  · exact (isInfix_append_cons (by decide) hlead).elim legible.front_not_lead legible.value

/-- How a header is compared is told by the sign, and the value by what follows it. -/
theorem kind_eq_of_back_eq (hback : h.back = h'.back) : h.kind = h'.kind := by
  obtain ⟨name, value, kind, invert⟩ := h
  obtain ⟨name', value', kind', invert'⟩ := h'
  have hsign := congrArg List.head? hback
  revert hsign
  cases kind <;> cases kind' <;> simp [back]

/-- A test that is legible is told by how it is written: `body` is injective on such tests. -/
theorem eq_of_body_eq (legible : h.Legible) (legible' : h'.Legible) (heq : h.body = h'.body) :
    h = h' := by
  -- no sign stands in front, so the first sign of both bodies is the same
  obtain ⟨hfront, hback⟩ := append_inj_of_first legible.front_not_sign legible'.front_not_sign
    back_sign back_sign heq
  obtain ⟨name, value, kind, invert⟩ := h
  obtain ⟨name', value', kind', invert'⟩ := h'
  obtain rfl : kind = kind' := kind_eq_of_back_eq hback
  have hvalue : value = value' := by
    cases kind with
    | present => exact (legible.alone rfl).1.trans (legible'.alone rfl).1.symm
    | exact => exact String.toList_inj.mp (List.cons.inj hback).2
    | contains => exact String.toList_inj.mp (List.cons.inj hback).2
  have hname : invert = invert' ∧ name.toList = name'.toList := by
    by_cases hkind : kind = .present
    · subst hkind
      exact mark_front_inj (legible.alone rfl).2 (legible'.alone rfl).2 hfront
    · rw [front, front, if_neg hkind, if_neg hkind] at hfront
      exact mark_behind_inj (legible.compared hkind) (legible'.compared hkind) hfront
  rw [hvalue, hname.1, String.toList_inj.mp hname.2]

end Legible

end HeaderMatch

/-! ### Routes -/

/-- `path.lead` is what stands in a key in front of the value of the path. -/
def PathMatch.lead : PathMatch → List Char
  | .startsWith _ => "prefix:".toList
  | .regex _ => "regex:".toList

/-- The tests of headers stand in a key one after the other, each behind `headerLead`. -/
theorem toList_intercalate_text (first : String) (headers : List HeaderMatch) :
    (",".intercalate (first :: headers.map HeaderMatch.text)).toList =
      joined headerLead first.toList (headers.map HeaderMatch.body) := by
  induction headers generalizing first with
  | nil => rw [List.map_nil, List.map_nil, String.intercalate_singleton, joined_nil]
  | cons h rest ih =>
    rw [List.map_cons, List.map_cons, String.intercalate_cons_of_ne_nil (List.cons_ne_nil _ _),
      String.toList_append, String.toList_append, ih, h.toList_text, joined_append_left, joined_cons,
      List.append_assoc]
    rfl

theorem toList_matchKey (path : PathMatch) (headers : List HeaderMatch) :
    (matchKey path headers).toList =
      path.lead ++ joined headerLead path.value.toList (headers.map HeaderMatch.body) := by
  have hpath : path.text.toList = path.lead ++ path.value.toList := by
    cases path <;> exact String.toList_append
  rw [matchKey, matchTexts, toList_intercalate_text, hpath, joined_append_left]

/-- Whether the path begins with a text or is matched by a pattern is told by the first
character. -/
theorem PathMatch.lead_inj {path path' : PathMatch} {rest rest' : List Char}
    (h : path.lead ++ rest = path'.lead ++ rest') : path.isRegex = path'.isRegex ∧ rest = rest' := by
  cases path <;> cases path'
  · exact ⟨rfl, List.append_cancel_left h⟩
  · exact absurd (List.cons.inj h).1 (by decide)
  · exact absurd (List.cons.inj h).1 (by decide)
  · exact ⟨rfl, List.append_cancel_left h⟩

theorem PathMatch.eq_of_value_eq {path path' : PathMatch} (hkind : path.isRegex = path'.isRegex)
    (hvalue : path.value = path'.value) : path = path' := by
  cases path <;> cases path'
  · exact congrArg PathMatch.startsWith hvalue
  · cases hkind
  · cases hkind
  · exact congrArg PathMatch.regex hvalue

/-- `path.withValue value` is the test of a path of the same kind with another value. -/
def PathMatch.withValue (value : String) : PathMatch → PathMatch
  | .startsWith _ => .startsWith value
  | .regex _ => .regex value

@[simp] theorem PathMatch.value_withValue (value : String) (path : PathMatch) :
    (path.withValue value).value = value := by
  cases path <;> rfl

@[simp] theorem PathMatch.lead_withValue (value : String) (path : PathMatch) :
    (path.withValue value).lead = path.lead := by
  cases path <;> rfl

namespace Route

/-- `r.Legible` says that nothing in the tests of a route looks like something else. -/
structure Legible (r : Route) : Prop where
  /-- Nothing in the path looks like the test of a header. -/
  path : Whole r.path.value
  /-- The tests of headers are legible. -/
  headers : ∀ h ∈ r.headers, h.Legible

/-- `r.SameTests r'` says that two routes have the same tests, of the path and of headers. -/
def SameTests (r r' : Route) : Prop := r.path = r'.path ∧ r.headers = r'.headers

theorem SameTests.key_eq {r r' : Route} (same : r.SameTests r') : r.key = r'.key := by
  rw [key, key, same.1, same.2]

theorem Legible.of_sameTests {r r' : Route} (legible : r.Legible) (same : r.SameTests r') :
    r'.Legible :=
  ⟨same.1 ▸ legible.path, same.2 ▸ legible.headers⟩

theorem Legible.bodies_not_lead {r : Route} (legible : r.Legible) :
    ∀ body ∈ r.headers.map HeaderMatch.body, ¬ headerLead <:+: body := by
  intro body hbody
  obtain ⟨h, hh, rfl⟩ := List.mem_map.mp hbody
  exact (legible.headers h hh).body_not_lead

theorem headers_eq_of_bodies_eq {headers headers' : List HeaderMatch}
    (legible : ∀ h ∈ headers, h.Legible) (legible' : ∀ h ∈ headers', h.Legible)
    (heq : headers.map HeaderMatch.body = headers'.map HeaderMatch.body) : headers = headers' := by
  induction headers generalizing headers' with
  | nil => exact (List.map_eq_nil_iff.mp heq.symm).symm
  | cons h rest ih =>
    cases headers' with
    | nil => cases heq
    | cons h' rest' =>
      obtain ⟨hfirst, hrest⟩ := List.cons.inj heq
      rw [(legible h List.mem_cons_self).eq_of_body_eq (legible' h' List.mem_cons_self) hfirst,
        ih (fun t ht => legible t (List.mem_cons_of_mem _ ht))
          (fun t ht => legible' t (List.mem_cons_of_mem _ ht)) hrest]

/-- Routes that are legible are told by their keys: the same key means the same tests. -/
theorem Legible.sameTests {r r' : Route} (legible : r.Legible) (legible' : r'.Legible)
    (heq : r.key = r'.key) : r.SameTests r' := by
  rw [key, key, ← String.toList_inj, toList_matchKey, toList_matchKey] at heq
  obtain ⟨hkind, hjoined⟩ := PathMatch.lead_inj heq
  obtain ⟨hvalue, hheaders⟩ := joined_inj (by decide) legible.path legible.bodies_not_lead
    legible'.path legible'.bodies_not_lead hjoined
  exact ⟨PathMatch.eq_of_value_eq hkind (String.toList_inj.mp hvalue),
    headers_eq_of_bodies_eq legible.headers legible'.headers hheaders⟩

theorem exists_legible_headers {bodies : List (List Char)}
    (hbodies : ∀ body ∈ bodies, ¬ headerLead <:+: body) :
    ∃ headers : List HeaderMatch, (∀ h ∈ headers, h.Legible) ∧ headers.map HeaderMatch.body = bodies := by
  induction bodies with
  | nil => exact ⟨[], by simp, rfl⟩
  | cons body rest ih =>
    obtain ⟨h, hlegible, rfl⟩ := HeaderMatch.exists_legible (hbodies body List.mem_cons_self)
    obtain ⟨headers, hheaders, rfl⟩ := ih fun b hb => hbodies b (List.mem_cons_of_mem _ hb)
    exact ⟨h :: headers, List.forall_mem_cons.mpr ⟨hlegible, hheaders⟩, rfl⟩

/-- Every key has a legible reading, so that a route that is not legible has the key of another
one. -/
theorem exists_legible (r : Route) : ∃ r' : Route, r'.Legible ∧ r'.key = r.key := by
  obtain ⟨first, others, htext, hfirst, hothers⟩ := exists_joined headerLead_ne_nil
    (joined headerLead r.path.value.toList (r.headers.map HeaderMatch.body))
  obtain ⟨headers, hheaders, rfl⟩ := exists_legible_headers hothers
  refine ⟨{ path := r.path.withValue (.ofList first), headers },
    ⟨by rwa [PathMatch.value_withValue, whole_ofList], hheaders⟩, ?_⟩
  rw [key, key, ← String.toList_inj, toList_matchKey, toList_matchKey, htext,
    PathMatch.value_withValue, PathMatch.lead_withValue, String.toList_ofList]

end Route

/-! ### Hosts -/

namespace VirtualHost

/-- `ofRoutes name added` is a host to which the routes `added` have been added, one after the
other. -/
def ofRoutes (name : String) (added : List Route) : VirtualHost :=
  added.foldl (fun h r => h.addRoute r) { name }

/-- `h.Filled` says that the routes of a host have been added one after the other. -/
def Filled (h : VirtualHost) : Prop := ∃ added, h.routes = (ofRoutes h.name added).routes

theorem filled_ofRoutes (name : String) (added : List Route) : (ofRoutes name added).Filled := by
  have hname : ∀ h : VirtualHost, (added.foldl (fun h r => h.addRoute r) h).name = h.name := by
    induction added with
    | nil => exact fun h => rfl
    | cons r rest ih => exact fun h => ih (h.addRoute r)
  exact ⟨added, by rw [show (ofRoutes name added).name = name from hname _]⟩

theorem Filled.keyed {h : VirtualHost} (filled : h.Filled) : h.routes.KeyedBy Route.key := by
  obtain ⟨added, hadded⟩ := filled
  have hfold : ∀ h : VirtualHost, h.routes.KeyedBy Route.key →
      (added.foldl (fun h r => h.addRoute r) h).routes.KeyedBy Route.key := by
    clear hadded
    induction added with
    | nil => exact fun h hkeyed => hkeyed
    | cons r rest ih => exact fun h hkeyed => ih (h.addRoute r) (hkeyed.insert rfl)
  rw [hadded]
  exact hfold _ .empty

/-- A route is in a host if and only if it is found at its key. -/
theorem mem_values_iff {h : VirtualHost} (hkeyed : h.routes.KeyedBy Route.key) {r : Route} :
    r ∈ h.routes.values ↔ h.routes.find? r.key = some r := by
  refine ⟨fun hmem => ?_, OrderedMap.mem_values_of_find?_eq_some⟩
  obtain ⟨entry, hentry, rfl⟩ := List.mem_map.mp hmem
  rw [hkeyed entry hentry]
  exact OrderedMap.find?_eq_some_of_mem hentry

/-- What is in a host that the route `r` is added to: `r`, and what has other keys. -/
theorem mem_values_addRoute {h : VirtualHost} (hkeyed : h.routes.KeyedBy Route.key) {r old : Route} :
    old ∈ (h.addRoute r).routes.values ↔ old = r ∨ old ∈ h.routes.values ∧ old.key ≠ r.key := by
  rw [mem_values_iff hkeyed, mem_values_iff (h := h.addRoute r) (hkeyed.insert rfl), addRoute,
    -- the route of the key is replaced, those of other keys stay
    OrderedMap.find?_insert]
  by_cases hkey : old.key = r.key
  · rw [if_pos hkey]
    constructor
    · intro h
      exact .inl (Option.some.inj h).symm
    · rintro (rfl | ⟨-, hne⟩)
      · rfl
      · exact absurd hkey hne
  · rw [if_neg hkey]
    constructor
    · intro h
      exact .inr ⟨h, hkey⟩
    · rintro (rfl | ⟨h, -⟩)
      · exact absurd rfl hkey
      · exact h

theorem mem_values_single {name : String} {r old : Route} :
    old ∈ (ofRoutes name [r]).routes.values ↔ old = r := by
  rw [ofRoutes, List.foldl_cons, List.foldl_nil, mem_values_addRoute .empty]
  refine ⟨fun h => h.elim id fun hnone => ?_, .inl⟩
  exact absurd hnone.1 List.not_mem_nil

end VirtualHost

/-- **Which routes are told by their keys.** The legible routes are those that their keys tell from
all legible routes, and those that take the place of no legible route of a host but one with the
same tests. -/
theorem key_identifies_iff (r : Route) :
    (r.Legible ↔ ∀ r' : Route, r'.Legible → (r'.key = r.key ↔ r'.SameTests r)) ∧
    (r.Legible ↔ ∀ h : VirtualHost, h.Filled → (∀ old ∈ h.routes.values, old.Legible) →
      ∀ old ∈ h.routes.values, old ∉ (h.addRoute r).routes.values → old.SameTests r) := by
  obtain ⟨reading, hreading, hkey⟩ := r.exists_legible
  refine ⟨⟨fun legible r' legible' => ?_, fun told => ?_⟩, ⟨fun legible h filled hall old hold hgone => ?_,
    fun replaces => ?_⟩⟩
  · exact ⟨legible'.sameTests legible, Route.SameTests.key_eq⟩
  · exact hreading.of_sameTests ((told reading hreading).mp hkey)
  · refine (hall old hold).sameTests legible ?_
    by_contra hne
    exact hgone ((VirtualHost.mem_values_addRoute filled.keyed).mpr (.inr ⟨hold, hne⟩))
  · -- in a host with nothing but its reading, the route takes the place of the reading
    by_cases hstays : reading ∈ ((VirtualHost.ofRoutes "" [reading]).addRoute r).routes.values
    · rw [VirtualHost.mem_values_addRoute (VirtualHost.filled_ofRoutes _ _).keyed] at hstays
      rcases hstays with rfl | ⟨-, hne⟩
      · exact hreading
      · exact absurd hkey hne
    · refine hreading.of_sameTests (replaces _ (VirtualHost.filled_ofRoutes "" [reading]) ?_ reading
        (VirtualHost.mem_values_single.mpr rfl) hstays)
      intro old hold
      rw [VirtualHost.mem_values_single.mp hold]
      exact hreading

/-- A path that looks like the test of a header behind another path, the route `testedRoute`. -/
def crowdedRoute : Route := { path := .startsWith "/a,header:x" }

/-- The path and the test that it looks like. -/
def testedRoute : Route := { path := .startsWith "/a", headers := [⟨"x", "", .present, false⟩] }

/-- Not all routes are told by their keys, and a route may take the place of one with other tests. -/
theorem commas_confused :
    ¬ (∀ r₁ r₂ : Route, r₁.key = r₂.key ↔ r₁.SameTests r₂) ∧
    ¬ (∀ (h : VirtualHost) (r : Route), h.Filled → ∀ old ∈ h.routes.values,
        old ∉ (h.addRoute r).routes.values → old.SameTests r) := by
  have hkey : testedRoute.key = crowdedRoute.key := by decide +kernel
  have hdiffer : ¬ testedRoute.SameTests crowdedRoute := fun same => absurd same.1 (by decide)
  refine ⟨fun told => hdiffer ((told _ _).mp hkey), fun replaces => hdiffer ?_⟩
  have filled := VirtualHost.filled_ofRoutes "" [testedRoute]
  refine replaces _ crowdedRoute filled testedRoute (VirtualHost.mem_values_single.mpr rfl) fun hstays => ?_
  rcases (VirtualHost.mem_values_addRoute filled.keyed).mp hstays with heq | ⟨-, hne⟩
  · exact hdiffer (heq ▸ ⟨rfl, rfl⟩)
  · exact hne hkey

end GatewayCompiler
