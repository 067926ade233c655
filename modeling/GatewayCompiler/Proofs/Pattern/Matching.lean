import GatewayCompiler.Graph.Match
import GatewayCompiler.Pattern.Read

/-!
# What patterns match

A pattern matches a text from one place to another.  The places matter because of assertions, which
look at the characters on both sides.  Which characters belong to a set with a name, and which
letters differ in their case only, is left to the tables of Unicode.

## Main definitions

* `Meaning` — the sets with names and the cases of letters.
* `Look.Holds`, `CharSet.Holds` — the places of an assertion and the characters of a set.
* `Expr.Spans` — a pattern matches a text from one place to another.
* `Expr.Matches`, `PathMatch.Matches` — a whole text is matched.

## Main statements

* `spans_ofBranches`, `spans_ofParts` — alternatives are matched one by one, parts one after the
  other.
* `spansAll_literal` — what literal characters match.
-/

namespace GatewayCompiler

namespace Pattern

/-- The tables that give names and cases their meaning.  They belong to the engine, so that nothing
is assumed of them. -/
structure Meaning where
  /-- A character belongs to the set with a name. -/
  member : SetName → Char → Prop
  /-- Two letters differ in their case only. -/
  variant : Char → Char → Prop

variable (m : Meaning) (text : List Char)

/-! ### Assertions -/

/-- `before text i` is the character in front of the place `i`. -/
def before (i : Nat) : Option Char := (text.take i).getLast?

/-- `s.Holds left right` says that a place is the side `s` of a word, given whether the characters
on its left and right belong to words. -/
def WordSide.Holds (left right : Prop) : WordSide → Prop
  | .boundary => ¬ (left ↔ right)
  | .interior => left ↔ right
  | .start => ¬ left ∧ right
  | .finish => left ∧ ¬ right
  | .startHalf => ¬ left
  | .finishHalf => ¬ right

/-- `InWord m unicode c` says that there is a character at a place and it belongs to words. -/
def InWord (unicode : Bool) (c : Option Char) : Prop := ∃ d ∈ c, m.member (.letter 'w' unicode) d

/-- `l.Holds i` says that the assertion `l` holds at the place `i`.  A carriage return and a line
feed in a row end one line. -/
def Look.Holds (i : Nat) : Look → Prop
  | .textStart => i = 0
  | .textEnd => i = text.length
  | .lineStart carriageReturn => i = 0 ∨ before text i = some '\n' ∨
    carriageReturn = true ∧ before text i = some '\r' ∧ text[i]? ≠ some '\n'
  | .lineEnd carriageReturn => i = text.length ∨
    text[i]? = some '\n' ∧ ¬ (carriageReturn = true ∧ before text i = some '\r') ∨
    carriageReturn = true ∧ text[i]? = some '\r'
  | .word side unicode => side.Holds (InWord m unicode (before text i)) (InWord m unicode text[i]?)

/-! ### Characters -/

/-- `m.Allows folded p c` says that `p` allows the character `c` or, if letters are folded, another
case of it. -/
def Meaning.Allows (folded : Bool) (p : Char → Prop) (c : Char) : Prop :=
  p c ∨ folded = true ∧ ∃ d, m.variant c d ∧ p d

/-- `negatedIf negated p` is the statement `p` or its negation. -/
def negatedIf (negated : Bool) (p : Prop) : Prop := if negated then ¬ p else p

/-- `set.Holds folded c` says that the character `c` belongs to a set with a name. -/
def SetRef.Holds (folded : Bool) (set : SetRef) (c : Char) : Prop :=
  negatedIf set.negated (m.Allows folded (m.member set.name) c)

/-- Two sets are combined by an operator. -/
def SetOperator.Holds (left right : Prop) : SetOperator → Prop
  | .intersection => left ∧ right
  | .difference => left ∧ ¬ right
  | .symmetricDifference => ¬ (left ↔ right)

mutual

/-- `s.Holds folded c` says that the character `c` belongs to the set `s` in brackets. -/
def CharSet.Holds (folded : Bool) : CharSet → Char → Prop
  | .empty, _ => False
  | .char d, c => m.Allows folded (· = d) c
  | .range first last, c => m.Allows folded (fun d => first ≤ d ∧ d ≤ last) c
  | .named set, c => set.Holds m folded c
  | .bracket negated inner, c => negatedIf negated (inner.Holds folded c)
  | .union members, c => CharSet.SomeHolds folded members c
  | .combined operator left right, c => operator.Holds (left.Holds folded c) (right.Holds folded c)

/-- `SomeHolds folded sets c` says that the character `c` belongs to one of several sets. -/
def CharSet.SomeHolds (folded : Bool) : List CharSet → Char → Prop
  | [], _ => False
  | set :: sets, c => set.Holds folded c ∨ CharSet.SomeHolds folded sets c

end

/-- `SpansChar text p i j` says that a single character that passes the test `p` lies between two
places. -/
def SpansChar (p : Char → Prop) (i j : Nat) : Prop := ∃ c, text[i]? = some c ∧ p c ∧ j = i + 1

/-! ### Patterns -/

/-- `Times R count i j` says that something lies between two places `count` times in a row. -/
def Times (R : Nat → Nat → Prop) : (count : Nat) → Nat → Nat → Prop
  | 0, i, j => i = j
  | count + 1, i, j => ∃ k, R i k ∧ Times R count k j

mutual

/-- `e.Spans m text i j` says that the pattern `e` matches `text` from the place `i` to `j`.
Sequence binds more strongly than alternation. -/
def Expr.Spans : Expr → Nat → Nat → Prop
  | .empty, i, j | .flags, i, j => i = j
  | .look assertion, i, j => assertion.Holds m text i ∧ i = j
  | .char c folded, i, j => SpansChar text (m.Allows folded (· = c)) i j
  | .anyChar excluded, i, j => SpansChar text (· ∉ excluded) i j
  | .named set folded, i, j => SpansChar text (set.Holds m folded) i j
  | .bracket negated folded inner, i, j =>
    SpansChar text (fun c => negatedIf negated (inner.Holds m folded c)) i j
  | .repeated body least most, i, j =>
    ∃ count, least ≤ count ∧ (∀ bound ∈ most, count ≤ bound) ∧
      Times (fun i j => body.Spans i j) count i j
  | .group _ body, i, j => body.Spans i j
  | .concat parts, i, j => Expr.SpansAll parts i j
  | .alternation branches, i, j => Expr.SpansSome branches i j

/-- `SpansAll m text parts i j` says that several patterns match one after the other. -/
def Expr.SpansAll : List Expr → Nat → Nat → Prop
  | [], i, j => i = j
  | e :: es, i, j => ∃ k, e.Spans i k ∧ Expr.SpansAll es k j

/-- `SpansSome m text branches i j` says that one of several patterns matches. -/
def Expr.SpansSome : List Expr → Nat → Nat → Prop
  | [], _, _ => False
  | e :: es, i, j => e.Spans i j ∨ Expr.SpansSome es i j

end

/-- `e.Matches m text` says that the pattern `e` matches the whole of `text`. -/
def Expr.Matches (e : Expr) : Prop := e.Spans m text 0 text.length

/-- `literal text` is the pattern for a text alone, character by character. -/
def literal (text : List Char) : List Expr := text.map (.char · false)

variable {m text}

theorem Expr.spansSome_iff {branches : List Expr} {i j : Nat} :
    Expr.SpansSome m text branches i j ↔ ∃ b ∈ branches, b.Spans m text i j := by
  induction branches with
  | nil => simp [Expr.SpansSome]
  | cons b rest ih =>
    rw [Expr.SpansSome, ih]
    simp

/-- One of the alternatives is matched. -/
theorem Expr.spans_ofBranches {branches : List Expr} (hne : branches ≠ []) {i j : Nat} :
    (Expr.ofBranches branches).Spans m text i j ↔ ∃ b ∈ branches, b.Spans m text i j := by
  match branches with
  | [] => exact absurd rfl hne
  | [b] => simp [Expr.ofBranches]
  | b :: b' :: rest =>
    exact Expr.spansSome_iff

/-- The parts are matched one after the other. -/
theorem Expr.spans_ofParts {parts : List Expr} {i j : Nat} :
    (Expr.ofParts parts).Spans m text i j ↔ Expr.SpansAll m text parts i j := by
  match parts with
  | [] => rfl
  | [part] =>
    rw [Expr.ofParts, Expr.SpansAll]
    constructor
    · intro h
      exact ⟨j, h, rfl⟩
    · rintro ⟨k, h, rfl⟩
      exact h
  | part :: part' :: rest => rfl

theorem Expr.spansAll_append {front back : List Expr} {i j : Nat} :
    Expr.SpansAll m text (front ++ back) i j ↔
      ∃ k, Expr.SpansAll m text front i k ∧ Expr.SpansAll m text back k j := by
  -- along the parts in front, which end at the place where those behind them start
  induction front generalizing i with
  | nil =>
    constructor
    · intro h
      exact ⟨i, rfl, h⟩
    · rintro ⟨_, rfl, h⟩
      exact h
  | cons part rest ih =>
    constructor
    · rintro ⟨k, hpart, hrest⟩
      obtain ⟨l, hfront, hback⟩ := ih.mp hrest
      exact ⟨l, ⟨k, hpart, hfront⟩, hback⟩
    · rintro ⟨l, ⟨k, hpart, hfront⟩, hback⟩
      exact ⟨k, hpart, ih.mpr ⟨l, hfront, hback⟩⟩

theorem Expr.spans_char {c : Char} {i j : Nat} :
    (Expr.char c false).Spans m text i j ↔ text[i]? = some c ∧ j = i + 1 := by
  simp only [Expr.Spans, SpansChar, Meaning.Allows, Bool.false_eq_true, false_and, or_false]
  constructor
  · rintro ⟨_, hc, rfl, hj⟩
    exact ⟨hc, hj⟩
  · rintro ⟨hc, hj⟩
    exact ⟨c, hc, rfl, hj⟩

/-- Literal characters match themselves, and nothing else. -/
theorem Expr.spansAll_literal {word : List Char} {i j : Nat} :
    Expr.SpansAll m text (literal word) i j ↔ word <+: text.drop i ∧ j = i + word.length := by
  induction word generalizing i with
  | nil => simp [literal, Expr.SpansAll, eq_comm]
  | cons c rest ih =>
    -- the word stands at a place if its first character does and its rest stands one further
    have hcons : c :: rest <+: text.drop i ↔ text[i]? = some c ∧ rest <+: text.drop (i + 1) := by
      rw [← List.head?_drop, ← List.tail_drop]
      cases text.drop i with
      | nil => simp
      | cons d behind => simp [List.cons_prefix_cons, eq_comm]
    rw [hcons]
    constructor
    · rintro ⟨k, hchar, hrest⟩
      obtain ⟨hc, rfl⟩ := Expr.spans_char.mp hchar
      obtain ⟨hstart, rfl⟩ := ih.mp hrest
      refine ⟨⟨hc, hstart⟩, ?_⟩
      rw [List.length_cons]
      omega
    · rintro ⟨⟨hc, hrest⟩, rfl⟩
      refine ⟨i + 1, Expr.spans_char.mpr ⟨hc, rfl⟩, ih.mpr ⟨hrest, ?_⟩⟩
      rw [List.length_cons]
      omega

end Pattern

/-- `t.Matches m path` says that `path` passes the test `t`: it has the beginning, or the pattern
matches the whole of it. -/
def PathMatch.Matches (m : Pattern.Meaning) (path : String) : PathMatch → Prop
  | .startsWith start => start.toList <+: path.toList
  | .regex pattern => ∃ e, Pattern.read? pattern = some e ∧ e.Matches m path.toList

end GatewayCompiler
