import GatewayCompiler.Pattern.Engine
import GatewayCompiler.Proofs.Pattern.LeadIn

/-!
# The growth of patterns behind literal texts

A well-formed pattern stays well-formed when the pattern of a text alone is written in front of it.
It becomes longer by the characters of the text, and it may come to be nested one level deeper.  An
engine that bounds either of them may refuse the whole although it accepts the pattern by itself.

## Main statements

* `read?_escape_append` — how a pattern grows behind a literal text.
-/

namespace GatewayCompiler.Pattern

/-! ### Patterns one after the other -/

namespace Expr

theorem deepest_append (parts further : List Expr) :
    deepest (parts ++ further) = max (deepest parts) (deepest further) := by
  induction parts with
  | nil => simp [deepest]
  | cons part rest ih => simp only [List.cons_append, deepest, ih, Nat.max_assoc]

theorem lengths_append (parts further : List Expr) :
    lengths (parts ++ further) = lengths parts + lengths further := by
  induction parts with
  | nil => simp [lengths]
  | cons part rest ih => simp only [List.cons_append, lengths, ih, Nat.add_assoc]

/-- Putting parts together takes one level at most, and none for a single part. -/
theorem depth_ofParts (parts : List Expr) :
    deepest parts ≤ (ofParts parts).depth ∧ (ofParts parts).depth ≤ deepest parts + 1 := by
  match parts with
  | [] => simp [ofParts, depth, deepest]
  | [part] => simp [ofParts, deepest]
  | part :: other :: rest => simp [ofParts, depth]

theorem length_ofParts (parts : List Expr) : (ofParts parts).length = lengths parts := by
  match parts with
  | [] => simp [ofParts, length, lengths]
  | [part] => simp [ofParts, lengths]
  | part :: other :: rest => simp [ofParts, length]

theorem length_ofBranches (branches : List Expr) :
    (ofBranches branches).length = lengths branches := by
  match branches with
  | [] => simp [ofBranches, length, lengths]
  | [branch] => simp [ofBranches, lengths]
  | branch :: other :: rest => simp [ofBranches, length]

/-- When the first alternative comes to be nested one level deeper, the whole does so at most. -/
theorem depth_ofBranches_cons {first first' : Expr} (h : first'.depth ≤ first.depth + 1)
    (others : List Expr) :
    (ofBranches (first' :: others)).depth ≤ (ofBranches (first :: others)).depth + 1 := by
  cases others with
  | nil => exact h
  | cons other rest =>
    simp only [ofBranches, depth, deepest]
    omega

end Expr

/-! ### Literal texts -/

theorem deepest_literal (text : List Char) : Expr.deepest (literal text) = 0 := by
  induction text with
  | nil => rfl
  | cons c rest ih => exact (Nat.zero_max _).trans ih

theorem lengths_literal (text : List Char) : Expr.lengths (literal text) = text.length := by
  induction text with
  | nil => rfl
  | cons c rest ih =>
    change 1 + Expr.lengths (literal rest) = _
    rw [ih, List.length_cons, Nat.add_comm]

/-- Literal characters in front of some parts add one level at most, since they are not nested
themselves. -/
theorem depth_ofParts_literal_append (text : List Char) (parts : List Expr) :
    (Expr.ofParts (literal text ++ parts)).depth ≤ (Expr.ofParts parts).depth + 1 := by
  have hled := (Expr.depth_ofParts (literal text ++ parts)).2
  have hown := (Expr.depth_ofParts parts).1
  rw [Expr.deepest_append, deepest_literal, Nat.zero_max] at hled
  omega

/-- A well-formed `pattern` stays well-formed behind the literal `text`.  It comes to be nested one
level deeper at most, and it becomes longer by the characters of `text`. -/
theorem read?_escape_append {pattern : String} {e : Expr} (text : String)
    (h : read? pattern = some e) :
    ∃ e', read? (escape text ++ pattern) = some e' ∧ e'.depth ≤ e.depth + 1 ∧
      e'.length = e.length + text.length := by
  obtain ⟨branches, hbranches, rfl⟩ := Option.map_eq_some_iff.mp h
  obtain ⟨first, others, rfl, hled⟩ := readBranches?_escape text hbranches
  have hdepth := depth_ofParts_literal_append text.toList first
  refine ⟨_, congrArg (Option.map Expr.ofBranches) hled, Expr.depth_ofBranches_cons hdepth others, ?_⟩
  -- the characters of the text are counted with the first alternative
  rw [Expr.length_ofBranches, Expr.length_ofBranches, Expr.lengths, Expr.lengths,
    Expr.length_ofParts, Expr.length_ofParts, Expr.lengths_append, lengths_literal,
    String.length_toList]
  omega

end GatewayCompiler.Pattern
