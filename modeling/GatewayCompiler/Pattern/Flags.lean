import GatewayCompiler.Text.Blank

/-!
# Flags in patterns

Flags change how the part of a pattern that follows is read.  In verbose mode blanks and comments
may stand between the parts of a pattern; without Unicode mode a pattern may only stand for ASCII
characters.

## Main definitions

* `Flags` — the flags that matter to reading and to what is matched.
* `Flags.skip`, `Flags.span` — reading with the blanks of verbose mode passed over.
* `Flag`, `FlagItem` — the flags and the sign that turns the following ones off.
* `readFlagItems` — the items between a question mark and a colon or a parenthesis.
* `Flags.apply` — the flags behind a list of items.
-/

namespace GatewayCompiler.Pattern

/-- The flags that matter to reading and to what is matched. -/
structure Flags where
  /-- Whether blanks and comments are passed over. -/
  verbose : Bool := false
  /-- Whether sets hold characters beyond ASCII. -/
  unicode : Bool := true
  /-- Whether a letter stands for its other case too. -/
  ignoreCase : Bool := false
  /-- Whether anchors stand for the ends of lines. -/
  multiLine : Bool := false
  /-- Whether any character includes the line feed. -/
  dotAll : Bool := false
  /-- Whether a carriage return ends a line too. -/
  carriageReturn : Bool := false

/-- The characters behind blanks and comments; a comment runs from `#` to the end of the line. -/
def skipBlanks : (inComment : Bool) → List Char → List Char
  | _, [] => []
  | true, c :: rest => skipBlanks (c ≠ '\n') rest
  | false, c :: rest =>
    if c = '#' then skipBlanks true rest
    else if Text.isBlank c then skipBlanks false rest
    else c :: rest

/-- Nothing is added by passing over blanks. -/
theorem length_skipBlanks_le (inComment : Bool) (cs : List Char) :
    (skipBlanks inComment cs).length ≤ cs.length := by
  induction cs generalizing inComment with
  | nil => cases inComment <;> simp [skipBlanks]
  | cons c rest ih =>
    cases inComment with
    | true =>
      have := ih (c ≠ '\n')
      simp only [skipBlanks, List.length_cons]
      omega
    | false =>
      have := ih true
      have := ih false
      simp only [skipBlanks, List.length_cons]
      split
      · omega
      · split
        · omega
        · simp

namespace Flags

/-- `f.skip cs` are the characters behind what is passed over, which is nothing unless the mode is
verbose. -/
def skip (f : Flags) (cs : List Char) : List Char := if f.verbose then skipBlanks false cs else cs

/-- Nothing is added by passing over blanks. -/
theorem length_skip_le (f : Flags) (cs : List Char) : (f.skip cs).length ≤ cs.length := by
  unfold skip
  split
  · exact length_skipBlanks_le false cs
  · exact Nat.le_refl _

/-- `f.span p cs` are the characters up to the first one that fails the test `p`, and the characters
from there on. -/
def span (f : Flags) (p : Char → Bool) : List Char → List Char × List Char
  | [] => ([], [])
  | c :: rest =>
    if p c then
      let (taken, left) := f.span p (f.skip rest)
      (c :: taken, left)
    else ([], c :: rest)
termination_by cs => cs.length
decreasing_by
  have := f.length_skip_le rest
  simp only [List.length_cons]
  omega

end Flags

/-! ### Writing flags -/

/-- A flag. -/
inductive Flag
  /-- Letters stand for both cases. -/
  | ignoreCase
  /-- Lines have anchors of their own. -/
  | multiLine
  /-- Any character includes the line feed. -/
  | dotAll
  /-- Repetitions are reluctant unless they are marked. -/
  | swapGreed
  /-- Sets hold characters beyond ASCII. -/
  | unicode
  /-- A carriage return ends a line too. -/
  | carriageReturn
  /-- Blanks and comments are passed over. -/
  | verbose
  deriving DecidableEq, Repr

/-- The flag that a letter stands for. -/
def Flag.ofChar? : Char → Option Flag
  | 'i' => some .ignoreCase
  | 'm' => some .multiLine
  | 's' => some .dotAll
  | 'U' => some .swapGreed
  | 'u' => some .unicode
  | 'R' => some .carriageReturn
  | 'x' => some .verbose
  | _ => none

/-- An item of a list of flags. -/
inductive FlagItem
  /-- The following flags are turned off. -/
  | negation
  /-- A flag. -/
  | flag (f : Flag)
  deriving DecidableEq, Repr

/-- `FlagItem.ofChar? c` is the item that the character `c` stands for. -/
def FlagItem.ofChar? (c : Char) : Option FlagItem :=
  if c = '-' then some .negation else (Flag.ofChar? c).map .flag

/-- `readFlagItems seen cs` are the items up to a colon or a closing parenthesis, that character,
and what follows it.  No item comes twice, and a negation is not the last one.  The items read so
far are given in reverse. -/
def readFlagItems (seen : List FlagItem) : List Char → Option (List FlagItem × Char × List Char)
  | [] => none
  | c :: rest =>
    if c = ':' ∨ c = ')' then
      if seen.head? = some .negation then none else some (seen.reverse, c, rest)
    else match FlagItem.ofChar? c with
      | none => none
      | some item => if item ∈ seen then none else readFlagItems (item :: seen) rest

/-- `settingOf items f` is what a list of items says about the flag `f`. -/
def settingOf (items : List FlagItem) (f : Flag) : Option Bool :=
  if .flag f ∈ items.takeWhile (· ≠ .negation) then some true
  else if .flag f ∈ items then some false
  else none

/-- `f.apply items` are the flags behind a list of items. -/
def Flags.apply (f : Flags) (items : List FlagItem) : Flags where
  verbose := (settingOf items .verbose).getD f.verbose
  unicode := (settingOf items .unicode).getD f.unicode
  ignoreCase := (settingOf items .ignoreCase).getD f.ignoreCase
  multiLine := (settingOf items .multiLine).getD f.multiLine
  dotAll := (settingOf items .dotAll).getD f.dotAll
  carriageReturn := (settingOf items .carriageReturn).getD f.carriageReturn

end GatewayCompiler.Pattern
