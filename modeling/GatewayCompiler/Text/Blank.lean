import GatewayCompiler.Text.Runs

/-!
# Blank characters and trimming

Values are trimmed by the Unicode property `White_Space`: the no-break space U+00A0 and the
ideographic space U+3000 are blank, the zero width space U+200B is not.

## Main definitions

* `isBlank c` — the property.
* `trim s` — `s` without the blanks at both ends.
* `isBlankText s` — whether nothing of `s` is left after trimming.
* `fields sep cs` — the pieces of a text between separators.
* `commaItems s` — the trimmed pieces of a comma separated text.
-/

namespace GatewayCompiler.Text

/-- The characters with the property `White_Space`. -/
def blankRuns : List Nat :=
  [0x9, 0xe, 0x20, 0x21, 0x85, 0x86, 0xa0, 0xa1, 0x1680, 0x1681, 0x2000, 0x200b, 0x2028, 0x202a,
   0x202f, 0x2030, 0x205f, 0x2060, 0x3000, 0x3001]

/-- Whether `c` has the property `White_Space`. -/
def isBlank (c : Char) : Bool := inRuns blankRuns c.toNat

/-- `trimLeft cs` are the characters without their leading blanks. -/
def trimLeft (cs : List Char) : List Char := cs.dropWhile isBlank

/-- The characters without the blanks at both ends. -/
def trimChars (cs : List Char) : List Char := (trimLeft (trimLeft cs).reverse).reverse

/-- `trim s` is the text without the blanks at both ends, in the sense of `isBlank`. -/
def trim (s : String) : String := String.ofList (trimChars s.toList)

/-- `isBlankText s` says that the text holds blanks only. -/
def isBlankText (s : String) : Bool := s.toList.all isBlank

/-- The pieces of `cs` between separators; a text without separator is one piece. -/
def fields (sep : Char) : List Char → List (List Char)
  | [] => [[]]
  | c :: rest =>
    if c = sep then [] :: fields sep rest
    else match fields sep rest with
      | [] => [[c]]
      | piece :: pieces => (c :: piece) :: pieces

/-- `commaItems s` are the pieces of a comma separated text, each trimmed. -/
def commaItems (s : String) : List String :=
  (fields ',' s.toList).map fun piece => String.ofList (trimChars piece)

end GatewayCompiler.Text
