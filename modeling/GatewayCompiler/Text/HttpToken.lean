/-!
# HTTP tokens

Method names and header names are tokens: one or more characters of a fixed ASCII set.

## Main definitions

* `isTokenChar c` — the characters of a token.
* `isMethod s`, `isHeaderName s` — whether `s` names a method or a header.
-/

namespace GatewayCompiler.Text

/-- `isTokenChar c` says that a character may stand in a token. -/
def isTokenChar (c : Char) : Bool :=
  c.isAlphanum || "!#$%&'*+-.^_`|~".toList.contains c

/-- `isMethod s` says that the text names a request method. -/
def isMethod (s : String) : Bool := s.toList != [] && s.toList.all isTokenChar

/-- The greatest number of characters of a header name. -/
def maxHeaderNameLength : Nat := 65535

/-- `isHeaderName s` says that the text names a header, of at most `maxHeaderNameLength`
characters. -/
def isHeaderName (s : String) : Bool :=
  s.toList != [] && s.toList.all isTokenChar && s.length ≤ maxHeaderNameLength

end GatewayCompiler.Text
