import GatewayCompiler.Digest.Sha256
import GatewayCompiler.Encoding.Hex

/-!
# Names of bounded length

Names are made of segments.  A name that gets too long is shortened segment by segment from the
last one on; a shortened segment ends in the beginning of the digest of the whole name, so that
different names stay different.

## Main definitions

* `hash`, `hashPrefix` — digests in hexadecimal.
* `truncate` — a text cut to a number of characters.
* `hashname` — a name made of segments.
-/

namespace GatewayCompiler.Proxy

/-- The bytes of a text. -/
def textBytes (text : String) : List UInt8 := text.toUTF8.toList

/-- `hash bytes` is the digest of a byte string in hexadecimal. -/
def hash (bytes : List UInt8) : String := Encoding.hex (Digest.sha256 bytes)

/-- `hashPrefix bytes count` are the first `count` bytes of the digest of a byte string, in
hexadecimal. -/
def hashPrefix (bytes : List UInt8) (count : Nat) : String :=
  Encoding.hex ((Digest.sha256 bytes).take count)

/-- `firstChars count text` are the first `count` characters of a text, all of them if there are
fewer. -/
def firstChars (count : Nat) (text : String) : String := String.ofList (text.toList.take count)

/-- `truncate limit text suffix` is the text cut to `limit` characters, its end replaced by a dash
and the suffix.  A limit that leaves no room for both leaves the beginning of the suffix. -/
def truncate (limit : Nat) (text suffix : String) : String :=
  if text.length ≤ limit then text
  else if limit ≤ suffix.length then firstChars limit suffix
  else firstChars (limit - suffix.length - 1) text ++ "-" ++ suffix

/-- `joinSegments segments` are the segments with slashes between them. -/
def joinSegments (segments : List String) : String := "/".intercalate segments

/-- The number of digits of the digest that a shortened segment ends in. -/
def shortHashLength : Nat := 6

/-- `shortenLast limit suffix segments count` are the segments with the last `count` of them cut to
equal shares of the limit. -/
def shortenLast (limit : Nat) (suffix : String) (segments : List String) (count : Nat) :
    List String :=
  let kept := segments.length - count
  segments.take kept ++
    (segments.drop kept).map fun s => truncate (limit / segments.length) s suffix

/-- `hashname limit segments` is the name made of segments, shorter than `limit` characters where
that can be had by shortening some of the last segments, and otherwise the beginning of the
digest. -/
def hashname (limit : Nat) (segments : List String) : String :=
  let joined := joinSegments segments
  if joined.length < limit then joined
  else
    let digest := hash (textBytes joined)
    let suffix := firstChars shortHashLength digest
    let shortened := (List.range' 1 segments.length).map fun count =>
      joinSegments (shortenLast limit suffix segments count)
    match shortened.find? fun name => name.length < limit with
    | some name => name
    | none => firstChars limit digest

end GatewayCompiler.Proxy
