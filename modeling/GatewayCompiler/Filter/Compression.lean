import GatewayCompiler.Filter.Error
import GatewayCompiler.Proxy.Basic

/-!
# Compression of responses

## Main definitions

* `CompressionSettings` — what is compressed and how much, with its decoder and its check.
* `CompressionSettings.chainConfig` — the filter in a connection manager.
-/

namespace GatewayCompiler

open Document Decode

/-- What is compressed and how much. -/
structure CompressionSettings where
  /-- The size from which on responses are compressed. -/
  minContentLength : Option Nat
  /-- The content types; the usual ones when none is listed. -/
  contentType : List String
  /-- The level from one to nine. -/
  level : Option Nat
  /-- Whether responses with an `ETag` header are left alone. -/
  disableOnEtagHeader : Bool
  deriving DecidableEq, Repr

namespace CompressionSettings

/-- `CompressionSettings.decode node` are the settings written by `node`. -/
def decode (node : Node) : Decode CompressionSettings := do
  let f ← record ["min_content_length", "content_type", "level", "disable_on_etag_header"] true node
  return {
    minContentLength := ← f.optional "min_content_length" (unsigned Text.limit32)
    contentType := ← f.getOr "content_type" [] (list Decode.text)
    level := ← f.optional "level" (unsigned Text.limit32)
    disableOnEtagHeader := ← f.getOr "disable_on_etag_header" false flag }

/-- The settings as a node. -/
def encode (s : CompressionSettings) : Node :=
  .record [("min_content_length", .ofNat? s.minContentLength),
    ("content_type", .ofTexts s.contentType), ("level", .ofNat? s.level),
    ("disable_on_etag_header", .bool s.disableOnEtagHeader)]

/-- `s.validate` checks that content types are not blank, and the level is from one to nine. -/
def validate (s : CompressionSettings) : Except FilterError Unit :=
  if s.contentType.any Text.isBlankText then .error .blankContentType
  else match s.level with
    | none => .ok ()
    | some level => if 1 ≤ level ∧ level ≤ 9 then .ok () else .error (.levelOutOfRange level)

/-- The content types that are compressed when none is listed. -/
def defaultContentTypes : List String :=
  ["text/html", "text/css", "text/plain", "application/javascript", "application/json",
   "image/svg+xml"]

/-- `s.contentTypes` are the content types that are compressed, those of `defaultContentTypes` when
none is listed. -/
def contentTypes (s : CompressionSettings) : List String :=
  if s.contentType = [] then defaultContentTypes else s.contentType.map Text.trim

/-- `s.chainConfig` is the compressor in a connection manager. -/
def chainConfig (s : CompressionSettings) : Except FilterError Proxy.HttpFilterConfig := do
  s.validate
  return .compressor {
    minContentLength := s.minContentLength
    contentTypes := s.contentTypes
    level := s.level.getD 0
    disableOnEtag := s.disableOnEtagHeader }

end CompressionSettings

end GatewayCompiler
