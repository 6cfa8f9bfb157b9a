import Topograph.Codec.Base64
import Topograph.Codec.Compressed
import Topograph.Service.Exchange
import Topograph.Service.Status
import Topograph.Text.Blank

/-!
# The decode service

A binary file is sent in base64, and the decoded text comes back compressed and in base64, with
blanks anywhere. The text is UTF-8; what is not is replaced.
-/
namespace Topograph.Decoder

/-- The request to decode a file. -/
def request (c : Client) (file : Bytes) : Except Failure Request :=
  c.request .post "" (.json (.object [
    ("file", .string (.ofChars (Codec.Base64.encode file))), ("action", .string "decode")]))

/-- The message of a refusal: the status and the body, or the phrase of the status. -/
def refusal (status : Int) (body : Bytes) : RawText :=
  .ofString ("Decode failed: " ++ Number.integerText status ++ " "
    ++ orElseText (Text.Utf8.decode body) (Status.phrase status))

/-- The decoded text in a body. -/
def decoded (body : Bytes) : Except Failure String :=
  match Codec.Base64.decode? (Text.removeBlanks (Text.Utf8.decode body)).toList with
  | none => .error (.problem (.unusable .encodedPayload))
  | some compressed => match Codec.Compressed.decompress? compressed with
    | none => .error (.problem (.unusable .compressedPayload))
    | some octets => .ok (Text.Utf8.decode octets)

/-- Read the reply to a request to decode. -/
def readDecoded (c : Client) (reply : Reply) : Except Failure String :=
  (reply.granted c fun status body => .ok (refusal status body)).bind decoded

end Topograph.Decoder
