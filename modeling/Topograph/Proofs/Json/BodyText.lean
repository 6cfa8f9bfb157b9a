import Topograph.Json.Body
import Topograph.Proofs.Json.Fields
import Topograph.Proofs.Json.Nesting
import Topograph.Proofs.Text.Utf8Text

/-!
# Documents through bodies

A document that is written into a body is read back from it. The strict rules take UTF-8 only; the
others tell the encoding from the first octets, which for an object with fields are a brace and a
quote.
-/
namespace Topograph.Json

theorem readBodyStrict?_encode {v : Json} (h : v.IsWritable) (fits : v.depth ≤ strictLevels) :
    readBodyStrict? (Text.Utf8.encode v.write) = some v.settled := by
  rw [readBodyStrict?, Text.Utf8.decode?_encode, Option.bind_some, readStrict?_write h fits]

theorem detect_object (rest : Bytes) :
    Encoding.detect (0x7B :: 0x22 :: rest) = (.utf8, 0x7B :: 0x22 :: rest) := by
  rcases rest with _ | ⟨c, _ | ⟨d, rest⟩⟩ <;> rfl

theorem encode_write_object (f : RawText × Json) (fields : List (RawText × Json)) :
    ∃ rest, Text.Utf8.encode (write (.object (f :: fields))) = 0x7B :: 0x22 :: rest := by
  have text : (write (.object (f :: fields))).toList = '{' :: '"' ::
      (f.1.shownChars.flatMap escape ++ ['"'] ++ ':' :: (chars f.2 ++ charsFields fields)) := by
    rw [write, String.toList_ofList, chars, quoted]
    rfl
  rw [Text.Utf8.encode, text, List.flatMap_cons, List.flatMap_cons]
  exact ⟨_, rfl⟩

theorem bodyText?_encode (f : RawText × Json) (fields : List (RawText × Json)) :
    bodyText? (Text.Utf8.encode (write (.object (f :: fields)))) =
      some (.ofString (write (.object (f :: fields)))) := by
  have loose := Text.Utf8.decodeLoose?_encode (write (.object (f :: fields)))
  obtain ⟨rest, octets⟩ := encode_write_object f fields
  rw [octets] at loose ⊢
  rw [bodyText?, detect_object]
  exact loose

/-- An object is read back from its body. -/
theorem readBody?_encode {f : RawText × Json} {fields : List (RawText × Json)}
    (h : (Json.object (f :: fields)).IsWritable) {headroom : Headroom}
    (fits : (Json.object (f :: fields)).depth ≤ headroom.levels) :
    readBody? headroom (Text.Utf8.encode (write (.object (f :: fields)))) =
      some (.ok (Json.object (f :: fields)).settled) := by
  rw [readBody?, bodyText?_encode, Option.map_some, read_write h fits]

theorem encode_brackets (n : Nat) : ∃ rest,
    Text.Utf8.encode (String.ofList (List.replicate (n + 4) '[')) =
      0x5B :: 0x5B :: 0x5B :: 0x5B :: rest := by
  rw [Text.Utf8.encode, String.toList_ofList]
  exact ⟨_, rfl⟩

/-- A body of nothing but opening brackets nests too deep, once there are more of them than there
is headroom for. -/
theorem readBody?_brackets {headroom : Headroom} {n : Nat} (many : headroom.levels < n) :
    readBody? headroom (Text.Utf8.encode (String.ofList (List.replicate n '['))) =
      some (.error .tooDeep) := by
  have ample := headroom.ample
  obtain ⟨k, rfl⟩ : ∃ k, n = k + 4 := ⟨n - 4, by omega⟩
  have loose := Text.Utf8.decodeLoose?_encode (String.ofList (List.replicate (k + 4) '['))
  have stops := read_brackets many []
  obtain ⟨rest, octets⟩ := encode_brackets k
  have detected : Encoding.detect (0x5B :: 0x5B :: 0x5B :: 0x5B :: rest) =
      (.utf8, 0x5B :: 0x5B :: 0x5B :: 0x5B :: rest) := rfl
  rw [octets] at loose ⊢
  rw [readBody?, bodyText?, detected]
  simp only [loose, Option.map_some]
  rw [List.append_nil] at stops
  rw [← stops, RawText.ofString, RawText.ofChars, String.toList_ofList, List.map_replicate]

end Topograph.Json
