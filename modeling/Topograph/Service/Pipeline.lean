import Topograph.Service.Compiler
import Topograph.Service.Decoder

/-!
# From a binary file to a topology

The decode service answers a file with a text, and the compiler converts the text. The first step
that fails ends the whole: nothing more is sent, and nothing partial is returned.
-/
namespace Topograph.Pipeline

/-- Decode and convert a file, where the two services reply this: the requests that are sent, in
their order, and how it ends. -/
def run (decoder compiler : Client) (file : Bytes) (first second : Reply) :
    Outcome (List Request) Conversion :=
  match Decoder.request decoder file with
  | .error f => ([], .error f)
  | .ok ask => match Decoder.readDecoded decoder first with
    | .error f => ([ask], .error f)
    | .ok xml => match Compiler.convertRequest compiler xml with
      | .error f => ([ask], .error f)
      | .ok convert => ([ask, convert], Compiler.readConverted compiler second)

end Topograph.Pipeline
