import Topograph.Number.Entry
import Topograph.Session.Basic

/-!
# Settings

Where the services are, the token for them, and where the archive listens, as an environment of
named texts has it. A name that is not there has its default; a name with an empty text is there.
-/
namespace Topograph

abbrev Environment := List (String × String)

namespace Settings

/-- A setting whose text is no number. -/
inductive Malformed where
  | timeout
  | port
  deriving DecidableEq, Repr

/-- The text of a setting, or its default. -/
def text (env : Environment) (name default : String) : String := (env.lookup name).getD default

end Settings

/-- The settings of the workbench. -/
structure Settings where
  decodeUrl : String
  compilerUrl : String
  storeUrl : String
  token : Option String
  timeout : Number.Binary64
  deriving DecidableEq, Repr

namespace Settings

/-- Read the settings of the workbench; an empty token counts as none. -/
def read (env : Environment) : Except Malformed Settings :=
  match Number.Entry.binary? (text env "NETBUILD_TIMEOUT" "30") with
  | none => .error .timeout
  | some timeout => .ok {
      decodeUrl := text env "NETBUILD_DECODE_URL" "http://127.0.0.1:9000/pka2xml"
      compilerUrl := text env "NETBUILD_COMPILER_URL" "http://127.0.0.1:5000"
      storeUrl := text env "NETBUILD_STORE_URL" "http://127.0.0.1:5000"
      token := (env.lookup "NETBUILD_API_TOKEN").filter fun token => !token.isEmpty
      timeout }

/-- The seconds that each client waits for a reply. They are fixed before the settings are read. -/
def clientTimeout : Number.Binary64 := .ofDecimal false ⟨30, 0⟩

/-- A new session with the services of the settings, for a token. -/
def session (s : Settings) (token : Option String) : Session where
  services := .ofAddresses s.compilerUrl s.decodeUrl s.storeUrl token

end Settings

/-! ## The archive -/

/-- Where the archive listens. -/
structure Listener where
  host : String
  port : Int
  deriving DecidableEq, Repr

namespace Listener
open Settings

def read (env : Environment) : Except Malformed Listener :=
  match Number.Entry.int? (text env "CABINET_PORT" "8000") with
  | some port => .ok { host := text env "CABINET_HOST" "127.0.0.1", port }
  | none => .error .port

/-- The origins that may use the archive, each without blanks around it. -/
def origins (env : Environment) : List String :=
  ((text env "CORS_ORIGINS" "*").toList.splitOn ',').map fun cs =>
    String.ofList (Text.trimBy Text.isBlank cs)

end Listener
end Topograph
