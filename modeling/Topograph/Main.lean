import Topograph.Archive.Answers
import Topograph.Settings.Basic

/-!
# The archive as a program

Answers requests on standard input, one a line: the time, the method, the location and, for a
request that has one, the body, with one space between two of them. Each answer is one line on
standard output with the status and the document. The program ends with its input, and at once if
its settings name no port.
-/
namespace Topograph.Program

/-- The settings of the listener in the environment. -/
def environment : IO Environment := do
  let mut found := []
  for name in ["CABINET_HOST", "CABINET_PORT"] do
    match ← IO.getEnv name with
    | some value => found := (name, value) :: found
    | none => pure ()
  return found

/-- Answer one line. -/
def answerLine (a : Archive) (line : String) : Archive × String :=
  match (line.trimAsciiEnd.toString).splitOn " " with
  | now :: method :: location :: body =>
    match Archive.Inquiry.ofLocation (Method.ofWord? method) location (" ".intercalate body) with
    | .error _ => (a, "400 null")
    | .ok q => match a.answer now q with
      | (a, .ok response) =>
        (a, Number.integerText response.status ++ " " ++ (response.document.getD .null).write)
      | (a, .error _) => (a, "500 null")
  | _ => (a, "400 null")

partial def serve (a : Archive) (input output : IO.FS.Stream) : IO Unit := do
  let line ← input.getLine
  if line.isEmpty then return ()
  let (a, text) := answerLine a line
  output.putStrLn text
  output.flush
  serve a input output

end Topograph.Program

open Topograph

def main : IO UInt32 := do
  match Listener.read (← Program.environment) with
  | .error _ =>
    (← IO.getStderr).putStrLn "The port is not a number."
    return 1
  | .ok listener =>
    let address := listener.host ++ ":" ++ Number.integerText listener.port
    (← IO.getStderr).putStrLn ("Serving snippets for " ++ address)
    Program.serve .fresh (← IO.getStdin) (← IO.getStdout)
    return 0
