import WideColumn.Server.Run
import WideColumn.Value.Json

/-!
The command line. The server reads its property file and the conf files that this names; every line
of the standard input is a path, and its page is written as a line with the status and the content.
-/
namespace WideColumn.Main

open Server

def contentText : Content → String
  | .fields entries =>
    match (Value.ofFields entries).json with
    | .ok cs => String.ofList cs
    | .error _ => ""
  | .samples samples =>
    "; ".intercalate (samples.map fun s =>
      s.name ++ " " ++ ",".intercalate (s.labels.map fun l => l.1 ++ "=" ++ l.2) ++ " " ++
        String.ofList (Text.natural s.value))
  | .text text => text
  | .nothing => ""

def pageLine (p : Page) : String :=
  String.ofList (Text.natural p.status) ++ " " ++ contentText p.content

def readFile (path : String) : IO (List (String × Bytes)) := do
  try
    let content ← IO.FS.readBinFile path
    return [(path, content.toList)]
  catch _ => return []

/-- The environment, as far as it is asked for while the properties are looked up. -/
def environmentOf (names : List String) : IO Environment := do
  let values ← names.mapM fun name => do return (name, ← IO.getEnv name)
  return fun name => (values.find? (·.1 = name)).bind (·.2)

def placeholderNames : List Char → List String
  | '$' :: '\x7b' :: rest =>
    String.ofList (rest.takeWhile fun c => c ≠ ':' && c ≠ '\x7d') :: placeholderNames rest
  | _ :: rest => placeholderNames rest
  | [] => []

def confFilesOf (h : Hub) : List String :=
  match (loadProperties h).1 with
  | .ok p =>
    match Hub.settingsOf p h.environment Hub.settingsStart with
    | .ok settings => Config.confFilesOf settings
    | .error _ => []
  | .error _ => []

def prepare (path : String) : IO Hub := do
  let files ← readFile path
  let text := files.flatMap fun f => Utf8.decodeLossy f.2
  let environment ← environmentOf (fileVariable :: placeholderNames text)
  let hub : Hub := { files := Files.ofPaths files [], environment }
  let confFiles ← (confFilesOf hub).mapM readFile
  return { hub with files := Files.ofPaths (files ++ confFiles.flatten) [] }

partial def answerLines (id : ServiceId) (hub : Hub) : IO Hub := do
  let line ← (← IO.getStdin).getLine
  if line.isEmpty then return hub
  let (page, hub) := Hub.page (some id) (String.ofList (Text.trim line.toList)) hub
  match page with
  | .ok page => IO.println (pageLine page)
  | .error fault => IO.eprintln fault.message
  answerLines id hub

def serveLines (hub : Hub) : IO UInt32 := do
  match setUp hub with
  | (.error fault, _) =>
    IO.eprintln ("Error running server: " ++ fault.message)
    return 1
  | (.ok started, hub) =>
    IO.println ("Starting server on " ++ started.binding.host ++ ":" ++
      String.ofList (Text.integer started.binding.port))
    let hub ← answerLines started.service hub
    match (Hub.onService started.service Client.shutdown hub).1 with
    | .ok () => return 0
    | .error fault =>
      IO.eprintln fault.message
      return 1

end WideColumn.Main

def main : IO UInt32 := do
  let path ← IO.getEnv WideColumn.Server.fileVariable
  let hub ← WideColumn.Main.prepare (path.getD WideColumn.Server.defaultFile)
  WideColumn.Main.serveLines hub
