import LineReview.Command.Run
import LineReview.CommandLine.Invocation

set_option autoImplicit false

/-! The program. It looks at the parts of the file system that the command can reach, runs the
command on them, writes what the command has added, and prints what it has to say. Requests to the
assistant find no endpoint: nothing here opens a connection. -/

namespace LineReview.Main

def pathOf (location : Location) : String :=
  "/" ++ String.intercalate "/" location.reverse

def look (location : Location) : IO (Option Node) := do
  let path := (← IO.currentDir) / pathOf location
  if ← path.isDir then return some .folder
  try
    return some (.file (← IO.FS.readBinFile path))
  catch _ => return none

/-- Adds to a tree what a path passes through. -/
def survey (folder : Location) (tree : FileTree) (path : String) : IO FileTree := do
  let mut tree := tree
  let mut location := FileTree.start folder path
  for piece in Path.pieces path do
    if piece == ".." then location := location.tail
    else if !Path.isVoid piece then
      location := piece :: location
      if (tree.get? location).isNone then
        match ← look location with
        | some node => tree := tree.put location node
        | none => pure ()
  return tree

/-- The paths that a command can reach. -/
def paths (environment : Environment) : Command → List String
  | .review options => sources options.source
  | .explain source => sources source
  | .catalogue _ | .languages => []
  | .start output => [output]
where
  /-- The paths of the settings and of the source text. -/
  sources (source : SourceOptions) : List String :=
    [source.path] ++ (source.config.map ([·])).getD (Config.candidates environment ".")

/-- The environment variables of these names that are set, with their values. -/
def bindingsOf (names : List String) : IO (List (String × String)) :=
  names.filterMapM fun name => do
    return (← IO.getEnv name).map fun value => (name, value)

/-- The variable that holds the key, if the command asks the assistant. -/
def keyVariables (environment : Environment) (tree : FileTree) : Command → List String
  | .explain source =>
    match Config.load environment tree source.config with
    | .ok (config, _) => [config.assistant.keyVariable]
    | .error _ => []
  | _ => []

def readsInput : Command → Bool
  | .review options => options.source.path == Source.inputPath
  | .explain source => source.path == Source.inputPath
  | _ => false

partial def readAll (stream : IO.FS.Stream) (before : ByteArray) : IO ByteArray := do
  let block ← stream.read 65536
  if block.isEmpty then return before else readAll stream (before ++ block)

def add (entry : Location × Node) : IO Unit :=
  match entry.2 with
  | .folder => IO.FS.createDir (pathOf entry.1)
  | .file content => IO.FS.writeBinFile (pathOf entry.1) content

/-- What is printed when the arguments do not name a command to run. -/
def usage : CommandLine.UsageError → String
  | .version => Program.name ++ " " ++ Program.version
  | _ =>
    "Usage: " ++ Program.name ++ " [--verbose] <analyze|explain|rules|languages|init> [OPTIONS]"

def runHere (invocation : Invocation) : IO UInt32 := do
  let output ← IO.getStdout
  let errors ← IO.getStderr
  let here ← IO.currentDir
  let folder := ((Path.pieces here.toString).filter fun piece => !Path.isVoid piece).reverse
  let command := invocation.command
  let known ← bindingsOf ["HOME", "XDG_CONFIG_HOME", "RUST_LOG"]
  let input ← if readsInput command then readAll (← IO.getStdin) ByteArray.empty
    else pure ByteArray.empty
  let environment : Environment := {
    folder
    bindings := known
    accountHome := none
    input
    coloured := (← output.isTty) && (← IO.getEnv "NO_COLOR").isNone }
  let ground ← survey [] .empty here.toString
  let tree ← (paths environment command).foldlM (survey folder) ground
  let keys ← bindingsOf (keyVariables environment tree command)
  let outcome :=
    command.run { environment with bindings := known ++ keys } (fun _ => .unreachable) tree
  (outcome.tree.entries.take (outcome.tree.entries.length - tree.entries.length)).reverse.forM add
  let filter := Log.Filter.choose invocation.verbose (environment.valueOf? "RUST_LOG")
  errors.putStr (Message.renderAll filter outcome.messages)
  output.putStr outcome.output
  return outcome.exitCode.number.toUInt32

end LineReview.Main

def main (arguments : List String) : IO UInt32 := do
  match LineReview.CommandLine.parse arguments with
  | .ok invocation => LineReview.Main.runHere invocation
  | .error error =>
    let stream ← if error.exitCode = 0 then IO.getStdout else IO.getStderr
    stream.putStrLn (LineReview.Main.usage error)
    return error.exitCode.toUInt32
