import PipeGraph.CommandLine.Run

/-!
# The program

Reads what the arguments name, runs the command line and writes its report.
-/

namespace PipeGraph

namespace CommandLine

/-- The failure that an error of the operating system stands for. -/
def ReadFault.ofError : IO.Error → ReadFault
  | .noFileOrDirectory _ _ _ => .notFound
  | .inappropriateType _ 21 _ => .isDirectory
  | .inappropriateType _ code details =>
      .other (details ++ " (os error " ++ toString code ++ ")")
  | .permissionDenied _ code details =>
      .other (details ++ " (os error " ++ toString code ++ ")")
  | error => .other (toString error)

/-- Read a file. -/
def readFile (path : String) : IO (Except ReadFault ByteArray) := do
  try
    let bytes ← IO.FS.readBinFile path
    return .ok bytes
  catch error =>
    return .error (.ofError error)

/-- Read a stream to its end, behind the bytes that were read before. -/
partial def readStream (stream : IO.FS.Stream) (bytes : ByteArray) :
    IO ByteArray := do
  let more ← stream.read 65536
  if more.isEmpty then return bytes
  else readStream stream (bytes ++ more)

/-- The paths of the files that some options name. -/
def Options.paths (options : Options) : List String :=
  (options.graphPath.toList.filter (· != "-")) ++ options.catalogPath.toList

/-- Whether some options ask for the graph on the standard input. -/
def Options.readsInput (options : Options) : Bool :=
  options.graphPath.isNone || options.graphPath == some "-"

/-- Read everything that some options name. -/
def Options.surroundings (options : Options) : IO Surroundings := do
  let files ← options.paths.mapM fun path => do
    let content ← readFile path
    return (path, content)
  let input ←
    if options.readsInput then readStream (← IO.getStdin) ByteArray.empty
    else pure ByteArray.empty
  return ⟨.ok input, fun path => (files.lookup path).getD (.error .notFound)⟩

/-- Read everything that a command line names. -/
def surroundingsOf (arguments : List String) : IO Surroundings := do
  match Request.ofArguments arguments with
  | .ok (.compile options) => options.surroundings
  | _ => return ⟨.ok ByteArray.empty, fun _ => .error .notFound⟩

end CommandLine

end PipeGraph

/-- Run the command line on the arguments of the program. -/
def main (arguments : List String) : IO UInt32 := do
  let surroundings ← PipeGraph.CommandLine.surroundingsOf arguments
  let report := PipeGraph.CommandLine.run arguments surroundings
  (← IO.getStderr).putStr report.errorText
  (← IO.getStdout).putStr report.output
  return report.exitCode.toUInt32
