import E2Node.Launch.Program

namespace E2Node.CommandLine

def filterVariable : String := "RUST_LOG"

def contentOf (name : String) : IO (Option (List UInt8)) := do
  try
    return some (← IO.FS.readBinFile name).toList
  catch _ =>
    return none

def printLines (out : IO.FS.Stream) (lines : List LogLine) : IO Unit := do
  for l in lines do
    out.putStrLn s!"{l.level.name} {Program.part}: {l.message}"
  out.flush

partial def awaitEnd (input : IO.FS.Stream) : IO Unit := do
  unless (← input.getLine).isEmpty do
    awaitEnd input

end E2Node.CommandLine

open E2Node E2Node.CommandLine in
def main (args : List String) : IO UInt32 := do
  let content ← match Invocation.ofArguments args with
    | .run o => contentOf o.configName
    | _ => pure none
  let surroundings : Program.Surroundings :=
    ⟨fun _ => content, ← IO.getEnv filterVariable, Peer.absent, 0⟩
  let course := Program.run surroundings args
  let out ← IO.getStdout
  match course with
  | .printed text => out.putStr text
  | .refused => (← IO.getStderr).putStrLn "error: the arguments cannot be understood"
  | .failed log error =>
      printLines out log
      (← IO.getStderr).putStrLn error
  | .aborted log =>
      printLines out log
      (← IO.getStderr).putStrLn LaunchError.noRoom.message
  | .running log later =>
      printLines out log
      awaitEnd (← IO.getStdin)
      printLines out later
  return course.exitCode.toUInt32
