import RowQuery.Command.Run

/-!
# The program

Reads what a command needs from outside, runs it, and writes what it leaves behind: its
answer to standard output, its log and its failure to standard error.
-/

namespace RowQuery

/-- Why something could not be read, with the number the system gives to the reason. -/
def failureText : IO.Error → String
  | .noFileOrDirectory _ _ _ => "No such file or directory (os error 2)"
  | .permissionDenied _ _ _ => "Permission denied (os error 13)"
  | .inappropriateType _ _ _ => "Is a directory (os error 21)"
  | error => toString error

/-- Reads from outside, holding on to the reason if that fails. -/
def contentOf (read : IO ByteArray) : IO Content := do
  try
    pure (.ok (← read))
  catch error => pure (.error (failureText error))

/-- What the program says about a command line that does not lead to a command. -/
def Refusal.message : Refusal → String
  | .noCommand => "a command is required: compile, explain or shape"
  | .unknownCommand => "unknown command"
  | .unknownArgument => "unexpected argument"
  | .missingPath => "a value is required for --config"
  | .repeatedPath => "--config cannot be used more than once"
  | .surplusValue => "an option was given a value that it does not take"
  | .helpRequested => "usage: (compile | explain | shape) [--config PATH]"
  | .versionRequested => "0.1.0"

/-- Tells why there is no command to run, and gives the exit code. -/
def refuse (refusal : Refusal) : IO UInt32 := do
  if refusal = .helpRequested ∨ refusal = .versionRequested then
    IO.println refusal.message
    pure 0
  else
    IO.eprintln refusal.message
    pure 2

/--
Runs what a command line asks for, and gives the exit code. If the configuration cannot
be used, no input is waited for.
-/
def perform (invocation : Invocation) : IO UInt32 := do
  let file ← invocation.configPath.mapM fun (path : String) => do
    let content ← contentOf (IO.FS.readBinFile path)
    pure (path, content)
  let input ←
    match (Config.load file).result with
    | .ok _ => contentOf do (← IO.getStdin).readBinToEnd
    | .error _ => pure (.ok ByteArray.empty)
  let outcome := invocation.command.run file input
  outcome.log.forM fun line => IO.eprintln line
  IO.print outcome.output
  match outcome.result with
  | .ok _ => pure ()
  | .error error => IO.eprintln error.display
  pure outcome.exitCode

end RowQuery

/-- Runs the command that the arguments ask for, or says why there is none. -/
def main (arguments : List String) : IO UInt32 :=
  match RowQuery.Invocation.read arguments with
  | .ok invocation => RowQuery.perform invocation
  | .error refusal => RowQuery.refuse refusal
