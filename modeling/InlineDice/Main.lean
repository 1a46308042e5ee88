import InlineDice.CommandLine.Run
import InlineDice.Random.Twister

namespace InlineDice.CommandLine

/-- Reads a stream to its end. -/
partial def readToEnd (stream : IO.FS.Stream) (done : ByteArray) : IO ByteArray := do
  let chunk ← stream.read 65536
  if chunk.isEmpty then return done else readToEnd stream (done ++ chunk)

/-- The failure that the system reports. Some of its numbers come negated. -/
def failureOf : IO.Error → OpenFailure
  | .noFileOrDirectory .. => .missing
  | .inappropriateType _ code details | .invalidArgument _ code details
  | .permissionDenied _ code details | .resourceExhausted _ code details
  | .noSuchThing _ code details | .otherError code details =>
    .ofNumber (min code (0 - code)).toNat details.toList
  | failure => .ofNumber 5 failure.toString.toList

/-- What a command line may read: the standard input and the one file that it names are read before it
runs, and no more than it will ask for. -/
def inputsOf (args : List Text) : IO (Bytes × Opener) := do
  match Arguments.read true args with
  | .ok ⟨_, _, some (.expand (some path) _)⟩ =>
    if path = ['-'] then fromInput
    else
      try
        let bytes ← IO.FS.readBinFile (String.ofList path)
        return ([], fun _ => .ok bytes.toList)
      catch failure => return ([], fun _ => .error (failureOf failure))
  | .ok ⟨_, _, some (.expand none _)⟩ => fromInput
  | _ => return ([], fun _ => .error .missing)
where
  fromInput : IO (Bytes × Opener) := do
    return ((← readToEnd (← IO.getStdin) .empty).toList, fun _ => .error .missing)

/-- A seed for sources of which none is asked for. -/
def freshSeed : IO Int := do
  let bytes ← IO.getRandomBytes 32
  return bytes.toList.foldl (fun n b => 256 * n + (b.toNat : Int)) 0

def exitCode : Ending → UInt32
  | .returned code | .exited code => UInt32.ofNat code
  | .escaped _ => 1

end InlineDice.CommandLine

open InlineDice CommandLine in
/-- Runs a command line on the default settings. The HTTP service is for a web server to run. -/
def main (arguments : List String) : IO UInt32 := do
  let args := arguments.map String.toList
  let (input, openFile) ← inputsOf args
  let fresh ← freshSeed
  let supply : Supply Source := .each fun seed => .ofSeed (seed.getD fresh)
  let decode (bytes : Bytes) := (Utf8.decode bytes).mapError (·.message)
  let outcome := run ⟨Settings.default, supply, input, decode, openFile, true⟩ args
  IO.print (String.ofList outcome.stdout)
  IO.eprint (String.ofList outcome.stderr)
  if let .escaped fault := outcome.ending then
    IO.eprintln (String.ofList fault.message)
  if let some service := outcome.started then
    IO.eprintln ("no web server at hand for " ++ String.ofList service.application)
    return 1
  return exitCode outcome.ending
