import Chip8.CommandLine.Conventional
import Chip8.Filter
import Chip8.Launch

/-!
# The program

Reads the command line, the program file and the environment, and writes what the
start has come to. There is no window to run a machine in, so a start that is ready
ends with an error.
-/

namespace Chip8.Program

/-- How the program is used. -/
def usage : List String :=
  ["Usage: " ++ programName ++ " [OPTIONS] <ROM>", "",
    "  --scale <N>             window pixels per screen pixel, 1 to 100",
    "  --cycles-per-frame <N>  instructions executed per frame",
    "  --seed <N>              fixed seed for random bytes",
    "  --any-pixel-collision   report a collision when any pixel is erased",
    "  --disassemble           print the program as instructions and exit",
    "  -h, --help              print this text"]

/-- The cause of a failure to read a file. -/
def readError (error : IO.Error) : ReadError :=
  match error with
  | .noFileOrDirectory .. => .notFound
  | .inappropriateType _ code _ => if code = 20 then .notDirectory else .isDirectory
  | .permissionDenied _ code message => .system code.toNat "PermissionDenied" message
  | other => .reported (toString other)

/-- The bytes of a file. -/
def readFile (name : String) : IO (Except ReadError (List UInt8)) := do
  try
    return .ok (← IO.FS.readBinFile name).toList
  catch error =>
    return .error (readError error)

/-- Writes a report and gives its exit code. -/
def write (report : Report) : IO UInt32 := do
  report.output.forM fun line => IO.println line
  report.errors.forM fun line => IO.eprintln line
  return .ofNat report.code

/-- Bytes that the system draws at random, for a machine without a seed. -/
def entropy : IO Noise := do
  let seed ← IO.getRandomBytes 8
  return .ofSeed (seed.toList.foldl (fun n b => n * 256 + b.toUInt64) 0)

end Chip8.Program

/-- The entry of the program. -/
def main (args : List String) : IO UInt32 := do
  let setting ← IO.getEnv "RUST_LOG"
  let shown := ((setting.map Chip8.Filter.ofText).getD {}).selection
  match Chip8.CommandLine.conventional.parse (args.map .ofText) with
  | .error .help =>
    Chip8.Program.write
      { code := 0, output := Chip8.Program.usage, errors := shown.warnings }
  | .error _ =>
    Chip8.Program.write { code := 2, errors := shown.warnings ++ Chip8.Program.usage }
  | .ok arguments =>
    let file ← Chip8.Program.readFile arguments.rom.shown
    let noise ← Chip8.Program.entropy
    match Chip8.Launch.start shown Chip8.programName arguments noise file with
    | .ended report => Chip8.Program.write report
    | .ready _ journal =>
      Chip8.Program.write { code := 1, errors := journal ++ ["Error: there is no window"] }
