import Chip8.CommandLine.Runner

/-!
# The command

Looks up the program file, runs the command line and prints what it left: the text to standard output and
the log to standard error.
-/

/-- Whether a number that the system gave for an error, with either sign, is this one. -/
def Chip8.CommandLine.isCode (given code : UInt32) : Bool := given == code || given == 0 - code

/-- What a plain file name leads to.  What cannot be read counts as missing. -/
def Chip8.CommandLine.lookUp (name : String) : IO Chip8.ProgramFile := do
  try
    return .regular (← IO.FS.readBinFile name).toList
  catch error =>
    match error with
    | .inappropriateType _ code _ => return if isCode code 21 then .directory else .missing
    | .invalidArgument _ code _ => return if isCode code 36 then .nameTooLong else .missing
    | _ => return .missing

/-- The command. -/
def main (args : List String) : IO UInt32 := do
  let name := match Chip8.CommandLine.Options.read args with
    | .ok options => options.program
    | .error _ => ""
  let file ← Chip8.CommandLine.lookUp (Chip8.CommandLine.plainName name)
  let entropy ← IO.rand 0 0xFFFFFFFF
  match Chip8.CommandLine.runLine args (fun _ => file) entropy with
  | .error error =>
    IO.eprintln s!"Error: {error.message}"
    return 1
  | .ok outcome =>
    if outcome.exitCode = Chip8.CommandLine.refusedCode then IO.eprint outcome.output
    else IO.print outcome.output
    for line in outcome.log do
      IO.eprintln line.render
    return UInt32.ofNat outcome.exitCode
