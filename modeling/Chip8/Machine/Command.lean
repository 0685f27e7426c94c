import Chip8.Machine

/-!
# Host operations as data

Everything a host can do to a machine, as one inductive type, so that "any sequence of operations" is a
list and can be quantified over.

* `Command` — one operation with its arguments.
* `Reply` — what it answers.
* `Command.perform` — carries it out.
* `performAll` — carries out a list; an operation that is refused does not end the sequence.
-/

namespace Chip8

/-- What a host can ask for. -/
inductive Command where
  /-- Write a program to program memory. -/
  | load (words : List Int)
  /-- Write the program in a file to program memory. -/
  | loadFile (file : ProgramFile)
  /-- Replace the glyph table. -/
  | loadFont (glyphs : List Int)
  | reset
  | advanceTimers
  /-- Bring the keypad up to date, after a report or without one. -/
  | syncKeys (keys : Option HostReport)
  /-- Press or release a virtual key. -/
  | holdKey (key : Int) (pressed : Bool)
  | step
  | tick (keys : Option HostReport)
  | frame (keys : Option HostReport) (steps : Int)
  | run (frames : Int) (steps : Int) (keys : Option HostReport)
  deriving DecidableEq, Repr

/-- What an operation answers. -/
inductive Reply where
  | nothing
  /-- The key that ended a suspension. -/
  | key (resolved : Option Key)
  /-- The entry of a step. -/
  | entry (entry : Option Entry)
  /-- A number of steps. -/
  | count (steps : Nat)
  /-- The recorded trace. -/
  | trace (entries : List Entry)
  deriving DecidableEq, Repr

namespace Command

/-- Carries out an operation. -/
def perform : Command → Operation Reply
  | load words => do
    Machine.load words
    return .nothing
  | loadFile file => do
    Machine.loadFile file
    return .nothing
  | loadFont glyphs => do
    Machine.loadFont glyphs
    return .nothing
  | reset => do
    Machine.reset
    return .nothing
  | advanceTimers => do
    Machine.advanceTimers
    return .nothing
  | syncKeys keys => return .key (← Machine.syncKeys keys)
  | holdKey key pressed => do
    Machine.holdKey key pressed
    return .nothing
  | step => return .entry (← Machine.step)
  | tick keys => return .entry (← Machine.tick keys)
  | frame keys steps => return .count (← Machine.frame keys steps)
  | run frames steps keys => return .trace (← Machine.run frames steps keys)

end Command

/-- The session after an operation, refused or not. -/
def Session.after {α : Type} (session : Session) (operation : Operation α) : Session :=
  match operation.run session with
  | .ok _ session => session
  | .error _ session => session

/-- The session after a sequence of operations, each of which may have been refused. -/
def Session.performAll (session : Session) (commands : List Command) : Session :=
  commands.foldl (fun session command => session.after command.perform) session

end Chip8
