import Chip8.Error

/-!
# Command-line options

The runner takes one program file and some options.  Words are read from left to right by the usual
conventions:

* a long option may be abbreviated as long as it stays unique, and may have its value attached after
  an equals sign;
* short options may be joined, the last of them with its value attached; an equals sign directly
  behind the first of them is dropped, any other belongs to the value;
* `--` ends the options; attached to an option that takes a value it stands for no value, and the option
  is left blank;
* a negative number is an argument and never an option, and so is a word with a blank in it that no
  option accounts for.

`Options.read` applies them.  A word that fits nowhere refuses the whole line.

* `Amount` — what an option that takes an integer stands at.
* `OptionRule`, `optionRules` — the options that exist.
* `Word.classify` — what one word is.
* `Options.read` — the whole line.
-/

namespace Chip8.CommandLine

/-! ## What can be asked for -/

/-- What an option that takes an integer stands at. -/
inductive Amount where
  | number (value : Int)
  /-- The option was left blank. -/
  | blank
  deriving DecidableEq, Repr

/-- The number, where one is needed. -/
def Amount.value (option : String) : Amount → Except Error Int
  | .number value => .ok value
  | .blank => .error (.blankOption option)

/-- The options of one run. -/
structure Options where
  /-- The program file. -/
  program : String := ""
  frames : Amount := .number 60
  frameSteps : Amount := .number defaultFrameSteps
  seed : Option Amount := none
  /-- Names of the host keys that are held for the whole run. -/
  keys : List String := []
  trace : Bool := false
  quiet : Bool := false
  debug : Bool := false
  help : Bool := false
  deriving DecidableEq, Repr

/-- Why a line is refused. -/
inductive Refusal where
  | unknownOption (word : String)
  | ambiguousOption (word : String)
  | missingValue (option : String)
  | unexpectedValue (option : String)
  | invalidInteger (option : String) (text : String)
  | extraArgument (word : String)
  | missingProgram
  | negativeCount
  deriving DecidableEq, Repr

/-- The text of a refusal. -/
def Refusal.message : Refusal → String
  | unknownOption word => s!"unknown option {word}"
  | ambiguousOption word => s!"ambiguous option {word}"
  | missingValue option => s!"option {option} needs a value"
  | unexpectedValue option => s!"option {option} takes no value"
  | invalidInteger option text => s!"option {option} needs an integer, not {text}"
  | extraArgument word => s!"unexpected argument {word}"
  | missingProgram => "no program file given"
  | negativeCount => "frames and steps per frame must not be negative"

/-- What follows an option. -/
inductive Arity where
  /-- Nothing; the option is set. -/
  | flag (set : Options → Options)
  /-- One integer. -/
  | integer (set : Amount → Options → Options)
  /-- All arguments up to the next option; a repetition starts afresh. -/
  | names

/-- An option. -/
structure OptionRule where
  long : String
  short : Option Char
  arity : Arity

/-- The options that exist. -/
def optionRules : List OptionRule :=
  [⟨"--help", some 'h', .flag fun options => { options with help := true }⟩,
   ⟨"--frames", some 'f', .integer fun amount options => { options with frames := amount }⟩,
   ⟨"--steps-per-frame", some 's',
    .integer fun amount options => { options with frameSteps := amount }⟩,
   ⟨"--seed", none, .integer fun amount options => { options with seed := some amount }⟩,
   ⟨"--keys", some 'k', .names⟩,
   ⟨"--trace", some 't', .flag fun options => { options with trace := true }⟩,
   ⟨"--quiet", some 'q', .flag fun options => { options with quiet := true }⟩,
   ⟨"--debug", none, .flag fun options => { options with debug := true }⟩]

/-! ## What one word is -/

/-- A value attached to an option in the same word. -/
inductive Attachment where
  /-- Nothing is attached. -/
  | nothing
  /-- Text after the equals sign of a long option. -/
  | value (text : String)
  /-- Text behind a short option, an equals sign directly behind the option left out. -/
  | joined (text : List Char)

/-- What one word is. -/
inductive Word where
  | argument (text : String)
  /-- The first `--`. -/
  | separator
  | option (rule : OptionRule) (attachment : Attachment)

/-- Splits a word at its first equals sign. -/
def splitAtEquals (cs : List Char) : List Char × Option (List Char) :=
  match cs.dropWhile (· != '=') with
  | [] => (cs, none)
  | _ :: value => (cs.takeWhile (· != '='), some value)

/-- The attachment of a long option, given the text after the equals sign if there was one. -/
def Attachment.ofValue : Option (List Char) → Attachment
  | some cs => .value (String.ofList cs)
  | none => .nothing

/-- The option with a short name. -/
def shortRule? (c : Char) : Option OptionRule := optionRules.find? fun rule => rule.short == some c

/-- The option that is spelled out in full. -/
def exactRule? (cs : List Char) : Option OptionRule :=
  match cs with
  | ['-', c] => shortRule? c
  | _ => optionRules.find? fun rule => rule.long.toList == cs

/-- Whether a word is a negative number: a minus sign, then digits, or digits with a point in front of
or among them.  A final line break does not count. -/
def isNegativeNumber (word : String) : Bool :=
  let isDigit := fun c => (Text.digitValue? c).isSome
  match word.toList with
  | '-' :: cs =>
    let cs := if cs.getLast? == some '\n' then cs.dropLast else cs
    match cs.dropWhile isDigit with
    | [] => !cs.isEmpty
    | '.' :: fraction => !fraction.isEmpty && fraction.all isDigit
    | _ => false
  | _ => false

/-- A word that is neither an option in full nor an abbreviation. -/
def classifyRest (word : String) : Except Refusal Word :=
  if isNegativeNumber word || word.contains ' ' then .ok (.argument word)
  else .error (.unknownOption word)

/-- What a word with a leading minus sign is, which no option spells exactly. -/
def classifyDashed (word : String) : Except Refusal Word :=
  let (name, value) := splitAtEquals word.toList
  match (if value.isSome then exactRule? name else none), word.toList with
  | some rule, '-' :: '-' :: _ => .ok (.option rule (.ofValue value))
  | some rule, _ => .ok (.option rule (.joined (value.getD [])))
  | none, '-' :: '-' :: _ =>
    match optionRules.filter fun rule => name.isPrefixOf rule.long.toList with
    | [] => classifyRest word
    | [rule] => .ok (.option rule (.ofValue value))
    | _ => .error (.ambiguousOption word)
  | none, '-' :: c :: rest =>
    match shortRule? c with
    | some rule => .ok (.option rule (.joined rest))
    | none => classifyRest word
  | none, _ => .ok (.argument word)

/-- What a word in front of the separator is. -/
def Word.classify (word : String) : Except Refusal Word :=
  match word.toList with
  | ['-', '-'] => .ok .separator
  | '-' :: _ =>
    match exactRule? word.toList with
    | some rule => .ok (.option rule .nothing)
    | none => classifyDashed word
  | _ => .ok (.argument word)

/-- What the words of a line are.  Behind the separator all are arguments. -/
def classifyAll : List String → Except Refusal (List Word)
  | [] => .ok []
  | word :: rest => do
    match ← Word.classify word with
    | .separator => return .separator :: rest.map .argument
    | other => return other :: (← classifyAll rest)

/-! ## Reading a line -/

/-- What the next argument is for. -/
inductive Expecting where
  /-- It is the program, or one too many. -/
  | program
  /-- The program was the previous word. -/
  | afterProgram
  /-- It is the value of an option. -/
  | value (option : String) (set : Amount → Options → Options)
  /-- It is another key name. -/
  | names

/-- A line that has been read up to some word. -/
structure Progress where
  options : Options := {}
  hasProgram : Bool := false
  expecting : Expecting := .program

namespace Progress

/-- Sets an integer. -/
def setInteger (progress : Progress) (option : String) (set : Amount → Options → Options)
    (text : String) : Except Refusal Progress :=
  match Text.readInt? text with
  | some value =>
    .ok { progress with options := set (.number value) progress.options, expecting := .program }
  | none => .error (.invalidInteger option text)

/-- Reads an argument. -/
def argument (progress : Progress) (text : String) : Except Refusal Progress :=
  match progress.expecting with
  | .value option set => progress.setInteger option set text
  | .names =>
    .ok { progress with
      options := { progress.options with keys := progress.options.keys ++ [text] } }
  | .program | .afterProgram =>
    if progress.hasProgram then .error (.extraArgument text)
    else
      .ok { progress with
        options := { progress.options with program := text }
        hasProgram := true
        expecting := .afterProgram }

/-- Reads the separator.  It may stand before the program or directly after it. -/
def separator (progress : Progress) : Except Refusal Progress :=
  match progress.expecting with
  | .value option _ => .error (.missingValue option)
  | .afterProgram => .ok progress
  | .names | .program =>
    if progress.hasProgram then .error (.extraArgument "--")
    else .ok { progress with expecting := .program }

/-- The attached text that leaves an option blank. -/
def blankText : String := "--"

/-- Applies an option that has its value, or that has nothing attached. -/
def apply (progress : Progress) (rule : OptionRule) (value : Option String) :
    Except Refusal Progress :=
  match rule.arity, value with
  | .flag set, none =>
    .ok { progress with options := set progress.options, expecting := .program }
  | .flag _, some _ => .error (.unexpectedValue rule.long)
  | .integer set, none => .ok { progress with expecting := .value rule.long set }
  | .integer set, some text =>
    if text = blankText then
      .ok { progress with options := set .blank progress.options, expecting := .program }
    else progress.setInteger rule.long set text
  | .names, none =>
    .ok { progress with options := { progress.options with keys := [] }, expecting := .names }
  | .names, some text =>
    let keys := if text = blankText then [] else [text]
    .ok { progress with options := { progress.options with keys }, expecting := .program }

/-- Applies a short option with text attached.  The text is the value of an option that takes one;
behind a flag it names the next option, which has the rest of the text attached if there is any. -/
def applyJoined (progress : Progress) (rule : OptionRule) (text : List Char) :
    Except Refusal Progress :=
  match rule.arity, text with
  | .flag _, [] => .error (.unexpectedValue rule.long)
  | .flag _, c :: rest => do
    let progress ← progress.apply rule none
    match shortRule? c, rest with
    | none, _ => .error (.unknownOption (String.ofList ['-', c]))
    | some next, [] => progress.apply next none
    | some next, _ => progress.applyJoined next rest
  | _, _ => progress.apply rule (some (String.ofList text))

/-- Reads an option.  One that still expects its value gets none. -/
def option (progress : Progress) (rule : OptionRule) (attachment : Attachment) :
    Except Refusal Progress :=
  match progress.expecting, attachment with
  | .value option _, _ => .error (.missingValue option)
  | _, .nothing => progress.apply rule none
  | _, .value text => progress.apply rule (some text)
  | _, .joined text => progress.applyJoined rule text

/-- Reads a word. -/
def word (progress : Progress) : Word → Except Refusal Progress
  | .argument text => progress.argument text
  | .separator => progress.separator
  | .option rule attachment => progress.option rule attachment

/-- What has been read, once the line has ended. -/
def finish (progress : Progress) : Except Refusal Options :=
  match progress.expecting with
  | .value option _ => .error (.missingValue option)
  | _ =>
    if progress.options.help || progress.hasProgram then .ok progress.options
    else .error .missingProgram

end Progress

/-- Reads a command line. -/
def Options.read (line : List String) : Except Refusal Options := do
  let words ← classifyAll line
  let progress ← words.foldlM Progress.word {}
  progress.finish

end Chip8.CommandLine
