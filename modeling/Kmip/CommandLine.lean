import Kmip.Inspection

/-!
# Command line

`[HEX] [--lenient] [--max-depth N]` inspects a message, or, when none is given, every line of the
input that is not blank. Two variables of the environment stand in for the options. The run succeeds
when every message could be displayed.

Arguments are looked at from left to right, and the first that asks for the version or for help, or
that cannot be admitted, decides.
-/

namespace Kmip.CommandLine

/-- What the arguments say about a run. -/
structure Options where
  /-- The message to inspect. -/
  message : Option String := none
  lenient : Bool := false
  maxDepth : Option Nat := none
deriving DecidableEq, Repr

/-- The variables of the environment that stand in for options. -/
structure Environment where
  lenient : Option String := none
  maxDepth : Option String := none
deriving DecidableEq, Repr

/-- What is asked for. -/
inductive Request where
  | version
  | help
  /-- Something that cannot be admitted. -/
  | refused
  /-- To inspect messages. -/
  | inspect (config : Config) (message : Option String)
deriving DecidableEq, Repr

/-- The number that decimal digits spell, after an optional plus sign; it must fit 64 bits. -/
def number? (text : String) : Option Nat := do
  let digits := match text.toList with
    | '+' :: digits => digits
    | digits => digits
  let n ← Decimal.nat? digits
  guard (n < 18446744073709551616)
  pure n

/-- The truth value of a text. -/
def truth? (text : String) : Option Bool :=
  if text = "true" then some true else if text = "false" then some false else none

/-- What stands behind a name and an equals sign. -/
def valueOf? (name argument : String) : Option String :=
  let start := name.toList ++ ['=']
  if start.isPrefixOf argument.toList then
    some (String.ofList (argument.toList.drop start.length))
  else none

/-- What an argument asks for on its own. Letters behind that of a short option do not matter. -/
def asked? (argument : String) : Option Request :=
  if argument = "--version" then some .version
  else if argument = "--help" then some .help
  else
    match argument.toList with
    | '-' :: 'V' :: _ => some .version
    | '-' :: 'h' :: _ => some .help
    | _ => none

/-- Whether an argument is the name of an option, and no value: it starts with a dash, and is more
than that dash. -/
def isOption (argument : String) : Bool :=
  match argument.toList with
  | '-' :: _ :: _ => true
  | _ => false

namespace Options

/-- The options with the message to inspect, of which there can be only one. -/
def withMessage? (options : Options) (message : String) : Option Options :=
  if options.message.isSome then none else some { options with message := some message }

/-- The options with a depth, which can be given only once. -/
def withMaxDepth? (options : Options) (text : String) : Option Options := do
  guard options.maxDepth.isNone
  let depth ← number? text
  pure { options with maxDepth := some depth }

/-- The options with leniency, which can be asked for only once. -/
def withLenient? (options : Options) : Option Options :=
  if options.lenient then none else some { options with lenient := true }

/-- The options with further arguments, none of which is an option. -/
def withMessages? (options : Options) : List String → Option Options
  | [] => some options
  | message :: rest => do (← options.withMessage? message).withMessages? rest

/-- What the options and the environment ask for. An option is preferred to its variable. -/
def request (options : Options) (environment : Environment) : Request :=
  let lenient? := if options.lenient then some true else environment.lenient.elim (some false) truth?
  let maxDepth? := match options.maxDepth with
    | some depth => some depth
    | none => environment.maxDepth.elim (some Config.strict.maxDepth) number?
  match lenient?, maxDepth? with
  | some lenient, some maxDepth =>
    .inspect { unknownTags := if lenient then .skip else .reject, maxDepth } options.message
  | _, _ => .refused

end Options

/-- The options with an argument that is no option of its own: a depth behind its name, or the
message. -/
def Options.withArgument? (options : Options) (argument : String) : Option Options :=
  match valueOf? "--max-depth" argument with
  | some text => options.withMaxDepth? text
  | none => if isOption argument then none else options.withMessage? argument

/-- What arguments ask for, behind those that gave `options`. -/
def requestFrom (environment : Environment) (options : Options) : List String → Request
  | [] => options.request environment
  | "--" :: rest => (options.withMessages? rest).elim .refused (Options.request · environment)
  | "--lenient" :: rest =>
    match options.withLenient? with
    | some options => requestFrom environment options rest
    | none => .refused
  | ["--max-depth"] => .refused
  | "--max-depth" :: text :: rest =>
    if isOption text then .refused
    else
      match options.withMaxDepth? text with
      | some options => requestFrom environment options rest
      | none => .refused
  | argument :: rest =>
    match asked? argument, options.withArgument? argument with
    | some request, _ => request
    | none, some options => requestFrom environment options rest
    | none, none => .refused

/-- What a run leaves: the code with which it ends, and what it displays. -/
structure Outcome where
  exitCode : Nat
  output : List Char
deriving DecidableEq, Repr

/-- What is displayed of a message, the failure included, and whether there was none. -/
def inspected (config : Config) (message : String) : List Char × Bool :=
  match Inspection.message config message [] with
  | .ok _ displayed => (displayed, true)
  | .error failure displayed =>
    (displayed ++ "ERROR: ".toList ++ failure.message.toList ++ ['\n'], false)

/-- The lines of an input, without the characters that end them. -/
def linesFrom (line : Bytes) : Bytes → List Bytes
  | [] => if line.isEmpty then [] else [line.reverse]
  | byte :: rest =>
    if byte = 10 then line.reverse :: linesFrom [] rest else linesFrom (byte :: line) rest

/-- Inspects a message a line, as far as the first line that is no text. -/
def inspectLines (config : Config) : List Bytes → List Char × Bool
  | [] => ([], true)
  | line :: rest =>
    match Utf8.decode line with
    | .error _ => ("ERROR reading input: stream did not contain valid UTF-8\n".toList, false)
    | .ok text =>
      let message := Text.trim text.toList
      let (shown, succeeded) :=
        if message.isEmpty then ([], true) else inspected config (String.ofList message)
      let (more, allSucceeded) := inspectLines config rest
      (shown ++ more, succeeded && allSucceeded)

/-- How the program is called. -/
def usage : String :=
  "Usage: kmip_ttlv [OPTIONS] [HEX]\n\n" ++
    "Options:\n" ++
    "      --lenient                pass over tags that a record does not declare\n" ++
    "      --max-depth <MAX_DEPTH>  how deep structures may be nested\n" ++
    "  -h, --help                   print help\n" ++
    "  -V, --version                print version\n"

/-- A run. The input is looked at only when no message is given. -/
def run (arguments : List String) (environment : Environment) (input : Bytes) : Outcome :=
  match requestFrom environment {} arguments with
  | .version => ⟨0, "kmip_ttlv 0.1.0\n".toList⟩
  | .help => ⟨0, usage.toList⟩
  | .refused => ⟨2, []⟩
  | .inspect config message =>
    let (output, succeeded) := match message with
      | some message => inspected config message
      | none => inspectLines config (linesFrom [] input)
    ⟨if succeeded then 0 else 1, output⟩

end Kmip.CommandLine
