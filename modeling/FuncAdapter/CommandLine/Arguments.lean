import FuncAdapter.Text.DecimalDigit
import FuncAdapter.Text.Quoted

/-!
# Command-line arguments

The command takes a source and the name of an interface, in this order, with options before, between
and after them.  Long options may be shortened as long as they stay unambiguous and may carry a
value after an equals sign; short options may be run together, also with an equals sign after the
first of them.

Every argument in front of the end marker is classified before any of them takes effect, so an
ambiguous option is reported first.  Then the arguments take effect from left to right, and a
request for help or for the version ends the reading at once.
-/

namespace FuncAdapter.CommandLine

/-- An option of the command. -/
inductive Choice where
  | help
  | snapshot
  | saveSnapshot
  | verbose
  | version
  deriving DecidableEq, Repr

/-- The spellings of the options, in the order of the help text. -/
def spellings : List (String × Choice) :=
  [("-h", .help), ("--help", .help), ("--snapshot", .snapshot),
    ("--save-snapshot", .saveSnapshot), ("-v", .verbose), ("--verbose", .verbose),
    ("--version", .version)]

/-- The option with exactly this spelling. -/
def choice? (spelling : String) : Option Choice :=
  spellings.lookup spelling

/-- The spellings of one option, joined for messages. -/
def Choice.title (choice : Choice) : String :=
  Text.join "/" ((spellings.filter fun entry => entry.2 = choice).map Prod.fst)

/-- Why the arguments make no command. -/
inductive UsageError where
  | ambiguous (argument : String) (spellings : List String)
  | noValue (choice : Choice)
  | ignoredValue (choice : Choice) (value : String)
  | required (names : List String)
  | unrecognized (arguments : List String)
  deriving DecidableEq, Repr

/-- The words for arguments that make no command. -/
def UsageError.message : UsageError → String
  | .ambiguous argument spellings =>
      "ambiguous option: " ++ argument ++ " could match " ++ Text.join ", " spellings
  | .noValue choice => "argument " ++ choice.title ++ ": expected one argument"
  | .ignoredValue choice value =>
      "argument " ++ choice.title ++ ": ignored explicit argument " ++ Text.quoted value
  | .required names => "the following arguments are required: " ++ Text.join ", " names
  | .unrecognized arguments => "unrecognized arguments: " ++ Text.join " " arguments

/-! ## Classification -/

/-- What follows an option inside its argument. -/
inductive Attached where
  /-- The value after the equals sign of a long option. -/
  | value (text : String)
  /-- The letters of further options after a short one, with or without an equals sign between. -/
  | letters (text : String)
  deriving DecidableEq, Repr

/-- What an argument is, seen by itself. -/
inductive Token where
  | positional (text : String)
  | option (choice : Choice) (attached : Option Attached)
  /-- Looks like an option, but there is no such option. -/
  | unknown (text : String)
  deriving DecidableEq, Repr

/-- The characters in front of the first equals sign, and those after it. -/
def splitEquals (characters : List Char) : List Char × Option (List Char) :=
  (characters.takeWhile (· != '='),
    match characters.dropWhile (· != '=') with
    | [] => none
    | _ :: value => some value)

/-- Whether characters are digits with at most one point, and a digit at the end. -/
def isUnsignedNumber (characters : List Char) : Bool :=
  match characters.dropWhile Text.isDecimalDigit with
  | [] => !characters.isEmpty
  | '.' :: fraction => !fraction.isEmpty && fraction.all Text.isDecimalDigit
  | _ => false

/-- Characters without a newline at their end. -/
def dropNewline (characters : List Char) : List Char :=
  if characters.getLast? = some '\n' then characters.dropLast else characters

/-- Whether an argument with a dash is no option: a negative number or a text with a blank. -/
def isPlain (characters : List Char) : Bool :=
  isUnsignedNumber (dropNewline (characters.drop 1)) || characters.contains ' '

/-- Classify an argument that starts with a dash and is no option. -/
def classifyRest (argument : String) : Token :=
  if isPlain argument.toList then .positional argument else .unknown argument

/-- The options that a shortened spelling may stand for. -/
def completions (spelling : List Char) : List (String × Choice) :=
  spellings.filter fun entry => spelling.isPrefixOf entry.1.toList

/-- Classify an argument that starts with two dashes and is not spelled out. -/
def classifyLong (argument : String) : Except UsageError Token :=
  let (name, value) := splitEquals argument.toList
  match completions name with
  | [] => .ok (classifyRest argument)
  | [(_, choice)] => .ok (.option choice (value.map fun text => .value (String.ofList text)))
  | several => .error (.ambiguous argument (several.map Prod.fst))

/-- Classify an argument that starts with one dash and is not spelled out. -/
def classifyShort (argument : String) : Token :=
  match choice? (String.ofList (argument.toList.take 2)) with
  | some choice => .option choice (some (.letters (String.ofList (argument.toList.drop 2))))
  | none => classifyRest argument

/-- Whether an argument starts with two dashes. -/
def isLong (argument : String) : Bool :=
  argument.toList.take 2 == ['-', '-']

/-- Classify an argument that starts with a dash followed by something. -/
def classifyDashed (argument : String) : Except UsageError Token :=
  let (name, value) := splitEquals argument.toList
  let attach := if isLong argument then Attached.value else Attached.letters
  match choice? (String.ofList name) with
  | some choice => .ok (.option choice (value.map fun text => attach (String.ofList text)))
  | none => if isLong argument then classifyLong argument else .ok (classifyShort argument)

/-- Classify an argument in front of the end marker. -/
def classify (argument : String) : Except UsageError Token :=
  match argument.toList with
  | '-' :: _ :: _ => classifyDashed argument
  | _ => .ok (.positional argument)

/-- Classify arguments in order. -/
def classifyAll : List String → Except UsageError (List Token)
  | [] => .ok []
  | argument :: arguments => do
      let token ← classify argument
      let tokens ← classifyAll arguments
      return token :: tokens

/-- The argument after which no argument is an option. -/
def endMarker : String := "--"

/-- The arguments in front of the end marker, and those after it if there is one. -/
def splitMarker : List String → List String × Option (List String)
  | [] => ([], none)
  | argument :: arguments =>
      if argument = endMarker then
        ([], some arguments)
      else
        let (front, back) := splitMarker arguments
        (argument :: front, back)

/-! ## Effects -/

/-- What the arguments so far amount to. -/
structure Progress where
  source : Option String
  interface : Option String
  snapshot : Bool
  verbose : Bool
  savePath : Option String
  /-- Arguments that nothing takes. -/
  extras : List String
  /-- Whether the last argument was taken as the source or the interface. -/
  placed : Bool
  deriving DecidableEq, Repr

/-- Why the reading of arguments ends early. -/
inductive Stop where
  | help
  | version
  | misuse (error : UsageError)
  deriving DecidableEq, Repr

namespace Progress

/-- The state before the first argument. -/
def start : Progress := ⟨none, none, false, false, none, [], false⟩

/-- Take an argument as the source, else as the interface, else as one too many. -/
def place (progress : Progress) (argument : String) : Progress :=
  match progress.source, progress.interface with
  | none, _ => { progress with source := some argument, placed := true }
  | some _, none => { progress with interface := some argument, placed := true }
  | some _, some _ =>
      { progress with extras := progress.extras ++ [argument], placed := false }

/-- Put arguments aside that nothing takes. -/
def reject (progress : Progress) (arguments : List String) : Progress :=
  { progress with extras := progress.extras ++ arguments, placed := false }

/-- Give the path of the snapshot to write. -/
def saveTo (progress : Progress) (path : String) : Progress :=
  { progress with savePath := some path, placed := false }

/-- Let an option without a value take effect. -/
def switch (progress : Progress) : Choice → Except Stop Progress
  | .help => .error .help
  | .version => .error .version
  | .snapshot => .ok { progress with snapshot := true, placed := false }
  | .verbose => .ok { progress with verbose := true, placed := false }
  | .saveSnapshot => .error (.misuse (.noValue .saveSnapshot))

/-- Let options without a value take effect one after another. -/
def switchAll (progress : Progress) : List Choice → Except Stop Progress
  | [] => .ok progress
  | choice :: choices => do
      let progress ← progress.switch choice
      progress.switchAll choices

end Progress

/--
A short option and those run together with it.  Letters from one on that stands for no option are a
value that the option in front of them does not take; so is the absence of letters.
-/
def bundled (first : Choice) : List Char → Except UsageError (List Choice)
  | [] => .error (.ignoredValue first "")
  | letter :: rest =>
      match choice? (String.ofList ['-', letter]) with
      | none => .error (.ignoredValue first (String.ofList (letter :: rest)))
      | some next =>
          if rest.isEmpty then .ok [first, next] else (bundled next rest).map (first :: ·)

/-- A value as it is taken; the end marker stands for an empty value. -/
def valueOf (argument : String) : String :=
  if argument = endMarker then "" else argument

/-- Let an option take effect together with what is attached to it. -/
def takeAttached (progress : Progress) (choice : Choice) (attached : Attached) :
    Except Stop Progress :=
  match choice, attached with
  | .saveSnapshot, .value text => .ok (progress.saveTo (valueOf text))
  | _, .value text => .error (.misuse (.ignoredValue choice text))
  | _, .letters text => do
      let choices ← (bundled choice text.toList).mapError Stop.misuse
      progress.switchAll choices

/-- Let arguments take effect from left to right. -/
def takeTokens (progress : Progress) : List Token → Except Stop Progress
  | [] => .ok progress
  | .positional text :: tokens => takeTokens (progress.place text) tokens
  | .unknown text :: tokens => takeTokens (progress.reject [text]) tokens
  | .option choice (some attached) :: tokens => do
      let progress ← takeAttached progress choice attached
      takeTokens progress tokens
  | .option .saveSnapshot none :: .positional path :: tokens =>
      takeTokens (progress.saveTo path) tokens
  | .option choice none :: tokens => do
      let progress ← progress.switch choice
      takeTokens progress tokens

/--
Let the arguments after the end marker take effect.  The marker goes with the source or interface
right before it, or else with the one right after it, which is then taken as it is.  A marker that
goes with neither is an argument too many.
-/
def takeRest (progress : Progress) (arguments : List String) : Progress :=
  match progress.source, progress.interface, arguments with
  | some _, some _, _ =>
      progress.reject (if progress.placed then arguments else endMarker :: arguments)
  | some _, none, argument :: others =>
      (progress.place (if progress.placed then valueOf argument else argument)).reject others
  | none, _, first :: second :: others =>
      ((progress.place first).place (valueOf second)).reject others
  | none, _, [first] => progress.place first
  | _, _, [] => progress

/-- A run of the command, as the arguments ask for it. -/
structure Invocation where
  source : String
  interface : String
  snapshot : Bool
  verbose : Bool
  savePath : Option String
  deriving DecidableEq, Repr

/-- The run that arguments amount to once all have taken effect. -/
def Progress.finish (progress : Progress) : Except Stop Invocation :=
  match progress.source, progress.interface with
  | some source, some interface =>
      if progress.extras.isEmpty then
        .ok ⟨source, interface, progress.snapshot, progress.verbose, progress.savePath⟩
      else
        .error (.misuse (.unrecognized progress.extras))
  | some _, none => .error (.misuse (.required ["interface"]))
  | none, _ => .error (.misuse (.required ["source", "interface"]))

/-- The run that arguments ask for. -/
def parse (arguments : List String) : Except Stop Invocation := do
  let (front, back) := splitMarker arguments
  let tokens ← (classifyAll front).mapError Stop.misuse
  let progress ← takeTokens Progress.start tokens
  match back with
  | none => progress.finish
  | some rest => (takeRest progress rest).finish

end FuncAdapter.CommandLine
