/-!
# Command line options

Arguments are read from left to right.  Short options can be joined behind one
dash, the last of them with its value attached; long options take a value
behind an equals sign or as the next argument.  A lone double dash ends the
options.  The first fault ends the reading, as does a request for the version
or for help.
-/

namespace PipeGraph

namespace CommandLine

/-- What is printed after a successful compilation. -/
inductive Emission where
  | source
  | inputTree
  | syntaxTree
  deriving DecidableEq, Repr

/-- The emission of a given name. -/
def Emission.ofName? : String → Option Emission
  | "source" => some .source
  | "input-tree" => some .inputTree
  | "syntax-tree" => some .syntaxTree
  | _ => none

/-- The options that take a value. -/
inductive ValueOption where
  | emit
  | typeMap
  | catalog
  deriving DecidableEq, Repr

/-- The options that take none. -/
inductive Switch where
  | strictPipes
  | verbose
  | version
  | help
  deriving DecidableEq, Repr

/-- An option by what it takes. -/
inductive KnownOption where
  | taking (option : ValueOption)
  | plain (switch : Switch)
  deriving DecidableEq, Repr

/-- The option of a long name. -/
def KnownOption.ofLong? : String → Option KnownOption
  | "emit" => some (.taking .emit)
  | "type-map" => some (.taking .typeMap)
  | "catalog" => some (.taking .catalog)
  | "strict-pipes" => some (.plain .strictPipes)
  | "verbose" => some (.plain .verbose)
  | "version" => some (.plain .version)
  | "help" => some (.plain .help)
  | _ => none

/-- The option of a short name. -/
def KnownOption.ofShort? : Char → Option KnownOption
  | 'e' => some (.taking .emit)
  | 't' => some (.taking .typeMap)
  | 'c' => some (.taking .catalog)
  | 'v' => some (.plain .verbose)
  | 'V' => some (.plain .version)
  | 'h' => some (.plain .help)
  | _ => none

/-- What the arguments read so far have chosen. -/
structure Choices where
  graphPath : Option String
  emission : Option Emission
  typeMappings : List (String × String)
  strictPipes : Bool
  catalogPath : Option String
  verbosity : Nat
  deriving DecidableEq, Repr

/-- Nothing chosen yet. -/
def Choices.initial : Choices := ⟨none, none, [], false, none, 0⟩

/-- Why the arguments cannot be read. -/
inductive UsageFault where
  | unknownOption (name : String)
  | repeated (name : String)
  | missingValue (option : ValueOption)
  | invalidValue (option : ValueOption) (value : String)
  | unexpectedValue (name : String)
  | unexpectedArgument (argument : String)
  deriving DecidableEq, Repr

/-- The long name of an option that takes a value. -/
def ValueOption.name : ValueOption → String
  | emit => "emit"
  | typeMap => "type-map"
  | catalog => "catalog"

/-- The wording of a usage fault. -/
def UsageFault.message : UsageFault → String
  | unknownOption name => "unknown option '" ++ name ++ "'"
  | repeated name => "option '" ++ name ++ "' is given more than once"
  | missingValue option => "option '" ++ option.name ++ "' needs a value"
  | invalidValue option value =>
      "'" ++ value ++ "' is not a value of option '" ++ option.name ++ "'"
  | unexpectedValue name => "option '" ++ name ++ "' takes no value"
  | unexpectedArgument argument =>
      "unexpected argument '" ++ argument ++ "'"

/-- A text split at its first equals sign, when it has one. -/
def splitAtEquals? (text : List Char) : Option (List Char × List Char) :=
  match text.dropWhile (· != '=') with
  | [] => none
  | _ :: rest => some (text.takeWhile (· != '='), rest)

/-- A type mapping, written as two names around an equals sign. -/
def typeMapping? (value : String) : Option (String × String) :=
  (splitAtEquals? value.toList).map fun (userType, canonicalType) =>
    (String.ofList userType, String.ofList canonicalType)

namespace Choices

/-- Take a value for an option. -/
def take (choices : Choices) (option : ValueOption) (value : String) :
    Except UsageFault Choices :=
  match option with
  | .emit =>
      match choices.emission, Emission.ofName? value with
      | some _, _ => .error (.repeated "emit")
      | none, none => .error (.invalidValue option value)
      | none, some emission => .ok { choices with emission := some emission }
  | .typeMap =>
      match typeMapping? value with
      | none => .error (.invalidValue option value)
      | some mapping =>
          .ok { choices with typeMappings := choices.typeMappings ++ [mapping] }
  | .catalog =>
      match choices.catalogPath with
      | some _ => .error (.repeated "catalog")
      | none => .ok { choices with catalogPath := some value }

/-- Take an argument that is not an option. -/
def takePath (choices : Choices) (path : String) :
    Except UsageFault Choices :=
  match choices.graphPath with
  | some _ => .error (.unexpectedArgument path)
  | none => .ok { choices with graphPath := some path }

end Choices

/-- What one argument leads to. -/
inductive Step where
  | next (choices : Choices)
  /-- The next argument is the value of an option. -/
  | await (option : ValueOption) (choices : Choices)
  | showVersion
  | showHelp

/-- Turn a switch on. -/
def Choices.turnOn (choices : Choices) : Switch → Except UsageFault Step
  | .strictPipes =>
      if choices.strictPipes then .error (.repeated "strict-pipes")
      else .ok (.next { choices with strictPipes := true })
  | .verbose =>
      .ok (.next { choices with verbosity := choices.verbosity + 1 })
  | .version => .ok .showVersion
  | .help => .ok .showHelp

/-- A value attached to a short option, without the equals sign that may stand
before it. -/
def attachedValue : List Char → String
  | '=' :: rest => String.ofList rest
  | value => String.ofList value

/-- Short options behind one dash. -/
def shortStep (choices : Choices) : List Char → Except UsageFault Step
  | [] => .ok (.next choices)
  | letter :: rest =>
      match KnownOption.ofShort? letter with
      | none => .error (.unknownOption (String.singleton letter))
      | some (.taking option) =>
          if rest.isEmpty then .ok (.await option choices)
          else (choices.take option (attachedValue rest)).map .next
      | some (.plain switch) => do
          match ← choices.turnOn switch with
          | .next choices => shortStep choices rest
          | step => .ok step

/-- A long option, with the value that may be attached to it. -/
def longStep (choices : Choices) (name : String) (value : Option String) :
    Except UsageFault Step :=
  match KnownOption.ofLong? name, value with
  | none, _ => .error (.unknownOption name)
  | some (.taking option), none => .ok (.await option choices)
  | some (.taking option), some value => (choices.take option value).map .next
  | some (.plain switch), none => choices.turnOn switch
  | some (.plain _), some _ => .error (.unexpectedValue name)

/-- One argument before the end of the options. -/
def step (choices : Choices) (argument : String) : Except UsageFault Step :=
  match argument.toList with
  | '-' :: '-' :: name =>
      match splitAtEquals? name with
      | none => longStep choices (String.ofList name) none
      | some (name, value) =>
          longStep choices (String.ofList name) (some (String.ofList value))
  | '-' :: letter :: letters => shortStep choices (letter :: letters)
  | _ => (choices.takePath argument).map .next

/-- Whether an argument reads as an option, so that it is not taken for a
value. -/
def looksLikeOption (argument : String) : Bool :=
  match argument.toList with
  | '-' :: _ :: _ => true
  | _ => false

/-- A completely read command line. -/
structure Options where
  graphPath : Option String
  emission : Emission
  typeMappings : List (String × String)
  strictPipes : Bool
  catalogPath : Option String
  verbosity : Nat
  deriving DecidableEq, Repr

/-- The options once all arguments are read; source text is printed unless
something else is asked for. -/
def Choices.options (choices : Choices) : Options :=
  ⟨choices.graphPath, choices.emission.getD .source, choices.typeMappings,
    choices.strictPipes, choices.catalogPath, choices.verbosity⟩

/-- What a command line asks for. -/
inductive Request where
  | compile (options : Options)
  | version
  | help
  deriving DecidableEq, Repr

/-- Read the remaining arguments. -/
def readArguments (choices : Choices) : List String → Except UsageFault Request
  | [] => .ok (.compile choices.options)
  | "--" :: rest => do
      let choices ← rest.foldlM Choices.takePath choices
      return .compile choices.options
  | argument :: rest => do
      match ← step choices argument with
      | .next choices => readArguments choices rest
      | .showVersion => return .version
      | .showHelp => return .help
      | .await option choices =>
          match rest with
          | [] => throw (.missingValue option)
          | value :: rest =>
              if looksLikeOption value then throw (.missingValue option)
              else do
                let choices ← choices.take option value
                readArguments choices rest

/-- Read the arguments of a command line. -/
def Request.ofArguments (arguments : List String) :
    Except UsageFault Request :=
  readArguments Choices.initial arguments

end CommandLine

end PipeGraph
