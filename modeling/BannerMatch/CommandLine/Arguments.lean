/-!
# Arguments

An option has a long name and often a letter. Its value is the next argument, or stands in the same
one: after an equals sign, or directly behind the letter. Letters of switches can be written
together. A value of its own may not start with a hyphen, unless it is a hyphen alone.

Arguments are read from left to right, so a request for the version is answered if all that stands
before it is in order.
-/

namespace BannerMatch.CommandLine

/-- How results are written. -/
inductive Format
  | text
  | json
deriving DecidableEq, Repr

/-- What the arguments ask for. -/
structure Arguments where
  banner : Option String := none
  response : Option String := none
  probeFile : Option String := none
  rulesFile : Option String := none
  builtin : Bool := false
  output : Option Format := none
  minConfidence : Option UInt8 := none
  interactive : Bool := false
  exportFile : Option String := none
deriving DecidableEq, Repr

/-- What the program is to do. -/
inductive Request
  | run (arguments : Arguments)
  | help
  | version
deriving DecidableEq, Repr

/-- An option with a value. -/
inductive ValueOption
  | banner
  | response
  | probeFile
  | rulesFile
  | output
  | minConfidence
  | exportFile
deriving DecidableEq, Repr

/-- An option without a value. -/
inductive Switch
  | builtin
  | interactive
  | help
  | version
deriving DecidableEq, Repr

/-- An option. -/
inductive Flag
  | valued (o : ValueOption)
  | switch (s : Switch)
deriving DecidableEq, Repr

/-- Why arguments cannot be used. -/
inductive UsageFault
  | unknown (argument : String)
  | missingValue (o : ValueOption)
  | invalidValue (o : ValueOption) (value : String)
  /-- An option without a value was given one. -/
  | needlessValue (s : Switch)
  | repeated (f : Flag)
deriving DecidableEq, Repr

/-- The options by their long names. -/
def longNames : List (String × Flag) := [
  ("banner", .valued .banner), ("response", .valued .response),
  ("probe-file", .valued .probeFile), ("rules", .valued .rulesFile),
  ("builtin", .switch .builtin), ("output", .valued .output),
  ("min-confidence", .valued .minConfidence), ("interactive", .switch .interactive),
  ("export", .valued .exportFile), ("help", .switch .help), ("version", .switch .version)]

/-- The options by their letters. -/
def letters : List (Char × Flag) := [
  ('b', .valued .banner), ('p', .valued .probeFile), ('r', .valued .rulesFile),
  ('o', .valued .output), ('m', .valued .minConfidence), ('i', .switch .interactive),
  ('h', .switch .help), ('V', .switch .version)]

/-- The long name of an option. -/
def Flag.name (f : Flag) : String :=
  match longNames.find? fun p => p.2 == f with
  | some p => "--" ++ p.1
  | none => "--"

/-- The text of a fault. -/
def UsageFault.message : UsageFault → String
  | .unknown a => "unexpected argument '" ++ a ++ "' found"
  | .missingValue o => "a value is required for '" ++ (Flag.valued o).name ++ "'"
  | .invalidValue o v => "invalid value '" ++ v ++ "' for '" ++ (Flag.valued o).name ++ "'"
  | .needlessValue s => "unexpected value for '" ++ (Flag.switch s).name ++ "'"
  | .repeated f => "the argument '" ++ f.name ++ "' cannot be used multiple times"

/-- The number that decimal digits spell. -/
def digitsValue (cs : List Char) : Nat := cs.foldl (fun n c => 10 * n + (c.toNat - 48)) 0

/-- The percentage that a text spells: digits for a number below `256`, perhaps with a sign. -/
def percentage? (value : String) : Option UInt8 :=
  let parts : Bool × List Char := match value.toList with
    | '-' :: rest => (true, rest)
    | '+' :: rest => (false, rest)
    | cs => (false, cs)
  let n := digitsValue parts.2
  if parts.2.isEmpty || !parts.2.all Char.isDigit then none
  else if parts.1 && n != 0 then none
  else if n < 256 then some n.toUInt8
  else none

/-- The format with a name. -/
def Format.ofName? (name : String) : Option Format :=
  if name = "text" then some .text else if name = "json" then some .json else none

/-- A path, which may not be empty. -/
def path? (value : String) : Option String := if value.isEmpty then none else some value

namespace Arguments

/-- Whether an option has been given a value. -/
def has (a : Arguments) : ValueOption → Bool
  | .banner => a.banner.isSome
  | .response => a.response.isSome
  | .probeFile => a.probeFile.isSome
  | .rulesFile => a.rulesFile.isSome
  | .output => a.output.isSome
  | .minConfidence => a.minConfidence.isSome
  | .exportFile => a.exportFile.isSome

/-- The arguments with a value for an option, if the value is a good one. -/
def withValue? (a : Arguments) (value : String) : ValueOption → Option Arguments
  | .banner => some { a with banner := some value }
  | .response => some { a with response := some value }
  | .probeFile => (path? value).map fun p => { a with probeFile := some p }
  | .rulesFile => (path? value).map fun p => { a with rulesFile := some p }
  | .output => (Format.ofName? value).map fun f => { a with output := some f }
  | .minConfidence => (percentage? value).map fun n => { a with minConfidence := some n }
  | .exportFile => (path? value).map fun p => { a with exportFile := some p }

/-- The arguments with a value for an option that has none yet. -/
def give (a : Arguments) (o : ValueOption) (value : String) : Except UsageFault Arguments :=
  if a.has o then .error (.repeated (.valued o))
  else match a.withValue? value o with
    | some b => .ok b
    | none => .error (.invalidValue o value)

/-- How results are written. -/
def format (a : Arguments) : Format := a.output.getD .text

/-- The least confidence of results. -/
def threshold (a : Arguments) : UInt8 := a.minConfidence.getD 0

end Arguments

/-- What has been read: the arguments so far with the option that waits for its value, or what is
asked for instead. -/
inductive Progress
  | reading (a : Arguments) (waiting : Option ValueOption)
  | decided (r : Request)
deriving DecidableEq, Repr

/-- Turns a switch on. -/
def turnOn (a : Arguments) : Switch → Except UsageFault Progress
  | .builtin =>
      if a.builtin then .error (.repeated (.switch .builtin))
      else .ok (.reading { a with builtin := true } none)
  | .interactive =>
      if a.interactive then .error (.repeated (.switch .interactive))
      else .ok (.reading { a with interactive := true } none)
  | .help => .ok (.decided .help)
  | .version => .ok (.decided .version)

/-- Gives an option a value that stands in the same argument. -/
def attach (a : Arguments) (o : ValueOption) (value : String) : Except UsageFault Progress :=
  (a.give o value).map fun b => .reading b none

/-- Reads an option by its long name, with the value after the equals sign if there is one. -/
def readLong (a : Arguments) (argument : String) : Except UsageFault Progress :=
  let body := argument.toList.drop 2
  let name := String.ofList (body.takeWhile (· != '='))
  match longNames.lookup name, body.dropWhile (· != '=') with
  | none, _ => .error (.unknown argument)
  | some (.switch s), [] => turnOn a s
  | some (.switch s), _ :: _ => .error (.needlessValue s)
  | some (.valued o), [] => .ok (.reading a (some o))
  | some (.valued o), _ :: value => attach a o (String.ofList value)

/-- Reads options by their letters. -/
def readLetters (a : Arguments) (argument : String) : List Char → Except UsageFault Progress
  | [] => .ok (.reading a none)
  | c :: rest =>
      match letters.lookup c with
      | none => .error (.unknown argument)
      | some (.valued o) => match rest with
          | [] => .ok (.reading a (some o))
          | '=' :: value => attach a o (String.ofList value)
          | value => attach a o (String.ofList value)
      | some (.switch s) => match turnOn a s with
          | .ok (.reading b _) => readLetters b argument rest
          | other => other

/-- Reads one argument that names options. -/
def readFlags (a : Arguments) (argument : String) : Except UsageFault Progress :=
  match argument.toList with
  | '-' :: '-' :: _ => readLong a argument
  | '-' :: cs => readLetters a argument cs
  | _ => .error (.unknown argument)

/-- Whether an argument names options. -/
def namesOptions (argument : String) : Bool :=
  match argument.toList with
  | '-' :: _ :: _ => true
  | _ => false

/-- Reads the arguments that are left. -/
def readFrom (a : Arguments) (waiting : Option ValueOption) :
    List String → Except UsageFault Request
  | [] => match waiting with
      | some o => .error (.missingValue o)
      | none => .ok (.run a)
  | argument :: rest =>
      if namesOptions argument then
        match waiting with
        | some o => .error (.missingValue o)
        | none =>
            if argument = "--" then
              match rest with
              | [] => .ok (.run a)
              | next :: _ => .error (.unknown next)
            else match readFlags a argument with
              | .error f => .error f
              | .ok (.decided r) => .ok r
              | .ok (.reading b waiting) => readFrom b waiting rest
      else match waiting with
        | none => .error (.unknown argument)
        | some o => match a.give o argument with
            | .error f => .error f
            | .ok b => readFrom b none rest

/-- What a list of arguments asks for. -/
def readArguments (arguments : List String) : Except UsageFault Request :=
  readFrom {} none arguments

end BannerMatch.CommandLine
