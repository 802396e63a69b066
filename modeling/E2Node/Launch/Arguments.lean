import E2Node.Number.Numeral
import E2Node.Text.Split

namespace E2Node

structure Options where
  config : Option String
  logLevel : Option String
  ueCount : Option UInt64
  deriving DecidableEq

inductive OptionName
  | config
  | logLevel
  | ueCount
  deriving DecidableEq

def OptionName.long? : String → Option OptionName
  | "config" => some .config
  | "log-level" => some .logLevel
  | "ue-count" => some .ueCount
  | _ => none

def OptionName.short? : Char → Option OptionName
  | 'c' => some .config
  | 'l' => some .logLevel
  | _ => none

inductive Invocation
  | run (options : Options)
  | help
  | version
  | refused
  deriving DecidableEq

inductive Argument
  | help
  | version
  | given (name : OptionName) (value : List Char)
  | awaiting (name : OptionName)
  | last
  | unknown

namespace Argument

def ofLong (name : List Char) (value : Option (List Char)) : Argument :=
  match String.ofList name, value with
  | "help", none => .help
  | "version", none => .version
  | n, value =>
      match OptionName.long? n, value with
      | none, _ => .unknown
      | some o, none => .awaiting o
      | some o, some v => .given o v

def ofShort (letter : Char) (rest : List Char) : Argument :=
  match letter, rest with
  | 'h', _ => .help
  | 'V', _ => .version
  | c, rest =>
      match OptionName.short? c, rest with
      | none, _ => .unknown
      | some o, [] => .awaiting o
      | some o, '=' :: v => .given o v
      | some o, v => .given o v

def read : List Char → Argument
  | ['-', '-'] => .last
  | '-' :: '-' :: s =>
      let r := Text.splitFirst '=' s
      ofLong r.1 r.2
  | '-' :: c :: s => ofShort c s
  | _ => .unknown

def isValue : List Char → Bool
  | '-' :: _ :: _ => false
  | _ => true

end Argument

def count? (s : List Char) : Option UInt64 :=
  let digits := match s with
    | '+' :: rest => rest
    | s => s
  let n := Numeral.readDigits 0 digits
  if !digits.isEmpty ∧ digits.all Char.isDigit ∧ n < UInt64.size then some (UInt64.ofNat n) else none

namespace Options

def none : Options := ⟨.none, .none, .none⟩

def set (o : Options) (name : OptionName) (value : List Char) : Option Options :=
  match name with
  | .config =>
      if o.config.isSome then .none else some { o with config := some (String.ofList value) }
  | .logLevel =>
      if o.logLevel.isSome then .none else some { o with logLevel := some (String.ofList value) }
  | .ueCount =>
      if o.ueCount.isSome then .none else (count? value).map fun n => { o with ueCount := some n }

def defaultConfig : String := "ransim.yaml"

def configName (o : Options) : String := o.config.getD defaultConfig

/-- What the arguments ask for, behind those that gave these options. -/
def read (o : Options) : List String → Invocation
  | [] => .run o
  | arg :: args =>
      match Argument.read arg.toList with
      | .help => .help
      | .version => .version
      | .unknown => .refused
      | .last => if args.isEmpty then .run o else .refused
      | .given name value =>
          match o.set name value with
          | some o => read o args
          | .none => .refused
      | .awaiting name =>
          match args with
          | [] => .refused
          | value :: args =>
              if Argument.isValue value.toList then
                match o.set name value.toList with
                | some o => read o args
                | .none => .refused
              else .refused

end Options

def Invocation.ofArguments (args : List String) : Invocation := Options.none.read args

def versionText : String := "gnb 0.1.0\n"

def helpText : String :=
  "Simulated E2 node\n\n" ++
  "Usage: ransim_e2node [OPTIONS]\n\n" ++
  "Options:\n" ++
  "  -c, --config <CONFIG>        Path to configuration file (yaml, toml or json) " ++
  "[default: ransim.yaml]\n" ++
  "  -l, --log-level <LOG_LEVEL>  Log level (trace, debug, info, warn, error); " ++
  "overrides the configuration\n" ++
  "      --ue-count <UE_COUNT>    Number of simulated UEs; overrides the configuration\n" ++
  "  -h, --help                   Print help\n" ++
  "  -V, --version                Print version\n"

end E2Node
