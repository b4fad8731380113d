/-
# LanCensus.Service.CommandLine -- what the program is started with

Options have long names, and some of them short ones. A value follows its option, as the next
argument or in the same one. Only the option for subnets may come more than once, and there is
nothing but options. Arguments are read in their order, so the first one that asks for help, asks
for the version or is wrong decides.
-/

namespace LanCensus.Service

/-! ## Options -/

/-- **`Invocation`** — what the program is to do. -/
structure Invocation where
  configPath : String
  bind : Option String
  logLevel : String
  /-- A single sweep, and no service. -/
  once : Bool
  subnets : List String
  deriving DecidableEq, Repr

/-- What the program is to do if nothing is said. -/
def Invocation.default : Invocation := ⟨"roster.toml", none, "info", false, []⟩

/-- **`ValueOption`** — an option that has a value. -/
inductive ValueOption where
  | config
  | bind
  | logLevel
  | subnet
  deriving DecidableEq, Repr

/-- **`Switch`** — an option without a value. -/
inductive Switch where
  | once
  | help
  | version
  deriving DecidableEq, Repr

/-- The option of a long name. -/
def optionOfName? : String → Option (ValueOption ⊕ Switch)
  | "config" => some (.inl .config)
  | "bind" => some (.inl .bind)
  | "log-level" => some (.inl .logLevel)
  | "subnet" => some (.inl .subnet)
  | "scan-once" => some (.inr .once)
  | "help" => some (.inr .help)
  | "version" => some (.inr .version)
  | _ => none

/-- The option of a letter. -/
def optionOfLetter? : Char → Option (ValueOption ⊕ Switch)
  | 'c' => some (.inl .config)
  | 'b' => some (.inl .bind)
  | 'l' => some (.inl .logLevel)
  | 'h' => some (.inr .help)
  | 'V' => some (.inr .version)
  | _ => none

/-! ## Arguments -/

/-- **`Argument`** — what an argument looks like. -/
inductive Argument where
  /-- Nothing after it is an option. -/
  | stop
  /-- A long name, and a value in the same argument. -/
  | long (name : String) (value : Option String)
  /-- A letter, and what follows it in the same argument. -/
  | short (letter : Char) (rest : List Char)
  | plain (text : String)
  deriving DecidableEq, Repr

/-- Sorts an argument. A single hyphen is nothing special. -/
def Argument.ofString (s : String) : Argument :=
  match s.toList with
  | ['-', '-'] => .stop
  | '-' :: '-' :: rest =>
    let name := String.ofList (rest.takeWhile (· ≠ '='))
    match rest.dropWhile (· ≠ '=') with
    | [] => .long name none
    | _ :: value => .long name (some (String.ofList value))
  | '-' :: letter :: rest => .short letter rest
  | _ => .plain s

/-- The value behind a letter; an equals sign before it does not count. -/
def attached : List Char → Option String
  | [] => none
  | '=' :: rest => some (String.ofList rest)
  | rest => some (String.ofList rest)

/-! ## Reading -/

/-- **`Directive`** — what the arguments come to. -/
inductive Directive where
  | run (i : Invocation)
  | help
  | version
  /-- They are wrong. -/
  | misuse
  deriving DecidableEq, Repr

/-- **`Gathered`** — what has been read of the arguments. -/
structure Gathered where
  invocation : Invocation
  /-- The options that may come once only and have come. -/
  given : List (ValueOption ⊕ Switch)
  /-- The option whose value comes next. -/
  awaiting : Option ValueOption

namespace Gathered

/-- Nothing has been read. -/
def nothing : Gathered := ⟨.default, [], none⟩

/-- The invocation with the value of an option. -/
def filled (i : Invocation) (value : String) : ValueOption → Invocation
  | .config => { i with configPath := value }
  | .bind => { i with bind := some value }
  | .logLevel => { i with logLevel := value }
  | .subnet => { i with subnets := i.subnets ++ [value] }

/-- Takes the value of an option. A path is never empty. -/
def take (g : Gathered) (o : ValueOption) (value : String) : Option Gathered :=
  if g.given.contains (.inl o) || (o = .config && value.isEmpty) then none
  else
    some {
      invocation := filled g.invocation value o
      given := if o = .subnet then g.given else .inl o :: g.given
      awaiting := none }

/-- Goes on with a value that has been taken. -/
def andThen (g : Option Gathered) (next : Gathered → Directive) : Directive := g.elim .misuse next

end Gathered

/-- The directive of arguments, after some have been read. -/
def directiveFrom (g : Gathered) : List String → Directive
  | [] => if g.awaiting.isSome then .misuse else .run g.invocation
  | s :: rest =>
    match Argument.ofString s, g.awaiting with
    | .plain value, some o => Gathered.andThen (g.take o value) fun g => directiveFrom g rest
    | .plain _, none | .stop, some _ | .long .., some _ | .short .., some _ => .misuse
    | .stop, none => if rest.isEmpty then .run g.invocation else .misuse
    | .long name value, none =>
      match optionOfName? name, value with
      | some (.inl o), some value =>
        Gathered.andThen (g.take o value) fun g => directiveFrom g rest
      | some (.inl o), none => directiveFrom { g with awaiting := some o } rest
      | some (.inr .help), none => .help
      | some (.inr .version), none => .version
      | some (.inr .once), none =>
        if g.given.contains (.inr .once) then .misuse
        else
          directiveFrom
            { g with
              invocation := { g.invocation with once := true }
              given := .inr .once :: g.given } rest
      | some (.inr _), some _ | none, _ => .misuse
    | .short letter more, none =>
      match optionOfLetter? letter with
      | some (.inl o) =>
        match attached more with
        | some value => Gathered.andThen (g.take o value) fun g => directiveFrom g rest
        | none => directiveFrom { g with awaiting := some o } rest
      | some (.inr .help) => .help
      | some (.inr .version) => .version
      | some (.inr .once) | none => .misuse

/-- **`directive args`** — what the arguments come to. -/
def directive (args : List String) : Directive := directiveFrom .nothing args

/-! ## Texts -/

/-- The name of the program. -/
def programName : String := "roster"

/-- What is said about the version. -/
def versionText : String := programName ++ " 0.1.0\n"

/-- How the program is used. -/
def usage : String := s!"Usage: {programName} [OPTIONS]\n"

/-- What is said about the options. -/
def helpText : String :=
  "Local network device discovery and roster daemon\n\n" ++ usage ++ "\nOptions:\n" ++
  "  -c, --config <CONFIG>        Path to configuration file [default: roster.toml]\n" ++
  "  -b, --bind <BIND>            Bind address for web server\n" ++
  "  -l, --log-level <LOG_LEVEL>  Log level (trace, debug, info, warn, error) [default: info]\n" ++
  "      --scan-once              Run a single sweep, print the roster and exit\n" ++
  "      --subnet <SUBNETS>       " ++
  "Subnet prefix to sweep, e.g. 192.168.1 (repeatable, overrides config)\n" ++
  "  -h, --help                   Print help\n" ++
  "  -V, --version                Print version\n"

end LanCensus.Service
