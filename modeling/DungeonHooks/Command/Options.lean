/-! The options of the command line. -/

namespace DungeonHooks.Command

/-- What is asked of a replay. -/
structure Options where
  scenario : String
  config : Option String := none
  script : Option String := none
  /-- Where the report is written, if it is not printed. -/
  reportJson : Option String := none
  verbose : Bool := false
  deriving DecidableEq, Inhabited

/-- What the arguments ask for. -/
inductive Request where
  | run (options : Options)
  | help
  | version
  /-- They break the rules of usage. -/
  | misuse
  deriving DecidableEq, Inhabited

/-- The options given so far. -/
structure Given where
  scenario : Option String := none
  config : Option String := none
  script : Option String := none
  reportJson : Option String := none
  verbose : Bool := false
  deriving DecidableEq, Inhabited

/-- The options that take a value. -/
inductive Named where
  | scenario
  | config
  | script
  | reportJson
  deriving DecidableEq, Inhabited

/-- The option of a name. -/
def Named.ofName? : String → Option Named
  | "--scenario" => some .scenario
  | "--config" => some .config
  | "--script" => some .script
  | "--report-json" => some .reportJson
  | _ => none

namespace Given

/-- The value of an option. -/
def value (given : Given) : Named → Option String
  | .scenario => given.scenario
  | .config => given.config
  | .script => given.script
  | .reportJson => given.reportJson

/-- Gives an option a value, which is not empty; no option is given twice. -/
def put? (given : Given) (option : Named) (value : String) : Option Given :=
  if value.isEmpty || (given.value option).isSome then none
  else some <| match option with
    | .scenario => { given with scenario := some value }
    | .config => { given with config := some value }
    | .script => { given with script := some value }
    | .reportJson => { given with reportJson := some value }

/-- The request of all options together. A scenario has to be given. -/
def request (given : Given) : Request :=
  match given.scenario with
  | some scenario =>
    .run { scenario, config := given.config, script := given.script, reportJson := given.reportJson,
           verbose := given.verbose }
  | none => .misuse

end Given

/-- Whether an argument looks like an option, and so cannot be a value of its own. -/
def looksLikeOption (arg : String) : Bool :=
  arg.startsWith "-" && arg != "-"

/-- The name of a long option, and the value behind its equal sign. -/
def splitOption (arg : String) : String × Option String :=
  match arg.splitOn "=" with
  | name :: first :: rest => (name, some ("=".intercalate (first :: rest)))
  | _ => (arg, none)

/-- What the letters of a short option ask for; none of them takes a value. -/
def shortRequest (arg : String) : Request :=
  match arg.toList with
  | '-' :: 'h' :: _ => .help
  | '-' :: 'V' :: _ => .version
  | _ => .misuse

/-- Reads arguments from left to right, and stops at the first that settles the request. -/
def readArgs (given : Given) : List String → Request
  | [] => given.request
  | ["--"] => given.request
  | arg :: rest =>
    let (name, attached) := splitOption arg
    match Named.ofName? name, attached with
    | some option, some value =>
      match given.put? option value with
      | some given => readArgs given rest
      | none => .misuse
    | some option, none =>
      match rest with
      | [] => .misuse
      | value :: rest =>
        if looksLikeOption value then .misuse
        else match given.put? option value with
          | some given => readArgs given rest
          | none => .misuse
    | none, _ =>
      if arg == "--verbose" && !given.verbose then readArgs { given with verbose := true } rest
      else if arg == "--help" then .help
      else if arg == "--version" then .version
      else shortRequest arg

/-- The request of the arguments of a command line. -/
def Request.ofArgs : List String → Request :=
  readArgs {}

/-- The text that explains the options. -/
def usage : String :=
  "\n".intercalate
    [ "Drive the hook runtime from a JSON scenario",
      "",
      "Usage: sky_host [OPTIONS] --scenario <SCENARIO>",
      "",
      "Options:",
      "      --scenario <SCENARIO>        Scenario JSON describing the world and the events to replay",
      "      --config <CONFIG>            Optional runtime config JSON (custom id bases, journal switch)",
      "      --script <SCRIPT>            Lua effect script consulted after the built-in effect handlers",
      "      --report-json <REPORT_JSON>  Path to write the JSON report instead of printing it",
      "      --verbose                    Log every dispatch and menu transition",
      "  -h, --help                       Print help",
      "  -V, --version                    Print version" ]

/-- The text that tells the version. -/
def version : String := "sky_host 0.1.0"

end DungeonHooks.Command
