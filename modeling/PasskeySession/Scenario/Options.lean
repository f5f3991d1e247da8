import PasskeySession.Backend.Config

/-! # Options

The command line of the scenarios: long options with a value each, after an equals sign or as the next
argument, each given at most once. Some may be given in the environment instead. -/

namespace PasskeySession

/-- What the scenarios are to run with. -/
structure Options where
  backendUrl : String
  requestTimeoutMs : Nat
  connectTimeoutMs : Nat
  rpId : String
  origin : Option String
  username : Option String
  safeAddress : Option String
  chainId : Option Nat
  deriving DecidableEq, Repr

/-- What a command line asks for. -/
inductive CommandLine
  | run (o : Options)
  | help
  | refused
  deriving DecidableEq, Repr

namespace Options

def names : List String :=
  ["backend-url", "request-timeout-ms", "connect-timeout-ms", "rp-id", "origin", "username", "safe-address",
    "chain-id"]

def numeric : List String := ["request-timeout-ms", "connect-timeout-ms", "chain-id"]

/-- The variable that an option may be given by instead. -/
def environmentKey (name : String) : Option String :=
  match name with
  | "backend-url" => some ClientConfig.urlVariable
  | "request-timeout-ms" => some ClientConfig.requestTimeoutVariable
  | "connect-timeout-ms" => some ClientConfig.connectTimeoutVariable
  | "rp-id" => some "SAFELIZA_RP_ID"
  | "origin" => some "SAFELIZA_ORIGIN"
  | _ => none

def number? (value : String) : Option Nat := (Text.naturalBelow Text.wordLimit value.toList).toOption

def accepts (name value : String) : Bool := !numeric.contains name || (number? value).isSome

/-- Whether an argument is written like an option, and so is no value. -/
def isOptionLike (arg : String) : Bool := arg.toList.head? == some '-' && arg != "-"

/-- What reading the arguments comes to. -/
inductive Given
  | values (vs : List (String × String))
  | help
  | refused

def given : (fuel : Nat) → List (String × String) → List String → Given
  | _, vs, [] => .values vs
  | 0, _, _ :: _ => .refused
  | fuel + 1, vs, arg :: args =>
    match arg.toList with
    | ['-', '-'] => if args.isEmpty then .values vs else .refused
    | '-' :: '-' :: cs =>
      let name := String.ofList (cs.takeWhile (· != '='))
      let attached := cs.dropWhile (· != '=')
      if name == "help" then (if attached.isEmpty then .help else .refused)
      else if !names.contains name || vs.any (·.1 == name) then .refused
      else if attached.isEmpty then
        match args with
        | [] => .refused
        | value :: args =>
          if isOptionLike value || !accepts name value then .refused
          else given fuel (vs ++ [(name, value)]) args
      else
        let value := String.ofList attached.tail
        if accepts name value then given fuel (vs ++ [(name, value)]) args else .refused
    | '-' :: 'h' :: _ => .help
    | _ => .refused

/-- The value of an option: from the command line, else from the environment. -/
def value? (vs : List (String × String)) (env : String → Option String) (name : String) : Option String :=
  ((vs.find? (·.1 == name)).map (·.2)).or ((environmentKey name).bind env)

/-- The options that values and environment give; none if the environment gives a number that is none. -/
def ofValues? (vs : List (String × String)) (env : String → Option String) : Option Options := do
  let value := value? vs env
  let number (name : String) : Option (Option Nat) :=
    match value name with
    | none => some none
    | some v => (number? v).map some
  let request ← number "request-timeout-ms"
  let connect ← number "connect-timeout-ms"
  let chainId ← number "chain-id"
  some ⟨(value "backend-url").getD "http://127.0.0.1:3000", request.getD ClientConfig.defaultRequestTimeout,
    connect.getD ClientConfig.defaultConnectTimeout, (value "rp-id").getD "localhost", value "origin",
    value "username", value "safe-address", chainId⟩

end Options

namespace CommandLine

def parse (args : List String) (env : String → Option String) : CommandLine :=
  match Options.given args.length [] args with
  | .help => help
  | .refused => refused
  | .values vs =>
    match Options.ofValues? vs env with
    | some o => run o
    | none => refused

end CommandLine
end PasskeySession
