namespace Gateway

/-! The command line of the gateway. -/

structure Arguments where
  config : String := "config.toml"
  deriving Repr, DecidableEq

inductive Command where
  | run (arguments : Arguments)
  | help
  | invalid (argument : String)
  deriving Repr, DecidableEq

namespace Arguments

def usage : String :=
  "usage: gateway [-c FILE]\n\n" ++
    "  -c, --config FILE  path of the TOML configuration file (default: config.toml)\n" ++
    "  -h, --help         show this text"

/-- The value that follows an option within the same argument. -/
def attached? (argument : String) : Option String :=
  let long := "--config=".toList
  let short := "-c".toList
  let characters := argument.toList
  if long.isPrefixOf characters then some (String.ofList (characters.drop long.length))
  else if short.isPrefixOf characters ∧ short.length < characters.length then
    let value := characters.drop short.length
    some (String.ofList (if value.head? = some '=' then value.drop 1 else value))
  else none

def parse (arguments : Arguments) : List String → Command
  | [] => .run arguments
  | "-h" :: _ | "--help" :: _ => .help
  | "-c" :: config :: rest | "--config" :: config :: rest =>
      parse { arguments with config } rest
  | argument :: rest =>
      match attached? argument with
      | some config => parse { arguments with config } rest
      | none => .invalid argument

example : parse {} ["--config=a.toml"] = .run { config := "a.toml" } := by decide +kernel

end Arguments

end Gateway
