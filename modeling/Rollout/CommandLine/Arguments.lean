import Rollout.Text.Pieces

namespace Rollout.CommandLine

/-! The arguments of the command line. -/

structure DeployArguments where
  app : String
  provider : String
  region : String
  size : String
  name : String
  domain : String
  sshKey : Option String
  email : String
  sslCertificate : String
  sslKey : String
  httpsRedirect : Bool
  dns : String
  cloudflareToken : Option String
  answers : List String
  providerSettings : List String
deriving Repr, DecidableEq

inductive Command where
  | deploy (arguments : DeployArguments)
  | apps
  | sizes (app provider region : String)
  | regions (provider : String)
deriving Repr, DecidableEq

/-- What the arguments ask for.  Arguments that fit no command are misused. -/
inductive Invocation where
  | run (command : Command)
  | version
  | help
  | misused
deriving Repr, DecidableEq

private inductive Kind where
  | once
  | repeated
  | switch
deriving DecidableEq

/-- Arguments sorted into operands and options with their values, in order. -/
private structure Sorted where
  operands : List String := []
  options : List (String × String) := []

private def Sorted.has (sorted : Sorted) (name : String) : Bool := sorted.options.any (·.1 = name)

private def Sorted.values (sorted : Sorted) (name : String) : List String :=
  (sorted.options.filter (·.1 = name)).map (·.2)

private def Sorted.value? (sorted : Sorted) (name : String) : Option String :=
  (sorted.values name).head?

private def Sorted.value (sorted : Sorted) (name default : String) : String :=
  (sorted.value? name).getD default

private inductive Sorting where
  | sorted (arguments : Sorted)
  | help
  | misused

/-- A single hyphen is a value like any other. -/
private def startsOption (argument : String) : Bool :=
  argument.toList.head? = some '-' && argument ≠ "-"

private def nameAndValue (argument : String) : String × Option String :=
  match Text.cutAt? '=' argument.toList with
  | some (name, value) => (String.ofList name, some (String.ofList value))
  | none => (argument, none)

private def kindOf? (kinds : List (String × Kind)) (name : String) : Option Kind :=
  (kinds.find? (·.1 = name)).map (·.2)

private def Sorted.give? (sorted : Sorted) (kind : Kind) (name value : String) : Option Sorted :=
  if kind ≠ .repeated ∧ sorted.has name then none
  else some { sorted with options := sorted.options ++ [(name, value)] }

/-- Sorts arguments from left to right, where the option in `waiting` takes the
next one as its value.  Behind two hyphens there are operands only, and help is
given for what stands before any mistake. -/
private def sort (kinds : List (String × Kind)) (sorted : Sorted)
    (waiting : Option (Kind × String)) : List String → Sorting
  | [] => if waiting.isSome then .misused else .sorted sorted
  | argument :: rest =>
      match waiting with
      | some (kind, name) =>
          match if startsOption argument then none else sorted.give? kind name argument with
          | some sorted => sort kinds sorted none rest
          | none => .misused
      | none =>
          if argument = "--" then .sorted { sorted with operands := sorted.operands ++ rest }
          else if argument = "--help" ∨ argument = "-h" then .help
          else if !startsOption argument then
            sort kinds { sorted with operands := sorted.operands ++ [argument] } none rest
          else
            let (name, inline) := nameAndValue argument
            match kindOf? kinds name, inline with
            | none, _ | some .switch, some _ => .misused
            | some .switch, none =>
                match sorted.give? .switch name "" with
                | some sorted => sort kinds sorted none rest
                | none => .misused
            | some kind, some value =>
                match sorted.give? kind name value with
                | some sorted => sort kinds sorted none rest
                | none => .misused
            | some kind, none => sort kinds sorted (some (kind, name)) rest

private def defaultProvider : String := "scaleway"

private def deployKinds : List (String × Kind) :=
  ["--provider", "--region", "--size", "--name", "--domain", "--ssh-key", "--email",
    "--ssl-certificate", "--ssl-key", "--dns", "--cloudflare-token"].map (·, .once) ++
  [("--https-redirect", .switch), ("--set", .repeated), ("--provider-setting", .repeated)]

private def deploy? (token : Option String) (sorted : Sorted) : Option Command :=
  match sorted.operands with
  | [app] => some <| .deploy {
      app
      provider := sorted.value "--provider" defaultProvider
      region := sorted.value "--region" ""
      size := sorted.value "--size" "auto"
      name := sorted.value "--name" ""
      domain := sorted.value "--domain" ""
      sshKey := sorted.value? "--ssh-key"
      email := sorted.value "--email" ""
      sslCertificate := sorted.value "--ssl-certificate" ""
      sslKey := sorted.value "--ssl-key" ""
      httpsRedirect := sorted.has "--https-redirect"
      dns := sorted.value "--dns" "auto"
      cloudflareToken := (sorted.value? "--cloudflare-token").or token
      answers := sorted.values "--set"
      providerSettings := sorted.values "--provider-setting" }
  | _ => none

private def sizes? (sorted : Sorted) : Option Command :=
  match sorted.operands with
  | [app] => some (.sizes app (sorted.value "--provider" defaultProvider)
      (sorted.value "--region" ""))
  | _ => none

private def regions? (sorted : Sorted) : Option Command :=
  if sorted.operands.isEmpty then some (.regions (sorted.value "--provider" defaultProvider))
  else none

private def apps? (sorted : Sorted) : Option Command :=
  if sorted.operands.isEmpty then some .apps else none

private def invoke (kinds : List (String × Kind)) (command? : Sorted → Option Command)
    (arguments : List String) : Invocation :=
  match sort kinds {} none arguments with
  | .help => .help
  | .misused => .misused
  | .sorted sorted =>
      match command? sorted with
      | some command => .run command
      | none => .misused

def Invocation.ofArguments (token : Option String) : List String → Invocation
  | "deploy" :: rest => invoke deployKinds (deploy? token) rest
  | "apps" :: rest => invoke [] apps? rest
  | "sizes" :: rest => invoke [("--provider", .once), ("--region", .once)] sizes? rest
  | "regions" :: rest => invoke [("--provider", .once)] regions? rest
  | "--version" :: _ | "-V" :: _ => .version
  | "--help" :: _ | "-h" :: _ | ["help"] => .help
  | _ => .misused

end Rollout.CommandLine
