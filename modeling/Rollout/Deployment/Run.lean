import Rollout.Deployment.Pointing
import Rollout.Deployment.Provisioning
import Rollout.Deployment.Reaching

namespace Rollout.Deployment

/-! Deployments from the options to the last line of progress. -/

variable {Backend : Type}

def Options.contextOn (options : Options) (size host : String) (server : Provider.Server)
    (address : Address) (answers : Installer.Answers) : Template.Context :=
  let texts := [("Size", size), ("ServerIP", address.toText), ("ServerID", server.id),
    ("ServerName", server.name), ("Host", host)]
  (texts.foldl (fun context (field, value) => context.insertString field value)
    options.context).mergeAnswers answers

def Options.host (options : Options) (address : Address) : String :=
  if Text.isBlankText options.domain then address.toText else Text.trimmed options.domain

/-- Runs the TLS phase if TLS is wanted.  Its failure is a warning. -/
def setUpTls (plan : Plan Backend) (options : Options) (address : Address)
    (context : Template.Context) : Course Backend TlsOutcome := do
  if options.wantsTls then
    Procedure.query (Action.emit (.plain "Configuring SSL"))
    match ← (onHost address (plan.spec.runPhase .ssl context)).run with
    | .ok _ => pure .configured
    | .error cause =>
        let message := (Error.tls cause).message
        Procedure.query (Action.emit (.plain s!"warning: {message}"))
        pure (.failed message)
  else pure .notRequested

structure Installation (Backend : Type) where
  plan : Plan Backend
  size : String
  server : Provider.Server
  address : Address
  context : Template.Context
  dns : DnsOutcome

/-- Points the domain at a server that has an address, reaches it and installs the
application there. -/
def install (site : Site Backend) (plan : Plan Backend) (options : Options) (size : String)
    (server : Provider.Server) (address : Address) : Stage Backend Error (Installation Backend) := do
  let context := options.contextOn size (options.host address) server address plan.answers
  let dns ← ExceptT.lift (pointDomain plan options address context)
  (reach address site.sshPort site.patience).adapt Error.notReady
  ask (.connect address)
  say s!"Installing {plan.spec.app}"
  let _ ← (onHost address (plan.spec.runPhase .install context)).adapt Error.ofStep
  pure { plan, size, server, address, context, dns }

def installed (site : Site Backend) (options : Options) :
    Stage Backend Error (Installation Backend) := do
  let plan ← ((plan site options).mapError Error.configuration : Except Error (Plan Backend))
  let size ← chooseSize plan options
  let server ← provision plan options size
  match server.address with
  | none => throw (.notReady (.noAddress server.id))
  | some address => install site plan options size server address

def Installation.summary (installation : Installation Backend) (options : Options)
    (tls : TlsOutcome) : Summary where
  app := installation.plan.spec.app
  server := installation.server
  size := installation.size
  url := url tls (options.host installation.address)
  dns := installation.dns
  tls := tls

def Installation.conclude (installation : Installation Backend) (options : Options) :
    Course Backend Summary := do
  let tls ← setUpTls installation.plan options installation.address installation.context
  let summary := installation.summary options tls
  (summary.report installation.address).forM fun text => Procedure.query (Action.emit (.plain text))
  pure summary

/-- The stages of a deployment.  Once the application is installed, none fails. -/
def deploy (site : Site Backend) (options : Options) : Stage Backend Error Summary := do
  let installation ← installed site options
  ExceptT.lift (installation.conclude options)

def outcomeLine : Except Error Summary → Progress.Line
  | .ok _ => .done
  | .error error => .failed error.message

/-- Runs a deployment.  Its last line tells the outcome. -/
def run (site : Site Backend) (options : Options) : Course Backend (Except Error Summary) := do
  let outcome ← (deploy site options).run
  Procedure.query (Action.emit (outcomeLine outcome))
  pure outcome

end Rollout.Deployment
