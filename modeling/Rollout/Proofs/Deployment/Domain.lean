import Rollout.Proofs.Deployment.Authority
import Rollout.Proofs.Deployment.Tls
import Rollout.Proofs.Template.Context

namespace Rollout.Deployment

open Procedure
open Template (Change answerFlag changed keyOf)

/-! What placeholders and guards say about the domain of a deployment.

DNS, the host and the address of the application go by the trimmed domain.  The placeholder and
the guard of the domain go by the text as it was given, so that they say the same just if there
was nothing to trim.
-/

variable {Backend : Type} {site : Site Backend} {options : Options} {target : Target Backend}
  {past story : Story Backend} {action : Action Backend} {size host field : String}
  {server : Provider.Server} {address : Address} {answers : Installer.Answers}

/-- A question about DNS is for a domain, or for the zone that the domain is in. -/
def Action.IsFor (domain : String) : Action Backend → Prop
  | .nameservers name => name = domain ∨ name = (Dns.splitDomain domain).1
  | .provider _ (.pointDomain pointed _) => pointed = domain
  | .setRecord _ name _ => name = domain
  | _ => True

/-- Placeholders and guards say about the domain what the deployment makes of it. -/
structure Agrees (options : Options) (address : Address) (context : Template.Context) : Prop where
  supplied : options.domainName ≠ "" →
    context.render "\x7bopts.Domain\x7d" = options.domainName ∧
      context.render "\x7bopts.Host\x7d" = options.domainName
  missing : options.domainName = "" →
    context.render "\x7bopts.Host\x7d" = address.toText ∧ context.evaluate "opts.Domain" = false

theorem host_eq (options : Options) (address : Address) : options.host address =
    if options.domainName = "" then address.toText else options.domainName := by
  unfold Options.host Options.domainName
  simp only [Text.isBlankText_iff]

section Contexts

/-- What the context of an installation is made by, before the answers are merged. -/
def Options.changesOn (options : Options) (size host : String) (server : Provider.Server)
    (address : Address) : List Change :=
  (options.fields.map fun (field, value) => .text field value) ++
    [.flag "EnableSSL" options.wantsTls, .flag "HttpToHttpsRedirection" options.httpsRedirect,
      .text "Size" size, .text "ServerIP" address.toText, .text "ServerID" server.id,
      .text "ServerName" server.name, .text "Host" host]

theorem contextOn_eq : options.contextOn size host server address answers =
    (changed .empty (options.changesOn size host server address)).mergeAnswers answers :=
  rfl

/-- Answers take the place of what a field would have. -/
theorem get?_contextOn {value : String}
    (last : ((options.changesOn size host server address).filterMap (·.text? field)).getLast? = some value) :
    (options.contextOn size host server address answers).get? field =
      some (answers[field]?.getD value) := by
  rw [contextOn_eq, Template.get?_mergeAnswers, Template.get?_changed, last, Option.some_or,
    Option.or_some]

theorem flag?_contextOn {flag : Bool}
    (last : ((options.changesOn size host server address).filterMap (·.flag? field)).getLast? = some flag) :
    (options.contextOn size host server address answers).flag? field =
      some ((answers[field]?.map answerFlag).getD flag) := by
  rw [contextOn_eq, Template.flag?_mergeAnswers, Template.flag?_changed, last, Option.some_or,
    Option.or_some]

theorem render_contextOn {value : String} (bare : '{' ∉ field.toList ∧ '}' ∉ field.toList)
    (last : ((options.changesOn size host server address).filterMap (·.text? field)).getLast? = some value) :
    (options.contextOn size host server address answers).render ("\x7b" ++ keyOf field ++ "\x7d") =
      answers[field]?.getD value :=
  Template.render_field bare (get?_contextOn last)

theorem render_host :
    (options.contextOn size host server address answers).render "\x7bopts.Host\x7d" =
      answers["Host"]?.getD host := by
  have placeholder : "\x7bopts.Host\x7d" = "\x7b" ++ keyOf "Host" ++ "\x7d" := by decide
  rw [placeholder]
  apply render_contextOn (by decide)
  simp [Options.changesOn, Options.fields, Change.text?]

theorem render_domain :
    (options.contextOn size host server address answers).render "\x7bopts.Domain\x7d" =
      answers["Domain"]?.getD options.domain := by
  have placeholder : "\x7bopts.Domain\x7d" = "\x7b" ++ keyOf "Domain" ++ "\x7d" := by decide
  rw [placeholder]
  apply render_contextOn (by decide)
  simp [Options.changesOn, Options.fields, Change.text?]

theorem evaluate_domain :
    (options.contextOn size host server address answers).evaluate "opts.Domain" =
      (answers["Domain"]?.map answerFlag).getD (!options.domain.isEmpty) := by
  have flag : (options.contextOn size host server address answers).flag? "Domain" =
      some ((answers["Domain"]?.map answerFlag).getD (!options.domain.isEmpty)) :=
    flag?_contextOn (by simp [Options.changesOn, Options.fields, Change.flag?])
  have nameable : Template.Nameable (keyOf "Domain").toList :=
    { filled := by decide
      tight := Text.tight_of_solid (Text.solid_of_all (by decide))
      unmarked := by rintro char ⟨⟩; decide
      bare := by decide }
  rw [show "opts.Domain" = keyOf "Domain" by decide, Template.evaluate_field nameable, flag,
    Option.getD_some]

/-- Without answers in their place, placeholders and guard agree with the deployment just if the
domain was given without blanks around it. -/
theorem agrees_iff (undomained : "Domain" ∉ answers) (unhosted : "Host" ∉ answers) :
    Agrees options address (options.contextOn size (options.host address) server address answers) ↔
      Text.trimmed options.domain = options.domain := by
  have domain : (options.contextOn size (options.host address) server address answers).render
      "\x7bopts.Domain\x7d" = options.domain := by
    rw [render_domain, Std.ExtTreeMap.getElem?_eq_none undomained, Option.getD_none]
  have host : (options.contextOn size (options.host address) server address answers).render
      "\x7bopts.Host\x7d" = options.host address := by
    rw [render_host, Std.ExtTreeMap.getElem?_eq_none unhosted, Option.getD_none]
  have guard : (options.contextOn size (options.host address) server address answers).evaluate
      "opts.Domain" = !options.domain.isEmpty := by
    rw [evaluate_domain, Std.ExtTreeMap.getElem?_eq_none undomained, Option.map_none, Option.getD_none]
  have served := host_eq options address
  constructor
  · intro agrees
    by_cases missing : options.domainName = ""
    · have unset := guard.symm.trans (agrees.missing missing).2
      have empty : options.domain = "" := String.isEmpty_iff.mp (by simpa using unset)
      exact missing.trans empty.symm
    · exact (agrees.supplied missing).1.symm.trans domain
  · intro tight
    have same : options.domainName = options.domain := tight
    refine ⟨fun supplied => ?_, fun missing => ?_⟩
    · rw [if_neg supplied] at served
      exact ⟨domain.trans same.symm, host.trans served⟩
    · rw [if_pos missing] at served
      exact ⟨host.trans served, by rw [guard, ← same, missing]; rfl⟩

end Contexts

section Runs

variable {installation : Installation Backend} {seen : Story Backend}

theorem Authorised.isFor (authorised : Authorised options target seen action) :
    action.IsFor options.domainName := by
  cases action with
  | nameservers name =>
      obtain ⟨-, -, -, ⟨-, own⟩ | ⟨-, zone, -⟩⟩ := authorised
      · exact .inl own
      · exact .inr zone
  | provider backend call =>
      obtain ⟨-, rfl, -⟩ := authorised
      exact rfl
  | setRecord registrar name record => exact authorised.1
  | _ => trivial

theorem arrived_of_installed
    (traced : Traces (installed site options).run story (.ok installation)) :
    Target.Arrived ⟨installation.plan, installation.address, installation.context⟩ site options story := by
  obtain ⟨planned, filled, addressed, before, providing, later, rfl, provides⟩ :=
    provided_of_installed traced
  obtain ⟨name, created, ordered, reported⟩ := traces_provision provides
  exact ⟨planned, installation.size, name, created, installation.server, by simp [ordered],
    by simp [reported], addressed, filled⟩

end Runs

/-- The placeholder of the domain is not what the application is served under.

DNS is asked for the trimmed domain, and only if there is one; the application is announced under
it, or else under the address of the server.  The placeholder of the host is rendered to that too,
but the placeholder of the domain to the text as it was given, and its guard tells whether that is
empty.  So these agree with what is served just if there was nothing to trim. -/
theorem domain_agrees_iff_trimmed (site : Site Backend) (options : Options) :
    (∀ past (target : Target Backend), target.Arrived site options past →
      target.context.render "\x7bopts.Host\x7d" =
        target.plan.answers["Host"]?.getD (options.host target.address) ∧
      target.context.render "\x7bopts.Domain\x7d" =
        target.plan.answers["Domain"]?.getD options.domain ∧
      target.context.evaluate "opts.Domain" =
        (target.plan.answers["Domain"]?.map answerFlag).getD (!options.domain.isEmpty) ∧
      ("Domain" ∉ target.plan.answers → "Host" ∉ target.plan.answers →
        (Agrees options target.address target.context ↔
          Text.trimmed options.domain = options.domain))) ∧
    (∀ past action, Raises (run site options) past action → action.concern = .domain →
      options.domainName ≠ "" ∧ action.IsFor options.domainName) ∧
    ∀ story summary, Traces (run site options) story (.ok summary) →
      ∃ past later installation, story = past ++ later ∧
        Traces (installed site options).run past (.ok installation) ∧
        Target.Arrived ⟨installation.plan, installation.address, installation.context⟩ site options
          past ∧
        summary.url = (if summary.tls = .configured then "https://" else "http://") ++
          options.host installation.address ∧
        options.host installation.address =
          if options.domainName = "" then installation.address.toText else options.domainName := by
  refine ⟨?placeholders, ?questions, ?announcement⟩
  case placeholders =>
    rintro past target ⟨-, size, name, created, server, -, -, -, filled⟩
    rw [filled]
    exact ⟨render_host, render_domain, evaluate_domain, agrees_iff⟩
  case questions =>
    intro past action raises about
    obtain ⟨target, -, named, authorised⟩ := run_granted.of_raises raises about
    exact ⟨named, authorised.isFor⟩
  case announcement =>
    intro story summary traced
    obtain ⟨past, later, installation, failure, rfl, installs, -, rfl⟩ := traces_run_ok traced
    exact ⟨past, later, installation, rfl, installs, arrived_of_installed installs, url_eq _ _,
      host_eq options installation.address⟩

section Spaces

def spacedOptions : Options := { loneOptions with domain := " app.example.com " }

def spacedRun : Option (Except Error Summary × Story Unit) :=
  (run loneSite spacedOptions).run? (noting (loneAnswer "")) []

theorem unanswered_of_plan {plan : Plan Unit}
    (planned : Deployment.plan loneSite spacedOptions = .ok plan) :
    "Domain" ∉ plan.answers ∧ "Host" ∉ plan.answers := by
  have unanswered : ((Deployment.plan loneSite spacedOptions).toOption.map fun plan =>
      (plan.answers.contains "Domain", plan.answers.contains "Host")) = some (false, false) := by
    decide +kernel
  rw [planned] at unanswered
  simpa [Except.toOption, ← Std.ExtTreeMap.contains_iff_mem] using unanswered

theorem summarized_spacedRun :
    summarized spacedRun = some (.notRequested, "http://app.example.com") := by
  decide +kernel

theorem succeeds_of_summarized {ran : Option (Except Error Summary × Story Unit)} {tls : TlsOutcome}
    {served : String} (summed : summarized ran = some (tls, served)) :
    ∃ summary noted, ran = some (.ok summary, noted) ∧ summary.url = served := by
  match ran with
  | some (.ok summary, noted) =>
      obtain ⟨-, same⟩ := Prod.mk.inj (Option.some.inj summed)
      exact ⟨summary, noted, rfl, same⟩
  | some (.error cause, noted) => cases summed
  | none => cases summed

/-- With blanks around it, a domain is served without them and put into scripts with them. -/
theorem spaced_domain_disagrees :
    ∃ story summary past later installation,
      Traces (run loneSite spacedOptions) story (.ok summary) ∧ story = past ++ later ∧
      Traces (installed loneSite spacedOptions).run past (.ok installation) ∧
      summary.url = "http://app.example.com" ∧
      installation.context.render "\x7bopts.Host\x7d" = "app.example.com" ∧
      installation.context.render "\x7bopts.Domain\x7d" = " app.example.com " ∧
      ¬ Agrees spacedOptions installation.address installation.context := by
  obtain ⟨summary, noted, ran, served⟩ := succeeds_of_summarized summarized_spacedRun
  obtain ⟨story, -, traced⟩ := traces_run?_noting ran
  obtain ⟨placeholders, -, announces⟩ := domain_agrees_iff_trimmed loneSite spacedOptions
  obtain ⟨past, later, installation, parted, installs, arrived, -, host⟩ :=
    announces story summary traced
  obtain ⟨hostText, domainText, -, agrees⟩ := placeholders past _ arrived
  obtain ⟨undomained, unhosted⟩ := unanswered_of_plan arrived.1
  rw [Std.ExtTreeMap.getElem?_eq_none unhosted, Option.getD_none, host, if_neg (by decide)]
    at hostText
  rw [Std.ExtTreeMap.getElem?_eq_none undomained, Option.getD_none] at domainText
  refine ⟨story, summary, past, later, installation, traced, parted, installs, served,
    hostText.trans (by decide), domainText, fun same => ?_⟩
  have tight := (agrees undomained unhosted).mp same
  revert tight
  decide

end Spaces

end Rollout.Deployment
