import Rollout.Proofs.Deployment.Progression

namespace Rollout.Deployment

open Procedure

/-! Who may change DNS, and when.

`Authorised` says what must have been seen when nameservers, registrars or the DNS of the
provider are asked, and `Accomplished` what must have been seen when DNS counts as set up.
-/

variable {Backend : Type} {options : Options}

/-- What a domain is pointed at. -/
structure Target (Backend : Type) where
  plan : Plan Backend
  address : Address
  context : Template.Context

def Options.domainName (options : Options) : String := Text.trimmed options.domain

def Target.records (target : Target Backend) (options : Options) : List Dns.Record :=
  Dns.resolveRecords target.plan.spec.records options.domainName target.address target.context

/-- What was asked about DNS, and the answers. -/
def onDns (story : Story Backend) : Story Backend := story.filter (·.1.concern = .domain)

/-- The nameservers that were found tell who answers for the domain: the first of its own,
or the first of its zone if it has none. -/
inductive Detects (domain : String) : Story Backend → Dns.Host → Prop where
  | own (nameserver : String) (others : List String) :
      Detects domain [⟨.nameservers domain, .ok (nameserver :: others)⟩] (.classify nameserver)
  | zone (nameserver : String) (others : List String) (apart : (Dns.splitDomain domain).1 ≠ domain) :
      Detects domain
        [⟨.nameservers domain, .ok []⟩,
          ⟨.nameservers (Dns.splitDomain domain).1, .ok (nameserver :: others)⟩]
        (.classify nameserver)

def recorded (registrar : Dns.Registrar) (domain : String) (record : Dns.Record) : Event Backend :=
  ⟨.setRecord registrar domain record, .ok ()⟩

def Target.pointed (target : Target Backend) (options : Options)
    (answer : Except Provider.Error Unit) : Event Backend :=
  ⟨.provider target.plan.provider.backend (.pointDomain options.domainName target.address), answer⟩

/-- What must have been seen of DNS when a question about it is asked. -/
def Authorised (options : Options) (target : Target Backend) (seen : Story Backend) :
    Action Backend → Prop
  | .nameservers name =>
      options.registrar = none ∧ options.dnsMode = .auto ∧
        target.plan.spec.dnsPolicy = .providerMatch ∧
        (seen = [] ∧ name = options.domainName ∨
          seen = [⟨.nameservers options.domainName, .ok []⟩] ∧
            name = (Dns.splitDomain options.domainName).1 ∧ name ≠ options.domainName)
  | .provider backend call =>
      backend = target.plan.provider.backend ∧
        call = .pointDomain options.domainName target.address ∧ options.registrar = none ∧
        ((options.dnsMode = .force ∨
            options.dnsMode = .auto ∧ target.plan.spec.dnsPolicy = .always) ∧ seen = [] ∨
          options.dnsMode = .auto ∧ target.plan.spec.dnsPolicy = .providerMatch ∧
            Detects options.domainName seen target.plan.provider.dnsHost)
  | .registrar credentials =>
      options.registrar = some credentials ∧ options.dnsMode ≠ .skip ∧ seen = []
  | .setRecord registrar name record =>
      name = options.domainName ∧ options.dnsMode ≠ .skip ∧
        ∃ credentials done left, options.registrar = some credentials ∧
          target.records options = done ++ record :: left ∧
          seen = ⟨.registrar credentials, .ok registrar⟩ :: done.map (recorded registrar name)
  | _ => False

/-- Either the provider has pointed the domain, or a registrar has taken every record. -/
def Accomplished (options : Options) (target : Target Backend) (seen : Story Backend) : Prop :=
  target.pointed options (.ok ()) ∈ seen ∨
    ∃ credentials registrar, seen = ⟨.registrar credentials, .ok registrar⟩ ::
      (target.records options).map (recorded registrar options.domainName)

def DnsOutcome.IsConfigured (outcome : DnsOutcome) : Prop := ∃ via, outcome = .configured via

section Stage

theorem onDns_append (front back : Story Backend) :
    onDns (front ++ back) = onDns front ++ onDns back :=
  List.filter_append ..

theorem onDns_emit (past : Story Backend) (line : Progress.Line) :
    onDns (past ++ [⟨.emit line, ()⟩]) = onDns past := by
  rw [onDns_append]
  cases line <;> exact List.append_nil _

theorem onDns_snoc (past : Story Backend) (event : Event Backend) (minds : event.1.concern = .domain) :
    onDns (past ++ [event]) = onDns past ++ [event] := by
  rw [onDns_append]
  simp [onDns, minds]

theorem Lacks.onDns {story : Story Backend} (lacks : Lacks .domain story) : onDns story = [] := by
  apply List.filter_eq_nil_iff.mpr
  intro event member
  simpa using lacks event member

/-- Nothing was seen but nameservers. -/
def OnlyLooks (seen : Story Backend) : Prop := ∀ event ∈ seen, ∃ name, event.1 = .nameservers name

variable {target : Target Backend} {past seen : Story Backend}

theorem onlyLooks_nil : OnlyLooks ([] : Story Backend) := by
  intro event member
  cases member

theorem OnlyLooks.snoc (looks : OnlyLooks seen) (name : String)
    (found : Except Dns.Error (List String)) : OnlyLooks (seen ++ [⟨.nameservers name, found⟩]) := by
  intro event member
  rcases List.mem_append.mp member with before | last
  · exact looks event before
  · obtain rfl := List.mem_singleton.mp last
    exact ⟨name, rfl⟩

theorem Detects.onlyLooks {host : Dns.Host} {domain : String} (detects : Detects domain seen host) :
    OnlyLooks seen := by
  cases detects with
  | own nameserver others => exact onlyLooks_nil.snoc _ _
  | zone nameserver others apart => exact (onlyLooks_nil.snoc domain _).snoc _ _

theorem OnlyLooks.not_accomplished (looks : OnlyLooks seen) : ¬ Accomplished options target seen := by
  rintro (pointed | ⟨credentials, registrar, rfl⟩)
  · obtain ⟨name, impossible⟩ := looks _ pointed
    cases impossible
  · obtain ⟨name, impossible⟩ := looks _ List.mem_cons_self
    cases impossible

theorem OnlyLooks.accomplished_iff {answer : Except Provider.Error Unit} (looks : OnlyLooks seen) :
    Accomplished options target (seen ++ [target.pointed options answer]) ↔ answer = .ok () := by
  constructor
  · rintro (pointed | ⟨credentials, registrar, every⟩)
    · rcases List.mem_append.mp pointed with before | last
      · obtain ⟨name, impossible⟩ := looks _ before
        cases impossible
      · simpa [Target.pointed] using (List.mem_singleton.mp last).symm
    · -- What was seen first is a registrar, and so neither nameservers nor the provider.
      cases seen with
      | nil => simp [Target.pointed] at every
      | cons event rest =>
          obtain ⟨name, looked⟩ := looks event List.mem_cons_self
          obtain rfl := (List.cons.inj every).1
          cases looked
  · rintro rfl
    exact .inl (by simp)

theorem not_accomplished_of_refused {registrar : Dns.Registrar} {credentials : Dns.Credentials}
    {name : String} {done : List Dns.Record} {record : Dns.Record} {cause : Dns.Error} :
    ¬ Accomplished options target (⟨.registrar credentials, .ok registrar⟩ ::
      (done.map (recorded registrar name) ++ [⟨.setRecord registrar name record, .error cause⟩])) := by
  rintro (pointed | ⟨credentials', registrar', every⟩)
  · simp [Target.pointed, recorded] at pointed
  · have refused : (⟨.setRecord registrar name record, .error cause⟩ : Event Backend) ∈
        (target.records options).map (recorded registrar' options.domainName) := by
      rw [← (List.cons.inj every).2]
      simp
    obtain ⟨record', -, same⟩ := List.mem_map.mp refused
    simp [recorded] at same

/-- A question may be asked after the past. -/
def Fit (options : Options) (target : Target Backend) (past : Story Backend)
    (action : Action Backend) : Prop :=
  action.concern = .domain → options.domainName ≠ "" ∧ Authorised options target (onDns past) action

/-- The outcome agrees with what was seen. -/
def Tells (options : Options) (target : Target Backend) (story : Story Backend)
    (outcome : DnsOutcome) : Prop :=
  outcome.IsConfigured ↔ Accomplished options target (onDns story)

theorem fit_emit {line : Progress.Line} : Fit options target past (.emit line) := by
  intro minds
  cases line <;> cases minds

theorem tells_skipped {reason : String} (looks : OnlyLooks (onDns past)) :
    Tells options target past (.skipped reason) := by
  constructor
  · rintro ⟨via, impossible⟩
    cases impossible
  · intro accomplished
    exact absurd accomplished looks.not_accomplished

theorem concluded_upholds {result : Except String String}
    (settled : (∃ via, result = .ok via) ↔ Accomplished options target (onDns past)) :
    (concluded result : Course Backend DnsOutcome).Upholds (Fit options target)
      (Tells options target) past := by
  cases result with
  | ok via =>
      apply upholds_pure.mpr
      exact ⟨fun _ => settled.mp ⟨via, rfl⟩, fun _ => ⟨via, rfl⟩⟩
  | error message =>
      apply Upholds.bind
      apply upholds_query _ fit_emit
      intro _
      apply upholds_pure.mpr
      constructor
      · rintro ⟨via, impossible⟩
        cases impossible
      · intro accomplished
        rw [onDns_emit] at accomplished
        obtain ⟨via, impossible⟩ := settled.mpr accomplished
        cases impossible

section Registrar

variable {credentials : Dns.Credentials} {registrar : Dns.Registrar}

theorem setRecords_upholds (named : options.domainName ≠ "") (wanted : options.dnsMode ≠ .skip)
    (given : options.registrar = some credentials) (done rest : List Dns.Record)
    (all : target.records options = done ++ rest)
    (asked : onDns past = ⟨.registrar credentials, .ok registrar⟩ ::
      done.map (recorded registrar options.domainName)) :
    (setRecords registrar options.domainName rest : Stage Backend Dns.Error Unit).run.Upholds
      (Fit options target)
      (fun story result => result = .ok () ↔ Accomplished options target (onDns story)) past := by
  induction rest generalizing done past with
  | nil =>
      rw [List.append_nil] at all
      apply upholds_run_pure
      exact ⟨fun _ => .inr ⟨credentials, registrar, all ▸ asked⟩, fun _ => rfl⟩
  | cons record rest ih =>
      unfold setRecords
      apply upholds_run_bind
      apply upholds_query (Action.setRecord registrar options.domainName record)
      · intro _
        exact ⟨named, rfl, wanted, credentials, done, rest, given, all, asked⟩
      intro answer
      have told := onDns_snoc past ⟨.setRecord registrar options.domainName record, answer⟩ rfl
      rw [asked] at told
      cases answer with
      | error cause =>
          constructor
          · intro impossible
            cases impossible
          · intro accomplished
            rw [told] at accomplished
            exact absurd accomplished not_accomplished_of_refused
      | ok taken =>
          apply upholds_run_bind
          apply upholds_run_lift
          apply upholds_query _ fit_emit
          intro _
          apply ih (done ++ [record])
          · simpa using all
          · rw [onDns_emit, told]
            simp [recorded]

theorem useRegistrar_upholds (named : options.domainName ≠ "") (wanted : options.dnsMode ≠ .skip)
    (given : options.registrar = some credentials) (first : onDns past = []) :
    (useRegistrar target.plan credentials options.domainName target.address target.context).run.Upholds
      (Fit options target)
      (fun story result => (∃ via, result = .ok via) ↔ Accomplished options target (onDns story))
      past := by
  unfold useRegistrar
  apply upholds_run_bind
  apply upholds_query (Action.registrar credentials)
  · intro _
    exact ⟨named, given, wanted, first⟩
  intro answer
  have asked := onDns_snoc past ⟨.registrar credentials, answer⟩ rfl
  rw [first] at asked
  cases answer with
  | error cause =>
      constructor
      · rintro ⟨via, impossible⟩
        cases impossible
      · rw [asked]
        rintro (pointed | ⟨credentials', registrar, every⟩)
        · simp [Target.pointed] at pointed
        · simp at every
  | ok registrar =>
      apply upholds_run_bind
      apply (setRecords_upholds named wanted given [] _ rfl asked).mono
      intro story result settled
      cases result with
      | error cause =>
          constructor
          · rintro ⟨via, impossible⟩
            cases impossible
          · intro accomplished
            cases settled.mpr accomplished
      | ok done =>
          apply upholds_run_pure
          exact ⟨fun _ => settled.mp rfl, fun _ => ⟨registrar.name, rfl⟩⟩

end Registrar

section Detection

/-- What a look at nameservers needs to be allowed. -/
structure Undecided (options : Options) (target : Target Backend) : Prop where
  named : options.domainName ≠ ""
  unregistered : options.registrar = none
  auto : options.dnsMode = .auto
  matching : target.plan.spec.dnsPolicy = .providerMatch

/-- What detection has seen when it ends. -/
def Detection (domain : String) (story : Story Backend) (result : Except Dns.Error Dns.Host) : Prop :=
  OnlyLooks (onDns story) ∧ ∀ host, result = .ok host → Detects domain (onDns story) host

theorem detection_error {domain : String} {cause : Dns.Error} (looks : OnlyLooks (onDns past)) :
    Detection domain past (.error cause) := by
  refine ⟨looks, ?_⟩
  intro host impossible
  cases impossible

theorem detection_ok {domain : String} {host : Dns.Host} (detects : Detects domain (onDns past) host) :
    Detection domain past (.ok host) := by
  refine ⟨detects.onlyLooks, ?_⟩
  intro other same
  obtain rfl := Except.ok.inj same
  exact detects

theorem detect_upholds (undecided : Undecided options target) (first : onDns past = []) :
    (Dns.detect (m := Procedure (Action Backend) Action.Result)
      (fun name => ExceptT.mk (query (Action.nameservers name))) options.domainName).run.Upholds
      (Fit options target) (Detection options.domainName) past := by
  obtain ⟨named, unregistered, auto, matching⟩ := undecided
  let zone := (Dns.splitDomain options.domainName).1
  unfold Dns.detect
  apply upholds_run_bind
  apply upholds_query (Action.nameservers options.domainName)
  · intro _
    exact ⟨named, unregistered, auto, matching, .inl ⟨first, rfl⟩⟩
  intro answer
  have asked := onDns_snoc past ⟨.nameservers options.domainName, answer⟩ rfl
  rw [first] at asked
  cases answer with
  | error cause => exact detection_error (asked ▸ onlyLooks_nil.snoc _ _)
  | ok found =>
      apply upholds_run_bind
      cases found with
      | cons nameserver others =>
          rw [if_neg (by simp)]
          apply upholds_run_pure
          apply upholds_run_pure
          exact detection_ok (asked ▸ .own nameserver others)
      | nil =>
          by_cases apart : zone = options.domainName
          · rw [if_neg (by simp [zone] at apart; simp [apart])]
            apply upholds_run_pure
            exact upholds_run_throw (detection_error (asked ▸ onlyLooks_nil.snoc _ _))
          · rw [if_pos ⟨rfl, apart⟩]
            apply upholds_query (Action.nameservers zone)
            · intro _
              exact ⟨named, unregistered, auto, matching, .inr ⟨asked, rfl, apart⟩⟩
            intro answer
            have again := onDns_snoc (past ++ [⟨.nameservers options.domainName, .ok []⟩])
              ⟨.nameservers zone, answer⟩ rfl
            rw [asked] at again
            have looks : OnlyLooks ([⟨.nameservers options.domainName, .ok []⟩] ++
                [⟨.nameservers zone, answer⟩] : Story Backend) :=
              (onlyLooks_nil.snoc options.domainName _).snoc zone answer
            cases answer with
            | error cause => exact detection_error (again ▸ looks)
            | ok found =>
                cases found with
                | nil => exact upholds_run_throw (detection_error (again ▸ looks))
                | cons nameserver others =>
                    apply upholds_run_pure
                    exact detection_ok (again ▸ .zone nameserver others apart)

theorem detectRoute_upholds (undecided : Undecided options target) (first : onDns past = []) :
    (detectRoute target.plan.provider options.domainName).Upholds (Fit options target)
      (fun story route =>
        match route with
        | .none _ => OnlyLooks (onDns story)
        | .provider => Detects options.domainName (onDns story) target.plan.provider.dnsHost
        | .registrar _ => False) past := by
  unfold detectRoute
  apply Upholds.bind
  apply (detect_upholds undecided first).mono
  rintro story result ⟨looks, detects⟩
  cases result with
  | error cause => exact upholds_pure.mpr looks
  | ok host =>
      apply upholds_pure.mpr
      by_cases own : host = target.plan.provider.dnsHost
      · rw [if_pos own]
        exact own ▸ detects host rfl
      · rw [if_neg own]
        exact looks

end Detection

/-- What must be known when a route is taken. -/
def Open (options : Options) (target : Target Backend) (story : Story Backend) : Route → Prop
  | .none _ => OnlyLooks (onDns story)
  | .provider => OnlyLooks (onDns story) ∧ Fit options target story (target.pointed options (.ok ())).1
  | .registrar credentials =>
      onDns story = [] ∧ options.registrar = some credentials ∧ options.dnsMode ≠ .skip

theorem chooseRoute_upholds (named : options.domainName ≠ "") (first : onDns past = []) :
    (chooseRoute target.plan options options.domainName).Upholds (Fit options target)
      (Open options target) past := by
  have looks : OnlyLooks (onDns past) := first ▸ onlyLooks_nil
  unfold chooseRoute
  cases decided : Dns.decide options.dnsMode target.plan.spec.dnsPolicy options.registrar with
  | skip reason => exact upholds_pure.mpr looks
  | provider =>
      obtain ⟨unregistered, wanted⟩ := Dns.decide_eq_provider_iff.mp decided
      apply upholds_pure.mpr
      exact ⟨looks, fun _ => ⟨named, rfl, rfl, unregistered, .inl ⟨wanted, first⟩⟩⟩
  | registrar credentials =>
      obtain ⟨given, wanted⟩ := Dns.decide_eq_registrar_iff.mp decided
      exact upholds_pure.mpr ⟨first, given, wanted⟩
  | detect =>
      obtain ⟨unregistered, auto, matching⟩ := Dns.decide_eq_detect_iff.mp decided
      apply (detectRoute_upholds ⟨named, unregistered, auto, matching⟩ first).mono
      intro story route detected
      cases route with
      | none reason => exact detected
      | provider =>
          exact ⟨detected.onlyLooks, fun _ =>
            ⟨named, rfl, rfl, unregistered, .inr ⟨auto, matching, detected⟩⟩⟩
      | registrar credentials => exact detected.elim

theorem pointDomain_upholds (target : Target Backend) (first : onDns past = []) :
    (pointDomain target.plan options target.address target.context).Upholds (Fit options target)
      (Tells options target) past := by
  unfold pointDomain
  dsimp only
  split
  · exact upholds_pure.mpr (tells_skipped (first ▸ onlyLooks_nil))
  · rename_i filled
    have named : options.domainName ≠ "" := by
      intro blank
      exact filled (String.isEmpty_iff.mpr blank)
    apply Upholds.bind
    apply (chooseRoute_upholds named first).mono
    intro story route isOpen
    cases route with
    | none reason =>
        apply Upholds.bind
        apply upholds_query _ fit_emit
        intro _
        apply upholds_pure.mpr
        apply tells_skipped
        rw [onDns_emit]
        exact isOpen
    | provider =>
        obtain ⟨looks, permitted⟩ := isOpen
        apply Upholds.bind
        apply upholds_query _ fit_emit
        intro _
        apply Upholds.bind
        apply upholds_query (Action.provider target.plan.provider.backend
          (.pointDomain options.domainName target.address))
        · unfold Fit
          rw [onDns_emit]
          exact permitted
        intro answer
        have settled (line : Progress.Line) :
            Accomplished options target
              (onDns (story ++ [⟨.emit line, ()⟩] ++ [target.pointed options answer])) ↔
              answer = .ok () := by
          rw [onDns_snoc _ _ rfl, onDns_emit]
          exact looks.accomplished_iff
        apply concluded_upholds
        refine Iff.trans ?_ (settled _).symm
        cases answer with
        | ok done => exact iff_of_true ⟨_, rfl⟩ rfl
        | error cause => exact iff_of_false nofun nofun
    | registrar credentials =>
        obtain ⟨first, given, wanted⟩ := isOpen
        apply Upholds.bind
        apply (useRegistrar_upholds named wanted given first).mono
        intro story result settled
        apply concluded_upholds
        rw [← settled]
        cases result with
        | ok done => exact iff_of_true ⟨done, rfl⟩ ⟨done, rfl⟩
        | error cause => exact iff_of_false nofun nofun

end Stage

end Rollout.Deployment
