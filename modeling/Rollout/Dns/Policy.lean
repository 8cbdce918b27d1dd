import Rollout.Installer.Spec
import Rollout.Text.Blank
import Rollout.Text.Pieces

namespace Rollout.Dns

/-! Whether and how a deployment may change DNS. -/

inductive Mode where
  | auto
  | force
  | skip
  | cloudflare
deriving Repr, DecidableEq

namespace Mode

def name : Mode → String
  | auto => "auto"
  | force => "force"
  | skip => "skip"
  | cloudflare => "cloudflare"

structure Unknown where
  name : String
deriving Repr, DecidableEq

def Unknown.message (unknown : Unknown) : String :=
  s!"unknown DNS mode '{unknown.name}': expected auto, force, skip, or cloudflare"

/-- Reads the name of a mode in any case; nothing stands for `auto`. -/
def ofText (text : String) : Except Unknown Mode :=
  match Text.lower (Text.trimmed text) with
  | "" | "auto" => .ok auto
  | "force" => .ok force
  | "skip" => .ok skip
  | "cloudflare" => .ok cloudflare
  | name => .error { name }

end Mode

inductive Decision (Credentials : Type) where
  | skip (reason : String)
  | provider
  | registrar (credentials : Credentials)
  /-- By the provider, if the provider answers for the domain already. -/
  | detect
deriving Repr, DecidableEq

/-- Credentials for a registrar count more than the provider in every mode that
does not skip DNS. -/
def decide {Credentials : Type} (mode : Mode) (policy : Installer.DnsPolicy)
    (credentials : Option Credentials) : Decision Credentials :=
  match mode, credentials with
  | .skip, _ => .skip "DNS mode is skip"
  | _, some credentials => .registrar credentials
  | .cloudflare, none => .skip "no Cloudflare credentials supplied"
  | .force, none => .provider
  | .auto, none =>
      match policy with
      | .never => .skip "app does not configure DNS automatically"
      | .always => .provider
      | .providerMatch => .detect

variable {Credentials : Type} {mode : Mode} {policy : Installer.DnsPolicy}
  {credentials : Option Credentials}

theorem decide_eq_provider_iff : decide mode policy credentials = .provider ↔
    credentials = none ∧ (mode = .force ∨ mode = .auto ∧ policy = .always) := by
  cases mode <;> cases credentials <;> cases policy <;> simp [decide]

theorem decide_eq_registrar_iff {given : Credentials} :
    decide mode policy credentials = .registrar given ↔ credentials = some given ∧ mode ≠ .skip := by
  cases mode <;> cases credentials <;> cases policy <;> simp [decide]

theorem decide_eq_detect_iff : decide mode policy credentials = .detect ↔
    credentials = none ∧ mode = .auto ∧ policy = .providerMatch := by
  cases mode <;> cases credentials <;> cases policy <;> simp [decide]

end Rollout.Dns
