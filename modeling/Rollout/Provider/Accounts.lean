import Rollout.Provider.DigitalOcean
import Rollout.Provider.Scaleway.Service

namespace Rollout.Provider

/-! The providers that deployments can choose from, with the accounts that were
configured for them. -/

/-- The provider of an account after the settings of a deployment. -/
def configured {α : Type} (configure : α → Settings → α × Except Error Unit)
    (provider : α → Provider Service) (account : α) (settings : Settings) :
    Except Error (Provider Service) := do
  let (account, accepted) := configure account settings
  accepted
  pure (provider account)

structure Accounts where
  scaleway : Scaleway.Account
  digitalOcean : DigitalOcean.Account

def Accounts.registry (accounts : Accounts) : Registry Service :=
  .ofList [
    (Scaleway.name,
      configured Scaleway.Account.configure Scaleway.Account.provider accounts.scaleway),
    (DigitalOcean.name,
      configured DigitalOcean.Account.configure DigitalOcean.Account.provider accounts.digitalOcean)]

end Rollout.Provider
