import Rollout.Address
import Rollout.Files
import Rollout.Settings

namespace Rollout.Remote

def sshArguments (settings : SshSettings) (home : Option String) (host : Address)
    (command : String) (terminal : Bool) : List String :=
  let option (setting : String) := ["-o", setting]
  ["-p", toString settings.port.toNat] ++
    (match settings.identityFile with
      | some path => ["-i", Files.expandTilde home path]
      | none => []) ++
    (if settings.batchMode then option "BatchMode=yes" else []) ++
    (if settings.strictHostKeyChecking then [] else option "StrictHostKeyChecking=no") ++
    (if Text.isBlankText settings.knownHostsFile then []
      else option s!"UserKnownHostsFile={settings.knownHostsFile}") ++
    (if terminal then ["-tt"] else []) ++
    [s!"{settings.user}@{host}", command]

end Rollout.Remote
