import Rollout.Files
import Rollout.Yaml.Printer

namespace Rollout.CloudInit

/-! The key that opens a new server to its operator.

A key is given inline or as the path of a file that holds it, and is installed
by the user-data document that the server reads when it first starts.
-/

inductive Error where
  | keyEmpty
  | unreadable (path : String) (cause : Files.Failure)
  | invalidKey (path : String)
deriving Repr, DecidableEq

def Error.message : Error → String
  | .keyEmpty => "SSH public key must not be empty"
  | .unreadable path cause =>
      "failed to read SSH public key file \x60" ++ path ++ "\x60: " ++ cause.message
  | .invalidKey path => "\x60" ++ path ++ "\x60 does not look like an OpenSSH public key"

def keyStarts : List String := ["ssh-", "ecdsa-", "sk-ssh-", "sk-ecdsa-"]

def isPublicKey (text : String) : Bool :=
  keyStarts.any fun start => start.toList.isPrefixOf text.toList

/-- The key that a value holds or names, where a leading tilde stands for the
home directory. -/
def resolvePublicKey (files : Files.Tree) (home : Option String) (value : String) :
    Except Error String :=
  let given := Text.trimmed value
  if given.isEmpty then .error .keyEmpty
  else if isPublicKey given then .ok given
  else
    let path := Files.expandTilde home given
    match files.readPath path with
    | .error cause => .error (.unreadable path cause)
    | .ok content =>
        let key := Text.trimmed content
        if key.isEmpty then .error .keyEmpty
        else if isPublicKey key then .ok key
        else .error (.invalidKey path)

def userData (keys : List String) : String :=
  let list :=
    if keys.isEmpty then " []\n" else "\n" ++ String.join (keys.map Yaml.printItem)
  "#cloud-config\nssh_authorized_keys:" ++ list ++ "disable_root: false\nssh_pwauth: false\n"

end Rollout.CloudInit
