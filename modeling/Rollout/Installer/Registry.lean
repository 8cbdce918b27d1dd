import Rollout.Files
import Rollout.Installer.Bundled
import Rollout.Installer.Document
import Std.Data.ExtTreeMap

namespace Rollout.Installer

/-! The applications that can be installed, by name. -/

inductive RegistryError where
  | unreadable (path : String) (cause : Files.Failure)
  | refused (path : String) (cause : DocumentError)
  | unknownApp (name : String)
deriving Repr, DecidableEq

private def readFailed (path message : String) : String :=
  "failed to read installer '" ++ path ++ "': " ++ message

def RegistryError.message : RegistryError → String
  | .unreadable path cause => readFailed path cause.message
  | .refused path cause => readFailed path cause.message
  | .unknownApp name => "unknown app '" ++ name ++ "'"

abbrev Registry := Std.ExtTreeMap String Spec

namespace Registry

/-- Adds a specification in place of one of the same name. -/
def register (registry : Registry) (spec : Spec) : Registry :=
  registry.insert spec.app spec

def get (registry : Registry) (name : String) : Except RegistryError Spec :=
  match registry[name]? with
  | some spec => .ok spec
  | none => .error (.unknownApp name)

/-- Registers documents in order up to the first one that is refused. -/
def registerTexts (registry : Registry) :
    List (String × Except RegistryError String) → Registry × Option RegistryError
  | [] => (registry, none)
  | (path, text) :: texts =>
      match text with
      | .error failure => (registry, some failure)
      | .ok text =>
          match Spec.ofText text with
          | .error cause => (registry, some (.refused path cause))
          | .ok spec => registerTexts (registry.register spec) texts

def bundled : Registry × Option RegistryError :=
  registerTexts ∅ (bundledDocuments.map fun (name, text) => (name, .ok text))

def isDocumentName (name : String) : Bool :=
  (Text.dropEnd? ".yaml".toList name.toList).isSome ||
    (Text.dropEnd? ".yml".toList name.toList).isSome

/-- The names of the documents among the names in a directory. -/
def documentNames (listed : List String) : List String :=
  (listed.filter isDocumentName).mergeSort

/-- The text of a document with the path that it is known by. -/
def readAt (path : String) (read : String → Except Files.Failure String) (name : String) :
    String × Except RegistryError String :=
  let place := Files.join path name
  (place, (read name).mapError (.unreadable place))

/-- Loads the documents among the listed ones in the order of their names and counts
them.  Documents in front of one that fails stay registered. -/
def loadListed (registry : Registry) (path : String) (listed : List String)
    (read : String → Except Files.Failure String) : Registry × Except RegistryError Nat :=
  let names := documentNames listed
  match registry.registerTexts (names.map (readAt path read)) with
  | (registry, some failure) => (registry, .error failure)
  | (registry, none) => (registry, .ok names.length)

/-- Loads the documents of a directory. -/
def loadDirectory (registry : Registry) (files : Files.Tree) (path : String) :
    Registry × Except RegistryError Nat :=
  match files.openDirectory path with
  | .error cause => (registry, .error (.unreadable path cause))
  | .ok directory =>
      registry.loadListed path (files.namesIn directory) fun name => files.readText directory [name]

end Registry

end Rollout.Installer
