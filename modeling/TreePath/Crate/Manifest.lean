import TreePath.Crate.Path
import TreePath.Toml.Document

/-
  This file defines manifests, the lists of crates that a
  crate depends on, and the path under which a crate can be
  named there.  A member crate can also be named through the
  facade that exports all members.

  Key definitions include:
    * `Manifest`
    * `Manifest.ofText`
    * `ManifestReader`
    * `Manifest.find?`
    * `Manifest.cratePath`
-/

namespace TreePath

------------------------------------------------------------
-- Manifests
------------------------------------------------------------

/- The names of the dependencies, in two tables. -/
structure Manifest where
  dependencies : List String
  devDependencies : List String
deriving DecidableEq, Repr

/- A name that can be no crate's. -/
structure InvalidCrateName where
  name : String
deriving DecidableEq, Repr

/- The wording of the error. -/
def InvalidCrateName.message
    (e : InvalidCrateName) : String :=
  let name := e.name
  s!"`{name}` is not a valid crate name"

namespace Manifest

/- The manifest without dependencies. -/
def empty : Manifest :=
  ⟨[], []⟩

/-
  The manifest in a text of TOML, version 1.1.  A malformed
  text lists nothing.
-/
def ofText
    (source : String) : Manifest :=
  match Toml.root? source with
  | none => empty
  | some root =>
      ⟨Toml.tableNames root "dependencies",
        Toml.tableNames root "dev-dependencies"⟩

end Manifest

/-
  A way to read manifests from texts.  How manifests are kept
  does not depend on the language that they are written in.
-/
class ManifestReader where
  read : String → Manifest

instance (priority := low) ManifestReader.toml :
    ManifestReader where
  read := Manifest.ofText

namespace Manifest

------------------------------------------------------------
-- Crate Paths
------------------------------------------------------------

/- The crate that exports all members. -/
def facade : String :=
  "vc_notation"

/- The module of a member in the facade. -/
def module?
    (name : String) : Option String :=
  match name.toList with
  | 'v' :: 'c' :: '_' :: cs => some (String.ofList cs)
  | _ => none

/-
  The path of a crate by one list of dependencies.  A crate
  that is listed goes by its own name, and a member also by
  the facade; a name that makes no path is not found.
-/
def find?
    (listed : List String)
    (name : String) : Option CratePath :=
  if listed.contains name then
    CratePath.ofText? name
  else
    match module? name with
    | none => none
    | some part =>
        if listed.contains facade then
          CratePath.inside? facade part
        else
          none

/-
  The path of a crate: by the dependencies, then by those of
  development, then by its own name.
-/
def cratePath
    (m : Manifest)
    (name : String) : Except InvalidCrateName CratePath :=
  match find? m.dependencies name with
  | some path => .ok path
  | none =>
      match find? m.devDependencies name with
      | some path => .ok path
      | none =>
          match CratePath.ofText? name with
          | some path => .ok path
          | none => .error ⟨name⟩

end Manifest

end TreePath
