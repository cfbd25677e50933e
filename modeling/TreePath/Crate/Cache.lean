import TreePath.Crate.Manifest

/-
  This file defines how the manifest of a directory is kept:
  it is read at the first lookup that finds its file and
  gives an answer, and not again.

  Key definitions include:
    * `ManifestCache`
    * `ManifestCache.lookup`
    * `CacheStep`
    * `ManifestCache.run`
-/

namespace TreePath

------------------------------------------------------------
-- Caches
------------------------------------------------------------

/-
  The text of the file of a directory, if the file exists,
  and the manifest that is kept, if one is.
-/
structure ManifestCache where
  file : Option String
  kept : Option Manifest
deriving DecidableEq, Repr

namespace ManifestCache

variable [ManifestReader]

/- No file, and nothing kept. -/
def fresh : ManifestCache :=
  ⟨none, none⟩

/- The manifest that a lookup goes by. -/
def manifest
    (c : ManifestCache) : Manifest :=
  match c.file, c.kept with
  | none, _ => .empty
  | some _, some m => m
  | some source, none => ManifestReader.read source

/-
  Look a crate up.  Without a directory, or without a file,
  the manifest is empty; a failed lookup keeps nothing.
-/
def lookup
    (c : ManifestCache)
    (located : Bool)
    (name : String) :
    Except InvalidCrateName CratePath × ManifestCache :=
  if located then
    let m := c.manifest
    match m.cratePath name with
    | .error e => (.error e, c)
    | .ok path =>
        match c.file with
        | none => (.ok path, c)
        | some _ => (.ok path, { c with kept := some m })
  else
    (Manifest.empty.cratePath name, c)

end ManifestCache

------------------------------------------------------------
-- Runs
------------------------------------------------------------

/- What can happen to a directory and its manifest. -/
inductive CacheStep where
| write (source : String)
| remove
| lookup (located : Bool) (name : String)
deriving DecidableEq, Repr

namespace ManifestCache

variable [ManifestReader]

/- Take one step; lookups have an answer. -/
def step
    (c : ManifestCache) :
    CacheStep →
      Option (Except InvalidCrateName CratePath) ×
        ManifestCache
| .write source => (none, { c with file := some source })
| .remove => (none, { c with file := none })
| .lookup located name =>
    let (answer, c) := c.lookup located name
    (some answer, c)

/- The answers of a run of steps. -/
def run
    (c : ManifestCache) :
    List CacheStep →
      List (Except InvalidCrateName CratePath)
| [] => []
| s :: steps =>
    let (answer, c) := c.step s
    match answer with
    | none => c.run steps
    | some answer => answer :: c.run steps

end ManifestCache

end TreePath
