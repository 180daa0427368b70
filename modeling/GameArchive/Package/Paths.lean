import GameArchive.FileSystem.Path

/-!
# Paths of an archive

Everything of an archive has its place below the root.
-/

namespace GameArchive

/-- The paths of an archive, by its root. -/
structure Paths where
  root : Path
deriving DecidableEq

namespace Paths

def manifestName : Text := "manifest.json"

def shared (p : Paths) : Path := p.root.child "shared"

def resources (p : Paths) : Path := p.root.child "resources"

def icons (p : Paths) : Path := p.root.child "icons"

def lang (p : Paths) : Path := p.resources.child "lang"

def manifest (p : Paths) : Path := p.root.child manifestName

/-- All paths by their names. -/
def named (p : Paths) : List (String × Path) :=
  [("root", p.root), ("shared", p.shared), ("resources", p.resources), ("icons", p.icons),
    ("lang", p.lang), ("manifest", p.manifest)]

end Paths
end GameArchive
