import GameArchive.Listing.Files
import GameArchive.Package.Basic

/-!
# Resources

The files of an archive by their kinds.
-/

namespace GameArchive
namespace Package

open Operation

/-- A listing of resources. -/
def openResources (wanted : Json) : Operation Listing.Iterator := do
  Listing.openAt (← knownPaths).resources wanted

def resources (wanted : Json) : Operation (List Listing.Entry) := do
  Listing.rest (← openResources wanted)

def icons : Operation (List Listing.Entry) := do
  let base := (← knownPaths).icons
  Listing.files base (Settings.texts (← Configuration.current).imageExtensions)

def images : Operation (List Listing.Entry) := do
  resources (Settings.texts (← Configuration.current).imageExtensions)

def sounds : Operation (List Listing.Entry) := do
  resources (Settings.texts (← Configuration.current).soundExtensions)

def configs : Operation (List Listing.Entry) := do
  resources (Settings.texts (← Configuration.current).configExtensions)

/-- The ending of scripts, without dots before it. -/
def scriptExtension : Operation Text := do
  return (← Configuration.current).scriptExtension.dropWhile fun c : CodePoint => c = '.'

/-- A listing of scripts. -/
def openScripts : Operation Listing.Iterator := do
  let base := (← knownPaths).shared
  Listing.openAt base (Settings.texts [← scriptExtension])

def scripts : Operation (List Listing.Entry) := do
  Listing.rest (← openScripts)

end Package
end GameArchive
