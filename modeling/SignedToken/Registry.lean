import SignedToken.Algorithm
import SignedToken.Settings
import SignedToken.Text.Basic

/-!
# Enabled algorithms

An algorithm is enabled if the installation can do the arithmetic of its family and the settings do
not name it.  Names of algorithms that are not enabled are not recognized.
-/

namespace SignedToken

/-- What decides which algorithms are enabled. -/
structure Registry where
  keyPairs : Bool
  settings : Settings

namespace Registry

/-- Whether the installation can do the arithmetic of a family. -/
def available (registry : Registry) (family : Family) : Bool :=
  registry.keyPairs || !family.needsKeyPairs

def enabled (registry : Registry) (algorithm : Algorithm) : Bool :=
  registry.available algorithm.family && !registry.settings.disabledNames.contains algorithm.name

def enabledAlgorithms (registry : Registry) : List Algorithm :=
  Algorithm.all.filter registry.enabled

def enabledNames (registry : Registry) : List String :=
  registry.enabledAlgorithms.map Algorithm.name

def find? (registry : Registry) (name : Text) : Option Algorithm :=
  (name.toString?.bind Algorithm.ofName?).filter registry.enabled

/-- What a name declares: `none` that a token is not signed, any other name an enabled algorithm. -/
def declared? (registry : Registry) (name : Text) : Option Declared :=
  if name = Declared.unsignedName then some none else (registry.find? name).map some

/-- Whether a question about an algorithm of this family has to look at the settings: what the
installation cannot do is not enabled whatever they say. -/
def consultsSettings (registry : Registry) (family : Family) : Bool := registry.available family

end Registry

end SignedToken
