import OpenXRSdk.Types

/-!
# Loader properties

An override that the application set when it initialised the loader takes precedence
over the environment variable of the same name.
-/
namespace OpenXRSdk

/-- What `platform_utils.hpp` reads from the process environment. -/
structure PlatformUtils where
  getEnv : StdString → StdString
  getSecureEnv : StdString → StdString
  getEnvSet : StdString → Bool

/-- The property store, over the environment of the process. -/
structure LoaderProperty where
  platform : PlatformUtils
  overrides : UnorderedMap StdString StdString

namespace LoaderProperty

def get (props : LoaderProperty) (name : StdString) : StdString :=
  (props.overrides.lookup name).getD (props.platform.getEnv (cString name))

def getSecure (props : LoaderProperty) (name : StdString) : StdString :=
  (props.overrides.lookup name).getD (props.platform.getSecureEnv (cString name))

def isSet (props : LoaderProperty) (name : StdString) : Bool :=
  (props.overrides.lookup name).isSome || props.platform.getEnvSet (cString name)

/-- `SetOverride`; the first value set for a name stays. -/
def setOverride (overrides : UnorderedMap StdString StdString) (name value : StdString) :
    UnorderedMap StdString StdString := UnorderedMap.emplace name value overrides

def clearOverrides : UnorderedMap StdString StdString := ∅

end LoaderProperty
end OpenXRSdk
