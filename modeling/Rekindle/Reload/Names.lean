/-!
# Agreed names

The names that a reloadable module and the host that reloads it agree on: those of the dispatcher
and its members, and those of the routines that are added to a type.
-/

namespace Rekindle.Reload.Names

def dispatcher : String := "<ModuleTypeReloader>"

def unloadActions : String := "s_UnloadActions"

def loadActions : String := "s_LoadActions"

def registerUnload : String := "RegisterUnload"

def registerLoad : String := "RegisterLoad"

def unload : String := "Unload"

def load : String := "Load"

def initializerCopy (type : String) : String := "<" ++ type ++ ">__TypeInitializer__Copy"

def unloadType (type : String) : String := "<" ++ type ++ ">__UnloadType__Impl"

def loadType (type : String) : String := "<" ++ type ++ ">__LoadType__Impl"

def symbolsExtension : String := "drs"

end Rekindle.Reload.Names
