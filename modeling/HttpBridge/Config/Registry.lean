import HttpBridge.Config.Configuration

namespace HttpBridge

def defaultConfigurationId := "default"

def configurationIdsKey := "config.ids"

def configurationKeys (id : String) : String :=
  "config." ++ id ++ "."

structure Registry (σ : Type) where
  configurations : List (Configuration σ)
  default : Configuration σ

structure RegistryBuilder (σ : Type) where
  configurations : List (Configuration σ)
  default : Option (Configuration σ)

namespace RegistryBuilder

variable {σ : Type}

def empty : RegistryBuilder σ := ⟨[], none⟩

def withDefault (b : RegistryBuilder σ) (c : Configuration σ) : RegistryBuilder σ :=
  { b with default := some c }

/-- Adds a configuration; one with the name of the default one becomes it. -/
def register (b : RegistryBuilder σ) (c : Configuration σ) : RegistryBuilder σ :=
  if c.id = defaultConfigurationId then b.withDefault c
  else { b with configurations := b.configurations ++ [c] }

def firstRepeated : List String → List String → Option String
  | _, [] => none
  | seen, id :: ids => if seen.contains id then some id else firstRepeated (id :: seen) ids

def build (b : RegistryBuilder σ) : Except ConfigFault (Registry σ) :=
  match b.default with
  | none => .error .missingDefault
  | some default =>
    match firstRepeated [default.id] (b.configurations.map (·.id)) with
    | some id => .error (.duplicate id)
    | none => .ok ⟨b.configurations, default⟩

end RegistryBuilder

namespace Registry

variable {σ : Type}

/-- Lists the configurations that settings name; the default one is always among them. -/
def idsOf (s : Settings) : List String :=
  let ids := s.list configurationIdsKey
  if ids.contains defaultConfigurationId then ids else ids ++ [defaultConfigurationId]

def addFrom (w : World σ) (files : Files) (s : Settings) (b : RegistryBuilder σ) (id : String) :
    Setup (RegistryBuilder σ) := do
  return b.register (← Configuration.ofSettings w files id (s.under (configurationKeys id)))

def ofSettings (w : World σ) (files : Files) (s : Settings) : Setup (Registry σ) := do
  let b ← (idsOf s).foldlM (addFrom w files s) .empty
  Setup.ofExcept b.build

def select (r : Registry σ) (request : Request) : Configuration σ :=
  (r.configurations.find? (·.isMatch request)).getD r.default

def get? (r : Registry σ) (id : String) : Option (Configuration σ) :=
  if id = r.default.id then some r.default else r.configurations.find? (·.id == id)

def ids (r : Registry σ) : List String :=
  r.configurations.map (·.id)

def size (r : Registry σ) : Nat :=
  r.configurations.length + 1

end Registry

end HttpBridge
