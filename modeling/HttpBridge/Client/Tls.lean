import HttpBridge.Certificate
import HttpBridge.Files
import HttpBridge.Log
import HttpBridge.Settings

namespace HttpBridge

abbrev Setup (α : Type) := ExceptT ConfigFault Logged α

namespace Setup

def ofExcept {α : Type} (x : Except ConfigFault α) : Setup α :=
  ExceptT.mk (pure x)

def log (x : Logged Unit) : Setup Unit :=
  ExceptT.lift x

end Setup

inductive TrustStoreType
  | pem
  | der
  deriving DecidableEq, Repr, Inhabited

namespace TrustStoreType

def names : List (String × TrustStoreType) :=
  [("pem", pem), ("der", der)]

def name : TrustStoreType → String
  | pem => "PEM"
  | der => "DER"

def read (s : String) : Except UnknownVariant TrustStoreType :=
  readName "trust store type" .lower names s

end TrustStoreType

namespace Tls

def pathKey := "httpclient.ssl.truststore.path"
def passwordKey := "httpclient.ssl.truststore.password"
def typeKey := "httpclient.ssl.truststore.type"
def algorithmKey := "httpclient.ssl.truststore.algorithm"
def alwaysTrustKey := "httpclient.ssl.truststore.always.trust"

end Tls

structure Tls where
  path : Option String
  password : Option String
  type : TrustStoreType
  algorithm : Option String
  alwaysTrust : Bool
  deriving DecidableEq

namespace Tls

def default : Tls := ⟨none, none, .pem, none, false⟩

instance : Inhabited Tls := ⟨default⟩

def readType (s : Settings) : Except ConfigFault TrustStoreType :=
  match s.get? typeKey with
  | none => .ok .pem
  | some value =>
    match TrustStoreType.read value with
    | .ok t => .ok t
    | .error _ => .error (.invalidValue typeKey value "supported types are PEM and DER")

def ofSettings (s : Settings) : Setup Tls := do
  let type ← Setup.ofExcept (readType s)
  let alwaysTrust ← Setup.ofExcept (s.boolean alwaysTrustKey false)
  let password := s.get? passwordKey
  let algorithm := s.get? algorithmKey
  if password.isSome || algorithm.isSome then
    Setup.log <| .warn s!"'{passwordKey}' and '{algorithmKey}' do not apply to PEM/DER trust stores and are ignored"
  return { path := s.get? pathKey, password, type, algorithm, alwaysTrust }

def warnAlwaysTrust : Logged Unit :=
  .warn s!"TLS certificate verification is disabled ('{alwaysTrustKey}' = true)"

def isCertificate : TrustStoreType → List UInt8 → Bool
  | .pem => Certificate.isText
  | .der => Certificate.isBinary

def load (files : Files) (t : Tls) : Setup Unit := do
  if t.alwaysTrust then Setup.log warnAlwaysTrust
  else match t.path with
    | none => return
    | some path =>
      match files.read path with
      | .error reason => throw (.trustStore path reason)
      | .ok bytes =>
        if isCertificate t.type bytes then return
        else throw (.trustStore path "builder error")

def withoutStore (t : Tls) : Setup Unit := do
  if t.alwaysTrust then Setup.log warnAlwaysTrust
  else match t.path with
    | none => return
    | some path =>
      throw (.trustStore path "custom trust stores are only supported by the reqwest implementation")

end Tls

end HttpBridge
