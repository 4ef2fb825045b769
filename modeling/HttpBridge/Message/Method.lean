import HttpBridge.Named

namespace HttpBridge

inductive Method
  | connect
  | delete
  | get
  | head
  | patch
  | post
  | put
  | options
  | trace
  deriving DecidableEq, Repr, Inhabited

namespace Method

def name : Method → String
  | connect => "CONNECT"
  | delete => "DELETE"
  | get => "GET"
  | head => "HEAD"
  | patch => "PATCH"
  | post => "POST"
  | put => "PUT"
  | options => "OPTIONS"
  | trace => "TRACE"

def all : List Method :=
  [connect, delete, get, head, patch, post, put, options, trace]

def names : List (String × Method) :=
  all.map fun m => (m.name, m)

def read (s : String) : Except UnknownVariant Method :=
  readName "http method" .upper names s

end Method

end HttpBridge
