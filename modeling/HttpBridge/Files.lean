import HttpBridge.Dict
import HttpBridge.Text.Parts

namespace HttpBridge

structure Files where
  contents : Dict (List UInt8)

namespace Files

def empty : Files := ⟨∅⟩

def notFound : String := "No such file or directory (os error 2)"

def notADirectory : String := "Not a directory (os error 20)"

def isADirectory : String := "Is a directory (os error 21)"

def parts (path : List Char) : List String :=
  (Text.splitWhere (· == '/') path).map String.ofList

def staysPut (part : String) : Bool :=
  part == "" || part == "."

def steps (path : List Char) : List String :=
  (parts path).filter fun part => !staysPut part

def isDirectoryPath (path : List Char) : Bool :=
  (parts path).getLast?.any staysPut

def paths (f : Files) : List (List String × List UInt8) :=
  f.contents.entries.map fun e => (steps e.1.toList, e.2)

def isBelow (short long : List String) : Bool :=
  short.length < long.length && long.take short.length == short

/-- Reads a file below the working directory; the root is a directory, and nothing else outside is
known. -/
def read (f : Files) (path : String) : Except String (List UInt8) :=
  let cs := path.toList
  let goal := steps cs
  if cs.contains '\x00' then .error "file name contained an unexpected NUL byte"
  else if cs.isEmpty then .error notFound
  else if goal.isEmpty || goal.all (· == "..") then .error isADirectory
  else if cs.head? = some '/' then .error notFound
  else match f.paths.lookup goal with
    | some bytes => if isDirectoryPath cs then .error notADirectory else .ok bytes
    | none =>
      if f.paths.any fun p => isBelow goal p.1 then .error isADirectory
      else if f.paths.any fun p => isBelow p.1 goal then .error notADirectory
      else .error notFound

end Files

end HttpBridge
