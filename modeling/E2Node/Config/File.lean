import E2Node.Text.Split

namespace E2Node

abbrev Folder := List (String × List UInt8)

namespace FileName

def steps (path : String) : List (List Char) :=
  let parts := Text.split '/' path.toList
  parts.dropLast.filter (fun p => p ≠ [] ∧ p ≠ ['.']) ++ parts.getLast?.toList

def suffix? (path : String) : Option String :=
  match (steps path).getLast?.bind (Text.splitLast? '.') with
  | some (stem, suffix) => if stem.isEmpty then none else some (String.ofList suffix)
  | none => none

end FileName

def Folder.read? (folder : Folder) (path : String) : Option (List UInt8) :=
  if path.toList.head? = some '/' then none
  else (folder.find? fun f => FileName.steps f.1 = FileName.steps path).map Prod.snd

end E2Node
