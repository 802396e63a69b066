namespace E2Node.Text

def split (sep : Char) : List Char → List (List Char)
  | [] => [[]]
  | c :: s =>
      if c = sep then [] :: split sep s
      else
        match split sep s with
        | [] => [[c]]
        | piece :: pieces => (c :: piece) :: pieces

def splitLast? (sep : Char) : List Char → Option (List Char × List Char)
  | [] => none
  | c :: s =>
      match splitLast? sep s with
      | some r => some (c :: r.1, r.2)
      | none => if c = sep then some ([], s) else none

def splitFirst (sep : Char) : List Char → List Char × Option (List Char)
  | [] => ([], none)
  | c :: s =>
      if c = sep then ([], some s)
      else
        let r := splitFirst sep s
        (c :: r.1, r.2)

end E2Node.Text
