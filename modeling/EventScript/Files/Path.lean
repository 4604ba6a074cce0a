/-!
The texts that name files. A path is a row of segments with slashes between them; where nothing
stands between two slashes, or after the last one, the segment is a single dot, which stays where it
is. A path that starts with a slash has the root as its first segment.
-/

namespace EventScript.Path

def cut : List Char → List (List Char)
  | [] => [[]]
  | '/' :: rest => [] :: cut rest
  | char :: rest =>
    match cut rest with
    | [] => [[char]]
    | piece :: pieces => (char :: piece) :: pieces

def segments (path : String) : List String :=
  match (cut path.toList).map String.ofList with
  | "" :: rest => (if rest.isEmpty then [] else ["/"]) ++ rest.map dotted
  | pieces => pieces.map dotted
where
  dotted (segment : String) : String := if segment.isEmpty then "." else segment

def namesFolder (path : String) : Bool := path.toList.getLast? == some '/'

def ofSegments : List String → String
  | "/" :: rest => "/" ++ "/".intercalate rest
  | segments => "/".intercalate segments

def steps (path : String) : List String :=
  match segments path with
  | [] => []
  | first :: rest => first :: rest.filter (· != ".")

def name? (path : String) : Option String :=
  match (steps path).getLast? with
  | none | some "." | some ".." | some "/" => none
  | name => name

def label (path : String) : String := (name? path).getD path

def parent? (path : String) : Option String :=
  match (steps path).dropLast with
  | [] => none
  | segments => some (ofSegments segments)

/-- A name cut at its last dot. A dot at the very start cuts nothing. -/
def splitName (name : String) : String × Option String :=
  let chars := name.toList
  let extension := (chars.reverse.takeWhile (· != '.')).reverse
  let stem := chars.take (chars.length - extension.length - 1)
  if extension.length = chars.length || stem.isEmpty then (name, none)
  else (String.ofList stem, some (String.ofList extension))

def extension? (path : String) : Option String := (name? path).bind fun name => (splitName name).2

def withExtension (path extension : String) : String :=
  match name? path with
  | none => path
  | some name =>
    ofSegments ((steps path).dropLast ++ [(splitName name).1 ++ "." ++ extension])

def join (folder name : String) : String :=
  if name.toList.head? == some '/' then name
  else if folder.isEmpty || namesFolder folder then folder ++ name
  else folder ++ "/" ++ name

end EventScript.Path
