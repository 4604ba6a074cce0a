/-!
Finding one text in another and putting a third in its place. Positions count characters.
-/

namespace EventScript.Text

def indexIn (pattern : List Char) : List Char → Option Nat
  | [] => if pattern.isEmpty then some 0 else none
  | char :: rest =>
    if pattern.isPrefixOf (char :: rest) then some 0 else (indexIn pattern rest).map (· + 1)

def indexOf? (text pattern : String) : Option Nat := indexIn pattern.toList text.toList

def occursIn (pattern text : String) : Bool := (indexOf? text pattern).isSome

def beginsWith (text start : String) : Bool := start.toList.isPrefixOf text.toList

def finishesWith (text finish : String) : Bool := finish.toList.isSuffixOf text.toList

/-- Replaces the occurrences of a pattern that is not empty, from the left and without overlap;
`skip` characters still belong to the last one. -/
def replaceIn (pattern replacement : List Char) : Nat → List Char → List Char
  | _, [] => []
  | skip + 1, _ :: rest => replaceIn pattern replacement skip rest
  | 0, char :: rest =>
    if pattern.isPrefixOf (char :: rest) then
      replacement ++ replaceIn pattern replacement (pattern.length - 1) rest
    else char :: replaceIn pattern replacement 0 rest

/-- Replaces every occurrence of a pattern. The empty pattern occurs before every character and at
the end. -/
def replaceAll (text pattern replacement : String) : String :=
  let chars := text.toList
  let insertion := replacement.toList
  if pattern.isEmpty then
    String.ofList (insertion ++ chars.flatMap fun char => char :: insertion)
  else String.ofList (replaceIn pattern.toList insertion 0 chars)

end EventScript.Text
