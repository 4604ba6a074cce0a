import EventScript.Program
import EventScript.Text.Blank
import EventScript.Text.Search

/-!
Texts with variables in them. A name between percent signs is filled in with a variable when it is
neither empty nor contains a blank, and a key between double underscores with an entry of the store.
All other text stands for itself, percent signs and underscores included.
-/

namespace EventScript.Program

def textLiteral (line : Nat) (content : List Char) : Expr :=
  .literal line (.text (String.ofList content))

def collapse (line : Nat) : List TemplatePart → Expr
  | [] => .literal line (.text "")
  | [.text content] => .literal line (.text content)
  | parts => .template line parts

def flushText (pending : List Char) (parts : List TemplatePart) : List TemplatePart :=
  if pending.isEmpty then parts else .text (String.ofList pending.reverse) :: parts

def storedKey? : List Char → Option (List Char)
  | '_' :: '_' :: rest =>
    match Text.indexIn ['_', '_'] rest with
    | some (position + 1) => some (rest.take (position + 1))
    | _ => none
  | _ => none

def referenceName? : List Char → Option (List Char)
  | '%' :: rest =>
    if ['_', '_'].isPrefixOf rest then none
    else
      match Text.indexIn ['%'] rest with
      | some (position + 1) =>
        let name := rest.take (position + 1)
        if name.any Text.isBlank then none else some name
      | _ => none
  | _ => none

/-- The parts of a text; `pending` holds the characters since the last filled-in part, last one
first. Entries of the store are only looked for when `withStored` is set, and never inside a key. -/
def templateParts (line : Nat) (withStored : Bool) (pending : List Char) :
    List Char → List TemplatePart
  | [] => flushText pending []
  | char :: rest =>
    match if withStored then storedKey? (char :: rest) else none with
    | some key =>
      let keyExpr :=
        if key.contains '%' then
          collapse line (templateParts line false [] (rest.tail.take key.length))
        else textLiteral line key
      flushText pending
        (.expr (.stored line keyExpr) ::
          templateParts line withStored [] (rest.tail.drop (key.length + 2)))
    | none =>
      match referenceName? (char :: rest) with
      | some name =>
        flushText pending
          (.expr (.reference line (String.ofList name)) ::
            templateParts line withStored [] (rest.drop (name.length + 1)))
      | none => templateParts line withStored (char :: pending) rest
termination_by chars => chars.length
decreasing_by
  all_goals simp only [List.length_cons, List.length_drop, List.length_take, List.length_tail]
  all_goals omega

def templateExpr (line : Nat) (content : String) : Expr :=
  collapse line (templateParts line true [] content.toList)

def keyExpr (line : Nat) (key : String) : Expr :=
  if key.toList.contains '%' then collapse line (templateParts line false [] key.toList)
  else .literal line (.text key)

end EventScript.Program
