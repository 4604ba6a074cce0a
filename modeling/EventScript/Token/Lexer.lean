import EventScript.Token.Piece

/-!
From source text to tokens. Tokens never cross a line, so each line is read by itself. The leading
blanks of a line, a tab counting as four, are compared with the stack of open indentation levels:
deeper opens a level, and shallower closes levels until one of the same width is on top. Lines with
nothing but blanks or a comment are passed over.
-/

namespace EventScript.Token

def tabWidth : Nat := 4

def measure : List Char → Nat × List Char
  | ' ' :: rest =>
    let (width, body) := measure rest
    (width + 1, body)
  | '\t' :: rest =>
    let (width, body) := measure rest
    (width + tabWidth, body)
  | '\r' :: rest => measure rest
  | rest => (0, rest)

def isSilent : List Char → Bool
  | [] => true
  | first :: _ => first == '#'

/-- Reads the tokens of the body of a line; `operand` says whether an operand is due and `spaced`
whether a blank came before. The answer ends with whether a blank came after the last token. -/
def scanBody (line : Nat) (operand spaced : Bool) :
    List Char → Except SourceFault (List Token × Bool)
  | [] => .ok ([], spaced)
  | first :: after =>
    if first == '#' then .ok ([], spaced)
    else if Text.isBlank first then scanBody line operand true after
    else
      match pieceAt operand first after with
      | .error fault => .error fault
      | .ok piece =>
        let lexeme := piece.content.getD (String.ofList (first :: after.take piece.more))
        match scanBody line piece.kind.startsOperand false (after.drop piece.more) with
        | .error fault => .error fault
        | .ok (tokens, trailing) => .ok (⟨piece.kind, lexeme, line, spaced⟩ :: tokens, trailing)
termination_by chars => chars.length
decreasing_by
  all_goals simp only [List.length_cons, List.length_drop]
  all_goals omega

/-- Opens or closes indentation levels for a line of the given width; `levels` are the widths of the
open levels, innermost first. -/
def indentTo (width : Nat) (levels : List Nat) : Except SourceFault (List TokenKind × List Nat) :=
  let innermost := levels.headD 0
  if innermost < width then .ok ([.indent], width :: levels)
  else
    let kept := levels.dropWhile (width < ·)
    if kept.headD 0 = width then
      .ok (List.replicate (levels.length - kept.length) .dedent, kept)
    else .error .indentation

def layoutTokens (line : Nat) (spaced : Bool) : List TokenKind → List Token
  | [] => []
  | kind :: kinds => ⟨kind, "", line, spaced⟩ :: layoutTokens line false kinds

def closing (line : Nat) (spaced : Bool) (levels : List Nat) : List Token :=
  layoutTokens line spaced (List.replicate (levels.length - 1) .dedent ++ [.finish])

def scanLines : Nat → List Nat → Bool → List (List Char) → Except SourceError (List Token)
  | line, levels, spaced, [] => .ok (closing line spaced levels)
  | line, levels, spaced, source :: later =>
    let (width, body) := measure source
    if isSilent body then
      match later with
      | [] => .ok (closing line spaced levels)
      | _ :: _ => scanLines (line + 1) levels spaced later
    else
      match indentTo width levels with
      | .error fault => .error ⟨fault, line⟩
      | .ok (kinds, levels) =>
        match scanBody line true true body with
        | .error fault => .error ⟨fault, line⟩
        | .ok (tokens, trailing) =>
          let opening := layoutTokens line spaced kinds
          match later with
          | [] => .ok (opening ++ tokens ++ closing line trailing levels)
          | _ :: _ =>
            (scanLines (line + 1) levels false later).map fun rest =>
              opening ++ tokens ++ ⟨.newline, "\n", line, trailing⟩ :: rest

def scan (source : String) : Except SourceError (List Token) :=
  scanLines 1 [0] true (Text.piecesBy (· == '\n') source.toList)

end EventScript.Token
