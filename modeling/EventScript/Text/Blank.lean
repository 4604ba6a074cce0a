/-!
Blank characters, by the white-space property of the Unicode character database, and the two things
they separate a text into: the text between its outer blanks, and its words.
-/

namespace EventScript.Text

def isBlank (char : Char) : Bool :=
  let code := char.toNat
  (9 ≤ code && code ≤ 13) || code == 0x20 || code == 0x85 || code == 0xa0 || code == 0x1680 ||
    (0x2000 ≤ code && code ≤ 0x200a) || code == 0x2028 || code == 0x2029 || code == 0x202f ||
    code == 0x205f || code == 0x3000

def trimStart (chars : List Char) : List Char := chars.dropWhile isBlank

def trimEnd (chars : List Char) : List Char := (chars.reverse.dropWhile isBlank).reverse

def trimChars (chars : List Char) : List Char := trimEnd (trimStart chars)

def trim (text : String) : String := String.ofList (trimChars text.toList)

def piecesBy (separates : Char → Bool) : List Char → List (List Char)
  | [] => [[]]
  | char :: rest =>
    if separates char then [] :: piecesBy separates rest
    else
      match piecesBy separates rest with
      | piece :: pieces => (char :: piece) :: pieces
      | [] => [[char]]

def wordsBy (separates : Char → Bool) (text : String) : List String :=
  ((piecesBy separates text.toList).filter (!·.isEmpty)).map String.ofList

def words (text : String) : List String := wordsBy isBlank text

end EventScript.Text
