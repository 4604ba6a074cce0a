/-!
What can be wrong with the source of a script, and the wording of each fault.
-/

namespace EventScript

inductive SourceFault where
  | indentation
  | unterminatedText
  | unterminatedVariable
  | unterminatedStored
  | unexpectedChar (char : Char)
  | expected (what found : String)
  | unexpected (found : String)
  | missingEventName
  | nestingTooDeep
  | noProgress
  deriving DecidableEq, Repr

structure SourceError where
  fault : SourceFault
  line : Nat
  deriving DecidableEq, Repr

namespace SourceFault

def message : SourceFault → String
  | .indentation => "Inconsistent indentation"
  | .unterminatedText => "Unterminated string"
  | .unterminatedVariable => "Unterminated %variable%"
  | .unterminatedStored => "Unterminated __variable__"
  | .unexpectedChar char => "Unexpected character '" ++ String.singleton char ++ "'"
  | .expected what found => "Expected " ++ what ++ " but got " ++ found
  | .unexpected found => "Unexpected token " ++ found
  | .missingEventName => "Expected event name after 'on'"
  | .nestingTooDeep => "Nesting too deep"
  | .noProgress => "No progress"

end SourceFault

namespace SourceError

def message (error : SourceError) : String := error.fault.message

def located (error : SourceError) (file : String) : String :=
  "[" ++ file ++ " line " ++ Nat.repr error.line ++ "] " ++ error.message

end SourceError

end EventScript
