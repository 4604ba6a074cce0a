/-!
The catalogue of built-in functions and the names they are called by.
-/

namespace EventScript

inductive Builtin where
  | abs
  | ceiling
  | floor
  | round
  | squareRoot
  | power
  | lesser
  | greater
  | clamp
  | logarithm
  | decimalLogarithm
  | sine
  | cosine
  | tangent
  | random
  | randomInteger
  | upper
  | lower
  | length
  | trim
  | startsWith
  | endsWith
  | contains
  | replace
  | split
  | substring
  | indexOf
  | repeatText (name : String)
  | text
  | number
  | truth
  | range
  | push
  | pop
  | remove
  | join
  | sum
  | sort
  | shuffle
  | reverse
  | size
  | isNull
  | isNumber
  | isText
  | isList
  | isMap
  | kind
  | formatTime
  deriving DecidableEq, Repr

namespace Builtin

def ofName? : String → Option Builtin
  | "abs" => some .abs
  | "ceil" => some .ceiling
  | "floor" => some .floor
  | "round" => some .round
  | "sqrt" => some .squareRoot
  | "pow" => some .power
  | "min" => some .lesser
  | "max" => some .greater
  | "clamp" => some .clamp
  | "log" => some .logarithm
  | "log10" => some .decimalLogarithm
  | "sin" => some .sine
  | "cos" => some .cosine
  | "tan" => some .tangent
  | "random" => some .random
  | "random-int" => some .randomInteger
  | "upper" => some .upper
  | "lower" => some .lower
  | "length" => some .length
  | "trim" => some .trim
  | "starts-with" => some .startsWith
  | "ends-with" => some .endsWith
  | "contains" => some .contains
  | "replace" => some .replace
  | "split" => some .split
  | "substring" => some .substring
  | "index-of" => some .indexOf
  | "repeat-str" => some (.repeatText "repeat-str")
  | "repeat" => some (.repeatText "repeat")
  | "str" => some .text
  | "num" => some .number
  | "bool" => some .truth
  | "range" => some .range
  | "push" => some .push
  | "add" => some .push
  | "pop" => some .pop
  | "remove" => some .remove
  | "join" => some .join
  | "sum" => some .sum
  | "sort" => some .sort
  | "shuffle" => some .shuffle
  | "reverse" => some .reverse
  | "size" => some .size
  | "count" => some .size
  | "is-null" => some .isNull
  | "is-number" => some .isNumber
  | "is-string" => some .isText
  | "is-list" => some .isList
  | "is-map" => some .isMap
  | "type-of" => some .kind
  | "format-time" => some .formatTime
  | _ => none

end Builtin

end EventScript
