import EventScript.Program

/-!
The outline of a program: its statements in the order of the source, each with the number of blocks
around it.
-/

namespace EventScript

namespace Statement

def blocks : Statement → List Block
  | .branch _ _ yes alternatives otherwise => yes :: (alternatives.map (·.2) ++ otherwise.toList)
  | .whileLoop _ _ body | .forLoop _ _ _ body | .repeatLoop _ _ body => [body]
  | _ => []

def expressions : Statement → List Expr
  | .branch _ condition _ alternatives _ => condition :: alternatives.map Prod.fst
  | .whileLoop _ condition _ => [condition]
  | .forLoop _ _ subject _ => [subject]
  | .repeatLoop _ count _ => [count]
  | .giveBack _ value => value.toList
  | .breakOut _ | .continueOn _ => []
  | .assign _ _ value | .compound _ _ _ value => [value]
  | .store _ key value | .storeCompound _ key _ value => [key, value]
  | .effect _ _ arguments => arguments
  | .evaluate _ value => [value]
  | .wait _ delay => [delay]

mutual

/-- The statement and those in its blocks; `around` blocks are around the statement itself. -/
def outline (around : Nat) : Statement → List (Nat × Statement)
  | .branch line condition yes alternatives otherwise =>
    (around, .branch line condition yes alternatives otherwise) ::
      (blockOutline (around + 1) yes ++
        (alternativesOutline (around + 1) alternatives ++ otherwiseOutline (around + 1) otherwise))
  | .whileLoop line condition body =>
    (around, .whileLoop line condition body) :: blockOutline (around + 1) body
  | .forLoop line name subject body =>
    (around, .forLoop line name subject body) :: blockOutline (around + 1) body
  | .repeatLoop line count body =>
    (around, .repeatLoop line count body) :: blockOutline (around + 1) body
  | statement => [(around, statement)]

def blockOutline (around : Nat) : BlockOf Statement → List (Nat × Statement)
  | ⟨_, statements⟩ => rowOutline around statements

def rowOutline (around : Nat) : List Statement → List (Nat × Statement)
  | [] => []
  | statement :: statements => outline around statement ++ rowOutline around statements

def alternativesOutline (around : Nat) :
    List (Expr × BlockOf Statement) → List (Nat × Statement)
  | [] => []
  | (_, block) :: alternatives =>
    blockOutline around block ++ alternativesOutline around alternatives

def otherwiseOutline (around : Nat) : Option (BlockOf Statement) → List (Nat × Statement)
  | none => []
  | some block => blockOutline around block

end

variable {around : Nat}

theorem rowOutline_eq (statements : List Statement) :
    rowOutline around statements = statements.flatMap (outline around) := by
  induction statements with
  | nil => rfl
  | cons statement statements ih => rw [rowOutline, ih, List.flatMap_cons]

theorem alternativesOutline_eq (alternatives : List (Expr × Block)) :
    alternativesOutline around alternatives =
      (alternatives.map Prod.snd).flatMap (blockOutline around) := by
  induction alternatives with
  | nil => rfl
  | cons alternative alternatives ih =>
      rw [alternativesOutline, ih, List.map_cons, List.flatMap_cons]

theorem rowOutline_append (around : Nat) (first second : List Statement) :
    rowOutline around (first ++ second) = rowOutline around first ++ rowOutline around second := by
  rw [rowOutline_eq, rowOutline_eq, rowOutline_eq, List.flatMap_append]

theorem alternativesOutline_append (around : Nat) (first second : List (Expr × BlockOf Statement)) :
    alternativesOutline around (first ++ second) =
      alternativesOutline around first ++ alternativesOutline around second := by
  rw [alternativesOutline_eq, alternativesOutline_eq, alternativesOutline_eq, List.map_append,
    List.flatMap_append]

theorem outline_eq (statement : Statement) :
    statement.outline around =
      (around, statement) :: statement.blocks.flatMap (blockOutline (around + 1)) := by
  cases statement with
  | branch line condition yes alternatives otherwise =>
      rw [outline, alternativesOutline_eq, blocks, List.flatMap_cons, List.flatMap_append]
      cases otherwise <;> simp [otherwiseOutline]
  | _ => simp [outline, blocks]

end Statement

namespace Program

def itemOutline : Item → List (Nat × Statement)
  | .event handler => Statement.blockOutline 1 handler.body
  | .command command => Statement.blockOutline 1 command.body
  | .function function => Statement.blockOutline 1 function.body
  | .stray statement => statement.outline 0

def outline (program : Program) : List (Nat × Statement) := program.flatMap itemOutline

end Program

end EventScript
