import Mathlib.Data.List.Basic
import Mathlib.Data.List.TakeWhile
import EventScript.Proofs.Token.Lines

/-!
The layers of indentation in a row of tokens. The marks of opened and closed levels say of every
token how many levels are open on its line: as many as the stack of widths holds there above its
base.
-/

namespace EventScript.Token

open EventScript.Program (isLineEnd nameOf?)

/-- The stack of the widths of the open levels, once a line has been read. -/
def stackAfter (levels : List Nat) (line : List Char) : List Nat :=
  let (width, body) := measure line
  if isSilent body then levels
  else
    match indentTo width levels with
    | .ok (_, kept) => kept
    | .error _ => levels

/-- How many levels are open on a line of a source text, the first line being 1. -/
def openLevels (source : String) (line : Nat) : Nat :=
  let lines := Text.piecesBy (· == '\n') source.toList
  ((lines.take line).foldl stackAfter [0]).length - 1

/-- Tokens that are still to come when `around` levels are open; `row` is the line that has been
begun, if any. The levels open on each line are given. -/
inductive Layered (heights : Nat → Nat) : Option Nat → Nat → List Token → Prop where
  | inside {row : Option Nat} {around : Nat} {token : Token} {rest : List Token}
      (inner : isLineEnd token.kind = false) (same : ∀ line ∈ row, token.line = line)
      (level : heights token.line = around) (later : ∀ other ∈ rest, token.line ≤ other.line)
      (next : Layered heights (some token.line) around rest) :
      Layered heights row around (token :: rest)
  | newline {row : Option Nat} {around : Nat} {token : Token} {rest : List Token}
      (kind : token.kind = .newline) (unnamed : nameOf? token = none)
      (next : Layered heights none around rest) : Layered heights row around (token :: rest)
  | indent {around : Nat} {token : Token} {rest : List Token}
      (kind : token.kind = .indent) (unnamed : nameOf? token = none)
      (next : Layered heights none (around + 1) rest) : Layered heights none around (token :: rest)
  | dedent {row : Option Nat} {around : Nat} {token : Token} {rest : List Token}
      (kind : token.kind = .dedent) (unnamed : nameOf? token = none)
      (next : Layered heights row around rest) : Layered heights row (around + 1) (token :: rest)
  | finish {row : Option Nat} {token : Token} (kind : token.kind = .finish)
      (unnamed : nameOf? token = none) : Layered heights row 0 [token]

namespace Layered

variable {heights : Nat → Nat} {row : Option Nat} {around line : Nat} {spaced : Bool}
  {tokens : List Token}

theorem dedents (line count : Nat) (next : Layered heights row around tokens) (spaced : Bool) :
    Layered heights row (around + count)
      (layoutTokens line spaced (List.replicate count .dedent) ++ tokens) := by
  induction count generalizing spaced with
  | zero => exact next
  | succ count ih => exact .dedent rfl (nameOf?_blank rfl) (ih false)

theorem layoutTokens_append (line : Nat) (spaced : Bool) (first second : List TokenKind) :
    ∃ later, layoutTokens line spaced (first ++ second) =
      layoutTokens line spaced first ++ layoutTokens line later second := by
  induction first generalizing spaced with
  | nil => exact ⟨spaced, rfl⟩
  | cons kind first ih =>
      obtain ⟨later, split⟩ := ih false
      exact ⟨later, congrArg (List.cons _) split⟩

theorem closing (row : Option Nat) (line : Nat) (spaced : Bool) (levels : List Nat) :
    Layered heights row (levels.length - 1) (Token.closing line spaced levels) := by
  obtain ⟨later, split⟩ := layoutTokens_append line spaced
    (List.replicate (levels.length - 1) .dedent) [.finish]
  rw [Token.closing, split]
  have last : Layered heights row 0 (layoutTokens line later [.finish]) :=
    .finish rfl (nameOf?_blank rfl)
  simpa using last.dedents line (levels.length - 1) spaced

theorem body {inner : List Token} (next : ∀ row, Layered heights row around tokens)
    (level : heights line = around) (later : ∀ token ∈ tokens, line ≤ token.line)
    (inside : ∀ token ∈ inner, token.line = line ∧ isLineEnd token.kind = false)
    (same : ∀ begun ∈ row, line = begun) : Layered heights row around (inner ++ tokens) := by
  induction inner generalizing row with
  | nil => exact next row
  | cons first rest ih =>
      obtain ⟨onLine, inner⟩ := inside first List.mem_cons_self
      have others := fun token member => inside token (List.mem_cons_of_mem first member)
      refine .inside inner (onLine ▸ same) (onLine ▸ level) ?_ (ih others ?_)
      · intro token member
        rcases List.mem_append.mp member with own | after
        · exact Nat.le_of_eq (onLine.trans (others token own).1.symm)
        · rw [onLine]
          exact later token after
      · rintro begun ⟨⟩
        exact onLine.symm

end Layered

section Stack

variable {width : Nat} {levels kept : List Nat} {kinds : List TokenKind}

theorem dropWhile_base (based : levels.getLast? = some 0) :
    (levels.dropWhile (width < ·)).getLast? = some 0 := by
  have base : 0 ∈ levels := List.mem_of_getLast? based
  have remains : levels.dropWhile (width < ·) ≠ [] := by
    intro none
    have below := List.dropWhile_eq_nil_iff.mp none 0 base
    simp at below
  have split := List.takeWhile_append_dropWhile (p := (width < ·)) (l := levels)
  rw [← split, List.getLast?_append_of_ne_nil _ remains] at based
  exact based

theorem indentTo_base (opened : indentTo width levels = .ok (kinds, kept))
    (based : levels.getLast? = some 0) : kept.getLast? = some 0 := by
  unfold indentTo at opened
  dsimp only at opened
  split at opened
  · cases opened
    rw [List.getLast?_cons, based]
    rfl
  · split at opened
    · cases opened
      exact dropWhile_base based
    · cases opened

theorem base_length (based : levels.getLast? = some 0) : 1 ≤ levels.length :=
  List.length_pos_of_mem (List.mem_of_getLast? based)

theorem Layered.opening {heights : Nat → Nat} {tokens : List Token} {line : Nat} {spaced : Bool}
    (opened : indentTo width levels = .ok (kinds, kept)) (based : levels.getLast? = some 0)
    (next : Layered heights none (kept.length - 1) tokens) :
    Layered heights none (levels.length - 1) (layoutTokens line spaced kinds ++ tokens) := by
  have keeps := base_length (indentTo_base opened based)
  have some := base_length based
  unfold indentTo at opened
  dsimp only at opened
  split at opened
  · cases opened
    refine .indent rfl (nameOf?_blank rfl) ?_
    have deeper : levels.length - 1 + 1 = (width :: levels).length - 1 := by
      rw [List.length_cons]
      omega
    rw [deeper]
    exact next
  · split at opened
    · cases opened
      have fewer := (List.dropWhile_suffix (p := (width < ·)) (l := levels)).length_le
      have closed :=
        next.dedents line (levels.length - (levels.dropWhile (width < ·)).length) spaced
      rwa [show _ + _ = levels.length - 1 by omega] at closed
    · cases opened

end Stack

theorem stackAfter_silent {source : List Char} (silent : isSilent (measure source).2 = true) :
    stackAfter levels source = levels := if_pos silent

theorem stackAfter_opened {source : List Char} (loud : ¬isSilent (measure source).2 = true)
    (opened : indentTo (measure source).1 levels = .ok (kinds, kept)) :
    stackAfter levels source = kept := by
  refine (if_neg loud).trans ?_
  rw [opened]

theorem Layered.row {heights : Nat → Nat} {tokens inner : List Token} {line : Nat}
    {spaced trailing : Bool} {chars : List Char} (based : levels.getLast? = some 0)
    (opened : indentTo width levels = .ok (kinds, kept))
    (scanned : scanBody line true true chars = .ok (inner, trailing))
    (level : heights line = kept.length - 1)
    (next : ∀ row, Layered heights row (kept.length - 1) tokens)
    (later : ∀ token ∈ tokens, line ≤ token.line) :
    Layered heights none (levels.length - 1)
      (layoutTokens line spaced kinds ++ inner ++ tokens) := by
  rw [List.append_assoc]
  exact .opening opened based (.body next level later (scanBody_inside scanned) (by simp))

theorem ScansTo.layered {heights : Nat → Nat} {line : Nat} {levels : List Nat} {spaced : Bool}
    {lines : List (List Char)} {tokens : List Token}
    (scans : ScansTo line levels spaced lines tokens) (based : levels.getLast? = some 0)
    (tell : ∀ count, heights (line + count) =
      ((lines.take (count + 1)).foldl stackAfter levels).length - 1) :
    Layered heights none (levels.length - 1) tokens := by
  -- `tell` carries the stack along: what it says of the lines to come is about the stack as it is
  have behind {line : Nat} {levels kept : List Nat} {source : List Char} {later : List (List Char)}
      (tell : ∀ count, heights (line + count) =
        (((source :: later).take (count + 1)).foldl stackAfter levels).length - 1)
      (left : stackAfter levels source = kept) (count : Nat) :
      heights (line + 1 + count) = ((later.take (count + 1)).foldl stackAfter kept).length - 1 := by
    have told := tell (count + 1)
    rw [List.take_succ_cons, List.foldl_cons, left] at told
    rw [Nat.add_assoc, Nat.add_comm 1 count]
    exact told
  induction scans with
  | nothing line levels spaced => exact .closing none line spaced levels
  | silent line levels spaced => exact .closing none line spaced levels
  | passed silent _ ih => exact ih based (behind tell (stackAfter_silent silent))
  | @last line _ kept _ trailing _ _ _ loud opened found =>
      have told := tell 0
      rw [List.take_succ_cons, List.foldl_cons, stackAfter_opened loud opened] at told
      refine .row based opened found told (fun row => .closing row line trailing kept) ?_
      exact (lined_closing line trailing kept).from_line
  | @row line _ _ _ trailing _ _ _ _ _ _ loud opened found rest ih =>
      have told := tell 0
      rw [List.take_succ_cons, List.foldl_cons, stackAfter_opened loud opened] at told
      have layered := ih (indentTo_base opened based) (behind tell (stackAfter_opened loud opened))
      refine .row based opened found told
        (fun row => .newline rfl (nameOf?_newline line trailing) layered) ?_
      exact (rest.lined.newline trailing).from_line

theorem scan_layered {source : String} {tokens : List Token} (scanned : scan source = .ok tokens) :
    Layered (openLevels source) none 0 tokens := by
  refine (scansTo_of_scanLines scanned).layered rfl ?_
  intro count
  rw [openLevels, Nat.add_comm 1 count]

end EventScript.Token
