import EventScript.Proofs.Token.Layers
import EventScript.Proofs.Token.Silence

/-!
The stack of open levels. Which levels are open can be told from the widths of the lines alone: the
bottom, and the width of every line behind which none was narrower. The stack holds just these, the
innermost first. A line is out of step when it is narrower than the innermost level and its width is
that of no open one; the first such line is the one that is reported.
-/

namespace EventScript.Token

def linesOf (source : String) : List (List Char) := Text.piecesBy (· == '\n') source.toList

def widthOf? (line : List Char) : Option Nat :=
  if isSilent (measure line).2 then none else some (marginWidth line)

def widthsOf (lines : List (List Char)) : List Nat := lines.filterMap widthOf?

/-- After lines of these widths the level is open. -/
def IsOpen (widths : List Nat) (level : Nat) : Prop :=
  level = 0 ∨ ∃ earlier later, widths = earlier ++ level :: later ∧ ∀ width ∈ later, level ≤ width

/-- A line of this width can follow lines of those widths: it opens a level, or goes on with or goes
back to an open one. -/
def Fits (widths : List Nat) (width : Nat) : Prop := widths.getLastD 0 < width ∨ IsOpen widths width

def InStep (past widths : List Nat) : Prop :=
  ∀ earlier width later, widths = earlier ++ width :: later → Fits (past ++ earlier) width

def IsReadable (line : List Char) : Prop :=
  ∃ tokens trailing, scanBody 1 true true (measure line).2 = .ok (tokens, trailing)

structure Passable (past : List Nat) (lines : List (List Char)) : Prop where
  readable : ∀ line ∈ lines, IsReadable line
  inStep : InStep past (widthsOf lines)

/-- A line of the text is narrower than the innermost level and as wide as no open one, and nothing
is wrong with the lines above it. -/
def OutOfStep (lines : List (List Char)) (number : Nat) : Prop :=
  ∃ earlier here later width, lines = earlier ++ here :: later ∧ number = 1 + earlier.length ∧
    Passable [] earlier ∧ widthOf? here = some width ∧
    width < (widthsOf earlier).getLastD 0 ∧ ¬IsOpen (widthsOf earlier) width

structure Stack (widths levels : List Nat) : Prop where
  decreasing : levels.Pairwise (· > ·)
  bottom : levels.getLast? = some 0
  innermost : levels.head? = some (widths.getLastD 0)
  holds : ∀ level, level ∈ levels ↔ IsOpen widths level

theorem isOpen_concat {widths : List Nat} {width level : Nat} :
    IsOpen (widths ++ [width]) level ↔ level = width ∨ level ≤ width ∧ IsOpen widths level := by
  constructor
  · rintro (rfl | ⟨earlier, later, split, least⟩)
    · exact .inr ⟨Nat.zero_le width, .inl rfl⟩
    rcases List.eq_nil_or_concat later with rfl | ⟨front, last, rfl⟩
    · obtain ⟨_, same⟩ := List.append_inj' split rfl
      exact .inl (List.singleton_inj.mp same).symm
    · rw [List.concat_eq_append, ← List.cons_append, ← List.append_assoc] at split
      obtain ⟨whole, same⟩ := List.append_inj' split rfl
      rw [List.singleton_inj.mp same]
      rw [List.concat_eq_append, List.forall_mem_append, List.forall_mem_singleton] at least
      exact .inr ⟨least.2, .inr ⟨earlier, front, whole, least.1⟩⟩
  · rintro (rfl | ⟨atMost, rfl | ⟨earlier, later, rfl, least⟩⟩)
    · exact .inr ⟨widths, [], rfl, nofun⟩
    · exact .inl rfl
    · refine .inr ⟨earlier, later ++ [width], by simp, ?_⟩
      rw [List.forall_mem_append, List.forall_mem_singleton]
      exact ⟨least, atMost⟩

theorem isOpen_last (widths : List Nat) : IsOpen widths (widths.getLastD 0) := by
  rcases List.eq_nil_or_concat widths with rfl | ⟨front, last, rfl⟩
  · exact .inl rfl
  · rw [List.concat_eq_append, isOpen_concat, List.getLastD_concat]
    exact .inl rfl

theorem not_fits_iff {widths : List Nat} {width : Nat} :
    ¬Fits widths width ↔ width < widths.getLastD 0 ∧ ¬IsOpen widths width := by
  rw [Fits, not_or, Nat.not_lt]
  refine and_congr_left fun closed => ⟨fun atMost => ?_, Nat.le_of_lt⟩
  refine Nat.lt_of_le_of_ne atMost fun same => closed ?_
  rw [same]
  exact isOpen_last widths

namespace Stack

variable {widths levels : List Nat} {width : Nat}

theorem nil : Stack [] [0] := by
  refine ⟨List.pairwise_singleton .., rfl, rfl, fun level => ?_⟩
  rw [List.mem_singleton]
  refine ⟨.inl, ?_⟩
  rintro (bottom | ⟨earlier, later, split, _⟩)
  · exact bottom
  · simp at split

theorem headD_eq (stack : Stack widths levels) : levels.headD 0 = widths.getLastD 0 := by
  rw [List.headD_eq_head?_getD, stack.innermost, Option.getD_some]

theorem le_innermost (stack : Stack widths levels) {level : Nat} (member : level ∈ levels) :
    level ≤ widths.getLastD 0 := by
  obtain ⟨rest, rfl⟩ := List.head?_eq_some_iff.mp stack.innermost
  rcases List.mem_cons.mp member with same | below
  · exact Nat.le_of_eq same
  · exact Nat.le_of_lt ((List.pairwise_cons.mp stack.decreasing).1 level below)

theorem push (stack : Stack widths levels) (wider : widths.getLastD 0 < width) :
    Stack (widths ++ [width]) (width :: levels) where
  decreasing := List.pairwise_cons.mpr
    ⟨fun level member => (stack.le_innermost member).trans_lt wider, stack.decreasing⟩
  bottom := by rw [List.getLast?_cons, stack.bottom, Option.getD_some]
  innermost := by simp
  holds level := by
    rw [isOpen_concat, List.mem_cons, stack.holds]
    refine or_congr_right ⟨fun opened => ⟨?_, opened⟩, And.right⟩
    exact ((stack.le_innermost ((stack.holds level).mpr opened)).trans_lt wider).le

theorem mem_dropWhile {level : Nat} (decreasing : levels.Pairwise (· > ·)) :
    level ∈ levels.dropWhile (width < ·) ↔ level ∈ levels ∧ level ≤ width := by
  induction levels with
  | nil => simp
  | cons top levels ih =>
      obtain ⟨above, rest⟩ := List.pairwise_cons.mp decreasing
      by_cases wider : width < top
      · rw [List.dropWhile_cons_of_pos (by simpa using wider), ih rest, List.mem_cons]
        refine and_congr_left fun atMost => (or_iff_right ?_).symm
        omega
      · rw [List.dropWhile_cons_of_neg (by simpa using wider), List.mem_cons]
        refine ⟨fun member => ⟨member, ?_⟩, And.left⟩
        rcases member with rfl | below
        · exact Nat.le_of_not_lt wider
        · exact (above level below).le.trans (Nat.le_of_not_lt wider)

theorem headD_dropWhile (stack : Stack widths levels) :
    (levels.dropWhile (width < ·)).headD 0 = width ↔ IsOpen widths width := by
  have kept := List.Pairwise.sublist (List.dropWhile_sublist (width < ·)) stack.decreasing
  have base : 0 ∈ levels.dropWhile (width < ·) :=
    (mem_dropWhile stack.decreasing).mpr ⟨(stack.holds 0).mpr (.inl rfl), Nat.zero_le width⟩
  have own : width ∈ levels.dropWhile (width < ·) ↔ IsOpen widths width := by
    rw [mem_dropWhile stack.decreasing, stack.holds]
    exact and_iff_left (Nat.le_refl width)
  have upper : ∀ level ∈ levels.dropWhile (width < ·), level ≤ width := fun level member =>
    ((mem_dropWhile stack.decreasing).mp member).2
  rw [← own]
  generalize levels.dropWhile (width < ·) = remaining at *
  cases remaining with
  | nil => cases base
  | cons top remaining =>
      rw [List.headD_cons]
      constructor
      · rintro rfl
        exact List.mem_cons_self
      · intro member
        rcases List.mem_cons.mp member with same | below
        · exact same.symm
        · have wider := (List.pairwise_cons.mp kept).1 width below
          exact absurd (upper top List.mem_cons_self) (by omega)

theorem pop (stack : Stack widths levels) (opened : IsOpen widths width) :
    Stack (widths ++ [width]) (levels.dropWhile (width < ·)) where
  decreasing := List.Pairwise.sublist (List.dropWhile_sublist (width < ·)) stack.decreasing
  bottom := dropWhile_base stack.bottom
  innermost := by
    have top := stack.headD_dropWhile.mpr opened
    have base : 0 ∈ levels.dropWhile (width < ·) :=
      List.mem_of_getLast? (dropWhile_base stack.bottom)
    cases remaining : levels.dropWhile (width < ·) with
    | nil => rw [remaining] at base; cases base
    | cons first rest => simpa [remaining] using top
  holds level := by
    rw [isOpen_concat, mem_dropWhile stack.decreasing, stack.holds, and_comm]
    refine ⟨.inr, ?_⟩
    rintro (rfl | both)
    · exact ⟨Nat.le_refl level, opened⟩
    · exact both

theorem indentTo_fits (stack : Stack widths levels) (fits : Fits widths width) :
    ∃ kinds kept, indentTo width levels = .ok (kinds, kept) ∧ Stack (widths ++ [width]) kept := by
  unfold indentTo
  dsimp only
  split
  · next wider => exact ⟨_, _, rfl, stack.push (stack.headD_eq ▸ wider)⟩
  · next narrower =>
    have opened : IsOpen widths width := fits.resolve_left (stack.headD_eq ▸ narrower)
    rw [if_pos (stack.headD_dropWhile.mpr opened)]
    exact ⟨_, _, rfl, stack.pop opened⟩

theorem indentTo_misfit (stack : Stack widths levels) (misfit : ¬Fits widths width) :
    indentTo width levels = .error .indentation := by
  obtain ⟨narrower, closed⟩ := not_or.mp misfit
  rw [indentTo, stack.headD_eq, if_neg narrower, if_neg (mt stack.headD_dropWhile.mp closed)]

end Stack

section Faults

variable {line : Nat} {operand spaced : Bool}

theorem pieceAt_fault {first : Char} {after : List Char} {fault : SourceFault}
    (failed : pieceAt operand first after = .error fault) : fault ≠ .indentation := by
  unfold pieceAt at failed
  dsimp only at failed
  split at failed
  · split at failed <;> cases failed
    nofun
  repeat' split at failed
  all_goals cases failed
  all_goals nofun

theorem scanBody_fault {chars : List Char} {fault : SourceFault}
    (failed : scanBody line operand spaced chars = .error fault) : fault ≠ .indentation := by
  fun_induction scanBody line operand spaced chars with
  | case1 => cases failed
  | case2 => cases failed
  | case3 _ _ _ _ _ _ ih => exact ih failed
  | case4 _ _ _ _ _ _ _ found =>
      cases failed
      exact pieceAt_fault found
  | case5 =>
      rename_i inner ih
      cases failed
      exact ih inner
  | case6 => cases failed

theorem isReadable_iff {source : List Char} (line : Nat) :
    IsReadable source ↔
      ∃ tokens trailing, scanBody line true true (measure source).2 = .ok (tokens, trailing) := by
  have moves (first second : Nat) :
      (∃ tokens trailing, scanBody first true true (measure source).2 = .ok (tokens, trailing)) →
        ∃ tokens trailing,
          scanBody second true true (measure source).2 = .ok (tokens, trailing) := by
    rintro ⟨tokens, trailing, scanned⟩
    have moved := @scanBody_renumber (fun _ => second) first true true (measure source).2
    rw [scanned] at moved
    exact ⟨_, _, moved⟩
  exact ⟨moves 1 line, moves line 1⟩

end Faults

section Lines

variable {past levels : List Nat} {line : Nat} {spaced : Bool} {source : List Char}
  {lines : List (List Char)}

theorem widthsOf_cons : widthsOf (source :: lines) = widthsOf [source] ++ widthsOf lines := by
  rw [widthsOf, widthsOf, widthsOf, ← List.filterMap_append, List.singleton_append]

theorem inStep_nil : InStep past [] := by
  intro earlier width later split
  simp at split

theorem inStep_append {first second : List Nat} :
    InStep past (first ++ second) ↔ InStep past first ∧ InStep (past ++ first) second := by
  constructor
  · intro inStep
    refine ⟨fun earlier width later split => ?_, fun earlier width later split => ?_⟩
    · exact inStep earlier width (later ++ second) (by simp [split])
    · rw [List.append_assoc]
      exact inStep (first ++ earlier) width later (by simp [split])
  · rintro ⟨own, rest⟩ earlier width later split
    rcases List.append_eq_append_iff.mp split with ⟨front, rfl, whole⟩ | ⟨back, rfl, whole⟩
    · rw [← List.append_assoc]
      exact rest front width later whole
    · cases back with
      | nil => simpa using rest [] width later whole.symm
      | cons next back =>
          obtain ⟨rfl, whole⟩ := List.cons.inj whole
          exact own earlier width back rfl

theorem inStep_singleton {width : Nat} : InStep past [width] ↔ Fits past width := by
  constructor
  · intro inStep
    simpa using inStep [] width [] rfl
  · intro fits earlier other later split
    obtain ⟨rfl, rfl, rfl⟩ : earlier = [] ∧ other = width ∧ later = [] := by
      cases earlier <;> simp_all
    simpa using fits

theorem passable_nil : Passable past [] :=
  ⟨fun _ member => absurd member List.not_mem_nil, inStep_nil⟩

theorem passable_cons :
    Passable past (source :: lines) ↔
      Passable past [source] ∧ Passable (past ++ widthsOf [source]) lines := by
  constructor
  · rintro ⟨readable, inStep⟩
    rw [widthsOf_cons, inStep_append] at inStep
    obtain ⟨own, others⟩ := List.forall_mem_cons.mp readable
    exact ⟨⟨List.forall_mem_singleton.mpr own, inStep.1⟩, ⟨others, inStep.2⟩⟩
  · rintro ⟨own, others⟩
    refine ⟨List.forall_mem_cons.mpr ⟨own.readable source List.mem_cons_self, others.readable⟩, ?_⟩
    rw [widthsOf_cons, inStep_append]
    exact ⟨own.inStep, others.inStep⟩

/-- What comes of reading a line when the stack is that of the lines above it. -/
inductive RowRead (past levels : List Nat) (line : Nat) (source : List Char) :
    Except SourceError Row → Prop
  | passed {row : Row} (passable : Passable past [source])
      (stack : Stack (past ++ widthsOf [source]) row.levels) :
      RowRead past levels line source (.ok row)
  | misfit {width : Nat} (loud : widthOf? source = some width) (misfit : ¬Fits past width) :
      RowRead past levels line source (.error ⟨.indentation, line⟩)
  | unread {fault : SourceFault} (fits : ∀ width ∈ widthOf? source, Fits past width)
      (unreadable : ¬IsReadable source) (other : fault ≠ .indentation) :
      RowRead past levels line source (.error ⟨fault, line⟩)

theorem readRow_read (stack : Stack past levels) (line : Nat) (spaced : Bool) (source : List Char) :
    RowRead past levels line source (readRow line levels spaced source) := by
  unfold readRow
  dsimp only
  split
  · next silent =>
    have none : widthsOf [source] = [] := by simp [widthsOf, widthOf?, silent]
    refine .passed ⟨List.forall_mem_singleton.mpr ?_, ?_⟩ (by simpa [none] using stack)
    · exact ⟨_, _, scanBody_silent silent 1 true true⟩
    · rw [none]
      exact inStep_nil
  next loud =>
  have width : widthOf? source = some (measure source).1 := by
    rw [widthOf?, if_neg loud, measure_eq]
  have own : widthsOf [source] = [(measure source).1] := by simp [widthsOf, width]
  by_cases fits : Fits past (measure source).1
  · obtain ⟨kinds, kept, opened, stack'⟩ := stack.indentTo_fits fits
    rw [opened]
    dsimp only
    split
    · next fault failed =>
      refine .unread (fun other same => ?_) (fun readable => ?_) (scanBody_fault failed)
      · rw [width] at same
        exact Option.some.inj same ▸ fits
      · obtain ⟨tokens, trailing, scanned⟩ := (isReadable_iff line).mp readable
        rw [scanned] at failed
        cases failed
    · next scanned =>
      have readable : IsReadable source := (isReadable_iff line).mpr ⟨_, _, scanned⟩
      refine .passed ⟨List.forall_mem_singleton.mpr readable, ?_⟩ ?_
      · rwa [own, inStep_singleton]
      · rwa [own]
  · rw [stack.indentTo_misfit fits]
    exact .misfit width fits

theorem scanRows_stack {earlier : List (List Char)} {tokens : List Token} {kept : List Nat}
    {blank : Bool} (stack : Stack past levels)
    (read : scanRows line levels spaced earlier = .ok (tokens, kept, blank)) :
    Stack (past ++ widthsOf earlier) kept := by
  induction earlier generalizing past levels line spaced tokens with
  | nil =>
      cases read
      simpa [widthsOf] using stack
  | cons source earlier ih =>
      rw [scanRows] at read
      have own := readRow_read stack line spaced source
      generalize readRow line levels spaced source = result at own read
      cases own with
      | misfit loud misfit => cases read
      | unread fits unreadable other => cases read
      | @passed row passable stack' =>
          dsimp only [Except.bind] at read
          cases rest : scanRows (line + 1) row.levels row.left earlier with
          | error error => rw [rest] at read; cases read
          | ok others =>
              rw [rest] at read
              obtain ⟨behind, kept', blank'⟩ := others
              cases read
              rw [widthsOf_cons, ← List.append_assoc]
              exact ih stack' rest

theorem follow_error {row : Row} {error : SourceError} :
    row.follow line lines = .error error ↔
      scanLines (line + 1) row.levels row.left lines = .error error := by
  unfold Row.follow
  split
  · next last =>
    rw [last, scanLines]
    simp
  · cases scanLines (line + 1) row.levels row.left lines <;> simp [Except.map]

theorem Passable.fits {width : Nat} (passable : Passable past (source :: lines))
    (loud : widthOf? source = some width) : Fits past width := by
  have first := passable.inStep [] width (widthsOf lines)
  rw [widthsOf, List.filterMap_cons_some loud, ← widthsOf, List.append_nil] at first
  exact first rfl

def Misfit (past : List Nat) (line : Nat) (lines : List (List Char)) (number : Nat) : Prop :=
  ∃ earlier here later width, lines = earlier ++ here :: later ∧ number = line + earlier.length ∧
    Passable past earlier ∧ widthOf? here = some width ∧ ¬Fits (past ++ widthsOf earlier) width

theorem misfit_cons {number : Nat} :
    Misfit past line (source :: lines) number ↔
      (number = line ∧ ∃ width, widthOf? source = some width ∧ ¬Fits past width) ∨
        Passable past [source] ∧ Misfit (past ++ widthsOf [source]) (line + 1) lines number := by
  constructor
  · rintro ⟨earlier, here, later, width, split, rfl, passable, loud, misfit⟩
    cases earlier with
    | nil =>
        obtain ⟨rfl, rfl⟩ := List.cons.inj split
        exact .inl ⟨rfl, width, loud, by simpa [widthsOf] using misfit⟩
    | cons first earlier =>
        obtain ⟨rfl, rfl⟩ := List.cons.inj split
        obtain ⟨own, others⟩ := passable_cons.mp passable
        refine .inr ⟨own, earlier, here, later, width, rfl, ?_, others, loud, ?_⟩
        · rw [List.length_cons]
          omega
        · rwa [widthsOf_cons, ← List.append_assoc] at misfit
  · rintro (⟨rfl, width, loud, misfit⟩ | ⟨own, below⟩)
    · refine ⟨[], source, lines, width, rfl, rfl, passable_nil, loud, ?_⟩
      simpa [widthsOf] using misfit
    · obtain ⟨earlier, here, later, width, rfl, rfl, others, loud, misfit⟩ := below
      refine ⟨source :: earlier, here, later, width, rfl, ?_, passable_cons.mpr ⟨own, others⟩,
        loud, ?_⟩
      · rw [List.length_cons]
        omega
      · rwa [widthsOf_cons, ← List.append_assoc]

theorem scanLines_indentation_iff {number : Nat} (stack : Stack past levels) :
    scanLines line levels spaced lines = .error ⟨.indentation, number⟩ ↔
      Misfit past line lines number := by
  -- The first line is the misfit, or it is passable and the misfit is below, or it cannot be read
  -- and hides all that is below.
  induction lines generalizing past levels line spaced with
  | nil =>
      rw [scanLines]
      refine iff_of_false (by simp) ?_
      rintro ⟨earlier, here, later, width, split, _⟩
      simp at split
  | cons source lines ih =>
      have own := readRow_read stack line spaced source
      rw [scanLines_cons, misfit_cons]
      generalize readRow line levels spaced source = result at own
      cases own with
      | @passed row passable stack' =>
          have below :
              (row.follow line lines).map (row.tokens ++ ·) = .error ⟨.indentation, number⟩ ↔
                row.follow line lines = .error ⟨.indentation, number⟩ := by
            cases row.follow line lines <;> simp [Except.map]
          dsimp only [Except.bind]
          rw [below, follow_error, ih stack']
          refine ⟨fun later => .inr ⟨passable, later⟩, ?_⟩
          rintro (⟨_, width, loud, misfit⟩ | ⟨_, later⟩)
          · exact absurd (passable.fits loud) misfit
          · exact later
      | @misfit width loud misfit =>
          constructor
          · intro failed
            cases failed
            exact .inl ⟨rfl, width, loud, misfit⟩
          · rintro (⟨rfl, _⟩ | ⟨passable, _⟩)
            · rfl
            · exact absurd (passable.fits loud) misfit
      | @unread fault fits unreadable other =>
          refine iff_of_false (fun failed => ?_) ?_
          · cases failed
            exact other rfl
          · rintro (⟨_, width, loud, misfit⟩ | ⟨passable, _⟩)
            · exact misfit (fits width loud)
            · exact unreadable (passable.readable source List.mem_cons_self)

end Lines

/-- A fault of indentation is reported for a line just when it is out of step. -/
theorem scan_outOfStep {source : String} {number : Nat} :
    scan source = .error ⟨.indentation, number⟩ ↔
      OutOfStep (linesOf source) number := by
  rw [scan, ← linesOf, scanLines_indentation_iff .nil]
  simp only [Misfit, OutOfStep, List.nil_append, not_fits_iff]

end EventScript.Token
