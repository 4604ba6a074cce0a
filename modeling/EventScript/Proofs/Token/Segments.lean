import EventScript.Proofs.Token.Remarks
import EventScript.Proofs.Token.Rows

/-!
How the text of a script is made up of its tokens. Without gap or overlap it is cut into stretches
of blanks, remarks and the sources of tokens; where a token stands in the text tells its line and
whether it is spaced.
-/

namespace EventScript.Token

inductive Segment where
  | blank (chars : List Char)
  | remark (chars : List Char)
  | token (chars : List Char) (token : Token)

namespace Segment

def chars : Segment → List Char
  | .blank chars => chars
  | .remark chars => chars
  | .token chars _ => chars

def token? : Segment → Option Token
  | .token _ read => some read
  | _ => none

def isBlank : Segment → Bool
  | .blank _ => true
  | _ => false

end Segment

def textOf (segments : List Segment) : List Char := segments.flatMap Segment.chars

/-- The tokens with a source of their own, in order. -/
def tokensOf (segments : List Segment) : List Token := segments.filterMap Segment.token?

/-- What stands between quotes, and the content it means once its escapes are resolved. -/
inductive Resolves (quote : Char) : List Char → List Char → Prop
  | nil : Resolves quote [] []
  | newline {body content : List Char} (rest : Resolves quote body content) :
      Resolves quote ('\\' :: 'n' :: body) ('\n' :: content)
  | tab {body content : List Char} (rest : Resolves quote body content) :
      Resolves quote ('\\' :: 't' :: body) ('\t' :: content)
  | escaped {char : Char} {body content : List Char} (other : char ≠ 'n' ∧ char ≠ 't')
      (rest : Resolves quote body content) :
      Resolves quote ('\\' :: char :: body) (char :: content)
  | plain {char : Char} {body content : List Char} (other : char ≠ '\\' ∧ char ≠ quote)
      (rest : Resolves quote body content) : Resolves quote (char :: body) (char :: content)

/-- The source of a token: its lexeme, but for texts, of which the lexeme is the content. -/
inductive Spells (token : Token) : List Char → Prop
  | quoted {quote : Char} {body : List Char} (mark : quote = '"' ∨ quote = '\'')
      (kind : token.kind = .text token.lexeme)
      (resolves : Resolves quote body token.lexeme.toList) :
      Spells token (quote :: (body ++ [quote]))
  | literal (other : ∀ content, token.kind ≠ .text content) (some : token.lexeme ≠ "") :
      Spells token token.lexeme.toList

def FirstOn (line : Nat) (before : List Segment) : Prop :=
  ∀ token ∈ tokensOf before, token.line ≠ line

def BlankSince (before : List Segment) : Prop :=
  ∃ earlier chars later, before = earlier ++ .blank chars :: later ∧ tokensOf later = []

/-- A stretch stands as it should between what is before it and what is behind it. -/
inductive Placed (before after : List Segment) : Segment → Prop
  | blank {chars : List Char} (some : chars ≠ [])
      (blanks : ∀ char ∈ chars, Text.isBlank char = true)
      (whole : ∀ next ∈ after.head?, next.isBlank = false) : Placed before after (.blank chars)
  | remark {chars : List Char} (begins : chars.head? = some '#') (single : '\n' ∉ chars)
      (ends : ∀ char ∈ (textOf after).head?, char = '\n') : Placed before after (.remark chars)
  | token {chars : List Char} {token : Token} (spells : Spells token chars)
      (line : token.line = 1 + (textOf before).count '\n')
      (spaced : token.spaced = true ↔ FirstOn token.line before ∨ BlankSince before) :
      Placed before after (.token chars token)

section Lists

variable (first second : List Segment) (segment : Segment)

theorem textOf_append : textOf (first ++ second) = textOf first ++ textOf second :=
  List.flatMap_append

theorem textOf_cons : textOf (segment :: first) = segment.chars ++ textOf first :=
  List.flatMap_cons

theorem tokensOf_append : tokensOf (first ++ second) = tokensOf first ++ tokensOf second :=
  List.filterMap_append

end Lists

def Continues (line : Nat) (fresh blank : Bool) : List Segment → Prop
  | [] => True
  | .blank chars :: rest =>
    chars ≠ [] ∧ (∀ char ∈ chars, Text.isBlank char = true) ∧
      (∀ next ∈ rest.head?, next.isBlank = false) ∧
      Continues (line + chars.count '\n') (fresh || chars.contains '\n') true rest
  | .remark chars :: rest =>
    chars.head? = some '#' ∧ '\n' ∉ chars ∧ (∀ char ∈ (textOf rest).head?, char = '\n') ∧
      Continues line fresh blank rest
  | .token chars token :: rest =>
    Spells token chars ∧ token.line = line ∧ token.spaced = (fresh || blank) ∧
      Continues (line + chars.count '\n') (chars.contains '\n') false rest

def joinBlanks (chars : List Char) (segments : List Segment) : List Segment :=
  if chars = [] then segments
  else
    match segments with
    | .blank more :: rest => .blank (chars ++ more) :: rest
    | _ => .blank chars :: segments

section Blanks

variable (chars : List Char) (segments : List Segment)

theorem textOf_joinBlanks : textOf (joinBlanks chars segments) = chars ++ textOf segments := by
  unfold joinBlanks
  split
  · next none => rw [none, List.nil_append]
  split
  · simp [textOf, Segment.chars]
  · rfl

theorem tokensOf_joinBlanks : tokensOf (joinBlanks chars segments) = tokensOf segments := by
  unfold joinBlanks
  split
  · rfl
  · split <;> rfl

variable {chars segments} {line : Nat} {fresh blank : Bool}

theorem continues_joinBlanks (blanks : ∀ char ∈ chars, Text.isBlank char = true)
    (continues : Continues (line + chars.count '\n') (fresh || chars.contains '\n')
      (blank || !chars.isEmpty) segments) :
    Continues line fresh blank (joinBlanks chars segments) := by
  unfold joinBlanks
  split
  · next none => simpa [none] using continues
  · next some =>
    rw [List.isEmpty_eq_false_iff.mpr some, Bool.not_false, Bool.or_true] at continues
    split
    · next more rest =>
      obtain ⟨_, others, whole, continues⟩ := continues
      rw [Nat.add_assoc, ← List.count_append, Bool.or_assoc] at continues
      refine ⟨by simp [some], ?_, whole, ?_⟩
      · intro char member
        exact (List.mem_append.mp member).elim (blanks char) (others char)
      · simpa using continues
    · next noBlank =>
      refine ⟨some, blanks, ?_, continues⟩
      intro next first
      obtain ⟨rest, rfl⟩ := List.head?_eq_some_iff.mp first
      cases next with
      | blank more => exact absurd rfl (noBlank more rest)
      | remark chars => rfl
      | token chars token => rfl

end Blanks

section Sources

variable {operand : Bool} {first : Char} {after : List Char} {piece : Piece}

theorem quotedBody_resolves {quote : Char} {chars content : List Char} {more : Nat}
    (read : quotedBody quote chars = some (content, more)) :
    ∃ body, chars.take more = body ++ [quote] ∧ Resolves quote body content := by
  induction quotedBody_eq_some_iff.mp read with
  | closing => exact ⟨[], rfl, .nil⟩
  | @escaped char rest content more quotes ih =>
      obtain ⟨body, split, resolves⟩ := ih (quotedBody_eq_some_iff.mpr quotes)
      refine ⟨'\\' :: char :: body, by rw [List.take_succ_cons, List.take_succ_cons, split]; rfl,
        ?_⟩
      unfold unescaped
      split
      · next newline => exact beq_iff_eq.mp newline ▸ .newline resolves
      split
      · next tab => exact beq_iff_eq.mp tab ▸ .tab resolves
      · next newline tab => exact .escaped ⟨by simpa using newline, by simpa using tab⟩ resolves
  | @plain char rest content more solid goes quotes ih =>
      obtain ⟨body, split, resolves⟩ := ih (quotedBody_eq_some_iff.mpr quotes)
      exact ⟨char :: body, by rw [List.take_succ_cons, split]; rfl, .plain ⟨solid, goes⟩ resolves⟩

theorem Reading.spells (reading : Reading operand first after piece) (line : Nat) (spaced : Bool) :
    Spells ⟨piece.kind, piece.content.getD (String.ofList (first :: after.take piece.more)), line,
      spaced⟩ (first :: after.take piece.more) := by
  have literal {kind : TokenKind} (other : ∀ content, kind ≠ .text content) (more : Nat) :
      Spells ⟨kind, String.ofList (first :: after.take more), line, spaced⟩
        (first :: after.take more) := by
    have spells : Spells ⟨kind, String.ofList (first :: after.take more), line, spaced⟩ _ :=
      .literal other (by simp)
    rwa [String.toList_ofList] at spells
  cases reading with
  | quoted quote body =>
      obtain ⟨inner, split, resolves⟩ := quotedBody_resolves body
      rw [split]
      exact .quoted quote rfl (by simpa using resolves)
  | reference percent opens => exact literal (by simp) _
  | stored under again closes => exact literal (by simp) _
  | number digit => exact literal (by simp [numberPiece]) _
  | negative minus due digit => exact literal (by simp [numberPiece]) _
  | @word length more begins single plain whole =>
      have other := wordKind_plain (String.ofList (first :: after.take more))
      generalize wordKind _ = kind at other ⊢
      exact literal other more
  | symbol read unnamed unsigned => exact literal (by simp) _

end Sources

section Lines

/-- Stretches that follow at such a place, with their text and their tokens. -/
structure Cut (line : Nat) (fresh blank : Bool) (chars : List Char) (tokens : List Token)
    (segments : List Segment) : Prop where
  text : textOf segments = chars
  tokens : tokensOf segments = tokens
  continues : Continues line fresh blank segments

variable {line : Nat} {fresh blank : Bool}

theorem Cut.blanks {chars rest : List Char} {tokens : List Token} {segments : List Segment}
    (blanks : ∀ char ∈ chars, Text.isBlank char = true)
    (cut : Cut (line + chars.count '\n') (fresh || chars.contains '\n') (blank || !chars.isEmpty)
      rest tokens segments) :
    Cut line fresh blank (chars ++ rest) tokens (joinBlanks chars segments) where
  text := by rw [textOf_joinBlanks, cut.text]
  tokens := by rw [tokensOf_joinBlanks, cut.tokens]
  continues := continues_joinBlanks blanks cut.continues

theorem Cut.token {chars rest : List Char} {token : Token} {tokens : List Token}
    {segments : List Segment} (spells : Spells token chars) (onLine : token.line = line)
    (spaced : token.spaced = (fresh || blank))
    (cut : Cut (line + chars.count '\n') (chars.contains '\n') false rest tokens segments) :
    Cut line fresh blank (chars ++ rest) (token :: tokens) (.token chars token :: segments) where
  text := by rw [textOf_cons, cut.text]; rfl
  tokens := congrArg (List.cons token) cut.tokens
  continues := ⟨spells, onLine, spaced, cut.continues⟩

theorem scanBody_segments {operand spaced trailing : Bool} {chars : List Char}
    {tokens : List Token} (single : '\n' ∉ chars) (state : spaced = (fresh || blank))
    (scanned : scanBody line operand spaced chars = .ok (tokens, trailing)) :
    ∃ fresh' blank', trailing = (fresh' || blank') ∧ ∀ behind,
      (∀ char ∈ (textOf behind).head?, char = '\n') → Continues line fresh' blank' behind →
        ∃ segments,
          Cut line fresh blank (chars ++ textOf behind) (tokens ++ tokensOf behind) segments := by
  -- The state in which the line ends is given before what stands behind it, as the stretches behind
  -- are cut in that state.
  fun_induction scanBody line operand spaced chars generalizing tokens trailing fresh blank with
  | case1 =>
      cases scanned
      exact ⟨fresh, blank, state, fun behind _ continues => ⟨behind, rfl, rfl, continues⟩⟩
  | case2 operand spaced first after mark =>
      cases scanned
      refine ⟨fresh, blank, state, fun behind ends continues => ?_⟩
      refine ⟨.remark (first :: after) :: behind, rfl, rfl, ?_, single, ends, continues⟩
      rw [List.head?_cons, beq_iff_eq.mp mark]
  | case3 operand spaced first after unmarked solid ih =>
      have own : '\n' ∉ [first] := fun same =>
        single (List.mem_cons.mpr (.inl (List.mem_singleton.mp same)))
      have blanks : ∀ char ∈ [first], Text.isBlank char = true := by simpa using solid
      obtain ⟨fresh', blank', state', build⟩ := ih
        (fun later => single (List.mem_cons_of_mem first later)) (Bool.or_true fresh).symm scanned
      refine ⟨fresh', blank', state', fun behind ends continues => ?_⟩
      obtain ⟨segments, cut⟩ := build behind ends continues
      refine ⟨joinBlanks [first] segments, Cut.blanks blanks ?_⟩
      simpa [List.count_eq_zero_of_not_mem own, own] using cut
  | case4 => cases scanned
  | case5 => cases scanned
  | case6 =>
      rename_i operand spaced first after unmarked solid piece found lexeme later rest scanned' ih
      cases scanned
      have own : '\n' ∉ first :: after.take piece.more := fun member =>
        single (List.cons_subset_cons first (List.take_subset piece.more after) member)
      have within : '\n' ∉ after.drop piece.more := fun member =>
        single (List.mem_cons_of_mem first (List.mem_of_mem_drop member))
      obtain ⟨fresh', blank', state', build⟩ := ih within (Bool.or_false false).symm scanned'
      refine ⟨fresh', blank', state', fun behind ends continues => ?_⟩
      obtain ⟨segments, cut⟩ := build behind ends continues
      have spells := (reading_of_pieceAt found).spells line spaced
      have whole : first :: after ++ textOf behind =
          (first :: after.take piece.more) ++ (after.drop piece.more ++ textOf behind) := by
        rw [List.cons_append, List.cons_append, ← List.append_assoc, List.take_append_drop]
      rw [whole]
      refine ⟨_ :: segments, Cut.token spells rfl state ?_⟩
      simpa [List.count_eq_zero_of_not_mem own, own] using cut

theorem line_segments {source : List Char} {tokens : List Token} {trailing : Bool}
    (single : '\n' ∉ source)
    (scanned : scanBody line true true (measure source).2 = .ok (tokens, trailing)) (blank : Bool) :
    ∃ fresh' blank', trailing = (fresh' || blank') ∧ ∀ behind,
      (∀ char ∈ (textOf behind).head?, char = '\n') → Continues line fresh' blank' behind →
        ∃ segments,
          Cut line true blank (source ++ textOf behind) (tokens ++ tokensOf behind) segments := by
  have margin : '\n' ∉ source.takeWhile isMargin := fun member =>
    single ((List.takeWhile_prefix isMargin).subset member)
  have body : '\n' ∉ source.dropWhile isMargin := fun member =>
    single ((List.dropWhile_suffix isMargin).subset member)
  rw [measure_eq] at scanned
  have state : true = (true || (blank || !(source.takeWhile isMargin).isEmpty)) := rfl
  obtain ⟨fresh', blank', state', build⟩ := scanBody_segments body state scanned
  refine ⟨fresh', blank', state', fun behind ends continues => ?_⟩
  obtain ⟨segments, cut⟩ := build behind ends continues
  refine ⟨joinBlanks (source.takeWhile isMargin) segments, ?_⟩
  have blanks : ∀ char ∈ source.takeWhile isMargin, Text.isBlank char = true :=
    fun char member => isMargin_blank (List.mem_takeWhile_imp member)
  have whole : source ++ textOf behind =
      source.takeWhile isMargin ++ (source.dropWhile isMargin ++ textOf behind) := by
    rw [← List.append_assoc, List.takeWhile_append_dropWhile]
  rw [whole]
  refine Cut.blanks blanks ?_
  rw [List.count_eq_zero_of_not_mem margin]
  exact cut

def sourced (tokens : List Token) : List Token := tokens.filter (!·.kind.isLayout)

theorem sourced_append (first second : List Token) :
    sourced (first ++ second) = sourced first ++ sourced second := List.filter_append ..

theorem sourced_layout {kinds : List TokenKind} (layout : ∀ kind ∈ kinds, kind.isLayout = true)
    (line : Nat) (spaced : Bool) : sourced (layoutTokens line spaced kinds) = [] := by
  refine List.filter_eq_nil_iff.mpr fun token member => ?_
  simp [layout _ (layoutTokens_line token member).2.1]

theorem sourced_closing (line : Nat) (spaced : Bool) (levels : List Nat) :
    sourced (closing line spaced levels) = [] := by
  refine sourced_layout (fun kind member => ?_) line spaced
  rcases List.mem_append.mp member with dedent | finish
  · rw [List.eq_of_mem_replicate dedent]
    rfl
  · rw [List.mem_singleton.mp finish]
    rfl

theorem sourced_body {operand spaced trailing : Bool} {chars : List Char} {tokens : List Token}
    (scanned : scanBody line operand spaced chars = .ok (tokens, trailing)) :
    sourced tokens = tokens := by
  refine List.filter_eq_self.mpr fun token member => ?_
  have inside := (scanBody_inside scanned token member).2
  cases kind : token.kind with
  | indent => rw [kind] at inside; cases inside
  | dedent => rw [kind] at inside; cases inside
  | finish => rw [kind] at inside; cases inside
  | _ => rfl

theorem indentTo_layout {width : Nat} {levels kept : List Nat} {kinds : List TokenKind}
    (opened : indentTo width levels = .ok (kinds, kept)) :
    ∀ kind ∈ kinds, kind.isLayout = true := by
  unfold indentTo at opened
  dsimp only at opened
  split at opened
  · cases opened
    simp [TokenKind.isLayout]
  split at opened
  · cases opened
    intro kind member
    rw [List.eq_of_mem_replicate member]
    rfl
  · cases opened

theorem Cut.newline {rest : List Char} {tokens : List Token} {segments : List Segment}
    {trailing : Bool} (spaced : trailing = (fresh || blank))
    (cut : Cut (line + 1) true false rest tokens segments) :
    Cut line fresh blank ('\n' :: rest) (⟨.newline, "\n", line, trailing⟩ :: tokens)
      (.token ['\n'] ⟨.newline, "\n", line, trailing⟩ :: segments) := by
  have spells : Spells ⟨.newline, "\n", line, trailing⟩ "\n".toList := .literal (by simp) (by simp)
  change Cut line fresh blank (['\n'] ++ rest) _ _
  exact Cut.token spells rfl spaced cut

theorem readRow_segments {levels : List Nat} {spaced : Bool} {source : List Char} {row : Row}
    (single : '\n' ∉ source) (read : readRow line levels spaced source = .ok row) (blank : Bool) :
    ∃ fresh' blank', (row.silent = false → row.trailing = (fresh' || blank')) ∧ ∀ behind,
      (∀ char ∈ (textOf behind).head?, char = '\n') → Continues line fresh' blank' behind →
        ∃ segments, Cut line true blank (source ++ textOf behind)
          (sourced row.tokens ++ tokensOf behind) segments := by
  rw [readRow] at read
  dsimp only at read
  split at read
  · next silent =>
    cases read
    obtain ⟨fresh', blank', state, build⟩ :=
      line_segments single (scanBody_silent silent line true true) blank
    exact ⟨fresh', blank', by simp, build⟩
  split at read
  · cases read
  next opened =>
  split at read
  · cases read
  · next scanned =>
    cases read
    obtain ⟨fresh', blank', state, build⟩ := line_segments single scanned blank
    refine ⟨fresh', blank', fun _ => state, ?_⟩
    rwa [sourced_append, sourced_layout (indentTo_layout opened), sourced_body scanned,
      List.nil_append]

theorem ended_segments {row : Row} {rest : List Char} {tokens : List Token}
    (state : row.silent = false → row.trailing = (fresh || blank))
    (below : ∀ blank, ∃ segments, Cut (line + 1) true blank rest tokens segments) :
    ∃ segments, Cut line fresh blank ('\n' :: rest)
      ((if row.silent then [] else [⟨.newline, "\n", line, row.trailing⟩]) ++ tokens) segments := by
  cases silent : row.silent with
  | true =>
      obtain ⟨segments, cut⟩ := below true
      have blanks : ∀ char ∈ ['\n'], Text.isBlank char = true := by simp [Text.isBlank]
      refine ⟨joinBlanks ['\n'] segments, Cut.blanks blanks ?_⟩
      simpa using cut
  | false =>
      obtain ⟨segments, cut⟩ := below false
      exact ⟨_, Cut.newline (state silent) cut⟩

theorem sourced_ended {levels : List Nat} {spaced : Bool} {source : List Char} {row : Row}
    (read : readRow line levels spaced source = .ok row) :
    sourced (row.ended line) = sourced row.tokens ++
      (if row.silent then [] else [⟨.newline, "\n", line, row.trailing⟩]) := by
  unfold Row.ended
  split
  · next silent =>
    rw [readRow_silent read silent]
    rfl
  · rw [sourced_append]
    rfl

theorem scanLines_segments {levels : List Nat} {spaced : Bool} {lines : List (List Char)}
    {tokens : List Token} (single : ∀ source ∈ lines, '\n' ∉ source)
    (scanned : scanLines line levels spaced lines = .ok tokens) (blank : Bool) :
    ∃ segments, Cut line true blank (['\n'].intercalate lines) (sourced tokens) segments := by
  induction lines generalizing line levels spaced tokens blank with
  | nil =>
      rw [scanLines] at scanned
      cases scanned
      exact ⟨[], rfl, (sourced_closing line spaced levels).symm, trivial⟩
  | cons source later ih =>
      have own := single source List.mem_cons_self
      by_cases last : later = []
      · subst last
        rw [scanLines_last] at scanned
        cases read : readRow line levels spaced source with
        | error error => rw [read] at scanned; cases scanned
        | ok row =>
            rw [read] at scanned
            cases scanned
            obtain ⟨_, _, _, build⟩ := readRow_segments own read blank
            have cut := build [] (by simp [textOf]) trivial
            simpa [sourced_append, sourced_closing, textOf, tokensOf] using cut
      · rw [scanLines_next _ _ _ _ last] at scanned
        cases read : readRow line levels spaced source with
        | error error => rw [read] at scanned; cases scanned
        | ok row =>
            rw [read] at scanned
            dsimp only [Except.bind] at scanned
            cases rest : scanLines (line + 1) row.levels row.left later with
            | error error => rw [rest] at scanned; cases scanned
            | ok others =>
                rw [rest] at scanned
                cases scanned
                obtain ⟨fresh', blank', state, build⟩ := readRow_segments own read blank
                have below := ih
                  (fun other member => single other (List.mem_cons_of_mem source member)) rest
                obtain ⟨behind, ended⟩ := ended_segments state below
                have cut := build behind (by simp [ended.text]) ended.continues
                obtain ⟨next, lines, rfl⟩ := List.exists_cons_of_ne_nil last
                rw [List.intercalate_cons_cons, sourced_append, sourced_ended read]
                simpa [ended.text, ended.tokens] using cut

end Lines

section Places

variable {before after : List Segment} {line : Nat} {fresh blank : Bool}

theorem blankSince_concat (segment : Segment) :
    BlankSince (before ++ [segment]) ↔
      segment.isBlank = true ∨ segment.token? = none ∧ BlankSince before := by
  constructor
  · rintro ⟨earlier, chars, later, split, unread⟩
    rcases List.eq_nil_or_concat later with rfl | ⟨front, last, rfl⟩
    · obtain ⟨_, same⟩ := List.append_inj' split rfl
      rw [List.singleton_inj.mp same]
      exact .inl rfl
    · rw [List.concat_eq_append, tokensOf_append, List.append_eq_nil_iff] at unread
      rw [List.concat_eq_append, ← List.cons_append, ← List.append_assoc] at split
      obtain ⟨whole, same⟩ := List.append_inj' split rfl
      rw [List.singleton_inj.mp same]
      refine .inr ⟨?_, earlier, chars, front, whole, unread.1⟩
      simpa [tokensOf, List.filterMap_eq_nil_iff] using unread.2
  · rintro (blank | ⟨unread, earlier, chars, later, rfl, none⟩)
    · cases segment with
      | blank chars => exact ⟨before, chars, [], rfl, rfl⟩
      | remark chars => cases blank
      | token chars token => cases blank
    · refine ⟨earlier, chars, later ++ [segment], by simp, ?_⟩
      rw [tokensOf_append, none, List.nil_append]
      simp [tokensOf, unread]

/-- What the state at a place says of the stretches before it. -/
structure Passed (line : Nat) (fresh blank : Bool) (before : List Segment) : Prop where
  counted : line = 1 + (textOf before).count '\n'
  above : ∀ token ∈ tokensOf before, token.line ≤ line
  first : fresh = true ↔ FirstOn line before
  since : blank = true ↔ BlankSince before

theorem passed_nil : Passed 1 true false [] := by
  have none (token : Token) : token ∉ tokensOf [] := List.not_mem_nil
  refine ⟨rfl, fun token member => absurd member (none token),
    iff_of_true rfl fun token member => absurd member (none token), iff_of_false nofun ?_⟩
  rintro ⟨earlier, chars, later, split, _⟩
  simp at split

namespace Passed

theorem first_later (passed : Passed line fresh blank before) (chars : List Char) :
    FirstOn (line + chars.count '\n') before ↔ fresh = true ∨ '\n' ∈ chars := by
  by_cases ended : '\n' ∈ chars
  · refine iff_of_true (fun token member => ?_) (.inr ended)
    have above := passed.above token member
    have further := List.count_pos_iff.mpr ended
    omega
  · rw [List.count_eq_zero_of_not_mem ended, Nat.add_zero, passed.first]
    simp [ended]

theorem counted_later (passed : Passed line fresh blank before) (segment : Segment) :
    line + segment.chars.count '\n' = 1 + (textOf (before ++ [segment])).count '\n' := by
  rw [passed.counted, textOf_append, List.count_append, Nat.add_assoc]
  simp [textOf]

theorem unread {segment : Segment} {blank' : Bool} (passed : Passed line fresh blank before)
    (unread : segment.token? = none) (since : blank' = (segment.isBlank || blank)) :
    Passed (line + segment.chars.count '\n') (fresh || segment.chars.contains '\n') blank'
      (before ++ [segment]) := by
  have same : tokensOf (before ++ [segment]) = tokensOf before := by
    simp [tokensOf, unread]
  refine ⟨passed.counted_later segment, ?_, ?_, ?_⟩
  · rw [same]
    exact fun token member => Nat.le_add_right_of_le (passed.above token member)
  · rw [FirstOn, same, ← FirstOn, passed.first_later]
    simp
  · rw [blankSince_concat, since, Bool.or_eq_true, passed.since]
    simp [unread]

theorem read {chars : List Char} {token : Token} (passed : Passed line fresh blank before)
    (onLine : token.line = line) :
    Passed (line + chars.count '\n') (chars.contains '\n') false
      (before ++ [.token chars token]) := by
  have tokens : tokensOf (before ++ [.token chars token]) = tokensOf before ++ [token] := by
    rw [tokensOf_append]
    rfl
  refine ⟨passed.counted_later (.token chars token), ?_, ?_, iff_of_false nofun ?_⟩
  · rw [tokens]
    intro other member
    rcases List.mem_append.mp member with earlier | same
    · exact Nat.le_add_right_of_le (passed.above other earlier)
    · rw [List.mem_singleton.mp same, onLine]
      exact Nat.le_add_right line _
  · rw [FirstOn, tokens]
    simp only [List.forall_mem_append, List.forall_mem_singleton, onLine]
    rw [← FirstOn, passed.first_later, List.contains_iff_mem]
    by_cases ended : '\n' ∈ chars
    · have further := List.count_pos_iff.mpr ended
      exact iff_of_true ended ⟨.inr ended, by omega⟩
    · refine iff_of_false ended fun both => both.2 ?_
      rw [List.count_eq_zero_of_not_mem ended, Nat.add_zero]
  · rw [blankSince_concat]
    simp [Segment.isBlank, Segment.token?]

end Passed

theorem Continues.step {segment : Segment}
    (continues : Continues line fresh blank (segment :: after))
    (passed : Passed line fresh blank before) :
    Placed before after segment ∧ ∃ line' fresh' blank',
      Continues line' fresh' blank' after ∧ Passed line' fresh' blank' (before ++ [segment]) := by
  cases segment with
  | blank chars =>
      obtain ⟨some, blanks, whole, later⟩ := continues
      have next : Passed _ _ true (before ++ [.blank chars]) := passed.unread rfl rfl
      exact ⟨.blank some blanks whole, _, _, _, later, next⟩
  | remark chars =>
      obtain ⟨begins, single, ends, later⟩ := continues
      refine ⟨.remark begins single ends, _, _, _, later, ?_⟩
      have next : Passed _ _ blank (before ++ [.remark chars]) := passed.unread rfl rfl
      simpa [Segment.chars, List.count_eq_zero_of_not_mem single, single] using next
  | token chars token =>
      obtain ⟨spells, onLine, spaced, later⟩ := continues
      refine ⟨.token spells (onLine.trans passed.counted) ?_, _, _, _, later, passed.read onLine⟩
      rw [spaced, Bool.or_eq_true, passed.first, passed.since, onLine]

theorem Continues.placed {segments middle : List Segment} {segment : Segment}
    (continues : Continues line fresh blank segments) (passed : Passed line fresh blank before)
    (split : segments = middle ++ segment :: after) : Placed (before ++ middle) after segment := by
  induction middle generalizing line fresh blank before segments with
  | nil =>
      subst split
      rw [List.append_nil]
      exact (continues.step passed).1
  | cons head middle ih =>
      subst split
      obtain ⟨_, line', fresh', blank', later, next⟩ := continues.step passed
      have placed := ih later next rfl
      rwa [List.append_assoc] at placed

end Places

/-- The text of a script is cut, without gaps and overlaps, into blanks, remarks and the sources of
its tokens, and each stands where its token says. -/
theorem scan_segments {source : String} {tokens : List Token} (scanned : scan source = .ok tokens) :
    ∃ segments, textOf segments = source.toList ∧
      tokensOf segments = tokens.filter (!·.kind.isLayout) ∧
      ∀ before segment after, segments = before ++ segment :: after →
        Placed before after segment := by
  have single : ∀ line ∈ Text.piecesBy (· == '\n') source.toList, '\n' ∉ line := by
    intro line member mark
    simpa using Text.piecesBy_plain _ line member '\n' mark
  obtain ⟨segments, text, tokens, continues⟩ := scanLines_segments single scanned false
  rw [Text.intercalate_piecesBy (by simp)] at text
  exact ⟨segments, text, tokens, fun before segment after => continues.placed passed_nil⟩

theorem remarked_quote_segments :
    let source := "on go:\n\n  # note\n  say 'it\\'s' #x\n"
    let tokens : List Token := [⟨.keyword .onEvent, "on", 1, true⟩, ⟨.word "go", "go", 1, true⟩,
      ⟨.symbol .colon, ":", 1, false⟩, ⟨.newline, "\n", 1, false⟩, ⟨.indent, "", 4, false⟩,
      ⟨.word "say", "say", 4, true⟩, ⟨.text "it's", "it's", 4, true⟩, ⟨.newline, "\n", 4, true⟩,
      ⟨.dedent, "", 5, false⟩, ⟨.finish, "", 5, false⟩]
    scan source = .ok tokens ∧
      ∃ segments, textOf segments = source.toList ∧
        tokensOf segments = tokens.filter (!·.kind.isLayout) ∧
        ∀ before segment after, segments = before ++ segment :: after →
          Placed before after segment := by
  intro source tokens
  have scanned : scan source = .ok tokens := by decide +kernel
  exact ⟨scanned, scan_segments scanned⟩

end EventScript.Token
