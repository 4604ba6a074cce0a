import EventScript.Proofs.Document.Number

/-!
Reading back what was written. The text of a document that is nested no deeper than the reader
allows reads back as the document, with each number replaced by what the reader makes of its digits;
the text of any other document is refused.
-/

namespace EventScript.Document

open Number

section Rows

variable {α β : Type} {f : α → Option β}

theorem mapM_cons_none {first : α} (missing : f first = none) (others : List α) :
    (first :: others).mapM f = none := by
  simp [missing]

theorem mapM_cons_some {first : α} {value : β} (found : f first = some value) (others : List α) :
    (first :: others).mapM f = (others.mapM f).map (value :: ·) := by
  simp [found, Option.map_eq_bind]

theorem mapM_eq_none_iff {row : List α} : row.mapM f = none ↔ ∃ item ∈ row, f item = none := by
  induction row with
  | nil => simp
  | cons first others ih =>
      cases found : f first with
      | none => simp [mapM_cons_none found, found]
      | some value => simp [mapM_cons_some found, found, ih]

theorem mapM_eq_some_iff {row : List α} {values : List β} :
    row.mapM f = some values ↔ row.map f = values.map some := by
  induction row generalizing values with
  | nil => cases values <;> simp
  | cons first others ih =>
      cases found : f first with
      | none => cases values <;> simp [mapM_cons_none found, found]
      | some value => cases values <;> simp [mapM_cons_some found, found, ih, and_comm]

end Rows

section Blanks

theorem skipBlanks_cons {char : Char} (solid : isBlank char = false) (rest : List Char) :
    skipBlanks (char :: rest) = char :: rest := by
  simp [skipBlanks, solid]

theorem skipBlanks_margin (level : Nat) (rest : List Char) :
    skipBlanks ((margin level).toList ++ rest) = skipBlanks rest := by
  rw [margin, String.toList_ofList]
  induction 2 * level with
  | zero => rfl
  | succ count ih => exact ih

theorem skipBlanks_line (level : Nat) (rest : List Char) :
    skipBlanks ('\n' :: ((margin level).toList ++ rest)) = skipBlanks rest :=
  skipBlanks_margin level rest

theorem skipBlanks_skipBlanks (chars : List Char) :
    skipBlanks (skipBlanks chars) = skipBlanks chars :=
  List.dropWhile_idempotent isBlank chars

theorem readAt_skipBlanks (levels : Nat) (chars : List Char) :
    readAt levels (skipBlanks chars) = readAt levels chars := by
  rw [readAt, readAt, skipBlanks_skipBlanks]

end Blanks

section Numbers

theorem readAt_digit (levels : Nat) {first : Char} (digit : first.isDigit = true)
    (rest : List Char) : readAt levels (first :: rest) =
      (readNumber false (first :: rest)).map fun (double, rest) => (.number double, rest) := by
  have known := digit_cases digit
  simp only [List.mem_cons, List.not_mem_nil, or_false] at known
  rcases known with rfl | rfl | rfl | rfl | rfl | rfl | rfl | rfl | rfl | rfl <;>
    cases levels <;> rfl

theorem readAt_minus (levels : Nat) (rest : List Char) : readAt levels ('-' :: rest) =
    (readNumber true rest).map fun (double, rest) => (.number double, rest) := by
  cases levels <;> rfl

theorem readAt_null (levels : Nat) (rest : List Char) :
    readAt levels ('n' :: 'u' :: 'l' :: 'l' :: rest) = some (.null, rest) := by
  cases levels <;> rfl

theorem Accepted.read {negative : Bool} {body : List Char} (accepted : Accepted negative body) :
    ∃ number, ∀ levels rest, Stops rest →
      readAt levels ((if negative then '-' :: body else body) ++ rest) =
        some (.number number, rest) := by
  obtain ⟨spelling, rfl, valid, isSome⟩ := accepted
  obtain ⟨number, value⟩ := Option.isSome_iff_exists.mp isSome
  refine ⟨number, fun levels rest stops => ?_⟩
  have reads := readNumber_spelling valid negative stops
  rw [value] at reads
  cases negative with
  | true =>
      rw [if_pos rfl, List.cons_append, readAt_minus, reads]
      rfl
  | false =>
      obtain ⟨first, more, whole⟩ := List.exists_cons_of_ne_nil valid.some
      have digit : first.isDigit = true := valid.whole first (whole ▸ List.mem_cons_self)
      have chars : spelling.chars = first :: (more ++ Spelling.fractionChars spelling.fraction ++
          Spelling.exponentChars spelling.exponent) := by
        rw [Spelling.chars, whole]
        rfl
      rw [chars, List.cons_append] at reads
      rw [if_neg Bool.false_ne_true, chars, List.cons_append, readAt_digit levels digit, reads]
      rfl

def rereadNumber (number : Double) : Document :=
  ((readAt 0 (numberText number).toList).map (·.1)).getD .null

theorem numberText_other {number : Double}
    (other : ∀ negative mantissa power, shape number ≠ .finite negative mantissa power) :
    numberText number = "null" := by
  unfold numberText
  split
  · rename_i finite
    exact absurd finite (other _ _ _)
  · rfl

theorem readAt_number (levels : Nat) (number : Double) {rest : List Char} (stops : Stops rest) :
    readAt levels ((numberText number).toList ++ rest) = some (rereadNumber number, rest) := by
  have ends : Stops [] := nofun
  by_cases finite : ∃ negative mantissa power, shape number = .finite negative mantissa power
  · obtain ⟨negative, mantissa, power, finite⟩ := finite
    obtain ⟨body, text, accepted⟩ := numberText_accepted finite
    obtain ⟨double, reads⟩ := accepted.read
    have alone := reads 0 [] ends
    rw [List.append_nil] at alone
    rw [rereadNumber, text, alone, reads levels rest stops]
    rfl
  · simp only [not_exists] at finite
    rw [rereadNumber, numberText_other finite]
    exact readAt_null levels rest

theorem rereadNumber_of_isFinite {number : Double} (finite : Number.isFinite number = true) :
    ∃ image, rereadNumber number = .number image := by
  have ends : Stops [] := nofun
  obtain ⟨negative, mantissa, power, finite⟩ := shape_of_isFinite finite
  obtain ⟨body, text, accepted⟩ := numberText_accepted finite
  obtain ⟨image, reads⟩ := accepted.read
  have alone := reads 0 [] ends
  rw [List.append_nil] at alone
  refine ⟨image, ?_⟩
  rw [rereadNumber, text, alone]
  rfl

theorem numberText_head (number : Double) :
    ∃ first more, (numberText number).toList = first :: more ∧
      (first.isDigit = true ∨ first = '-' ∨ first = 'n') := by
  by_cases finite : ∃ negative mantissa power, shape number = .finite negative mantissa power
  · obtain ⟨negative, mantissa, power, finite⟩ := finite
    obtain ⟨body, text, spelling, rfl, valid, _⟩ := numberText_accepted finite
    obtain ⟨first, more, whole⟩ := List.exists_cons_of_ne_nil valid.some
    cases negative with
    | true => exact ⟨'-', _, text, .inr (.inl rfl)⟩
    | false =>
        rw [Spelling.chars, whole] at text
        exact ⟨first, _, text, .inl (valid.whole first (whole ▸ List.mem_cons_self))⟩
  · simp only [not_exists] at finite
    exact ⟨'n', _, congrArg String.toList (numberText_other finite), .inr (.inr rfl)⟩

end Numbers

section Layout

theorem indentedItems_eq (level : Nat) (items : List Document) :
    indentedItems level items = items.map (indentedAt (level + 1)) := by
  induction items with
  | nil => rw [indentedItems, List.map_nil]
  | cons item items ih => rw [indentedItems, ih, List.map_cons]

theorem indentedMembers_eq (level : Nat) (members : List (String × Document)) :
    indentedMembers level members =
      members.map fun member => quoted member.1 ++ ": " ++ indentedAt (level + 1) member.2 := by
  induction members with
  | nil => rw [indentedMembers, List.map_nil]
  | cons member members ih =>
      obtain ⟨key, value⟩ := member
      rw [indentedMembers, ih, List.map_cons]

def following (level : Nat) (closing : List Char) : List String → List Char
  | [] => '\n' :: ((margin level).toList ++ closing)
  | part :: more =>
    ',' :: '\n' :: ((margin (level + 1)).toList ++ (part.toList ++ following level closing more))

theorem following_append (level : Nat) (closing rest : List Char) (parts : List String) :
    following level closing parts ++ rest = following level (closing ++ rest) parts := by
  induction parts with
  | nil => simp [following]
  | cons part more ih => simp [following, ih]

theorem stops_following (level : Nat) (closing : List Char) (parts : List String) :
    Stops (following level closing parts) := by
  cases parts with
  | nil =>
      rintro char ⟨⟩
      decide
  | cons part more =>
      rintro char ⟨⟩
      decide

theorem length_le_following (level : Nat) (closing : List Char) (parts : List String) :
    parts.length < (following level closing parts).length := by
  induction parts with
  | nil => exact Nat.zero_lt_succ _
  | cons part more ih =>
      simp only [following, List.length_cons, List.length_append]
      omega

theorem toList_lines (level : Nat) (closing : List Char) (part : String) (more : List String) :
    (String.intercalate ",\n" ((part :: more).map (margin (level + 1) ++ ·))).toList ++
        '\n' :: ((margin level).toList ++ closing) =
      (margin (level + 1)).toList ++ (part.toList ++ following level closing more) := by
  induction more generalizing part with
  | nil =>
      rw [List.map_singleton, String.intercalate_singleton, String.toList_append, following,
        List.append_assoc]
  | cons next more ih =>
      rw [List.map_cons, List.map_cons, String.intercalate_cons_cons, String.toList_append,
        String.toList_append, List.append_assoc, ← List.map_cons, ih next, String.toList_append,
        List.append_assoc, List.append_assoc]
      rfl

theorem toList_block (opening closing : String) (level : Nat) (part : String) (more : List String) :
    (block opening closing level (part :: more)).toList = opening.toList ++
      '\n' :: ((margin (level + 1)).toList ++ (part.toList ++
        following level closing.toList more)) := by
  rw [← toList_lines]
  simp [block]

def memberText (level : Nat) (member : String × Document) : String :=
  quoted member.1 ++ ": " ++ indentedAt level member.2

theorem indentedAt_object (level : Nat) (members : List (String × Document)) :
    indentedAt level (.object members) =
      block "\x7b" "\x7d" level (members.map (memberText (level + 1))) := by
  rw [indentedAt, indentedMembers_eq]
  rfl

theorem indentedAt_array (level : Nat) (items : List Document) :
    indentedAt level (.array items) = block "[" "]" level (items.map (indentedAt (level + 1))) := by
  rw [indentedAt, indentedItems_eq]

theorem indentedAt_array_head (level : Nat) (items : List Document) :
    ∃ more, (indentedAt level (.array items)).toList = '[' :: more := by
  rw [indentedAt_array]
  cases items with
  | nil => exact ⟨[']'], by simp [block]⟩
  | cons item items => exact ⟨_, toList_block _ _ _ _ _⟩

theorem indentedAt_object_head (level : Nat) (members : List (String × Document)) :
    ∃ more, (indentedAt level (.object members)).toList = '{' :: more := by
  rw [indentedAt_object]
  cases members with
  | nil => exact ⟨['}'], by simp [block]⟩
  | cons member members => exact ⟨_, toList_block _ _ _ _ _⟩

theorem indentedAt_head (level : Nat) (document : Document) :
    ∃ first more, (indentedAt level document).toList = first :: more ∧ isBlank first = false ∧
      first ≠ ']' := by
  cases document with
  | null => exact ⟨'n', _, by rw [indentedAt]; rfl, by decide, by decide⟩
  | bool truth =>
      cases truth with
      | true => exact ⟨'t', _, by rw [indentedAt]; rfl, by decide, by decide⟩
      | false => exact ⟨'f', _, by rw [indentedAt]; rfl, by decide, by decide⟩
  | number number =>
      obtain ⟨first, more, text, known⟩ := numberText_head number
      refine ⟨first, more, by rw [indentedAt, text], ?_⟩
      rcases known with digit | rfl | rfl
      · have solid : ∀ char ∈ ['0', '1', '2', '3', '4', '5', '6', '7', '8', '9'],
            isBlank char = false ∧ char ≠ ']' := by simp [isBlank]
        exact solid first (digit_cases digit)
      · decide
      · decide
  | text content =>
      exact ⟨'"', _, by rw [indentedAt, toList_quoted], by decide, by decide⟩
  | array items =>
      obtain ⟨more, text⟩ := indentedAt_array_head level items
      exact ⟨'[', more, text, by decide, by decide⟩
  | object members =>
      obtain ⟨more, text⟩ := indentedAt_object_head level members
      exact ⟨'{', more, text, by decide, by decide⟩

theorem skipBlanks_indentedAt (level : Nat) (document : Document) (rest : List Char) :
    skipBlanks ((indentedAt level document).toList ++ rest) =
      (indentedAt level document).toList ++ rest := by
  obtain ⟨first, more, text, solid, _⟩ := indentedAt_head level document
  rw [text, List.cons_append, skipBlanks_cons solid]

theorem skipBlanks_item (outer level : Nat) (document : Document) (rest : List Char) :
    skipBlanks ('\n' :: ((margin outer).toList ++ ((indentedAt level document).toList ++ rest))) =
      (indentedAt level document).toList ++ rest := by
  rw [skipBlanks_line, skipBlanks_indentedAt]

end Layout

section Reading

/-- What the reader makes of the text of a document, where `levels` arrays and objects may be open
at once. -/
def reading : Nat → Document → Option Document
  | _, .null => some .null
  | _, .bool truth => some (.bool truth)
  | _, .number double => some (rereadNumber double)
  | _, .text content => some (.text content)
  | 0, .array _ => none
  | levels + 1, .array items => (items.mapM (reading levels)).map .array
  | 0, .object _ => none
  | levels + 1, .object members =>
    (members.mapM fun member => (reading levels member.2).map fun value => (member.1, value)).map
      fun members => .object (Dictionary.ofList members).entries

def readingMember (levels : Nat) (member : String × Document) : Option (String × Document) :=
  (reading levels member.2).map fun value => (member.1, value)

theorem readingMember_key {levels : Nat} (member read : String × Document)
    (found : readingMember levels member = some read) : read.1 = member.1 := by
  obtain ⟨value, _, rfl⟩ := Option.map_eq_some_iff.mp found
  rfl

def Reads (levels : Nat) : Prop :=
  ∀ level document chars rest, skipBlanks chars = (indentedAt level document).toList ++ rest →
    Stops rest → readAt levels chars = (reading levels document).map fun value => (value, rest)

theorem readItems_following {levels : Nat} (reads : Reads levels) (level : Nat) (first : Document)
    (others : List Document) (bound : Nat) (enough : others.length < bound) (before : List Document)
    (chars rest : List Char)
    (start : skipBlanks chars = (indentedAt (level + 1) first).toList ++
      following level (']' :: rest) (others.map (indentedAt (level + 1)))) :
    readItems (readAt levels) bound before chars =
      ((first :: others).mapM (reading levels)).map fun items =>
        (before.reverse ++ items, rest) := by
  induction others generalizing first bound before chars with
  | nil =>
      obtain ⟨bound, rfl⟩ := Nat.exists_eq_add_of_lt enough
      rw [readItems, reads _ _ _ _ start (stops_following _ _ _)]
      cases found : reading levels first with
      | none => simp [found]
      | some item =>
          have close : skipBlanks (following level (']' :: rest) []) = ']' :: rest := by
            rw [following, skipBlanks_line]
            rfl
          simp [found, close]
  | cons next others ih =>
      obtain ⟨bound, rfl⟩ := Nat.exists_eq_add_of_lt enough
      rw [readItems, reads _ _ _ _ start (stops_following _ _ _)]
      cases found : reading levels first with
      | none => rw [mapM_cons_none found]; rfl
      | some item =>
          refine Eq.trans (ih next ((next :: others).length + bound) (by simp; omega)
            (item :: before) _ (skipBlanks_item (level + 1) (level + 1) next _)) ?_
          rw [mapM_cons_some found, Option.map_map]
          simp only [Function.comp_def, List.reverse_cons, List.append_assoc, List.singleton_append]

theorem toList_memberText (level : Nat) (member : String × Document) (rest : List Char) :
    (memberText level member).toList ++ rest =
      '"' :: (member.1.toList.flatMap escape ++ '"' :: ':' :: ' ' ::
        ((indentedAt level member.2).toList ++ rest)) := by
  simp [memberText, toList_quoted]

theorem readMembers_member {levels : Nat} (reads : Reads levels) (level bound : Nat)
    (member : String × Document) (before : Dictionary Document) {chars tail : List Char}
    (stops : Stops tail) (start : skipBlanks chars = (memberText level member).toList ++ tail) :
    readMembers (readAt levels) (bound + 1) before chars =
      (reading levels member.2).bind fun value =>
        match skipBlanks tail with
        | ',' :: rest => readMembers (readAt levels) bound (before.put member.1 value) rest
        | '}' :: rest => some (before.put member.1 value, rest)
        | _ => none := by
  have colon : ∀ rest, skipBlanks (':' :: rest) = ':' :: rest := fun _ => rfl
  have value : skipBlanks (' ' :: ((indentedAt level member.2).toList ++ tail)) =
      (indentedAt level member.2).toList ++ tail :=
    skipBlanks_indentedAt level member.2 tail
  rw [toList_memberText] at start
  rw [readMembers, start]
  simp only [readText_quoted, colon, reads _ _ _ _ value stops, String.ofList_toList]
  cases reading levels member.2 <;> rfl

theorem readMembers_following {levels : Nat} (reads : Reads levels) (level : Nat)
    (first : String × Document) (others : List (String × Document)) (bound : Nat)
    (enough : others.length < bound) (before : Dictionary Document) (chars rest : List Char)
    (start : skipBlanks chars = (memberText (level + 1) first).toList ++
      following level ('}' :: rest) (others.map (memberText (level + 1)))) :
    readMembers (readAt levels) bound before chars =
      ((first :: others).mapM (readingMember levels)).map fun members =>
        (members.foldl (fun dictionary entry => dictionary.put entry.1 entry.2) before, rest) := by
  induction others generalizing first bound before chars with
  | nil =>
      obtain ⟨bound, rfl⟩ := Nat.exists_eq_add_of_lt enough
      rw [readMembers_member reads _ _ _ _ (stops_following _ _ _) start]
      have close : skipBlanks (following level ('}' :: rest) []) = '}' :: rest := by
        rw [following, skipBlanks_line]
        rfl
      cases found : reading levels first.2 <;> simp [readingMember, found, close]
  | cons next others ih =>
      obtain ⟨bound, rfl⟩ := Nat.exists_eq_add_of_lt enough
      rw [readMembers_member reads _ _ _ _ (stops_following _ _ _) start]
      cases found : reading levels first.2 with
      | none =>
          have missing : readingMember levels first = none := by rw [readingMember, found]; rfl
          rw [mapM_cons_none missing]
          rfl
      | some value =>
          have whole : readingMember levels first = some (first.1, value) := by
            rw [readingMember, found]
            rfl
          have quote : skipBlanks ('\n' :: ((margin (level + 1)).toList ++
              ((memberText (level + 1) next).toList ++
                following level ('}' :: rest) (others.map (memberText (level + 1)))))) =
              (memberText (level + 1) next).toList ++
                following level ('}' :: rest) (others.map (memberText (level + 1))) := by
            rw [skipBlanks_line, toList_memberText]
            rfl
          refine Eq.trans (ih next ((next :: others).length + bound) (by simp; omega)
            (before.put first.1 value) _ quote) ?_
          rw [mapM_cons_some whole, Option.map_map]
          rfl

theorem readAt_array (levels : Nat) (chars : List Char) : readAt levels ('[' :: chars) =
    match levels with
    | 0 => none
    | levels + 1 =>
      match skipBlanks chars with
      | ']' :: rest => some (.array [], rest)
      | rest =>
        (readItems (readAt levels) (rest.length + 1) [] rest).map fun (items, rest) =>
          (.array items, rest) := by
  cases levels <;> rfl

theorem readAt_object (levels : Nat) (chars : List Char) : readAt levels ('{' :: chars) =
    match levels with
    | 0 => none
    | levels + 1 =>
      match skipBlanks chars with
      | '}' :: rest => some (.object [], rest)
      | rest =>
        (readMembers (readAt levels) (rest.length + 1) {} rest).map fun (members, rest) =>
          (.object members.entries, rest) := by
  cases levels <;> rfl

theorem readAt_text (levels : Nat) (content : String) (rest : List Char) :
    readAt levels ((quoted content).toList ++ rest) = some (.text content, rest) := by
  have text : (quoted content).toList ++ rest =
      '"' :: (content.toList.flatMap escape ++ '"' :: rest) := by
    simp [toList_quoted]
  have opened : readAt levels ('"' :: (content.toList.flatMap escape ++ '"' :: rest)) =
      (readText ((content.toList.flatMap escape ++ '"' :: rest).length + 1) []
        (content.toList.flatMap escape ++ '"' :: rest)).map
          fun found => (.text found.1, found.2) := by
    cases levels <;> rfl
  rw [text, opened, readText_quoted, String.ofList_toList]
  rfl

theorem readAt_bool (levels : Nat) (truth : Bool) (rest : List Char) :
    readAt levels ((if truth then "true" else "false").toList ++ rest) =
      some (.bool truth, rest) := by
  cases truth <;> cases levels <;> rfl

theorem readAt_items {levels : Nat} (reads : Reads levels) (level : Nat) (items : List Document)
    (rest : List Char) :
    readAt (levels + 1) ((indentedAt level (.array items)).toList ++ rest) =
      (reading (levels + 1) (.array items)).map fun value => (value, rest) := by
  rw [indentedAt_array]
  cases items with
  | nil =>
      have text : (block "[" "]" level (List.map (indentedAt (level + 1)) [])).toList ++ rest =
          '[' :: ']' :: rest := by
        simp [block]
      rw [text, readAt_array]
      rfl
  | cons first others =>
      have text : (block "[" "]" level ((first :: others).map (indentedAt (level + 1)))).toList ++
          rest = '[' :: '\n' ::
            ((margin (level + 1)).toList ++ ((indentedAt (level + 1) first).toList ++
            following level (']' :: rest) (others.map (indentedAt (level + 1))))) := by
        rw [List.map_cons, toList_block]
        simp [following_append]
      have enough : others.length < ((indentedAt (level + 1) first).toList ++
          following level (']' :: rest) (others.map (indentedAt (level + 1)))).length + 1 := by
        have longer := length_le_following level (']' :: rest) (others.map (indentedAt (level + 1)))
        simp only [List.length_map, List.length_append] at longer ⊢
        omega
      obtain ⟨head, tail, start, _, opens⟩ := indentedAt_head (level + 1) first
      rw [text, readAt_array]
      simp only [skipBlanks_item]
      split
      · rename_i closes
        rw [start] at closes
        exact absurd (List.cons.inj closes).1 opens
      · rw [readItems_following reads level first others _ enough [] _ rest
          (skipBlanks_indentedAt _ _ _), reading, Option.map_map, Option.map_map]
        rfl

theorem readAt_members {levels : Nat} (reads : Reads levels) (level : Nat)
    (members : List (String × Document)) (rest : List Char) :
    readAt (levels + 1) ((indentedAt level (.object members)).toList ++ rest) =
      (reading (levels + 1) (.object members)).map fun value => (value, rest) := by
  rw [indentedAt_object]
  cases members with
  | nil =>
      have text :
          (block "\x7b" "\x7d" level (List.map (memberText (level + 1)) [])).toList ++ rest =
            '{' :: '}' :: rest := by
        simp [block]
      rw [text, readAt_object]
      rfl
  | cons first others =>
      have text : (block "\x7b" "\x7d" level
          ((first :: others).map (memberText (level + 1)))).toList ++ rest =
          '{' :: '\n' :: ((margin (level + 1)).toList ++ ((memberText (level + 1) first).toList ++
            following level ('}' :: rest) (others.map (memberText (level + 1))))) := by
        rw [List.map_cons, toList_block]
        simp [following_append]
      have enough : others.length < ((memberText (level + 1) first).toList ++
          following level ('}' :: rest) (others.map (memberText (level + 1)))).length + 1 := by
        have longer := length_le_following level ('}' :: rest) (others.map (memberText (level + 1)))
        simp only [List.length_map, List.length_append] at longer ⊢
        omega
      have start : skipBlanks ((memberText (level + 1) first).toList ++
          following level ('}' :: rest) (others.map (memberText (level + 1)))) =
          (memberText (level + 1) first).toList ++
            following level ('}' :: rest) (others.map (memberText (level + 1))) := by
        rw [toList_memberText]
        rfl
      rw [text, readAt_object]
      simp only [skipBlanks_line, start]
      split
      · rename_i closes
        rw [toList_memberText] at closes
        exact absurd (List.cons.inj closes).1 (by decide)
      · rw [readMembers_following reads level first others _ enough {} _ rest start, reading,
          Option.map_map, Option.map_map]
        rfl

theorem reads_step {levels : Nat} (inner : ∀ fewer, levels = fewer + 1 → Reads fewer) :
    Reads levels := by
  intro level document chars rest start stops
  rw [← readAt_skipBlanks, start]
  cases document with
  | null =>
      rw [indentedAt, reading]
      exact readAt_null levels rest
  | bool truth =>
      rw [indentedAt, reading]
      exact readAt_bool levels truth rest
  | number double =>
      rw [indentedAt, reading]
      exact readAt_number levels double stops
  | text content =>
      rw [indentedAt, reading]
      exact readAt_text levels content rest
  | array items =>
      cases levels with
      | zero =>
          obtain ⟨more, text⟩ := indentedAt_array_head level items
          rw [text, List.cons_append, readAt_array]
          rfl
      | succ fewer => exact readAt_items (inner fewer rfl) level items rest
  | object members =>
      cases levels with
      | zero =>
          obtain ⟨more, text⟩ := indentedAt_object_head level members
          rw [text, List.cons_append, readAt_object]
          rfl
      | succ fewer => exact readAt_members (inner fewer rfl) level members rest

/-- Reading back what was written, at any depth. -/
theorem reads (levels : Nat) : Reads levels := by
  induction levels with
  | zero => exact reads_step nofun
  | succ levels ih =>
      refine reads_step fun fewer same => ?_
      rw [← Nat.succ.inj same]
      exact ih

/-- The text of a whole document reads back up to its numbers, or is refused. -/
theorem read?_indented (document : Document) :
    read? document.indented = reading (nestingLimit - 1) document := by
  have ends : Stops [] := nofun
  have answer := reads (nestingLimit - 1) 0 document (indentedAt 0 document).toList []
    (by simpa using skipBlanks_indentedAt 0 document []) ends
  rw [read?, indented, answer]
  cases reading (nestingLimit - 1) document <;> rfl

end Reading

end EventScript.Document
