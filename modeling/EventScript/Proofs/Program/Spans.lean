import EventScript.Program.Template
import EventScript.Proofs.Text.Search

/-!
What a text is split into. Its parts, written one behind the other, give the text back, whatever
percent signs and underscores it holds. They are as few as they can be, since texts between them are
never empty and never follow each other, and nothing that could be filled in is left in a text.
-/

namespace EventScript.Program

mutual

def written : Expr → List Char
  | .reference _ name => '%' :: (name.toList ++ ['%'])
  | .stored _ key => '_' :: '_' :: (written key ++ ['_', '_'])
  | .literal _ (.text content) => content.toList
  | .template _ parts => writtenParts parts
  | _ => []

def writtenPart : TemplatePart → List Char
  | .text content => content.toList
  | .expr value => written value

def writtenParts : List TemplatePart → List Char
  | [] => []
  | part :: parts => writtenPart part ++ writtenParts parts

end

structure IsName (name : List Char) : Prop where
  some : name ≠ []
  plain : ∀ char ∈ name, char ≠ '%' ∧ Text.isBlank char = false
  single : ¬['_', '_'] <+: name

structure IsKey (key : List Char) : Prop where
  some : key ≠ []
  unclosed : ∀ position < key.length, ¬Text.LiesAt ['_', '_'] (key ++ ['_', '_']) position

/-- Something to be filled in stands at the start of the text. -/
inductive OpensSpan (withStored : Bool) : List Char → Prop
  | reference {name after : List Char} (named : IsName name) :
      OpensSpan withStored ('%' :: (name ++ '%' :: after))
  | stored {key after : List Char} (sought : withStored = true) (keyed : IsKey key) :
      OpensSpan withStored ('_' :: '_' :: (key ++ '_' :: '_' :: after))

inductive IsReference : Expr → Prop
  | named {line : Nat} {name : String} (named : IsName name.toList) :
      IsReference (.reference line name)

/-- Parts with only these expressions among them, and with texts that are neither empty nor next to
each other. -/
structure Tidy (fills : Expr → Prop) (parts : List TemplatePart) : Prop where
  texts : ∀ content, .text content ∈ parts → content ≠ ""
  apart : ∀ first second, ¬[.text first, .text second] <:+: parts
  fillings : ∀ value, .expr value ∈ parts → fills value

inductive IsFlat : Expr → Prop
  | text {line : Nat} {content : String} : IsFlat (.literal line (.text content))
  | template {line : Nat} {parts : List TemplatePart} (tidy : Tidy IsReference parts) :
      IsFlat (.template line parts)

inductive IsStored : Expr → Prop
  | entry {line : Nat} {key : Expr} (keyed : IsKey (written key)) (flat : IsFlat key) :
      IsStored (.stored line key)

/-- What may be filled into a text; entries of the store only where they are looked for. -/
def Fills (withStored : Bool) (value : Expr) : Prop :=
  IsReference value ∨ withStored = true ∧ IsStored value

/-- With `rest` behind it, nothing to be filled in begins in the text. -/
def Settled (withStored : Bool) (content rest : List Char) : Prop :=
  ∀ front back, content = front ++ back → back ≠ [] → ¬OpensSpan withStored (back ++ rest)

def Exhausted (withStored : Bool) : List TemplatePart → Prop
  | [] => True
  | .text content :: parts =>
    Settled withStored content.toList (writtenParts parts) ∧ Exhausted withStored parts
  | .expr _ :: parts => Exhausted withStored parts

section Tidiness

variable {fills : Expr → Prop} {parts : List TemplatePart} {value : Expr}

theorem Tidy.nil : Tidy fills [] := by
  refine ⟨fun content member => ?_, fun first second inside => ?_, fun value member => ?_⟩
  · cases member
  · simpa using inside.length_le
  · cases member

theorem Tidy.mono {others : Expr → Prop} (tidy : Tidy fills parts)
    (more : ∀ value, fills value → others value) : Tidy others parts :=
  ⟨tidy.texts, tidy.apart, fun value member => more value (tidy.fillings value member)⟩

theorem Fills.isReference (filled : Fills false value) : IsReference value := by
  rcases filled with reference | ⟨never, _⟩
  · exact reference
  · cases never

theorem Tidy.expr (tidy : Tidy fills parts) (good : fills value) :
    Tidy fills (.expr value :: parts) where
  texts content member := by
    rcases List.mem_cons.mp member with same | later
    · cases same
    · exact tidy.texts content later
  apart first second inside := by
    rcases List.infix_cons_iff.mp inside with start | later
    · cases (List.cons_prefix_cons.mp start).1
    · exact tidy.apart first second later
  fillings other member := by
    rcases List.mem_cons.mp member with same | later
    · cases same
      exact good
    · exact tidy.fillings other later

theorem Tidy.text {content : String} (tidy : Tidy fills parts) (some : content ≠ "")
    (apart : ∀ other, parts.head? ≠ .some (.text other)) : Tidy fills (.text content :: parts) where
  texts other member := by
    rcases List.mem_cons.mp member with same | later
    · cases same
      exact some
    · exact tidy.texts other later
  apart first second inside := by
    rcases List.infix_cons_iff.mp inside with start | later
    · have next := (List.cons_prefix_cons.mp start).2
      rw [List.singleton_prefix_iff_head?_eq_some] at next
      exact apart second next
    · exact tidy.apart first second later
  fillings value member := by
    rcases List.mem_cons.mp member with same | later
    · cases same
    · exact tidy.fillings value later

end Tidiness

section Writing

theorem written_collapse (line : Nat) (parts : List TemplatePart) :
    written (collapse line parts) = writtenParts parts := by
  unfold collapse
  split
  · rw [written, writtenParts]
    rfl
  · rw [written, writtenParts, writtenPart, writtenParts, List.append_nil]
  · rw [written]

theorem isFlat_collapse {line : Nat} {parts : List TemplatePart} (tidy : Tidy IsReference parts) :
    IsFlat (collapse line parts) := by
  unfold collapse
  split
  · exact .text
  · exact .text
  · exact .template tidy

end Writing

section Marks

variable {chars key name : List Char}

theorem storedKey?_eq_some_iff :
    storedKey? chars = some key ↔
      IsKey key ∧ ∃ after, chars = '_' :: '_' :: (key ++ '_' :: '_' :: after) := by
  constructor
  · intro found
    unfold storedKey? at found
    split at found
    · next rest =>
      split at found
      · next position closes =>
        obtain ⟨before, after, rfl, length, unclosed⟩ := Text.indexIn_eq_some_iff.mp closes
        rw [List.take_left' length] at found
        cases found
        rw [← length] at unclosed
        exact ⟨⟨List.ne_nil_of_length_eq_add_one length, unclosed⟩, after, rfl⟩
      · cases found
    · cases found
  · rintro ⟨⟨some, unclosed⟩, after, rfl⟩
    obtain ⟨position, length⟩ : ∃ position, key.length = position + 1 :=
      Nat.exists_eq_succ_of_ne_zero (mt List.length_eq_zero_iff.mp some)
    have closes : Text.indexIn ['_', '_'] (key ++ '_' :: '_' :: after) = .some (position + 1) :=
      Text.indexIn_eq_some_iff.mpr ⟨key, after, rfl, length, length ▸ unclosed⟩
    rw [storedKey?, closes]
    change Option.some (List.take (position + 1) _) = _
    rw [List.take_left' length]

theorem referenceName?_eq_some_iff :
    referenceName? chars = some name ↔
      IsName name ∧ ∃ after, chars = '%' :: (name ++ '%' :: after) := by
  have blank_iff : ¬name.any Text.isBlank = true ↔ ∀ char ∈ name, Text.isBlank char = false := by
    simp
  constructor
  · intro found
    unfold referenceName? at found
    split at found
    · next rest =>
      split at found
      · cases found
      next single =>
      split at found
      · next position closes =>
        obtain ⟨before, after, rfl, length, unclosed⟩ := Text.indexIn_mark_iff.mp closes
        rw [List.take_left' length] at found
        dsimp only at found
        split at found
        · cases found
        · next solid =>
          cases found
          refine ⟨⟨List.ne_nil_of_length_eq_add_one length, fun char member => ⟨?_, ?_⟩,
            fun double => ?_⟩, after, rfl⟩
          · rintro rfl
            exact unclosed member
          · exact blank_iff.mp solid char member
          · exact single (List.isPrefixOf_iff_prefix.mpr (double.trans (List.prefix_append ..)))
      · cases found
    · cases found
  · rintro ⟨⟨some, plain, single⟩, after, rfl⟩
    obtain ⟨position, length⟩ : ∃ position, name.length = position + 1 :=
      Nat.exists_eq_succ_of_ne_zero (mt List.length_eq_zero_iff.mp some)
    have closes : Text.indexIn ['%'] (name ++ '%' :: after) = .some (position + 1) :=
      Text.indexIn_mark_iff.mpr ⟨name, after, rfl, length, fun member => (plain _ member).1 rfl⟩
    have double : ¬['_', '_'].isPrefixOf (name ++ '%' :: after) = true := by
      intro start
      match name with
      | [] => exact some rfl
      | [first] => simp at start
      | first :: second :: name =>
          simp only [List.cons_append, List.isPrefixOf_cons_cons, Bool.and_eq_true,
            beq_iff_eq] at start
          obtain ⟨rfl, rfl, _⟩ := start
          exact single (List.prefix_append ['_', '_'] name)
    have solid : ¬name.any Text.isBlank = true :=
      blank_iff.mpr fun char member => (plain char member).2
    rw [referenceName?, if_neg double, closes]
    change (if (List.take (position + 1) _).any Text.isBlank = true then none
      else Option.some (List.take (position + 1) _)) = _
    rw [List.take_left' length, if_neg solid]

theorem opensSpan_iff {withStored : Bool} :
    OpensSpan withStored chars ↔
      (withStored = true ∧ ∃ key, storedKey? chars = some key) ∨
        ∃ name, referenceName? chars = some name := by
  constructor
  · intro opens
    cases opens with
    | @reference name after named =>
        exact .inr ⟨name, referenceName?_eq_some_iff.mpr ⟨named, after, rfl⟩⟩
    | @stored key after sought keyed =>
        exact .inl ⟨sought, key, storedKey?_eq_some_iff.mpr ⟨keyed, after, rfl⟩⟩
  · rintro (⟨sought, key, found⟩ | ⟨name, found⟩)
    · obtain ⟨keyed, after, rfl⟩ := storedKey?_eq_some_iff.mp found
      exact .stored sought keyed
    · obtain ⟨named, after, rfl⟩ := referenceName?_eq_some_iff.mp found
      exact .reference named

end Marks

section Settling

variable {withStored : Bool} {pending chars : List Char} {parts : List TemplatePart}

theorem Settled.nil : Settled withStored [] chars := by
  intro front back split some
  exact absurd (List.append_eq_nil_iff.mp split.symm).2 some

theorem Settled.concat {char : Char} (settled : Settled withStored pending (char :: chars))
    (closed : ¬OpensSpan withStored (char :: chars)) :
    Settled withStored (pending ++ [char]) chars := by
  intro front back split some
  obtain ⟨early, last, rfl⟩ := (List.eq_nil_or_concat back).resolve_left some
  rw [List.concat_eq_append, ← List.append_assoc] at split
  obtain ⟨whole, same⟩ := List.append_inj' split rfl
  obtain rfl := List.singleton_inj.mp same
  rw [List.concat_eq_append, List.append_assoc, List.singleton_append]
  by_cases empty : early = []
  · rwa [empty]
  · exact settled front early whole empty

/-- The text collected so far goes before parts that begin with none. -/
theorem flushText_split {fills : Expr → Prop}
    (settled : Settled withStored pending.reverse (writtenParts parts)) (tidy : Tidy fills parts)
    (exhausted : Exhausted withStored parts)
    (apart : ∀ other, parts.head? ≠ some (.text other)) :
    writtenParts (flushText pending parts) = pending.reverse ++ writtenParts parts ∧
      Tidy fills (flushText pending parts) ∧ Exhausted withStored (flushText pending parts) := by
  unfold flushText
  split
  · next none =>
    rw [List.isEmpty_iff.mp none, List.reverse_nil, List.nil_append]
    exact ⟨rfl, tidy, exhausted⟩
  · next some =>
    refine ⟨?_, tidy.text (fun none => some ?_) apart, ?_, exhausted⟩
    · rw [writtenParts, writtenPart, String.toList_ofList]
    · have reversed := congrArg String.toList none
      rw [String.toList_ofList] at reversed
      simpa using reversed
    · rwa [String.toList_ofList]

end Settling

theorem keyParts_split {line : Nat} {key : List Char}
    (back : writtenParts (templateParts line false [] key) = key)
    (tidy : Tidy (Fills false) (templateParts line false [] key)) :
    let inner := if key.contains '%' then collapse line (templateParts line false [] key)
      else textLiteral line key
    IsFlat inner ∧ written inner = key := by
  intro inner
  by_cases filled : key.contains '%' = true
  · simp only [inner, if_pos filled]
    rw [written_collapse]
    exact ⟨isFlat_collapse (tidy.mono fun value => Fills.isReference), back⟩
  · simp only [inner, if_neg filled]
    exact ⟨.text, by rw [textLiteral, written, String.toList_ofList]⟩

theorem drop_span (span mark after : List Char) :
    (span ++ (mark ++ after)).drop (span.length + mark.length) = after := by
  rw [← List.append_assoc, ← List.length_append, List.drop_left]

theorem templateParts_split (line : Nat) (withStored : Bool) (pending chars : List Char)
    (settled : Settled withStored pending.reverse chars) :
    writtenParts (templateParts line withStored pending chars) = pending.reverse ++ chars ∧
      Tidy (Fills withStored) (templateParts line withStored pending chars) ∧
      Exhausted withStored (templateParts line withStored pending chars) := by
  -- Wherever a part begins, what was collected before it is settled: this carries the induction.
  fun_induction templateParts line withStored pending chars with
  | case1 withStored pending => exact flushText_split settled .nil trivial (by simp)
  | case2 withStored pending char rest key found keyExpr inKey later =>
      obtain ⟨sought, found⟩ : withStored = true ∧ storedKey? (char :: rest) = some key := by
        split at found
        · next sought => exact ⟨sought, found⟩
        · cases found
      obtain ⟨keyed, after, source⟩ := storedKey?_eq_some_iff.mp found
      obtain ⟨rfl, rfl⟩ := List.cons.inj source
      simp only [List.tail_cons, List.take_left] at inKey later
      have behind : (key ++ '_' :: '_' :: after).drop (key.length + 2) = after :=
        drop_span key ['_', '_'] after
      rw [behind] at later
      rw [List.tail_cons, behind]
      obtain ⟨back, tidy, exhausted⟩ := later .nil
      have own : IsFlat keyExpr ∧ written keyExpr = key := by
        obtain ⟨back, tidy, _⟩ := inKey .nil
        simpa [keyExpr] using keyParts_split back tidy
      have filled : IsStored (.stored line keyExpr) := .entry (own.2 ▸ keyed) own.1
      have source : writtenParts (.expr (.stored line keyExpr) ::
          templateParts line withStored [] after) = '_' :: '_' :: (key ++ '_' :: '_' :: after) := by
        rw [writtenParts, writtenPart, written, back, own.2]
        simp
      rw [← source] at settled ⊢
      exact flushText_split settled (tidy.expr (.inr ⟨sought, filled⟩)) exhausted (by simp)
  | case3 withStored pending char rest unstored name found later =>
      obtain ⟨named, after, source⟩ := referenceName?_eq_some_iff.mp found
      obtain ⟨rfl, rfl⟩ := List.cons.inj source
      have behind : (name ++ '%' :: after).drop (name.length + 1) = after :=
        drop_span name ['%'] after
      rw [behind] at later ⊢
      obtain ⟨back, tidy, exhausted⟩ := later .nil
      have filled : IsReference (.reference line (String.ofList name)) :=
        .named (by rwa [String.toList_ofList])
      have source : writtenParts (.expr (.reference line (String.ofList name)) ::
          templateParts line withStored [] after) = '%' :: (name ++ '%' :: after) := by
        rw [writtenParts, writtenPart, written, back]
        simp
      rw [← source] at settled ⊢
      exact flushText_split settled (tidy.expr (.inl filled)) exhausted (by simp)
  | case4 withStored pending char rest unstored unnamed later =>
      have closed : ¬OpensSpan withStored (char :: rest) := by
        rw [opensSpan_iff]
        rintro (⟨sought, key, found⟩ | ⟨name, found⟩)
        · rw [dif_pos sought, found] at unstored
          cases unstored
        · rw [found] at unnamed
          cases unnamed
      rw [List.reverse_cons] at later
      have told := later (settled.concat closed)
      rwa [List.append_assoc] at told

/-- Splitting a text loses nothing: written one behind the other its parts are the text. Only
variables are filled in between texts, and entries of the store where they are looked for. -/
theorem templateParts_lossless (line : Nat) (withStored : Bool) (content : String) :
    String.ofList (writtenParts (templateParts line withStored [] content.toList)) = content ∧
      Tidy (Fills withStored) (templateParts line withStored [] content.toList) ∧
      Exhausted withStored (templateParts line withStored [] content.toList) := by
  obtain ⟨back, split⟩ := templateParts_split line withStored [] content.toList .nil
  rw [List.reverse_nil, List.nil_append] at back
  exact ⟨by rw [back, String.ofList_toList], split⟩

end EventScript.Program
