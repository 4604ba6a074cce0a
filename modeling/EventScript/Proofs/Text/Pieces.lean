import EventScript.Text.Blank

/-!
A text that is cut into pieces. Where one of its separators is taken as the middle, the pieces are
those of both halves; what is put in elsewhere only makes one piece longer.
-/

namespace EventScript.Text

variable {separates : Char → Bool}

theorem piecesBy_eq_splitOnP (chars : List Char) :
    piecesBy separates chars = chars.splitOnP separates := by
  induction chars with
  | nil => rfl
  | cons char rest ih =>
      rw [List.splitOnP_cons_eq_if_modifyHead, piecesBy, ih]
      cases split : rest.splitOnP separates with
      | nil => exact absurd split (List.splitOnP_ne_nil separates rest)
      | cons piece pieces => rfl

theorem piecesBy_cut {mark : Char} (cuts : separates mark = true) (rest : List Char) :
    piecesBy separates (mark :: rest) = [] :: piecesBy separates rest := by
  rw [piecesBy, if_pos cuts]

theorem piecesBy_ne_nil (chars : List Char) : piecesBy separates chars ≠ [] := by
  rw [piecesBy_eq_splitOnP]
  exact List.splitOnP_ne_nil separates chars

theorem piecesBy_plain_cons {char : Char} (plain : separates char = false) {rest piece : List Char}
    {pieces : List (List Char)} (split : piecesBy separates rest = piece :: pieces) :
    piecesBy separates (char :: rest) = (char :: piece) :: pieces := by
  rw [piecesBy, plain, split]
  rfl

theorem piecesBy_single {chars : List Char} (whole : ∀ char ∈ chars, separates char = false) :
    piecesBy separates chars = [chars] := by
  rw [piecesBy_eq_splitOnP, List.splitOnP_eq_singleton whole]

theorem piecesBy_append_cut {mark : Char} (cuts : separates mark = true)
    (first second : List Char) :
    piecesBy separates (first ++ mark :: second) =
      piecesBy separates first ++ piecesBy separates second := by
  simp only [piecesBy_eq_splitOnP, List.splitOnP_append_cons first second cuts]

theorem length_piecesBy (chars : List Char) :
    (piecesBy separates chars).length = chars.countP separates + 1 := by
  induction chars with
  | nil => rfl
  | cons char rest ih =>
      by_cases cuts : separates char = true
      · simp [piecesBy_cut cuts, ih, cuts]
      · obtain ⟨piece, pieces, split⟩ := List.exists_cons_of_ne_nil
          (piecesBy_ne_nil rest : piecesBy separates rest ≠ [])
        rw [split] at ih
        rw [piecesBy_plain_cons (Bool.eq_false_iff.mpr cuts) split]
        simpa [cuts] using ih

theorem piecesBy_plain (chars : List Char) :
    ∀ piece ∈ piecesBy separates chars, ∀ char ∈ piece, separates char = false := by
  induction chars with
  | nil => simp [piecesBy]
  | cons first rest ih =>
      by_cases cuts : separates first = true
      · rw [piecesBy_cut cuts]
        simpa using ih
      · obtain ⟨piece, pieces, split⟩ := List.exists_cons_of_ne_nil
          (piecesBy_ne_nil rest : piecesBy separates rest ≠ [])
        rw [split] at ih
        rw [piecesBy_plain_cons (Bool.eq_false_iff.mpr cuts) split]
        simp only [List.forall_mem_cons] at ih ⊢
        exact ⟨⟨Bool.eq_false_iff.mpr cuts, ih.1⟩, ih.2⟩

theorem piecesBy_intercalate {mark : Char} (cuts : separates mark = true)
    {pieces : List (List Char)} (some : pieces ≠ [])
    (plain : ∀ piece ∈ pieces, ∀ char ∈ piece, separates char = false) :
    piecesBy separates ([mark].intercalate pieces) = pieces := by
  induction pieces with
  | nil => exact absurd rfl some
  | cons piece pieces ih =>
      have first := piecesBy_single (plain piece List.mem_cons_self)
      cases pieces with
      | nil => simpa using first
      | cons next others =>
          have later := ih (by simp) fun other member =>
            plain other (List.mem_cons_of_mem piece member)
          rw [List.intercalate_cons_cons, List.append_assoc, List.singleton_append,
            piecesBy_append_cut cuts, first, later]
          rfl

theorem intercalate_piecesBy {mark : Char} (only : ∀ char, separates char = true → char = mark)
    (chars : List Char) : [mark].intercalate (piecesBy separates chars) = chars := by
  by_cases cuts : separates mark = true
  · have same : separates = (· == mark) := by
      funext char
      rw [Bool.eq_iff_iff, beq_iff_eq]
      exact ⟨only char, fun found => found ▸ cuts⟩
    rw [piecesBy_eq_splitOnP, same, ← List.splitOn_eq_splitOnP, List.intercalate_splitOn]
  · have whole : ∀ char ∈ chars, separates char = false := by
      intro char _
      rw [Bool.eq_false_iff]
      exact fun ends => cuts (only char ends ▸ ends)
    rw [piecesBy_single whole, List.intercalate_singleton]

theorem piecesBy_insert (chars rest : List Char)
    (ends : ∀ char ∈ rest.head?, separates char = true) :
    ∃ earlier last later, earlier.length = chars.countP separates ∧
      ∀ more, (∀ char ∈ more, separates char = false) →
        piecesBy separates (chars ++ (more ++ rest)) = earlier ++ (last ++ more) :: later := by
  induction chars with
  | nil =>
      cases rest with
      | nil =>
          refine ⟨[], [], [], rfl, fun more plain => ?_⟩
          simpa using piecesBy_single plain
      | cons mark rest =>
          refine ⟨[], [], piecesBy separates rest, rfl, fun more plain => ?_⟩
          simp [piecesBy_append_cut (ends mark rfl), piecesBy_single plain]
  | cons char chars ih =>
      obtain ⟨earlier, last, later, count, split⟩ := ih
      by_cases cuts : separates char = true
      · refine ⟨[] :: earlier, last, later, by simp [count, cuts], fun more plain => ?_⟩
        rw [List.cons_append, piecesBy_cut cuts, split more plain]
        rfl
      · have solid := Bool.eq_false_iff.mpr cuts
        cases earlier with
        | nil =>
            refine ⟨[], char :: last, later, by simpa [cuts] using count, fun more plain => ?_⟩
            exact piecesBy_plain_cons solid (split more plain)
        | cons first earlier =>
            refine ⟨(char :: first) :: earlier, last, later, by simpa [cuts] using count,
              fun more plain => ?_⟩
            exact piecesBy_plain_cons solid (split more plain)

theorem piecesBy_boundary (before : List Char)
    (bounded : ∀ char ∈ before.getLast?, separates char = true) :
    ∃ earlier, earlier.length = before.countP separates ∧
      ∀ rest, piecesBy separates (before ++ rest) = earlier ++ piecesBy separates rest := by
  rcases List.eq_nil_or_concat before with rfl | ⟨front, mark, rfl⟩
  · exact ⟨[], rfl, fun rest => rfl⟩
  · have cuts : separates mark = true := bounded mark (by simp)
    refine ⟨piecesBy separates front, ?_, fun rest => ?_⟩
    · simp [length_piecesBy, cuts]
    · rw [List.concat_eq_append, List.append_assoc, List.singleton_append,
        piecesBy_append_cut cuts]

end EventScript.Text
