import EventScript.Proofs.Program.Copying

/-!
Blank lines and lines with nothing but a remark have no meaning. Neither the reader of tokens nor
the parser takes notice of one, apart from the numbers of the lines behind it.
-/

namespace EventScript.Program

open EventScript.Token (IsSilentLine scan shifted)

/-- A line without a token that is put in between two lines, or at either end, changes neither the
tokens of a script nor its program, nor what is wrong with them, but for the numbers of the lines
behind it. -/
theorem silent_line_unseen (before quiet after : String)
    (boundary : ∀ char ∈ before.toList.getLast?, char = '\n') (silent : IsSilentLine quiet.toList)
    (single : ∀ char ∈ quiet.toList, char ≠ '\n') :
    let place := shifted (before.toList.count '\n' + 1)
    scan (before ++ quiet ++ "\n" ++ after) =
        replaced place (List.map (Token.renumber place)) (scan (before ++ after)) ∧
      parse (before ++ quiet ++ "\n" ++ after) =
        replaced place (Program.renumber place) (parse (before ++ after)) := by
  intro place
  have tokens := Token.scan_insert before quiet after boundary silent single
  refine ⟨tokens, ?_⟩
  rw [parse, parse, tokens]
  cases scanned : scan (before ++ after) with
  | error error => rfl
  | ok found => exact ofTokens_renumber (Token.scansTo_of_scanLines scanned).ne_nil

theorem note_line_unseen :
    let before := "on go:\n"
    let quiet := "\t # aside\r"
    let after := "  log a\n   log b"
    let place := shifted (before.toList.count '\n' + 1)
    (∀ char ∈ before.toList.getLast?, char = '\n') ∧ IsSilentLine quiet.toList ∧
      (∀ char ∈ quiet.toList, char ≠ '\n') ∧
      scan (before ++ quiet ++ "\n" ++ after) =
        replaced place (List.map (Token.renumber place)) (scan (before ++ after)) ∧
      parse (before ++ quiet ++ "\n" ++ after) =
        replaced place (Program.renumber place) (parse (before ++ after)) := by
  intro before quiet after place
  have boundary : ∀ char ∈ before.toList.getLast?, char = '\n' := by simp [before]
  have silent : IsSilentLine quiet.toList :=
    ⟨"\t ".toList, "# aside\r".toList, by simp [quiet], by simp [Token.isMargin], by simp⟩
  have single : ∀ char ∈ quiet.toList, char ≠ '\n' := by simp [quiet]
  exact ⟨boundary, silent, single, silent_line_unseen before quiet after boundary silent single⟩

end EventScript.Program
