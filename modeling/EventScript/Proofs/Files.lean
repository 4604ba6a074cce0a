import EventScript.Store.DataFile

/-!
What a file holds after it was written. A path leads to the same place as long as the folders on its
way stay folders, and neither writing a file nor moving one touches a folder.
-/

namespace EventScript

namespace Files

theorem lookup_filter_ne {α β : Type} [BEq α] [LawfulBEq α] {key other : α} (apart : other ≠ key)
    (entries : List (α × β)) :
    (entries.filter fun entry => entry.1 != key).lookup other = entries.lookup other := by
  induction entries with
  | nil => rfl
  | cons entry rest ih =>
      obtain ⟨name, value⟩ := entry
      rw [List.filter_cons]
      split
      · rw [List.lookup_cons, List.lookup_cons, ih]
      · rename_i dropped
        have same : name = key := by simpa using dropped
        have different : (other == name) = false := by
          rw [same]
          exact beq_false_of_ne apart
        rw [ih, List.lookup_cons, different]

theorem not_isBase_of_node?_ne {files : Files} {location : Location}
    (other : files.node? location ≠ some .folder) : ¬IsBase location := by
  intro base
  exact other (if_pos base)

theorem node?_place {location : Location} (apart : ¬IsBase location) (files : Files)
    (node : FileNode) (other : Location) :
    (files.place location node).node? other =
      if other = location then some node else files.node? other := by
  by_cases same : other = location
  · rw [if_pos same, same]
    simp [node?, place, apart]
  · rw [if_neg same]
    simp only [node?, place]
    rw [List.lookup_cons, beq_false_of_ne same, lookup_filter_ne same]

theorem node?_removeAt {location other : Location} (apart : other ≠ location) (files : Files) :
    (files.removeAt location).node? other = files.node? other := by
  simp only [node?, removeAt]
  rw [lookup_filter_ne apart]

def KeepsFolders (files later : Files) : Prop :=
  ∀ location, files.node? location = some .folder → later.node? location = some .folder

theorem follow_keeps {files later : Files} (keeps : KeepsFolders files later) {here : Location}
    {segments : List String} {location : Location}
    (follows : files.follow here segments = .ok location) :
    later.follow here segments = .ok location := by
  induction segments generalizing here with
  | nil => exact follows
  | cons segment rest ih =>
      rw [follow] at follows ⊢
      split at follows
      · rename_i folder
        rw [keeps here folder]
        exact ih follows
      · exact nomatch follows
      · exact nomatch follows

theorem locate_keeps {files later : Files} (keeps : KeepsFolders files later) {path : String}
    {location : Location} (located : files.locate path = .ok location) :
    later.locate path = .ok location := by
  unfold locate at located ⊢
  split at located
  · exact nomatch located
  · rename_i nonempty
    rw [if_neg nonempty]
    exact follow_keeps keeps located

theorem permitted_ok {α : Type} {files : Files} {request : FileRequest} {run : Except FileError α}
    {result : α} (allowed : files.permitted request run = .ok result) : run = .ok result := by
  unfold permitted at allowed
  split at allowed
  · exact nomatch allowed
  · exact allowed

theorem write_ok {files after : Files} {path : String} {content : Content}
    (written : files.write path content = .ok after) :
    ∃ location, files.locate path = .ok location ∧ files.node? location ≠ some .folder ∧
      after = files.place location (.file content) := by
  have run := permitted_ok written
  split at run
  · exact nomatch run
  · cases located : files.locate path with
    | error error => simp [located, bind, Except.bind] at run
    | ok location =>
        simp only [located, bind, Except.bind] at run
        split at run
        · exact nomatch run
        · rename_i other
          exact ⟨location, rfl, other, (Except.ok.inj run).symm⟩

theorem rename_ok {files after : Files} {source target : String}
    (moved : files.rename source target = .ok after) :
    ∃ origin node location, files.locate source = .ok origin ∧ files.node? origin = some node ∧
      files.locate target = .ok location ∧ files.node? location ≠ some .folder ∧
      after = (files.removeAt origin).place location node := by
  have run := permitted_ok moved
  cases found : files.locate source with
  | error error => simp [found, bind, Except.bind] at run
  | ok origin =>
      simp only [found, bind, Except.bind] at run
      split at run
      · exact nomatch run
      · rename_i node there
        split at run
        · exact nomatch run
        · cases located : files.locate target with
          | error error => simp [located] at run
          | ok location =>
              simp only [located] at run
              split at run
              · exact nomatch run
              · rename_i other
                exact ⟨origin, node, location, rfl, there, rfl, other, (Except.ok.inj run).symm⟩

theorem keepsFolders_place {files : Files} {location : Location}
    (other : files.node? location ≠ some .folder) (node : FileNode) :
    KeepsFolders files (files.place location node) := by
  intro here folder
  rw [node?_place (not_isBase_of_node?_ne other)]
  split
  · rename_i same
    exact absurd (same ▸ folder) other
  · exact folder

def left : Except (FileError × Files) Files → Files
  | .ok files => files
  | .error (_, files) => files

theorem makeFoldersFrom_refusal (files : Files) (made : Bool) (here : Location)
    (segments : List String) :
    (left (files.makeFoldersFrom made here segments)).refusal = files.refusal := by
  induction segments generalizing files made here with
  | nil => rfl
  | cons segment rest ih =>
      simp only [makeFoldersFrom]
      split
      · exact ih _ _ _
      · rfl
      · exact ih _ _ _

theorem makeFolders_refusal (files : Files) (path : String) :
    (left (files.makeFolders path)).refusal = files.refusal := by
  unfold makeFolders
  split
  · rfl
  · exact makeFoldersFrom_refusal _ _ _ _

theorem find_moved {files drafted after : Files} {draft target : String} {content : Content}
    (written : files.write draft content = .ok drafted)
    (moved : drafted.rename draft target = .ok after) :
    after.find target = .ok (.file content) := by
  obtain ⟨place, placed, free, rfl⟩ := write_ok written
  obtain ⟨origin, node, location, found, there, located, clear, rfl⟩ := rename_ok moved
  have same : origin = place :=
    Except.ok.inj (found.symm.trans (locate_keeps (keepsFolders_place free _) placed))
  have file : node = .file content := by
    rw [same, node?_place (not_isBase_of_node?_ne free), if_pos rfl] at there
    exact (Option.some.inj there).symm
  subst file
  have apart := not_isBase_of_node?_ne clear
  have keeps : KeepsFolders (files.place place (.file content))
      (((files.place place (.file content)).removeAt origin).place location (.file content)) := by
    intro here folder
    have notTarget : here ≠ location := by
      rintro rfl
      exact clear folder
    have notOrigin : here ≠ origin := by
      rintro rfl
      exact nomatch folder.symm.trans there
    rw [node?_place apart, if_neg notTarget, node?_removeAt notOrigin]
    exact folder
  simp only [find, locate_keeps keeps located, bind, Except.bind]
  rw [node?_place apart, if_pos rfl]

theorem write_refusal {files after : Files} {path : String} {content : Content}
    (written : files.write path content = .ok after) : after.refusal = files.refusal := by
  obtain ⟨location, _, _, rfl⟩ := write_ok written
  rfl

theorem rename_refusal {files after : Files} {source target : String}
    (moved : files.rename source target = .ok after) : after.refusal = files.refusal := by
  obtain ⟨origin, node, location, _, _, _, _, rfl⟩ := rename_ok moved
  rfl

end Files

namespace Store

theorem prepareFolder_refusal (files : Files) (path : String) :
    (Files.left (prepareFolder files path)).refusal = files.refusal := by
  unfold prepareFolder
  split
  · exact Files.makeFolders_refusal _ _
  · rfl

theorem writeText_cases (files : Files) (path text : String) :
    (∃ error after, prepareFolder files path = .error (error, after) ∧
      writeText files path text = (.error error, after)) ∨
    ∃ ready, prepareFolder files path = .ok ready ∧
      ((∃ error, ready.write (draftPath path) (.text text) = .error error ∧
        writeText files path text = (.error error, ready)) ∨
      ∃ drafted, ready.write (draftPath path) (.text text) = .ok drafted ∧
        ((∃ error, drafted.rename (draftPath path) path = .error error ∧
          writeText files path text = (.error error, drafted)) ∨
        ∃ moved, drafted.rename (draftPath path) path = .ok moved ∧
          writeText files path text = (.ok (), moved))) := by
  simp only [writeText]
  cases prepared : prepareFolder files path with
  | error failure => exact .inl ⟨failure.1, failure.2, rfl, rfl⟩
  | ok ready =>
      refine .inr ⟨ready, rfl, ?_⟩
      cases draft : ready.write (draftPath path) (.text text) with
      | error error => exact .inl ⟨error, rfl, by simp only [draft]⟩
      | ok drafted =>
          refine .inr ⟨drafted, rfl, ?_⟩
          cases renamed : drafted.rename (draftPath path) path with
          | error error => exact .inl ⟨error, rfl, by simp only [draft, renamed]⟩
          | ok moved => exact .inr ⟨moved, rfl, by simp only [draft, renamed]⟩

theorem writeText_refusal (files : Files) (path text : String) :
    (writeText files path text).2.refusal = files.refusal := by
  have made := prepareFolder_refusal files path
  rcases writeText_cases files path text with ⟨error, after, prepared, outcome⟩ |
    ⟨ready, prepared, ⟨error, _, outcome⟩ | ⟨drafted, draft, ⟨error, _, outcome⟩ |
      ⟨moved, renamed, outcome⟩⟩⟩
  all_goals
    rw [outcome]
    rw [prepared] at made
  · exact made
  · exact made
  · exact (Files.write_refusal draft).trans made
  · exact (Files.rename_refusal renamed).trans ((Files.write_refusal draft).trans made)

theorem find_written {files after : Files} {path text : String}
    (written : writeText files path text = (.ok (), after)) :
    after.find path = .ok (.file (.text text)) := by
  rcases writeText_cases files path text with ⟨error, left, _, outcome⟩ |
    ⟨ready, _, ⟨error, _, outcome⟩ | ⟨drafted, draft, ⟨error, _, outcome⟩ |
      ⟨moved, renamed, outcome⟩⟩⟩
  all_goals
    rw [outcome] at written
    cases written
  exact Files.find_moved draft renamed

theorem refusal_written {files after : Files} {path text : String} {result : Except FileError Unit}
    (written : writeText files path text = (result, after)) : after.refusal = files.refusal := by
  have same := writeText_refusal files path text
  rw [written] at same
  exact same

theorem has_of_find {files : Files} {path : String} {node : FileNode}
    (found : files.find path = .ok node) : files.has path = true := by
  rw [Files.has, found]
  rfl

theorem read_of_find {files : Files} {path text : String}
    (found : files.find path = .ok (.file (.text text))) :
    files.read path = match files.refusal (.read path) with
      | some cause => .error cause
      | none => .ok text := by
  simp only [Files.read, Files.content, Files.permitted, found, bind, Except.bind]
  cases files.refusal (.read path) <;> rfl

end Store

end EventScript
