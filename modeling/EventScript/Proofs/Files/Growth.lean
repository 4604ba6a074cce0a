import Mathlib
import EventScript.Proofs.Files
import EventScript.Proofs.Files.Path

/-!
How making folders and writing a draft leave what paths lead to. Folders are only made where nothing
was, and a draft lies beside the file that it is a draft of, so that a path which led somewhere
leads there still. What may change is a path that goes up out of a folder: once the folder is made,
it leads to what stands there.
-/

namespace EventScript.Files

def walk (here : Location) (segments : List String) : Location := segments.foldl step here

section Walking

theorem step_dot (here : Location) : step here "." = here := if_pos rfl

theorem step_name {here : Location} {segment : String} (notDot : segment ≠ ".")
    (notUp : segment ≠ "..") : step here segment = here ++ [segment] := by
  simp [step, notDot, notUp]

theorem step_up (here : Location) :
    step here ".." = here.dropLast ∨ step here ".." = here ++ [".."] := by
  simp only [step]
  rw [if_neg (by decide)]
  split
  · exact .inl rfl
  · exact .inr rfl

theorem follow_eq_walk {files : Files} {here location : Location} {segments : List String}
    (follows : files.follow here segments = .ok location) : location = walk here segments := by
  induction segments generalizing here with
  | nil => exact (Except.ok.inj follows).symm
  | cons segment rest ih =>
      rw [follow] at follows
      split at follows
      · exact ih follows
      · cases follows
      · cases follows

theorem walk_filter (here : Location) (segments : List String) :
    walk here (segments.filter (· != ".")) = walk here segments := by
  induction segments generalizing here with
  | nil => rfl
  | cons segment rest ih =>
      by_cases dot : segment = "."
      · subst dot
        exact (ih here).trans (congrArg (walk · rest) (step_dot here).symm)
      · rw [List.filter_cons_of_pos (by simpa using dot)]
        exact ih _

theorem walk_straight {here : Location} {segments : List String} (straight : ".." ∉ segments) :
    walk here segments = here ++ segments.filter (· != ".") := by
  induction segments generalizing here with
  | nil => simp [walk]
  | cons segment rest ih =>
      rw [List.mem_cons, not_or] at straight
      by_cases dot : segment = "."
      · subst dot
        exact (congrArg (walk · rest) (step_dot here)).trans (ih straight.2)
      · rw [List.filter_cons_of_pos (by simpa using dot)]
        refine (congrArg (walk · rest) (step_name dot (Ne.symm straight.1))).trans ?_
        rw [ih straight.2, List.append_assoc, List.singleton_append]

theorem locate_ok {files : Files} {path : String} {location : Location}
    (located : files.locate path = .ok location) :
    files.follow [] (Path.segments path) = .ok location := by
  unfold locate at located
  split at located
  · cases located
  · exact located

theorem locate_eq_walk {files : Files} {path : String} {location : Location}
    (located : files.locate path = .ok location) : location = walk [] (Path.steps path) := by
  rw [follow_eq_walk (locate_ok located), ← walk_filter, ← Path.steps_filter, walk_filter]

end Walking

section Folders

variable {files : Files}

theorem node?_base {location : Location} (base : IsBase location) :
    files.node? location = some .folder := if_pos base

def Inside (files : Files) (location : Location) : Prop :=
  ∀ outer, outer <+: location → outer ≠ location → files.node? outer = some .folder

theorem inside_nil (files : Files) : files.Inside [] := by
  intro outer within apart
  exact absurd (List.prefix_nil.mp within) apart

theorem Inside.dropLast {here : Location} (inside : files.Inside here) :
    files.Inside here.dropLast := by
  intro outer within apart
  refine inside outer (within.trans (List.dropLast_prefix here)) ?_
  rintro rfl
  refine apart (within.eq_of_length_le ?_)
  rw [List.length_dropLast]
  exact Nat.sub_le _ _

theorem Inside.append {here : Location} (inside : files.Inside here)
    (folder : files.node? here = some .folder) (name : String) : files.Inside (here ++ [name]) := by
  intro outer within apart
  have shorter : outer <+: here := (List.prefix_concat_iff.mp within).resolve_left apart
  by_cases same : outer = here
  · exact same ▸ folder
  · exact inside outer shorter same

theorem Inside.step {here : Location} (inside : files.Inside here)
    (folder : files.node? here = some .folder) (segment : String) :
    files.Inside (step here segment) := by
  unfold Files.step
  split
  · exact inside
  · split
    · exact inside.dropLast
    · exact inside.append folder segment

theorem Inside.up {here : Location} (inside : files.Inside here) :
    files.node? (Files.step here "..") = some .folder := by
  rcases step_up here with outer | up
  · rw [outer]
    by_cases empty : here = []
    · exact empty ▸ node?_base (.inl rfl)
    · refine inside _ (List.dropLast_prefix here) ?_
      intro same
      have shorter := congrArg List.length same
      rw [List.length_dropLast] at shorter
      have some := List.length_pos_of_ne_nil empty
      omega
  · rw [up]
    exact node?_base (.inr (.inr (by simp)))

theorem follow_folder {here location : Location} {segments : List String}
    (follows : files.follow here segments = .ok location) (inside : files.Inside here)
    (upward : ∀ last ∈ (segments.filter (· != ".")).getLast?, last = "..")
    (starts : segments.filter (· != ".") = [] → files.node? here = some .folder) :
    files.node? location = some .folder := by
  -- Along the way it only matters whether something is still to come besides dots; if not, the
  -- location itself has to be a folder.
  induction segments generalizing here with
  | nil => exact Except.ok.inj follows ▸ starts rfl
  | cons segment rest ih =>
      rw [follow] at follows
      split at follows
      · next folder =>
        refine ih follows (inside.step folder segment) ?_ ?_
        · intro last member
          refine upward last ?_
          rw [List.filter_cons]
          split
          · rw [List.getLast?_cons, Option.mem_def.mp member]
            rfl
          · exact member
        · intro ends
          by_cases dot : segment = "."
          · rw [dot, step_dot]
            exact folder
          · obtain rfl : segment = ".." := by
              refine upward segment ?_
              rw [List.filter_cons_of_pos (by simpa using dot), ends]
              rfl
            exact inside.up
      · cases follows
      · cases follows

theorem folder_of_unnamed {path : String} {location : Location} (unnamed : Path.name? path = none)
    (located : files.locate path = .ok location) : files.node? location = some .folder := by
  have working : files.node? [] = some .folder := node?_base (.inl rfl)
  have parted := (Path.segments_parted path).sublist (Path.steps_sublist path)
  rcases Path.name?_eq_none unnamed with none | ⟨folder, last, whole, dot | up | root⟩
  · rw [locate_eq_walk located, none]
    exact working
  · have first : folder = [] := Path.steps_last_dot (dot ▸ whole)
    rw [locate_eq_walk located, whole, first, dot]
    exact working
  · refine follow_folder (locate_ok located) (inside_nil files) ?_ fun _ => working
    rw [← Path.steps_filter, whole, up]
    simp
  · rw [whole, root] at parted
    have first : folder = [] := parted.last_root
    rw [locate_eq_walk located, whole, first, root]
    exact node?_base (.inr (.inl rfl))

theorem draft_apart {later : Files} {path name : String} {place location : Location}
    (named : Path.name? path = some name)
    (placed : files.locate (Path.withExtension path "json.tmp") = .ok place)
    (located : later.locate path = .ok location) : location ≠ place := by
  obtain ⟨⟨folder, whole⟩, notDot, notUp, _⟩ := Path.name?_eq_some named
  have long := Path.draftName_long name
  have file : location = walk [] folder ++ [name] := by
    rw [locate_eq_walk located, whole, walk, List.foldl_append]
    exact step_name notDot notUp
  have draft : place = walk [] folder ++ [Path.draftName name] := by
    rw [follow_eq_walk (locate_ok placed), Path.segments_draft named whole, walk,
      List.foldl_append]
    refine step_name ?_ ?_
    · intro short
      rw [short] at long
      exact absurd long (by decide)
    · intro short
      rw [short] at long
      exact absurd long (by decide)
  rw [file, draft]
  intro same
  simp only [List.append_cancel_left_eq, List.cons.injEq, and_true] at same
  exact Path.draftName_ne name same.symm

end Folders

section Growth

/-- Nothing but folders is new, and only where nothing was. -/
def Grown (files after : Files) : Prop :=
  ∀ location, after.node? location = files.node? location ∨
    files.node? location = none ∧ after.node? location = some .folder

theorem Grown.refl (files : Files) : Grown files files := fun _ => .inl rfl

theorem Grown.trans {files middle after : Files} (first : Grown files middle)
    (second : Grown middle after) : Grown files after := by
  intro location
  rcases second location with same | ⟨empty, folder⟩
  · exact same ▸ first location
  · rcases first location with kept | ⟨_, made⟩
    · exact .inr ⟨kept ▸ empty, folder⟩
    · rw [made] at empty
      cases empty

theorem Grown.keepsFolders {files after : Files} (grown : Grown files after) :
    KeepsFolders files after := by
  intro location folder
  rcases grown location with same | ⟨empty, _⟩
  · exact same.trans folder
  · rw [empty] at folder
    cases folder

theorem Grown.file {files after : Files} (grown : Grown files after) {location : Location}
    {content : Content} (there : after.node? location = some (.file content)) :
    files.node? location = some (.file content) := by
  rcases grown location with same | ⟨_, folder⟩
  · exact same.symm.trans there
  · rw [folder] at there
    cases there

theorem grown_place {files : Files} {location : Location} (empty : files.node? location = none) :
    Grown files (files.place location .folder) := by
  have apart : ¬IsBase location := by
    intro base
    rw [node?_base base] at empty
    cases empty
  intro other
  rw [node?_place apart]
  split
  · next same => exact .inr ⟨same ▸ empty, rfl⟩
  · exact .inl rfl

theorem makeFoldersFrom_grown (files : Files) (made : Bool) (here : Location)
    (segments : List String) : Grown files (left (files.makeFoldersFrom made here segments)) := by
  induction segments generalizing files made here with
  | nil => exact .refl files
  | cons segment rest ih =>
      simp only [makeFoldersFrom]
      split
      · exact ih _ _ _
      · exact .refl files
      · next empty => exact (grown_place empty).trans (ih _ _ _)

theorem makeFolders_grown (files : Files) (path : String) :
    Grown files (left (files.makeFolders path)) := by
  unfold makeFolders
  split
  · exact .refl files
  · exact makeFoldersFrom_grown _ _ _ _

end Growth

section Straight

variable {files after : Files}

def InFolders (files : Files) : Prop :=
  ∀ folder name, name ≠ ".." → files.node? (folder ++ [name]) ≠ none →
    files.node? folder = some .folder

theorem InFolders.inside (lies : files.InFolders) {location : Location}
    (straight : ".." ∉ location) (there : files.node? location ≠ none) :
    files.Inside location := by
  induction location using List.reverseRecOn with
  | nil => exact inside_nil files
  | append_singleton folder name ih =>
      simp only [List.mem_append, List.mem_singleton, not_or] at straight
      have outer := lies folder name (Ne.symm straight.2) there
      exact (ih straight.1 (by simp [outer])).append outer name

theorem InFolders.follow_before (lies : files.InFolders) {here location : Location}
    {segments : List String} {content : Content} (straight : ".." ∉ segments)
    (hereStraight : ".." ∉ here) (follows : after.follow here segments = .ok location)
    (there : after.node? location = some (.file content))
    (before : files.node? location ≠ none) : files.follow here segments = .ok location := by
  have target := (follow_eq_walk follows).trans (walk_straight straight)
  have inside : files.Inside location := by
    refine lies.inside ?_ before
    rw [target, List.mem_append, not_or]
    exact ⟨hereStraight, fun member => straight (List.mem_filter.mp member).1⟩
  induction segments generalizing here with
  | nil => exact follows
  | cons segment rest ih =>
      rw [follow] at follows ⊢
      rw [List.mem_cons, not_or] at straight
      split at follows
      · next folder =>
        have apart : here ≠ location := by
          rintro rfl
          rw [folder] at there
          cases there
        rw [inside here (target ▸ List.prefix_append _ _) apart]
        refine ih straight.2 ?_ follows ((follow_eq_walk follows).trans (walk_straight straight.2))
        by_cases dot : segment = "."
        · rwa [dot, step_dot]
        · rw [step_name dot (Ne.symm straight.1)]
          simpa [hereStraight] using straight.1
      · cases follows
      · cases follows

end Straight

end EventScript.Files
