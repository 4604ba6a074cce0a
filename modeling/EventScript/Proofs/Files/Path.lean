import Mathlib
import EventScript.Files.Path
import EventScript.Proofs.Text.Pieces

/-!
How paths are taken apart and put together. A path that is put together from segments has these
segments, and the name that another extension gives is never the name it was made from.
-/

namespace EventScript.Path

theorem cut_eq (chars : List Char) : cut chars = Text.piecesBy (· == '/') chars := by
  induction chars with
  | nil => rfl
  | cons char rest ih =>
      by_cases slash : char = '/'
      · subst slash
        rw [cut, ih, Text.piecesBy_cut (by rfl)]
      · rw [cut, ih, Text.piecesBy, if_neg (by simpa using slash)]
        · cases Text.piecesBy (· == '/') rest <;> rfl
        · exact slash

def Plain (segment : String) : Prop := segment ≠ "" ∧ '/' ∉ segment.toList

structure Parted (segments : List String) : Prop where
  each : ∀ segment ∈ segments, Plain segment ∨ segment = "/"
  later : ∀ segment ∈ segments.tail, Plain segment

section Segments

theorem dotted_plain {segment : String} (whole : '/' ∉ segment.toList) :
    Plain (segments.dotted segment) := by
  unfold segments.dotted
  split
  · exact ⟨by decide, by decide⟩
  · next some =>
    refine ⟨?_, whole⟩
    rintro rfl
    exact some rfl

theorem Parted.of_plain {segments : List String} (plain : ∀ segment ∈ segments, Plain segment) :
    Parted segments :=
  ⟨fun segment member => .inl (plain segment member),
    fun segment member => plain segment (List.mem_of_mem_tail member)⟩

theorem Parted.sublist {fewer segments : List String} (parted : Parted segments)
    (within : fewer.Sublist segments) : Parted fewer :=
  ⟨fun segment member => parted.each segment (within.mem member),
    fun segment member => parted.later segment (within.tail.mem member)⟩

theorem Parted.concat {folder : List String} {last other : String}
    (parted : Parted (folder ++ [last])) (plain : Plain other) : Parted (folder ++ [other]) := by
  have before : Parted folder := parted.sublist (List.sublist_append_left _ _)
  refine ⟨?_, ?_⟩
  · intro segment member
    rcases List.mem_append.mp member with old | new
    · exact before.each segment old
    · exact .inl (List.mem_singleton.mp new ▸ plain)
  · cases folder with
    | nil => exact nofun
    | cons first rest =>
        intro segment member
        rcases List.mem_append.mp member with old | new
        · exact before.later segment old
        · exact List.mem_singleton.mp new ▸ plain

theorem segments_parted (path : String) : Parted (segments path) := by
  have whole : ∀ segment ∈ (cut path.toList).map String.ofList, '/' ∉ segment.toList := by
    intro segment member slash
    obtain ⟨piece, found, rfl⟩ := List.mem_map.mp member
    rw [cut_eq] at found
    rw [String.toList_ofList] at slash
    cases Text.piecesBy_plain path.toList piece found '/' slash
  have each : ∀ pieces : List String, (∀ piece ∈ pieces, '/' ∉ piece.toList) →
      ∀ segment ∈ pieces.map segments.dotted, Plain segment := by
    intro pieces wholes segment member
    obtain ⟨piece, found, rfl⟩ := List.mem_map.mp member
    exact dotted_plain (wholes piece found)
  unfold segments
  generalize (cut path.toList).map String.ofList = pieces at whole
  split
  · next rest =>
    have rests := each rest fun segment member => whole segment (List.mem_cons_of_mem _ member)
    split
    · exact .of_plain rests
    · refine ⟨?_, rests⟩
      simpa using fun segment member => .inl (rests _ (List.mem_map_of_mem member))
  · exact .of_plain (each _ whole)

theorem steps_sublist (path : String) : (steps path).Sublist (segments path) := by
  unfold steps
  split
  · exact List.nil_sublist _
  · next first rest parts => exact parts ▸ List.filter_sublist.cons_cons first

theorem dotted_of_plain {segment : String} (plain : Plain segment) :
    segments.dotted segment = segment := by
  unfold segments.dotted
  rw [if_neg]
  intro empty
  exact plain.1 (String.isEmpty_iff.mp empty)

theorem cut_intercalate {pieces : List String} (some : pieces ≠ [])
    (plain : ∀ piece ∈ pieces, Plain piece) :
    (cut ("/".intercalate pieces).toList).map String.ofList = pieces := by
  have whole : ∀ piece ∈ pieces.map String.toList, ∀ char ∈ piece, (char == '/') = false := by
    intro piece member char inside
    obtain ⟨segment, found, rfl⟩ := List.mem_map.mp member
    refine beq_false_of_ne ?_
    rintro rfl
    exact (plain segment found).2 inside
  rw [String.toList_intercalate, cut_eq]
  change (Text.piecesBy _ (['/'].intercalate _)).map _ = _
  rw [Text.piecesBy_intercalate (by rfl) (by simpa using some) whole, List.map_map]
  simp

theorem cut_root (text : String) :
    (cut ("/" ++ text).toList).map String.ofList = "" :: (cut text.toList).map String.ofList := by
  rw [String.toList_append]
  rfl

theorem segments_ofSegments {first : String} {rest : List String} (parted : Parted (first :: rest))
    (below : first = "/" → rest ≠ []) : segments (ofSegments (first :: rest)) = first :: rest := by
  have dots : ∀ pieces : List String, (∀ piece ∈ pieces, Plain piece) →
      pieces.map segments.dotted = pieces := by
    intro pieces plain
    refine (List.map_congr_left fun piece member => ?_).trans (List.map_id pieces)
    exact dotted_of_plain (plain piece member)
  by_cases root : first = "/"
  · subst root
    have joined : ofSegments ("/" :: rest) = "/" ++ "/".intercalate rest := rfl
    rw [joined, segments, cut_root, cut_intercalate (below rfl) parted.later]
    obtain ⟨next, others, rfl⟩ := List.exists_cons_of_ne_nil (below rfl)
    exact congrArg (["/"] ++ ·) (dots _ parted.later)
  · have plain : ∀ segment ∈ first :: rest, Plain segment := by
      rw [List.forall_mem_cons]
      exact ⟨(parted.each first List.mem_cons_self).resolve_right root, parted.later⟩
    have joined : ofSegments (first :: rest) = "/".intercalate (first :: rest) := by
      unfold ofSegments
      split
      · next same => exact absurd (List.cons.inj same).1 root
      · rfl
    rw [joined, segments, cut_intercalate (List.cons_ne_nil _ _) plain]
    split
    · next same => exact absurd (List.cons.inj same).1 (plain first List.mem_cons_self).1
    · exact dots _ plain

theorem steps_filter (path : String) :
    (steps path).filter (· != ".") = (segments path).filter (· != ".") := by
  unfold steps
  split
  · next empty => rw [empty]
  · next first rest parts =>
    rw [parts]
    simp [List.filter_cons, List.filter_filter]

theorem steps_last_dot {path : String} {folder : List String}
    (whole : steps path = folder ++ ["."]) : folder = [] := by
  cases folder with
  | nil => rfl
  | cons first others =>
      unfold steps at whole
      split at whole
      · cases whole
      · have behind := (List.cons.inj whole).2
        have member : "." ∈ others.append ["."] := List.mem_append_right others (by simp)
        rw [← behind] at member
        simp at member

theorem Parted.last_root {folder : List String} (parted : Parted (folder ++ ["/"])) :
    folder = [] := by
  cases folder with
  | nil => rfl
  | cons first others => exact absurd (parted.later "/" (by simp)).2 (by decide)

end Segments

section Names

theorem name?_eq_some {path name : String} (named : name? path = some name) :
    (∃ folder, steps path = folder ++ [name]) ∧ name ≠ "." ∧ name ≠ ".." ∧ name ≠ "/" := by
  unfold name? at named
  split at named
  case h_5 =>
    obtain ⟨folder, whole⟩ := List.getLast?_eq_some_iff.mp named
    refine ⟨⟨folder, whole⟩, ?_, ?_, ?_⟩
    all_goals
      rintro rfl
      contradiction
  all_goals cases named

theorem name?_eq_none {path : String} (unnamed : name? path = none) :
    steps path = [] ∨ ∃ folder last, steps path = folder ++ [last] ∧
      (last = "." ∨ last = ".." ∨ last = "/") := by
  unfold name? at unnamed
  split at unnamed
  case h_1 none => exact .inl (List.getLast?_eq_none_iff.mp none)
  case h_5 => exact .inl (List.getLast?_eq_none_iff.mp unnamed)
  all_goals
    next last =>
      obtain ⟨folder, whole⟩ := List.getLast?_eq_some_iff.mp last
      exact .inr ⟨folder, _, whole, by simp⟩

theorem splitName_stem (name : String) :
    (splitName name).1 = name ∨ ∃ extension : List Char, '.' ∉ extension ∧
      name.toList = (splitName name).1.toList ++ '.' :: extension := by
  unfold splitName
  dsimp only
  split
  · exact .inl rfl
  · next cutting =>
    right
    have ending : '.' ∉ name.toList.reverse.takeWhile (· != '.') := fun member => by
      simpa using List.mem_takeWhile_imp member
    have parts := List.takeWhile_append_dropWhile (p := (· != '.')) (l := name.toList.reverse)
    have stops := List.head?_dropWhile_not (· != '.') name.toList.reverse
    generalize name.toList.reverse.takeWhile (· != '.') = last at *
    cases rest : name.toList.reverse.dropWhile (· != '.') with
    | nil =>
        rw [rest, List.append_nil] at parts
        simp [parts] at cutting
    | cons dot stem =>
        rw [rest] at parts stops
        obtain rfl : dot = '.' := by simpa using stops
        have whole : name.toList = stem.reverse ++ '.' :: last.reverse := by
          rw [← List.reverse_reverse name.toList, ← parts]
          simp
        refine ⟨last.reverse, by simpa using ending, ?_⟩
        have short : name.toList.length - last.reverse.length - 1 = stem.reverse.length := by
          rw [whole]
          simp only [List.length_append, List.length_cons]
          omega
        rw [short, String.toList_ofList]
        nth_rewrite 2 [whole]
        rw [List.take_left, whole]

def draftName (name : String) : String := (splitName name).1 ++ "." ++ "json.tmp"

theorem draftName_toList (name : String) :
    (draftName name).toList = (splitName name).1.toList ++ ".json.tmp".toList := by
  simp [draftName]

theorem draftName_ne (name : String) : draftName name ≠ name := by
  intro same
  have letters := congrArg String.toList same
  rw [draftName_toList] at letters
  rcases splitName_stem name with whole | ⟨extension, undotted, cut⟩
  · rw [whole] at letters
    simp at letters
  · rw [cut] at letters
    have ending := List.append_cancel_left letters
    rw [show ".json.tmp".toList = '.' :: "json.tmp".toList from rfl, List.cons.injEq] at ending
    exact undotted (ending.2 ▸ by decide)

theorem mem_of_mem_stem {name : String} {char : Char} (member : char ∈ (splitName name).1.toList) :
    char ∈ name.toList := by
  rcases splitName_stem name with whole | ⟨extension, _, cut⟩
  · exact whole ▸ member
  · rw [cut]
    exact List.mem_append_left _ member

theorem draftName_plain {name : String} (plain : Plain name) : Plain (draftName name) := by
  constructor
  · intro empty
    have letters := congrArg String.toList empty
    rw [draftName_toList] at letters
    simp at letters
  · rw [draftName_toList, List.mem_append]
    rintro (stem | ending)
    · exact plain.2 (mem_of_mem_stem stem)
    · exact absurd ending (by decide)

theorem draftName_long (name : String) : 9 ≤ (draftName name).toList.length := by
  rw [draftName_toList, List.length_append]
  exact Nat.le_add_left 9 _

theorem segments_draft {path name : String} {folder : List String}
    (named : name? path = some name) (whole : steps path = folder ++ [name]) :
    segments (withExtension path "json.tmp") = folder ++ [draftName name] := by
  obtain ⟨_, notDot, notUp, notRoot⟩ := name?_eq_some named
  have parted := (segments_parted path).sublist (steps_sublist path)
  rw [whole] at parted
  have plain := draftName_plain ((parted.each name (by simp)).resolve_right notRoot)
  have beside := parted.concat plain
  simp only [withExtension, named, whole, List.dropLast_concat]
  change segments (ofSegments (folder ++ [draftName name])) = _
  cases folder with
  | nil =>
      refine segments_ofSegments beside fun root => ?_
      exact absurd (root ▸ plain).2 (by decide)
  | cons first rest => exact segments_ofSegments beside (by simp)

end Names

end EventScript.Path
