import Mathlib.Data.List.Perm.Basic
import EventScript.Proofs.Engine.Request
import EventScript.Proofs.Script

/-!
The two indices of an engine, told from the programs of its scripts. Whatever was loaded, failed to
load or was shut down before, the indices list what the scripts that are loaded now define, and the
order in which the tables hold their entries plays no part in it.
-/

namespace EventScript

namespace Script

def HasAlias (command : Command) (name : String) : Prop := name ∈ command.aliases.map Text.lower

instance (command : Command) (name : String) : Decidable (HasAlias command name) :=
  inferInstanceAs (Decidable (name ∈ command.aliases.map Text.lower))

def Declares (script : Script) (name : String) : Prop :=
  ∃ command, Survives script.program command ∧
    (name = Text.lower command.name ∨ HasAlias command name)

/-- The command of a script that a name stands for: the one of that name, or else the one on the
greatest line among those with that alias. -/
def Picks (script : Script) (name : String) (command : Command) : Prop :=
  Survives script.program command ∧
    (name = Text.lower command.name ∨
      (∀ other, Survives script.program other → name ≠ Text.lower other.name) ∧
      HasAlias command name ∧
      ∀ other, Survives script.program other → HasAlias other name → other.line ≤ command.line)

/-- The tables of a script may hold their entries in another order. -/
structure Rearranged (script other : Script) : Prop where
  name : other.name = script.name
  program : other.program = script.program
  handlers : other.handlers.entries.Perm script.handlers.entries
  commands : other.commands.entries.Perm script.commands.entries
  functions : other.functions.entries.Perm script.functions.entries

theorem Rearranged.tabled {script other : Script} (rearranged : Rearranged script other)
    (tabled : script.Tabled) : other.Tabled where
  handlers event := by
    rw [handlersOf, Dictionary.get?_perm rearranged.handlers, rearranged.program]
    exact tabled.handlers event
  commands name command := by
    rw [Dictionary.get?_perm rearranged.commands, rearranged.program]
    exact tabled.commands name command
  linesApart := rearranged.program ▸ tabled.linesApart

theorem Tabled.eq_of_name {script : Script} (tabled : script.Tabled) {first second : Command}
    (one : Survives script.program first) (two : Survives script.program second)
    (same : Text.lower first.name = Text.lower second.name) : first = second := by
  have found := (tabled.commands _ first).mpr ⟨rfl, one⟩
  rw [(tabled.commands _ second).mpr ⟨same, two⟩] at found
  exact (Option.some.inj found).symm

theorem Tabled.eq_of_line {script : Script} (tabled : script.Tabled) {first second : Command}
    (one : Survives script.program first) (two : Survives script.program second)
    (firstAliased : first.aliases ≠ []) (secondAliased : second.aliases ≠ [])
    (same : first.line = second.line) : first = second := by
  obtain ⟨earlier, later, split, _⟩ := one
  obtain ⟨before, after, other, _⟩ := two
  have member : .command second ∈ earlier ++ .command first :: later := by
    rw [← split, other]
    simp
  have apart := tabled.linesApart
  rw [split, List.pairwise_append, List.pairwise_cons] at apart
  rcases List.mem_append.mp member with member | member
  · have below : second.line < first.line :=
      apart.2.2 _ member _ List.mem_cons_self secondAliased
    omega
  · rcases List.mem_cons.mp member with same | member
    · exact (Item.command.inj same).symm
    · have below : first.line < second.line := apart.2.1.1 _ member firstAliased
      omega

theorem HasAlias.aliased {command : Command} {name : String} (has : HasAlias command name) :
    command.aliases ≠ [] := by
  intro none
  simp [HasAlias, none] at has

theorem Picks.unique {script : Script} (tabled : script.Tabled) {name : String}
    {first second : Command} (one : script.Picks name first) (two : script.Picks name second) :
    first = second := by
  obtain ⟨survives, one⟩ := one
  obtain ⟨survivesToo, two⟩ := two
  rcases one with named | ⟨unnamed, has, greatest⟩
  · rcases two with namedToo | ⟨unnamed, _⟩
    · exact tabled.eq_of_name survives survivesToo (named.symm.trans namedToo)
    · exact absurd named (unnamed _ survives)
  · rcases two with namedToo | ⟨_, hasToo, greatestToo⟩
    · exact absurd namedToo (unnamed _ survivesToo)
    · have below := greatest _ survivesToo hasToo
      have above := greatestToo _ survives has
      exact tabled.eq_of_line survives survivesToo has.aliased hasToo.aliased (by omega)

end Script

def Listener.view (listener : Listener) : String × Program × Block :=
  (listener.script.name, listener.script.program, listener.body)

def CommandEntry.view (entry : CommandEntry) : String × Program × Command :=
  (entry.script.name, entry.script.program, entry.command)

namespace Engine

open EventScript.Script (HasAlias Survives handlerFor)

section Commands

theorem mem_commandsOf {script : Script} (tabled : script.Tabled) {command : Command} :
    command ∈ commandsOf script ↔ Survives script.program command := by
  simp only [commandsOf, List.mem_mergeSort, List.mem_map, Prod.exists]
  constructor
  · rintro ⟨name, found, member, rfl⟩
    exact ((tabled.commands name found).mp
      (Dictionary.get?_eq_some_iff.mpr member)).2
  · intro survives
    exact ⟨_, command, Dictionary.mem_of_get? ((tabled.commands _ command).mpr ⟨rfl, survives⟩),
      rfl⟩

theorem commandsOf_sorted (script : Script) :
    (commandsOf script).Pairwise fun first second => first.line ≤ second.line := by
  have transitive : ∀ first second third : Command, decide (first.line ≤ second.line) = true →
      decide (second.line ≤ third.line) = true → decide (first.line ≤ third.line) = true := by
    simp only [decide_eq_true_eq]
    omega
  have total : ∀ first second : Command,
      (decide (first.line ≤ second.line) || decide (second.line ≤ first.line)) = true := by
    simp only [Bool.or_eq_true, decide_eq_true_eq]
    omega
  have sorted := List.pairwise_mergeSort transitive total (script.commands.entries.map (·.2))
  exact sorted.imp of_decide_eq_true

def answer? (script : Script) (name : String) : Option Command :=
  ((commandsOf script).reverse.find? fun command => name = Text.lower command.name).or
    ((commandsOf script).reverse.find? fun command => HasAlias command name)

theorem get?_indexAliases (entry : CommandEntry) (names : List String)
    (index : Dictionary CommandEntry) (name : String) :
    (names.foldl (fun index other => index.put (Text.lower other) entry) index).get? name =
      if name ∈ names.map Text.lower then some entry else index.get? name := by
  induction names generalizing index with
  | nil => simp
  | cons first rest ih =>
      rw [List.foldl_cons, ih, Dictionary.get?_put, List.map_cons]
      by_cases same : name = Text.lower first
      · rw [if_pos same, if_pos (List.mem_cons.mpr (.inl same)), ite_self]
      · simp only [List.mem_cons, same, false_or, if_false]

theorem get?_indexCommands (index : Dictionary CommandEntry) (script : Script) (name : String) :
    (indexCommands index script).get? name =
      ((answer? script name).map (⟨script, ·⟩)).or (index.get? name) := by
  let look := fun index : Dictionary CommandEntry => index.get? name
  have aliases := Dictionary.lookup_foldl_if look
    (fun index command => get?_indexAliases ⟨script, command⟩ command.aliases index name)
    (commandsOf script) index
  have names := Dictionary.lookup_foldl_if look
    (fun index command => Dictionary.get?_put index (Text.lower command.name) name
      (⟨script, command⟩ : CommandEntry)) (commandsOf script)
  simp only [indexCommands, List.foldl_append, List.foldl_flatMap, List.foldl_map]
  refine (names _).trans ?_
  rw [aliases, ← Option.or_assoc, ← Option.map_or]
  rfl

theorem answer?_picks {script : Script} (tabled : script.Tabled) {name : String}
    {command : Command} (found : answer? script name = some command) :
    script.Picks name command := by
  have survivors : ∀ {other}, Survives script.program other → other ∈ (commandsOf script).reverse :=
    fun survives => List.mem_reverse.mpr ((mem_commandsOf tabled).mpr survives)
  have surviving : ∀ {other}, other ∈ (commandsOf script).reverse → Survives script.program other :=
    fun member => (mem_commandsOf tabled).mp (List.mem_reverse.mp member)
  -- A name of its own is looked for first. Among the aliases the search goes from the last line
  -- upwards, so whatever comes later in it stands above.
  rcases Option.or_eq_some_iff.mp found with named | ⟨unnamed, aliased⟩
  · have same := List.find?_some named
    exact ⟨surviving (List.mem_of_find?_eq_some named), .inl (of_decide_eq_true same)⟩
  · obtain ⟨has, later, earlier, split, none⟩ := List.find?_eq_some_iff_append.mp aliased
    refine ⟨surviving (List.mem_of_find?_eq_some aliased), .inr ⟨fun other survives same => ?_,
      of_decide_eq_true has, fun other survives hasToo => ?_⟩⟩
    · exact List.find?_eq_none.mp unnamed other (survivors survives) (decide_eq_true same)
    · have sorted := List.pairwise_reverse.mpr (commandsOf_sorted script)
      rw [split, List.pairwise_append, List.pairwise_cons] at sorted
      have member := survivors survives
      rw [split] at member
      rcases List.mem_append.mp member with member | member
      · have lacks := none other member
        simp [hasToo] at lacks
      · rcases List.mem_cons.mp member with rfl | member
        · exact Nat.le_refl _
        · exact sorted.2.1.1 other member

theorem answer?_eq_none_iff {script : Script} (tabled : script.Tabled) {name : String} :
    answer? script name = none ↔ ¬script.Declares name := by
  simp only [answer?, Option.or_eq_none_iff, List.find?_eq_none, List.mem_reverse,
    mem_commandsOf tabled, decide_eq_true_eq, Script.Declares, not_exists, not_and, not_or]
  exact ⟨fun none command survives => ⟨none.1 command survives, none.2 command survives⟩,
    fun none => ⟨fun command survives => (none command survives).1,
      fun command survives => (none command survives).2⟩⟩

theorem answer?_eq_some_iff {script : Script} (tabled : script.Tabled) {name : String}
    {command : Command} : answer? script name = some command ↔ script.Picks name command := by
  refine ⟨answer?_picks tabled, fun picks => ?_⟩
  cases found : answer? script name with
  | none =>
      refine absurd ?_ ((answer?_eq_none_iff tabled).mp found)
      exact ⟨command, picks.1, picks.2.imp_right fun ⟨_, has, _⟩ => has⟩
  | some other => rw [(answer?_picks tabled found).unique tabled picks]

/-- What a name stands for among scripts in order: it belongs to the last script that declares
it. -/
def Serves (scripts : List Script) (name : String) (entry : CommandEntry) : Prop :=
  ∃ earlier later, scripts = earlier ++ entry.script :: later ∧
    (∀ script ∈ later, ¬script.Declares name) ∧ entry.script.Picks name entry.command

theorem get?_foldl_indexCommands (scripts : List Script) (name : String) :
    (scripts.foldl indexCommands {}).get? name =
      scripts.reverse.findSome? fun script => (answer? script name).map (⟨script, ·⟩) := by
  rw [Dictionary.lookup_foldl (fun index : Dictionary CommandEntry => index.get? name)
    fun index script => get?_indexCommands index script name]
  simp

theorem serves_iff {scripts : List Script} (tabled : ∀ script ∈ scripts, script.Tabled)
    (name : String) (entry : CommandEntry) :
    (scripts.foldl indexCommands {}).get? name = some entry ↔ Serves scripts name entry := by
  rw [get?_foldl_indexCommands, List.findSome?_eq_some_iff]
  constructor
  · rintro ⟨later, script, earlier, split, found, none⟩
    obtain ⟨command, answer, rfl⟩ := Option.map_eq_some_iff.mp found
    have whole : scripts = earlier.reverse ++ script :: later.reverse := by
      rw [← scripts.reverse_reverse, split]
      simp
    refine ⟨earlier.reverse, later.reverse, whole, fun other member => ?_, ?_⟩
    · have silent := Option.map_eq_none_iff.mp (none other (List.mem_reverse.mp member))
      exact (answer?_eq_none_iff (tabled other (by simp [whole, List.mem_reverse.mp member]))).mp
        silent
    · exact answer?_picks (tabled script (by simp [whole])) answer
  · rintro ⟨earlier, later, rfl, silent, picks⟩
    refine ⟨later.reverse, entry.script, earlier.reverse, by simp, ?_, fun other member => ?_⟩
    · rw [(answer?_eq_some_iff (tabled _ (by simp))).mpr picks]
      rfl
    · have member := List.mem_reverse.mp member
      rw [(answer?_eq_none_iff (tabled other (by simp [member]))).mpr (silent other member)]
      rfl

end Commands

section Listeners

/-- The handlers of an event that scripts in order define, each script's in the order of its
source. -/
def definedListeners (scripts : List Script) (event : String) : List Listener :=
  scripts.flatMap fun script =>
    (script.program.filterMap (handlerFor event)).map fun handler => ⟨script, handler.body⟩

theorem indexListeners_entries (script : Script) {entries : List (String × List EventHandler)}
    (distinct : (entries.map (·.1)).Nodup) (index : Dictionary (List Listener)) (event : String) :
    ((entries.foldl (fun index entry =>
      let earlier := (index.get? entry.1).getD []
      index.put entry.1 (earlier ++ entry.2.map fun handler => ⟨script, handler.body⟩))
      index).get? event).getD [] =
      (index.get? event).getD [] ++
        ((entries.lookup event).getD []).map fun handler => ⟨script, handler.body⟩ := by
  induction entries generalizing index with
  | nil => simp
  | cons entry rest ih =>
      rw [List.map_cons, List.nodup_cons] at distinct
      rw [List.foldl_cons, ih distinct.2, Dictionary.lookup_entry, Dictionary.get?_put]
      by_cases same : event = entry.1
      · subst same
        have absent : rest.lookup entry.1 = none := by
          rw [List.lookup_eq_none_iff]
          rintro ⟨key, handlers⟩ member
          have other : key ≠ entry.1 := fun equal =>
            distinct.1 (equal ▸ List.mem_map.mpr ⟨_, member, rfl⟩)
          simpa using Ne.symm other
        simp [absent]
      · simp [same]

theorem get?_indexListeners {script : Script} (tabled : script.Tabled)
    (index : Dictionary (List Listener)) (event : String) :
    ((indexListeners index script).get? event).getD [] =
      (index.get? event).getD [] ++ definedListeners [script] event := by
  have handlers := tabled.handlers event
  rw [Script.handlersOf] at handlers
  simp only [definedListeners, List.flatMap_cons, List.flatMap_nil, List.append_nil, ← handlers]
  exact indexListeners_entries script script.handlers.distinct index event

theorem get?_foldl_indexListeners {scripts : List Script}
    (tabled : ∀ script ∈ scripts, script.Tabled) (index : Dictionary (List Listener))
    (event : String) :
    ((scripts.foldl indexListeners index).get? event).getD [] =
      (index.get? event).getD [] ++ definedListeners scripts event := by
  induction scripts generalizing index with
  | nil => simp [definedListeners]
  | cons script rest ih =>
      rw [List.foldl_cons, ih fun other member => tabled other (List.mem_cons_of_mem _ member),
        get?_indexListeners (tabled script List.mem_cons_self)]
      simp [definedListeners]

end Listeners

section Order

variable {σ : Type}

theorem Compiled.named {scripts : Dictionary Script} (compiled : Compiled scripts)
    {entry : String × Script} (member : entry ∈ scripts.sorted) :
    entry.2.name = entry.1 ∧ entry.2.Tabled := by
  obtain ⟨source, reads⟩ := compiled.fromSource entry (List.mem_mergeSort.mp member)
  exact Script.compile_tabled reads

theorem Compiled.tabled {engine : Engine σ} (compiled : Compiled engine.scripts) :
    ∀ script ∈ engine.orderedScripts, script.Tabled := by
  intro script member
  obtain ⟨entry, found, rfl⟩ := List.mem_map.mp member
  exact (compiled.named found).2

theorem Compiled.ascending {engine : Engine σ} (compiled : Compiled engine.scripts) :
    engine.orderedScripts.Pairwise fun first second => first.name < second.name := by
  refine List.pairwise_map.mpr (engine.scripts.sorted_ascending.imp_of_mem ?_)
  intro first second firstMember secondMember less
  rwa [(compiled.named firstMember).1, (compiled.named secondMember).1]

abbrev SameScripts : List (String × Script) → List (String × Script) → Prop :=
  List.Forall₂ fun entry other => other.1 = entry.1 ∧ entry.2.Rearranged other.2

/-- The same scripts, in another order and with their tables in another order. -/
def Rearranged (scripts others : Dictionary Script) : Prop :=
  ∃ entries, SameScripts scripts.entries entries ∧ entries.Perm others.entries

theorem SameScripts.keys {entries others : List (String × Script)}
    (same : SameScripts entries others) : others.map (·.1) = entries.map (·.1) := by
  induction same with
  | nil => rfl
  | cons first _ ih => rw [List.map_cons, List.map_cons, first.1, ih]

theorem SameScripts.ordered {entries others : List (String × Script)}
    (same : SameScripts entries others) :
    List.Forall₂ Script.Rearranged (entries.map (·.2)) (others.map (·.2)) := by
  induction same with
  | nil => exact .nil
  | cons first _ ih => exact .cons first.2 ih

theorem Rearranged.sorted {scripts others : Dictionary Script}
    (rearranged : Rearranged scripts others) : SameScripts scripts.sorted others.sorted := by
  obtain ⟨entries, same, perm⟩ := rearranged
  obtain ⟨row, sameRow, rowPerm⟩ := List.perm_comp_forall₂ scripts.sorted_perm same
  have rowAscending : row.Pairwise fun left right => left.1 < right.1 := by
    have keys := List.pairwise_map.mpr scripts.sorted_ascending
    rw [← SameScripts.keys sameRow] at keys
    exact List.pairwise_map.mp keys
  have whole : row = others.sorted := by
    refine List.Perm.eq_of_pairwise ?_ rowAscending others.sorted_ascending
      ((rowPerm.trans perm).trans others.sorted_perm.symm)
    intro left right _ _ less greater
    exact absurd (Std.lt_trans less greater) Std.lt_irrefl
  exact whole ▸ sameRow

theorem Rearranged.ordered {engine : Engine σ} {others : Dictionary Script}
    (rearranged : Rearranged engine.scripts others) :
    List.Forall₂ Script.Rearranged engine.orderedScripts
      { engine with scripts := others }.orderedScripts :=
  rearranged.sorted.ordered

end Order

section Rearrangement

theorem definedListeners_rearranged {scripts others : List Script}
    (rearranged : List.Forall₂ Script.Rearranged scripts others) (event : String) :
    (definedListeners others event).map Listener.view =
      (definedListeners scripts event).map Listener.view := by
  induction rearranged with
  | nil => rfl
  | @cons script other scripts others first _ ih =>
      simp only [definedListeners, List.flatMap_cons, List.map_append, List.map_map] at ih ⊢
      rw [ih, first.program]
      congr 1
      refine List.map_congr_left fun handler _ => ?_
      simp only [Function.comp, Listener.view, first.name, first.program]

theorem answer?_rearranged {script other : Script} (tabled : script.Tabled)
    (rearranged : script.Rearranged other) (name : String) :
    answer? other name = answer? script name := by
  ext command
  rw [answer?_eq_some_iff (rearranged.tabled tabled), answer?_eq_some_iff tabled, Script.Picks,
    Script.Picks, rearranged.program]

theorem findSome?_answer?_rearranged {scripts others : List Script}
    (rearranged : List.Forall₂ Script.Rearranged scripts others)
    (tabled : ∀ script ∈ scripts, script.Tabled) (name : String) :
    (others.findSome? fun script =>
        (answer? script name).map (CommandEntry.mk script)).map CommandEntry.view =
      (scripts.findSome? fun script =>
        (answer? script name).map (CommandEntry.mk script)).map CommandEntry.view := by
  induction rearranged with
  | nil => rfl
  | @cons script other scripts others first _ ih =>
      have rest := ih fun script member => tabled script (List.mem_cons_of_mem _ member)
      rw [List.findSome?_cons, List.findSome?_cons,
        answer?_rearranged (tabled script List.mem_cons_self) first]
      cases answer? script name with
      | none => exact rest
      | some command =>
          simp only [Option.map_some, CommandEntry.view, first.name, first.program]

theorem indexCommands_rearranged {scripts others : List Script}
    (rearranged : List.Forall₂ Script.Rearranged scripts others)
    (tabled : ∀ script ∈ scripts, script.Tabled) (name : String) :
    ((others.foldl indexCommands {}).get? name).map CommandEntry.view =
      ((scripts.foldl indexCommands {}).get? name).map CommandEntry.view := by
  rw [get?_foldl_indexCommands, get?_foldl_indexCommands]
  refine findSome?_answer?_rearranged (List.forall₂_reverse_iff.mpr rearranged) ?_ name
  exact fun script member => tabled script (List.mem_reverse.mp member)

theorem indexListeners_rearranged {scripts others : List Script}
    (rearranged : List.Forall₂ Script.Rearranged scripts others)
    (tabled : ∀ script ∈ scripts, script.Tabled) (event : String) :
    (((others.foldl indexListeners {}).get? event).getD []).map Listener.view =
      (((scripts.foldl indexListeners {}).get? event).getD []).map Listener.view := by
  have tabledToo : ∀ other ∈ others, other.Tabled := by
    clear event
    induction rearranged with
    | nil => exact fun _ member => absurd member List.not_mem_nil
    | @cons script other scripts others first _ ih =>
        intro third member
        rcases List.mem_cons.mp member with rfl | member
        · exact first.tabled (tabled script List.mem_cons_self)
        · exact ih (fun script member => tabled script (List.mem_cons_of_mem _ member)) third member
  rw [get?_foldl_indexListeners tabledToo, get?_foldl_indexListeners tabled]
  exact definedListeners_rearranged rearranged event

end Rearrangement

section Loading

variable {σ : Type}

structure SameIndices (before after : Engine σ) : Prop where
  scripts : after.scripts = before.scripts
  listeners : after.listeners = before.listeners
  commands : after.commands = before.commands

theorem SameLoaded.sameIndices {before after : Engine σ} (same : SameLoaded before after) :
    SameIndices before after := ⟨same.scripts, same.listeners, same.commands⟩

theorem Indexed.rebuild {before after : Engine σ} (indexed : Indexed before)
    (same : SameLoaded before after) : SameIndices before after.rebuild := by
  have indexedToo := same.indexed indexed
  exact ⟨same.scripts, indexedToo.listeners.symm.trans same.listeners,
    indexedToo.commands.symm.trans same.commands⟩

theorem Indexed.rebuild_kept {engine after : Engine σ} (indexed : Indexed engine)
    (kept : after = engine) (result : LoadResult) :
    SameIndices engine (after.warnUnlessOk result).rebuild := by
  subst kept
  exact indexed.rebuild (warnUnlessOk_sameLoaded after result)

theorem install_failed {engine : Engine σ} {name source : String}
    (failed : (engine.install name source).1.isOk = false) :
    (engine.install name source).2 = engine := by
  unfold install at failed ⊢
  split
  · rfl
  · rename_i compiled
    simp only [compiled] at failed
    cases failed

theorem installFile_failed {engine : Engine σ} {files : Files} {path : String}
    (failed : (engine.installFile files path).1.isOk = false) :
    (engine.installFile files path).2 = engine := by
  unfold installFile at failed ⊢
  split
  · rfl
  · rfl
  · rename_i source found
    simp only [found] at failed
    exact install_failed failed

theorem loadSource_failed {engine : Engine σ} (indexed : Indexed engine) {name source : String}
    (failed : (engine.loadSource name source).1.isOk = false) :
    SameIndices engine (engine.loadSource name source).2 := by
  have kept : (engine.install name source).2 = engine := install_failed failed
  exact indexed.rebuild_kept kept _

theorem loadSingle_failed {engine : Engine σ} (indexed : Indexed engine) {files : Files}
    {folder name : String} (failed : (engine.loadSingle files folder name).1.isOk = false) :
    SameIndices engine (engine.loadSingle files folder name).2 := by
  simp only [loadSingle] at failed ⊢
  generalize Path.join folder (engine.fileName name) = path at failed ⊢
  split
  · rename_i found
    rw [if_pos found] at failed
    have kept : (engine.installFile files path).2 = engine := installFile_failed failed
    exact indexed.rebuild_kept kept _
  · exact (SameLoaded.refl engine).sameIndices

structure WellLoaded (engine : Engine σ) : Prop where
  compiled : Compiled engine.scripts
  indexed : Indexed engine

theorem wellLoaded_empty {engine : Engine σ} (scripts : engine.scripts = {})
    (listeners : engine.listeners = {}) (commands : engine.commands = {}) : engine.WellLoaded := by
  have none : engine.orderedScripts = [] := by
    simp [orderedScripts, scripts, Dictionary.sorted]
  constructor
  · rw [scripts]
    exact compiled_empty
  · constructor
    · rw [listeners, none, List.foldl_nil]
    · rw [commands, none, List.foldl_nil]

theorem WellLoaded.serve {engine : Engine σ} (well : engine.WellLoaded) (request : Request) :
    (engine.serve request).WellLoaded := by
  rcases serve_cases engine request with ⟨_, shut⟩ | ⟨_, reloaded⟩ | ⟨_, _, same⟩
  · exact wellLoaded_empty shut.scripts shut.listeners shut.commands
  · exact ⟨reloaded.scripts well.compiled, reloaded.indexed⟩
  · exact ⟨same.scripts ▸ well.compiled, same.indexed well.indexed⟩

theorem WellLoaded.serveAll {engine : Engine σ} (well : engine.WellLoaded)
    (requests : List Request) : (engine.serveAll requests).WellLoaded := by
  induction requests generalizing engine with
  | nil => exact well
  | cons request rest ih => exact ih (well.serve request)

/-- The indices are the ones that the loaded scripts define, after any requests to an engine that
began with nothing loaded: in whatever order the tables hold their entries, and also after loads
that failed. -/
theorem indices_follow_scripts (world : World σ) (store : Store) (effects : Effects σ)
    (limits : Limits) (extension : String) (pool : FramePool) (scheduler : Scheduler)
    (requests : List Request) :
    let engine : Engine σ := Engine.serveAll
      { world, store, effects, limits, extension, pool, scheduler } requests
    (engine.orderedScripts.Perm (engine.scripts.entries.map (·.2)) ∧
      engine.orderedScripts.Pairwise fun first second => first.name < second.name) ∧
    (∀ event, (engine.listeners.get? event).getD [] =
      definedListeners engine.orderedScripts event) ∧
    (∀ name entry, engine.commands.get? name = some entry ↔
      Serves engine.orderedScripts name entry) ∧
    (∀ others, Rearranged engine.scripts others →
      let other := { engine with scripts := others }.rebuild
      (∀ event, ((other.listeners.get? event).getD []).map Listener.view =
        ((engine.listeners.get? event).getD []).map Listener.view) ∧
      ∀ name, (other.commands.get? name).map CommandEntry.view =
        (engine.commands.get? name).map CommandEntry.view) ∧
    (∀ name source, (engine.loadSource name source).1.isOk = false →
      SameIndices engine (engine.loadSource name source).2) ∧
    (∀ files folder name, (engine.loadSingle files folder name).1.isOk = false →
      SameIndices engine (engine.loadSingle files folder name).2) ∧
    (∀ files folder, (files.list folder).isOk = false →
      SameIndices engine (engine.loadAll files folder).2) := by
  intro engine
  have well : engine.WellLoaded := WellLoaded.serveAll (wellLoaded_empty rfl rfl rfl) requests
  have tabled := well.compiled.tabled
  refine ⟨⟨engine.scripts.sorted_perm.map _, well.compiled.ascending⟩, fun event => ?_,
    fun name entry => ?_, fun others rearranged => ⟨fun event => ?_, fun name => ?_⟩,
    fun name source failed => loadSource_failed well.indexed failed,
    fun files folder name failed => loadSingle_failed well.indexed failed,
    fun files folder refused => ?_⟩
  · rw [well.indexed.listeners, get?_foldl_indexListeners tabled]
    rfl
  · rw [well.indexed.commands, serves_iff tabled]
  · rw [well.indexed.listeners]
    exact indexListeners_rearranged rearranged.ordered tabled event
  · rw [well.indexed.commands]
    exact indexCommands_rearranged rearranged.ordered tabled name
  · cases listed : files.list folder with
    | ok names => rw [listed] at refused; cases refused
    | error cause => exact (loadAll_unreadable engine listed).sameIndices

end Loading

end Engine

end EventScript
