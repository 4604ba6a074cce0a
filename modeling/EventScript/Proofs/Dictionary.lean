import EventScript.Dictionary

/-! What a dictionary gives for a key after it was changed. -/

namespace EventScript.Dictionary

variable {α : Type}

@[simp]
theorem get?_empty (key : String) : ({} : Dictionary α).get? key = none := rfl

theorem lookup_entry (entry : String × α) (rest : List (String × α)) (key : String) :
    (entry :: rest).lookup key = if key = entry.1 then some entry.2 else rest.lookup key := by
  rw [List.lookup_cons]
  by_cases same : key = entry.1
  · simp [same]
  · simp [same, beq_false_of_ne same]

theorem lookup_putIn (key other : String) (value : α) (entries : List (String × α)) :
    (putIn key value entries).lookup other =
      if other = key then some value else entries.lookup other := by
  induction entries with
  | nil => rw [putIn, lookup_entry, List.lookup_nil]
  | cons entry rest ih =>
      simp only [putIn, beq_iff_eq]
      split
      · rename_i first
        rw [lookup_entry, lookup_entry, ← first]
        split <;> rfl
      · rename_i first
        rw [lookup_entry, lookup_entry, ih]
        by_cases same : other = key
        · simp [same, first]
        · simp [same]

@[simp]
theorem get?_put (dictionary : Dictionary α) (key other : String) (value : α) :
    (dictionary.put key value).get? other =
      if other = key then some value else dictionary.get? other :=
  lookup_putIn key other value dictionary.entries

@[simp]
theorem entries_put (dictionary : Dictionary α) (key : String) (value : α) :
    (dictionary.put key value).entries = putIn key value dictionary.entries := rfl

theorem get?_putIfAbsent (dictionary : Dictionary α) (key other : String) (value : α) :
    (dictionary.putIfAbsent key value).get? other =
      (dictionary.get? other).or (if other = key then some value else none) := by
  rw [putIfAbsent, contains]
  by_cases same : other = key
  · subst other
    cases found : dictionary.get? key <;> simp [found]
  · split <;> simp [same]

theorem get?_erase (dictionary : Dictionary α) (key other : String) :
    (dictionary.erase key).get? other = if other = key then none else dictionary.get? other := by
  obtain ⟨entries, distinct⟩ := dictionary
  simp only [erase, get?]
  clear distinct
  induction entries with
  | nil => simp
  | cons entry rest ih =>
      rw [List.filter_cons]
      by_cases dropped : key = entry.1
      · subst dropped
        rw [if_neg (by simp), ih, lookup_entry]
        by_cases same : other = entry.1 <;> simp [same]
      · rw [if_pos (by simpa using dropped), lookup_entry, lookup_entry, ih]
        by_cases same : other = key
        · simp [same, dropped]
        · simp [same]

theorem mem_putIn {key : String} {value : α} {entries : List (String × α)} {entry : String × α}
    (member : entry ∈ putIn key value entries) : entry = (key, value) ∨ entry ∈ entries := by
  induction entries with
  | nil => exact .inl (List.mem_singleton.mp member)
  | cons first rest ih =>
      simp only [putIn] at member
      split at member
      · rcases List.mem_cons.mp member with same | later
        · exact .inl same
        · exact .inr (List.mem_cons_of_mem _ later)
      · rcases List.mem_cons.mp member with same | later
        · exact .inr (same ▸ List.mem_cons_self)
        · exact (ih later).imp_right (List.mem_cons_of_mem _)

theorem mem_of_get? {dictionary : Dictionary α} {key : String} {value : α}
    (found : dictionary.get? key = some value) : (key, value) ∈ dictionary.entries := by
  obtain ⟨before, after, split, _⟩ := List.lookup_eq_some_iff.mp found
  simp [split]

theorem contains_iff {dictionary : Dictionary α} {key : String} :
    dictionary.contains key = true ↔ key ∈ dictionary.keys := by
  obtain ⟨entries, distinct⟩ := dictionary
  simp only [contains, get?, keys]
  clear distinct
  induction entries with
  | nil => simp
  | cons entry rest ih =>
      rw [lookup_entry, List.map_cons, List.mem_cons, ← ih]
      by_cases same : key = entry.1 <;> simp [same]

theorem mem_keys_foldl_put (entries : List (String × α)) (before : Dictionary α) (key : String) :
    key ∈ (entries.foldl (fun dictionary entry => dictionary.put entry.1 entry.2) before).keys ↔
      key ∈ before.keys ∨ key ∈ entries.map (·.1) := by
  induction entries generalizing before with
  | nil => simp
  | cons entry rest ih =>
      have first : key ∈ (before.put entry.1 entry.2).keys ↔ key ∈ before.keys ∨ key = entry.1 := by
        simp only [keys, put, keys_putIn]
        split
        · rename_i there
          exact ⟨.inl, fun either => either.elim id fun same => same ▸ there⟩
        · simp
      rw [List.foldl_cons, ih, first, List.map_cons, List.mem_cons, or_assoc]

theorem mem_keys_ofList {entries : List (String × α)} {key : String} :
    key ∈ (ofList entries).keys ↔ key ∈ entries.map (·.1) := by
  rw [ofList, mem_keys_foldl_put]
  simp [keys]

theorem get?_ofList_map {β : Type} (change : α → β) (entries : List (String × α)) (key : String) :
    (ofList (entries.map fun entry => (entry.1, change entry.2))).get? key =
      ((ofList entries).get? key).map change := by
  have general : ∀ (before : Dictionary α) (other : Dictionary β),
      other.get? key = (before.get? key).map change →
      ((entries.map fun entry => (entry.1, change entry.2)).foldl
        (fun dictionary entry => dictionary.put entry.1 entry.2) other).get? key =
      ((entries.foldl (fun dictionary entry => dictionary.put entry.1 entry.2) before).get?
        key).map change := by
    induction entries with
    | nil => exact fun _ _ same => same
    | cons entry rest ih =>
        intro before other same
        refine ih _ _ ?_
        rw [get?_put, get?_put]
        split
        · rfl
        · exact same
  exact general {} {} rfl

theorem putIn_absent {key : String} {entries : List (String × α)} (value : α)
    (absent : key ∉ entries.map (·.1)) : putIn key value entries = entries ++ [(key, value)] := by
  induction entries with
  | nil => rfl
  | cons entry rest ih =>
      rw [List.map_cons, List.mem_cons, not_or] at absent
      rw [putIn, if_neg (by simpa using absent.1), ih absent.2, List.cons_append]

theorem prefix_putIfAbsent (dictionary : Dictionary α) (key : String) (value : α) :
    dictionary.entries <+: (dictionary.putIfAbsent key value).entries := by
  unfold putIfAbsent
  split
  · exact List.prefix_rfl
  · rename_i absent
    rw [entries_put, putIn_absent value fun there => absent (contains_iff.mpr there)]
    exact List.prefix_append _ _

theorem entries_ofList {entries : List (String × α)} (distinct : (entries.map (·.1)).Nodup) :
    (ofList entries).entries = entries := by
  have general : ∀ before : Dictionary α, (before.keys ++ entries.map (·.1)).Nodup →
      (entries.foldl (fun dictionary entry => dictionary.put entry.1 entry.2) before).entries =
        before.entries ++ entries := by
    clear distinct
    induction entries with
    | nil => exact fun before _ => (List.append_nil _).symm
    | cons entry rest ih =>
        intro before nodup
        have absent : entry.1 ∉ before.entries.map (·.1) := fun there =>
          (List.nodup_append.mp nodup).2.2 _ there _ (by simp) rfl
        have put : (before.put entry.1 entry.2).entries = before.entries ++ [entry] :=
          putIn_absent entry.2 absent
        rw [List.foldl_cons, ih, put, List.append_assoc, List.singleton_append]
        rw [keys, put, List.map_append, List.append_assoc]
        exact nodup
  exact (general {} distinct).trans (List.nil_append _)

theorem get?_eq_some_iff {dictionary : Dictionary α} {key : String} {value : α} :
    dictionary.get? key = some value ↔ (key, value) ∈ dictionary.entries := by
  refine ⟨mem_of_get?, fun member => ?_⟩
  obtain ⟨entries, distinct⟩ := dictionary
  simp only [get?] at member ⊢
  induction entries with
  | nil => cases member
  | cons entry rest ih =>
      rw [lookup_entry]
      rw [List.map_cons, List.nodup_cons] at distinct
      rcases List.mem_cons.mp member with rfl | member
      · rw [if_pos rfl]
      · have other : key ≠ entry.1 := by
          rintro rfl
          exact distinct.1 (List.mem_map.mpr ⟨_, member, rfl⟩)
        rw [if_neg other]
        exact ih distinct.2 member

theorem get?_perm {dictionary other : Dictionary α}
    (perm : other.entries.Perm dictionary.entries) (key : String) :
    other.get? key = dictionary.get? key := by
  ext value
  rw [get?_eq_some_iff, get?_eq_some_iff, perm.mem_iff]

theorem sorted_perm (dictionary : Dictionary α) : dictionary.sorted.Perm dictionary.entries :=
  List.mergeSort_perm _ _

theorem sorted_pairwise (dictionary : Dictionary α) :
    dictionary.sorted.Pairwise fun left right => ascending left.1 right.1 = true := by
  have transitive : ∀ first second third : String × α, ascending first.1 second.1 = true →
      ascending second.1 third.1 = true → ascending first.1 third.1 = true := by
    simp only [ascending, Bool.not_eq_true', decide_eq_false_iff_not]
    exact fun _ _ _ => String.le_trans
  have total : ∀ first second : String × α,
      (ascending first.1 second.1 || ascending second.1 first.1) = true := by
    simp only [ascending, Bool.or_eq_true, Bool.not_eq_true', decide_eq_false_iff_not]
    exact fun first second => String.le_total first.1 second.1
  exact List.pairwise_mergeSort transitive total dictionary.entries

theorem nodup_sorted (dictionary : Dictionary α) : (dictionary.sorted.map (·.1)).Nodup :=
  (dictionary.sorted_perm.map _).nodup_iff.mpr dictionary.distinct

theorem lookup_sorted (dictionary : Dictionary α) (key : String) :
    dictionary.sorted.lookup key = dictionary.get? key := by
  have same : get? ⟨dictionary.sorted, dictionary.nodup_sorted⟩ key = dictionary.get? key :=
    get?_perm dictionary.sorted_perm key
  exact same

theorem sorted_ascending (dictionary : Dictionary α) :
    dictionary.sorted.Pairwise fun left right => left.1 < right.1 := by
  have keysSorted : dictionary.sorted.Pairwise fun left right => left.1 ≠ right.1 :=
    List.pairwise_map.mp dictionary.nodup_sorted
  refine (List.Pairwise.and dictionary.sorted_pairwise keysSorted).imp fun {left right} both => ?_
  simp only [ascending, Bool.not_eq_true', decide_eq_false_iff_not] at both
  exact Std.lt_of_le_of_ne both.1 both.2

theorem views_of_map_eq {β γ : Type} {f : α → Option β} {row : List α} {values : List β}
    (each : row.map f = values.map some) {view : α → γ} {image : β → γ}
    (same : ∀ item value, f item = some value → image value = view item) :
    values.map image = row.map view := by
  induction row generalizing values with
  | nil => cases values <;> simp_all
  | cons item row ih =>
      cases values with
      | nil => exact nomatch each
      | cons value values =>
          simp only [List.map_cons, List.cons.injEq] at each
          rw [List.map_cons, List.map_cons, ih each.2, same item value each.1]

section Rows

variable {β : Type} {f : String × α → Option (String × β)}
  (keeps : ∀ entry value, f entry = some value → value.1 = entry.1)

include keeps

theorem keys_of_map_eq {entries : List (String × α)} {values : List (String × β)}
    (each : entries.map f = values.map some) : values.map (·.1) = entries.map (·.1) :=
  views_of_map_eq each keeps

theorem putIn_map_eq {entries : List (String × α)} {values : List (String × β)}
    (each : entries.map f = values.map some) {entry : String × α} {value : String × β}
    (found : f entry = some value) :
    (putIn entry.1 entry.2 entries).map f = (putIn value.1 value.2 values).map some := by
  obtain ⟨key, item⟩ := entry
  obtain ⟨name, image⟩ := value
  obtain rfl : name = key := keeps _ _ found
  induction entries generalizing values with
  | nil =>
      cases values with
      | nil => simp [putIn, found]
      | cons first values => simp at each
  | cons next entries ih =>
      cases values with
      | nil => simp at each
      | cons first values =>
          simp only [List.map_cons, List.cons.injEq] at each
          simp only [putIn, keeps next first each.1]
          split
          · rw [List.map_cons, List.map_cons, found, each.2]
          · rw [List.map_cons, List.map_cons, each.1, ih each.2]

theorem ofList_map_eq {entries : List (String × α)} {values : List (String × β)}
    (each : entries.map f = values.map some) :
    (ofList entries).entries.map f = (ofList values).entries.map some := by
  have general : ∀ (before : Dictionary α) (other : Dictionary β),
      before.entries.map f = other.entries.map some →
      (entries.foldl (fun dictionary entry =>
        dictionary.put entry.1 entry.2) before).entries.map f =
        (values.foldl (fun dictionary entry => dictionary.put entry.1 entry.2) other).entries.map
          some := by
    induction entries generalizing values with
    | nil =>
        cases values with
        | nil => exact fun _ _ same => same
        | cons first values => exact nomatch each
    | cons entry entries ih =>
        cases values with
        | nil => exact nomatch each
        | cons first values =>
            simp only [List.map_cons, List.cons.injEq] at each
            exact fun before other same => ih each.2 _ _ (putIn_map_eq keeps same each.1)
  exact general {} {} rfl

theorem sorted_map_eq {dictionary : Dictionary α} {other : Dictionary β}
    (each : dictionary.entries.map f = other.entries.map some) :
    dictionary.sorted.map f = other.sorted.map some := by
  let key : Option (String × β) → String := fun image => (image.map (·.1)).getD ""
  have sameKey : ∀ entry ∈ dictionary.entries, key (f entry) = entry.1 := by
    intro entry member
    have image : f entry ∈ other.entries.map some := each ▸ List.mem_map_of_mem member
    obtain ⟨value, _, found⟩ := List.mem_map.mp image
    rw [← found]
    exact keeps entry value found.symm
  have first : dictionary.sorted.map f =
      (dictionary.entries.map f).mergeSort fun left right => ascending (key left) (key right) :=
    List.map_mergeSort fun left leftMember right rightMember => by
      rw [sameKey left leftMember, sameKey right rightMember]
  have second : other.sorted.map some =
      (other.entries.map some).mergeSort fun left right => ascending (key left) (key right) :=
    List.map_mergeSort fun _ _ _ _ => rfl
  rw [first, second, each]

end Rows

theorem lookup_foldl {state step value : Type} (look : state → Option value)
    {change : state → step → state} {give : step → Option value}
    (each : ∀ before step, look (change before step) = (give step).or (look before))
    (steps : List step) (before : state) :
    look (steps.foldl change before) = (steps.reverse.findSome? give).or (look before) := by
  induction steps generalizing before with
  | nil => rfl
  | cons first rest ih =>
      rw [List.foldl_cons, ih, each, List.reverse_cons, List.findSome?_append, Option.or_assoc,
        List.findSome?_singleton]

theorem lookup_foldl_if {state step value : Type} (look : state → Option value)
    {change : state → step → state} {hits : step → Prop} [DecidablePred hits]
    {give : step → value} (each : ∀ before step, look (change before step) =
      if hits step then some (give step) else look before)
    (steps : List step) (before : state) :
    look (steps.foldl change before) =
      ((steps.reverse.find? (hits ·)).map give).or (look before) := by
  have overrides : ∀ before step, look (change before step) =
      ((Option.guard (hits ·) step).map give).or (look before) := by
    intro before step
    rw [each]
    by_cases hit : hits step <;> simp [Option.guard, hit]
  rw [lookup_foldl look overrides, ← List.findSome?_guard, List.map_findSome?]
  rfl

end EventScript.Dictionary
