/-
A table of entries with distinct keys, in the order in which they were added.
-/
import Mathlib.Data.List.Nodup

namespace KeyedTable

variable {Entry Key : Type} [DecidableEq Key] {key : Entry → Key}

def Distinct (key : Entry → Key) (entries : List Entry) : Prop := (entries.map key).Nodup

def hasKey (key : Entry → Key) (wanted : Key) (entry : Entry) : Bool := key entry = wanted

def find (key : Entry → Key) (entries : List Entry) (wanted : Key) : Option Entry :=
  entries.find? (hasKey key wanted)

def put (key : Entry → Key) (entries : List Entry) (new : Entry) : List Entry :=
  entries.map fun entry => if key entry = key new then new else entry

def remove (key : Entry → Key) (entries : List Entry) (unwanted : Key) : List Entry :=
  entries.filter fun entry => !hasKey key unwanted entry

theorem hasKey_iff {wanted : Key} {entry : Entry} :
    hasKey key wanted entry = true ↔ key entry = wanted := decide_eq_true_iff

theorem mem_of_find {entries : List Entry} {wanted : Key} {entry : Entry}
    (found : find key entries wanted = some entry) : entry ∈ entries ∧ key entry = wanted :=
  ⟨List.mem_of_find?_eq_some found, hasKey_iff.mp (List.find?_some found)⟩

theorem find_eq_none_iff {entries : List Entry} {wanted : Key} :
    find key entries wanted = none ↔ ∀ entry, entry ∈ entries → key entry ≠ wanted := by
  rw [find, List.find?_eq_none]
  constructor
  · intro absent entry member same
    exact absent entry member (hasKey_iff.mpr same)
  · intro absent entry member same
    exact absent entry member (hasKey_iff.mp same)

theorem distinct_append {entries : List Entry} (distinct : Distinct key entries) {entry : Entry}
    (isNew : find key entries (key entry) = none) : Distinct key (entries ++ [entry]) := by
  unfold Distinct
  rw [List.map_append, List.map_singleton]
  apply List.nodup_append_comm.mp
  rw [List.singleton_append, List.nodup_cons]
  refine ⟨?_, distinct⟩
  intro member
  obtain ⟨other, otherMember, same⟩ := List.mem_map.mp member
  exact find_eq_none_iff.mp isNew other otherMember same

omit [DecidableEq Key] in
theorem split {entries : List Entry} (distinct : Distinct key entries) {entry : Entry}
    (member : entry ∈ entries) :
    ∃ front back, entries = front ++ entry :: back ∧
      (∀ other, other ∈ front → key other ≠ key entry) ∧
      ∀ other, other ∈ back → key other ≠ key entry := by
  obtain ⟨front, back, rfl⟩ := List.append_of_mem member
  unfold Distinct at distinct
  rw [List.map_append, List.map_cons] at distinct
  obtain ⟨_, backDistinct, apart⟩ := List.nodup_append.mp distinct
  refine ⟨front, back, rfl, ?_, ?_⟩
  · intro other otherMember same
    exact apart (key other) (List.mem_map_of_mem otherMember) (key entry) List.mem_cons_self same
  · intro other otherMember same
    apply (List.nodup_cons.mp backDistinct).1
    rw [← same]
    exact List.mem_map_of_mem otherMember

theorem put_split {front back : List Entry} {entry new : Entry} (same : key new = key entry)
    (before : ∀ other, other ∈ front → key other ≠ key entry)
    (behind : ∀ other, other ∈ back → key other ≠ key entry) :
    put key (front ++ entry :: back) new = front ++ new :: back := by
  have others (part : List Entry) (differ : ∀ other, other ∈ part → key other ≠ key entry) :
      (part.map fun other => if key other = key new then new else other) = part := by
    refine (List.map_congr_left fun other otherMember => ?_).trans (List.map_id part)
    rw [same]
    exact if_neg (differ other otherMember)
  rw [put, List.map_append, List.map_cons, if_pos same.symm, others front before,
    others back behind]

theorem remove_split {front back : List Entry} {entry : Entry}
    (before : ∀ other, other ∈ front → key other ≠ key entry)
    (behind : ∀ other, other ∈ back → key other ≠ key entry) :
    remove key (front ++ entry :: back) (key entry) = front ++ back := by
  have kept {other : Entry} (differs : key other ≠ key entry) :
      (!hasKey key (key entry) other) = true := by
    rw [Bool.not_eq_true', ← Bool.not_eq_true, hasKey_iff]
    exact differs
  have others (part : List Entry) (differ : ∀ other, other ∈ part → key other ≠ key entry) :
      (part.filter fun other => !hasKey key (key entry) other) = part :=
    List.filter_eq_self.mpr fun other otherMember => kept (differ other otherMember)
  have itself : hasKey key (key entry) entry = true := hasKey_iff.mpr rfl
  rw [remove, List.filter_append, List.filter_cons, itself, others front before,
    others back behind]
  rfl

theorem distinct_put {entries : List Entry} (distinct : Distinct key entries) (new : Entry) :
    Distinct key (put key entries new) := by
  have same : (put key entries new).map key = entries.map key := by
    rw [put, List.map_map]
    apply List.map_congr_left
    intro entry _
    change key (if key entry = key new then new else entry) = key entry
    split
    · rename_i isSame
      exact isSame.symm
    · rfl
  unfold Distinct
  rw [same]
  exact distinct

theorem length_put (entries : List Entry) (new : Entry) :
    (put key entries new).length = entries.length := List.length_map _

theorem mem_put {entries : List Entry} {new entry : Entry} (member : entry ∈ put key entries new) :
    entry = new ∨ (entry ∈ entries ∧ key entry ≠ key new) := by
  obtain ⟨old, oldMember, rfl⟩ := List.mem_map.mp member
  by_cases same : key old = key new
  · rw [if_pos same]
    exact Or.inl rfl
  · rw [if_neg same]
    exact Or.inr ⟨oldMember, same⟩

theorem mem_put_of_ne {entries : List Entry} {new entry : Entry} (member : entry ∈ entries)
    (other : key entry ≠ key new) : entry ∈ put key entries new :=
  List.mem_map.mpr ⟨entry, member, if_neg other⟩

theorem mem_put_self {entries : List Entry} {new old : Entry} (member : old ∈ entries)
    (same : key old = key new) : new ∈ put key entries new :=
  List.mem_map.mpr ⟨old, member, if_pos same⟩

theorem countP_put {entries : List Entry} (distinct : Distinct key entries) {old new : Entry}
    (member : old ∈ entries) (same : key new = key old) (counted : Entry → Bool) :
    (put key entries new).countP counted + (if counted old then 1 else 0) =
      entries.countP counted + (if counted new then 1 else 0) := by
  obtain ⟨front, back, rfl, before, behind⟩ := split distinct member
  rw [put_split same before behind, List.countP_append, List.countP_append, List.countP_cons,
    List.countP_cons]
  omega

omit [DecidableEq Key] in
theorem distinct_filter {entries : List Entry} (distinct : Distinct key entries)
    (keep : Entry → Bool) : Distinct key (entries.filter keep) :=
  distinct.sublist (List.filter_sublist.map key)

theorem mem_remove_iff {entries : List Entry} {unwanted : Key} {entry : Entry} :
    entry ∈ remove key entries unwanted ↔ entry ∈ entries ∧ key entry ≠ unwanted := by
  rw [remove, List.mem_filter, Bool.not_eq_true', ← Bool.not_eq_true, hasKey_iff]

theorem countP_remove {entries : List Entry} (distinct : Distinct key entries) {entry : Entry}
    (member : entry ∈ entries) (counted : Entry → Bool) :
    (remove key entries (key entry)).countP counted + (if counted entry then 1 else 0) =
      entries.countP counted := by
  obtain ⟨front, back, rfl, before, behind⟩ := split distinct member
  rw [remove_split before behind, List.countP_append, List.countP_append, List.countP_cons]
  omega

theorem length_remove {entries : List Entry} (distinct : Distinct key entries) {entry : Entry}
    (member : entry ∈ entries) :
    (remove key entries (key entry)).length + 1 = entries.length := by
  obtain ⟨front, back, rfl, before, behind⟩ := split distinct member
  rw [remove_split before behind, List.length_append, List.length_append, List.length_cons]
  omega

theorem find_put_self {entries : List Entry} {old new : Entry}
    (found : find key entries (key new) = some old) :
    find key (put key entries new) (key new) = some new := by
  have itself : hasKey key (key new) new = true := hasKey_iff.mpr rfl
  unfold find put at *
  induction entries with
  | nil => cases found
  | cons entry rest ih =>
      rw [List.map_cons]
      by_cases same : key entry = key new
      · rw [if_pos same, List.find?_cons_of_pos itself]
      · have differs : ¬ hasKey key (key new) entry = true :=
          fun equal => same (hasKey_iff.mp equal)
        rw [if_neg same, List.find?_cons_of_neg differs]
        rw [List.find?_cons_of_neg differs] at found
        exact ih found

theorem find_append_new {entries : List Entry} {new : Entry}
    (isNew : find key entries (key new) = none) :
    find key (entries ++ [new]) (key new) = some new := by
  have itself : hasKey key (key new) new = true := hasKey_iff.mpr rfl
  unfold find at *
  rw [List.find?_append, isNew, List.find?_cons_of_pos itself]
  rfl

theorem put_put (entries : List Entry) {first second : Entry} (same : key first = key second) :
    put key (put key entries first) second = put key entries second := by
  unfold put
  rw [List.map_map]
  apply List.map_congr_left
  intro entry _
  rw [Function.comp_apply]
  by_cases isKey : key entry = key second
  · rw [if_pos (isKey.trans same.symm), if_pos same, if_pos isKey]
  · have notFirst : key entry ≠ key first := fun isFirst => isKey (isFirst.trans same)
    rw [if_neg notFirst, if_neg isKey]

theorem put_append_new {entries : List Entry} {old new : Entry}
    (isNew : find key entries (key new) = none) (same : key old = key new) :
    put key (entries ++ [old]) new = entries ++ [new] := by
  have absent := find_eq_none_iff.mp isNew
  unfold put
  rw [List.map_append, List.map_singleton, if_pos same]
  congr 1
  refine (List.map_congr_left fun entry member => ?_).trans (List.map_id entries)
  exact if_neg (absent entry member)

end KeyedTable
