import Mathlib.Data.List.MinMax
import Mathlib.Data.List.Nodup
import Mathlib.Data.List.Perm.Subperm

/-! Insertion-ordered dictionaries. Assigning an existing key keeps its
position, a new key goes to the end, and no key occurs twice. -/
namespace Library

/-- An association list whose keys are distinct, in insertion order. -/
structure Dict (K V : Type*) where
  entries : List (K × V)
  nodup : (entries.map Prod.fst).Nodup

namespace Dict

variable {K V T : Type*} [DecidableEq K]

/-- The value stored under `key`, if any. -/
def find (key : K) : List (K × V) → Option V
  | [] => none
  | entry :: rest => if entry.1 = key then some entry.2 else find key rest

/-- Overwrite the entry of `key` where it stands, or append a new one. -/
def assign (key : K) (value : V) : List (K × V) → List (K × V)
  | [] => [(key, value)]
  | entry :: rest =>
      if entry.1 = key then (key, value) :: rest else entry :: assign key value rest

theorem keys_assign (key : K) (value : V) (entries : List (K × V)) :
    (assign key value entries).map Prod.fst =
      if key ∈ entries.map Prod.fst then entries.map Prod.fst
      else entries.map Prod.fst ++ [key] := by
  induction entries with
  | nil => simp [assign]
  | cons entry rest ih =>
      by_cases hKey : entry.1 = key
      · simp [assign, hKey]
      · by_cases hRest : key ∈ rest.map Prod.fst <;>
          simp_all [assign, Ne.symm hKey]

theorem nodup_assign (key : K) (value : V) {entries : List (K × V)}
    (h : (entries.map Prod.fst).Nodup) :
    ((assign key value entries).map Prod.fst).Nodup := by
  rw [keys_assign]
  split_ifs with hKey
  · exact h
  · exact h.append (List.nodup_singleton key) (by simpa using hKey)

def empty : Dict K V := ⟨[], List.nodup_nil⟩

/-- `d.get(key)`. -/
def get? (d : Dict K V) (key : K) : Option V := find key d.entries

/-- `d[key] = value`. -/
def set (d : Dict K V) (key : K) (value : V) : Dict K V :=
  ⟨assign key value d.entries, nodup_assign key value d.nodup⟩

/-- The entries whose keys are kept. -/
def filter (keep : K → Bool) (d : Dict K V) : Dict K V :=
  ⟨d.entries.filter (fun entry => keep entry.1),
    d.nodup.sublist (List.filter_sublist.map Prod.fst)⟩

/-- `d.pop(key, None)`. -/
def erase (d : Dict K V) (key : K) : Dict K V := d.filter (fun other => other ≠ key)

def size (d : Dict K V) : Nat := d.entries.length

/-- `min(d, key=lambda k: rank(d[k]))`: the first key of least rank. -/
def minBy [Preorder T] [DecidableLT T] (rank : V → T) (d : Dict K V) : Option K :=
  (d.entries.argmin (fun entry => rank entry.2)).map Prod.fst

private theorem find_eq_some_iff {entries : List (K × V)}
    (h : (entries.map Prod.fst).Nodup) (key : K) (value : V) :
    find key entries = some value ↔ (key, value) ∈ entries := by
  induction entries with
  | nil => simp [find]
  | cons entry rest ih =>
      obtain ⟨k, v⟩ := entry
      simp only [List.map_cons, List.nodup_cons] at h
      by_cases hKey : k = key
      · subst hKey
        have hAbsent : (k, value) ∉ rest := fun hMem => h.1 (List.mem_map_of_mem hMem)
        simp [find, hAbsent, eq_comm]
      · simp [find, hKey, Ne.symm hKey, ih h.2]

/-- An entry is in the table exactly when looking its key up finds it. -/
theorem get?_eq_some_iff (d : Dict K V) (key : K) (value : V) :
    d.get? key = some value ↔ (key, value) ∈ d.entries :=
  find_eq_some_iff d.nodup key value

@[simp] theorem get?_empty (key : K) : (empty : Dict K V).get? key = none := rfl

omit [DecidableEq K] in
@[simp] theorem size_empty : (empty : Dict K V).size = 0 := rfl

theorem get?_set (d : Dict K V) (key other : K) (value : V) :
    (d.set key value).get? other = if other = key then some value else d.get? other := by
  obtain ⟨entries, hNodup⟩ := d
  change find other (assign key value entries) = if other = key then some value
    else find other entries
  clear hNodup
  induction entries with
  | nil => simp [assign, find, eq_comm]
  | cons entry rest ih =>
      by_cases hKey : entry.1 = key
      · by_cases hOther : other = key
        · simp [assign, find, hKey, hOther]
        · simp [assign, find, hKey, hOther, Ne.symm hOther]
      · by_cases hOther : entry.1 = other
        · have hNe : other ≠ key := fun h => hKey (hOther.trans h)
          simp [assign, find, hOther, hNe]
        · simp [assign, find, hKey, hOther, ih]

@[simp] theorem get?_set_self (d : Dict K V) (key : K) (value : V) :
    (d.set key value).get? key = some value := by
  simp [get?_set]

theorem get?_filter (keep : K → Bool) (d : Dict K V) (key : K) :
    (d.filter keep).get? key = if keep key then d.get? key else none := by
  obtain ⟨entries, hNodup⟩ := d
  change find key (entries.filter (fun entry => keep entry.1)) = if keep key then
    find key entries else none
  clear hNodup
  induction entries with
  | nil => simp [find]
  | cons entry rest ih =>
      by_cases hKey : entry.1 = key
      · cases hKeep : keep key with
        | true => simp [find, hKey, hKeep]
        | false => simpa [find, hKey, hKeep] using ih
      · cases hEntry : keep entry.1 with
        | true => simpa [find, hKey, hEntry] using ih
        | false => simpa [find, hKey, hEntry] using ih

theorem get?_erase (d : Dict K V) (key other : K) :
    (d.erase key).get? other = if other = key then none else d.get? other := by
  by_cases hOther : other = key <;> simp [erase, get?_filter, hOther]

@[simp] theorem get?_erase_self (d : Dict K V) (key : K) : (d.erase key).get? key = none := by
  simp [get?_erase]

theorem size_set_le (d : Dict K V) (key : K) (value : V) :
    (d.set key value).size ≤ d.size + 1 := by
  have hLength := congrArg List.length (keys_assign key value d.entries)
  split_ifs at hLength <;> simp at hLength <;> simp [size, set, hLength]

theorem find_eq_none_iff (key : K) (entries : List (K × V)) :
    find key entries = none ↔ key ∉ entries.map Prod.fst := by
  induction entries with
  | nil => simp [find]
  | cons entry rest ih =>
      by_cases hKey : entry.1 = key
      · simp [find, hKey]
      · simpa [find, hKey, Ne.symm hKey] using ih

theorem size_set (d : Dict K V) (key : K) (value : V) :
    (d.set key value).size = if d.get? key = none then d.size + 1 else d.size := by
  have hLength := congrArg List.length (keys_assign key value d.entries)
  have hKey : d.get? key = none ↔ key ∉ d.entries.map Prod.fst := find_eq_none_iff key d.entries
  by_cases hMem : key ∈ d.entries.map Prod.fst
  · rw [if_pos hMem] at hLength
    rw [if_neg (fun hNone => hKey.mp hNone hMem)]
    simpa [size, set] using hLength
  · rw [if_neg hMem] at hLength
    rw [if_pos (hKey.mpr hMem)]
    simpa [size, set] using hLength

/-- A table has no more entries than a list that names all its keys. -/
theorem size_le_length (d : Dict K V) {names : List K}
    (h : ∀ key, d.get? key ≠ none → key ∈ names) : d.size ≤ names.length := by
  have hSubset : d.entries.map Prod.fst ⊆ names := by
    intro key hMem
    by_cases hKey : d.get? key = none
    · exact absurd hMem ((find_eq_none_iff key d.entries).mp hKey)
    · exact h key hKey
  simpa [size] using (List.subperm_of_subset d.nodup hSubset).length_le

/-- A table of one key has one entry at most. -/
theorem size_le_one (d : Dict K V) {key : K}
    (h : ∀ other value, d.get? other = some value → other = key) : d.size ≤ 1 := by
  have hKeys : ∀ other ∈ d.entries.map Prod.fst, other = key := by
    intro other hMem
    obtain ⟨⟨stored, value⟩, hEntry, rfl⟩ := List.mem_map.mp hMem
    exact h stored value ((d.get?_eq_some_iff stored value).mpr hEntry)
  have hNodup := d.nodup
  rw [List.eq_replicate_of_mem hKeys, List.nodup_replicate] at hNodup
  simpa [size] using hNodup

theorem size_erase_le (d : Dict K V) (key : K) : (d.erase key).size ≤ d.size :=
  List.length_filter_le _ _

theorem size_erase_lt (d : Dict K V) {key : K} {value : V} (h : d.get? key = some value) :
    (d.erase key).size < d.size := by
  have hMem := (d.get?_eq_some_iff key value).mp h
  exact List.length_filter_lt_length_iff_exists.mpr ⟨(key, value), hMem, by simp⟩

/-- The values, in the order of the keys. -/
theorem values_eq (d : Dict K V) :
    d.entries.map Prod.snd = (d.entries.map Prod.fst).filterMap d.get? := by
  have hFound : d.entries.filterMap (d.get? ∘ Prod.fst) = d.entries.filterMap (some ∘ Prod.snd) :=
    List.filterMap_congr fun entry hMem => (d.get?_eq_some_iff entry.1 entry.2).mpr hMem
  rw [List.filterMap_map, hFound, List.filterMap_eq_map]

/-- The first key of least rank is stored, and nothing stored ranks below it. -/
theorem minBy_spec [LinearOrder T] (rank : V → T) (d : Dict K V) {key : K}
    (h : d.minBy rank = some key) :
    ∃ value, d.get? key = some value ∧
      ∀ other stored, d.get? other = some stored → rank value ≤ rank stored := by
  obtain ⟨⟨k, value⟩, hMin, rfl⟩ := Option.map_eq_some_iff.mp h
  refine ⟨value, (d.get?_eq_some_iff _ _).mpr (List.argmin_mem hMin), ?_⟩
  intro other stored hStored
  exact List.le_of_mem_argmin (f := fun entry : K × V => rank entry.2)
    ((d.get?_eq_some_iff _ _).mp hStored) hMin

omit [DecidableEq K] in
theorem minBy_isSome [LinearOrder T] (rank : V → T) (d : Dict K V) (h : 0 < d.size) :
    ∃ key, d.minBy rank = some key := by
  cases hMin : d.entries.argmin (fun entry => rank entry.2) with
  | none => simp [List.argmin_eq_none.mp hMin, size] at h
  | some entry => exact ⟨entry.1, by simp [minBy, hMin]⟩

variable {W : Type*}

/-- The values are replaced, each where it stands. -/
def map (f : V → W) (d : Dict K V) : Dict K W :=
  ⟨d.entries.map fun entry => (entry.1, f entry.2), by simpa [Function.comp_def] using d.nodup⟩

omit [DecidableEq K] in
@[simp] theorem size_map (f : V → W) (d : Dict K V) : (d.map f).size = d.size := List.length_map _

omit [DecidableEq K] in
theorem map_filter (f : V → W) (d : Dict K V) (keep : K → Bool) :
    (d.filter keep).map f = (d.map f).filter keep := by
  simp [map, filter, List.filter_map, Function.comp_def]

omit [DecidableEq K] in
/-- The first key of least rank does not depend on what else the values are. -/
theorem minBy_map [Preorder T] [DecidableLT T] (rank : W → T) (f : V → W) (d : Dict K V) :
    (d.map f).minBy rank = d.minBy fun value => rank (f value) := by
  obtain ⟨entries, hNodup⟩ := d
  change ((entries.map fun entry => (entry.1, f entry.2)).argmin fun entry => rank entry.2).map
    Prod.fst =
    (entries.argmin fun entry => rank (f entry.2)).map Prod.fst
  have hLeast : (entries.map fun entry => (entry.1, f entry.2)).argmin (fun entry => rank entry.2) =
      (entries.argmin fun entry => rank (f entry.2)).map fun entry => (entry.1, f entry.2) := by
    clear hNodup
    induction entries using List.reverseRecOn with
    | nil => rfl
    | append_singleton rest last ih =>
        rw [List.map_append, List.map_singleton, List.argmin_concat, List.argmin_concat, ih]
        cases rest.argmin fun entry => rank (f entry.2) with
        | none => rfl
        | some best =>
            simp only [Option.map_some]
            split_ifs <;> rfl
  rw [hLeast, Option.map_map]
  rfl

theorem map_erase (f : V → W) (d : Dict K V) (key : K) :
    (d.erase key).map f = (d.map f).erase key :=
  map_filter f d _

theorem get?_map (f : V → W) (d : Dict K V) (key : K) :
    (d.map f).get? key = (d.get? key).map f := by
  obtain ⟨entries, hNodup⟩ := d
  change find key (entries.map fun entry => (entry.1, f entry.2)) = (find key entries).map f
  clear hNodup
  induction entries with
  | nil => rfl
  | cons entry rest ih => by_cases hKey : entry.1 = key <;> simp [find, hKey, ih]

theorem map_set (f : V → W) (d : Dict K V) (key : K) (value : V) :
    (d.set key value).map f = (d.map f).set key (f value) := by
  obtain ⟨entries, hNodup⟩ := d
  have hEntries : (assign key value entries).map (fun entry => (entry.1, f entry.2)) =
      assign key (f value) (entries.map fun entry => (entry.1, f entry.2)) := by
    clear hNodup
    induction entries with
    | nil => rfl
    | cons entry rest ih => by_cases hKey : entry.1 = key <;> simp [assign, hKey, ih]
  simp only [map, set, hEntries]

end Dict
end Library
