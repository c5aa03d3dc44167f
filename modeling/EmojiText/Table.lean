import EmojiText.Text.Basic

/-!
Tables with one value for each key, in the order in which the keys were first written.

Writing a key that is there keeps its place and replaces its value. The main statements are
`find?_insert`, which says what a look-up sees after a write, and `mem_keys_insert`; for tables
made from pairs they are `find?_ofList`, by which the last pair with a key counts, and
`getD_find?_group`, by which all of them do.
-/

namespace EmojiText

/-- Writes a value into a list of pairs: in the place of the key, or at the end if it is new. -/
def insertPair {κ ν : Type} [DecidableEq κ] (key : κ) (value : ν) : List (κ × ν) → List (κ × ν)
  | [] => [(key, value)]
  | (k, v) :: rest => if k = key then (key, value) :: rest else (k, v) :: insertPair key value rest

/-- The value of the first pair with the given key. -/
def findPair? {κ ν : Type} [DecidableEq κ] (key : κ) : List (κ × ν) → Option ν
  | [] => none
  | (k, v) :: rest => if k = key then some v else findPair? key rest

section Pairs

variable {κ ν : Type} [DecidableEq κ]

theorem mem_map_fst_insertPair {key k : κ} {value : ν} {pairs : List (κ × ν)} :
    k ∈ (insertPair key value pairs).map Prod.fst ↔ k = key ∨ k ∈ pairs.map Prod.fst := by
  induction pairs with
  | nil => simp [insertPair]
  | cons pair rest ih =>
    obtain ⟨k', v'⟩ := pair
    rw [insertPair]
    split
    · rename_i h
      simp [h]
    · simp only [List.map_cons, List.mem_cons, ih]
      constructor <;> rintro (h | h | h) <;> simp [h]

theorem nodup_insertPair {key : κ} {value : ν} {pairs : List (κ × ν)}
    (h : (pairs.map Prod.fst).Nodup) : ((insertPair key value pairs).map Prod.fst).Nodup := by
  induction pairs with
  | nil => simp [insertPair]
  | cons pair rest ih =>
    obtain ⟨k, v⟩ := pair
    simp only [List.map_cons, List.nodup_cons] at h
    rw [insertPair]
    split
    · rename_i hk
      simpa [← hk] using h
    · rename_i hk
      simp only [List.map_cons, List.nodup_cons]
      refine ⟨fun hmem => ?_, ih h.2⟩
      rcases mem_map_fst_insertPair.1 hmem with hmem | hmem
      · exact hk hmem
      · exact h.1 hmem

theorem findPair?_insertPair {key k : κ} {value : ν} {pairs : List (κ × ν)} :
    findPair? k (insertPair key value pairs)
      = if k = key then some value else findPair? k pairs := by
  induction pairs with
  | nil => simp [insertPair, findPair?, eq_comm]
  | cons pair rest ih =>
    obtain ⟨k', v'⟩ := pair
    rw [insertPair]
    split
    · rename_i hk
      subst hk
      by_cases h : k = k' <;> simp [findPair?, h, Ne.symm]
    · rename_i hk
      by_cases h : k' = k
      · subst h
        simp [findPair?, hk]
      · simp [findPair?, h, ih]

theorem findPair?_eq_some_iff {key : κ} {value : ν} {pairs : List (κ × ν)}
    (h : (pairs.map Prod.fst).Nodup) :
    findPair? key pairs = some value ↔ (key, value) ∈ pairs := by
  induction pairs with
  | nil => simp [findPair?]
  | cons pair rest ih =>
    obtain ⟨k, v⟩ := pair
    simp only [List.map_cons, List.nodup_cons] at h
    rw [findPair?]
    split
    · rename_i hk
      subst hk
      have hnot : (k, value) ∉ rest := fun hmem => h.1 (List.mem_map_of_mem (f := Prod.fst) hmem)
      simp [hnot, eq_comm]
    · rename_i hk
      simp [ih h.2, Ne.symm hk]

theorem map_insertPair {μ : Type} (f : ν → μ) (key : κ) (value : ν) (pairs : List (κ × ν)) :
    (insertPair key value pairs).map (fun pair => (pair.1, f pair.2))
      = insertPair key (f value) (pairs.map fun pair => (pair.1, f pair.2)) := by
  induction pairs with
  | nil => rfl
  | cons pair rest ih =>
    obtain ⟨k, v⟩ := pair
    by_cases h : k = key
    · simp [insertPair, h]
    · simp [insertPair, h, ih]

end Pairs

/-- Pairs of a key and a value, no key twice. -/
structure Table (κ ν : Type) where
  pairs : List (κ × ν)
  nodup : (pairs.map Prod.fst).Nodup

namespace Table

variable {κ ν : Type} [DecidableEq κ]

/-- The table without any key. -/
def empty : Table κ ν := ⟨[], List.nodup_nil⟩

instance : EmptyCollection (Table κ ν) := ⟨empty⟩

instance : Inhabited (Table κ ν) := ⟨empty⟩

/-- The keys in their order. -/
def keys (table : Table κ ν) : List κ := table.pairs.map Prod.fst

/-- The number of keys. -/
def size (table : Table κ ν) : Nat := table.pairs.length

/-- The value of a key. -/
def find? (table : Table κ ν) (key : κ) : Option ν := findPair? key table.pairs

/-- The table with a new value for a key. -/
def insert (table : Table κ ν) (key : κ) (value : ν) : Table κ ν :=
  ⟨insertPair key value table.pairs, nodup_insertPair table.nodup⟩

/-- The table without a key. -/
def erase (table : Table κ ν) (key : κ) : Table κ ν :=
  ⟨table.pairs.filter (·.1 ≠ key), by
    exact table.nodup.sublist (List.Sublist.map Prod.fst List.filter_sublist)⟩

/-- The table that results from writing the pairs one after the other. -/
def ofList (pairs : List (κ × ν)) : Table κ ν :=
  pairs.foldl (fun table pair => table.insert pair.1 pair.2) empty

/-- The table with every value replaced by its image. -/
def map {μ : Type} (f : ν → μ) (table : Table κ ν) : Table κ μ :=
  ⟨table.pairs.map fun pair => (pair.1, f pair.2), by
    simpa [List.map_map, Function.comp_def] using table.nodup⟩

/-- The table with one more value at the end of the list of a key. -/
def push (table : Table κ (List ν)) (key : κ) (value : ν) : Table κ (List ν) :=
  table.insert key ((table.find? key).getD [] ++ [value])

/-- The values of each key in a list of pairs, in their order. -/
def group (pairs : List (κ × ν)) : Table κ (List ν) :=
  pairs.foldl (fun table pair => table.push pair.1 pair.2) empty

@[simp] theorem find?_empty (key : κ) : (empty : Table κ ν).find? key = none := rfl

omit [DecidableEq κ] in
@[simp] theorem keys_empty : (empty : Table κ ν).keys = [] := rfl

theorem find?_insert (table : Table κ ν) (key k : κ) (value : ν) :
    (table.insert key value).find? k = if k = key then some value else table.find? k :=
  findPair?_insertPair

theorem mem_keys_insert (table : Table κ ν) (key k : κ) (value : ν) :
    k ∈ (table.insert key value).keys ↔ k = key ∨ k ∈ table.keys :=
  mem_map_fst_insertPair

/-- A look-up after every value was replaced by its image sees the image. -/
theorem find?_map {μ : Type} (f : ν → μ) (table : Table κ ν) (key : κ) :
    (table.map f).find? key = (table.find? key).map f := by
  obtain ⟨pairs, _⟩ := table
  show findPair? key (pairs.map fun pair => (pair.1, f pair.2)) = (findPair? key pairs).map f
  induction pairs with
  | nil => rfl
  | cons pair rest ih =>
      obtain ⟨k, v⟩ := pair
      by_cases h : k = key
      · simp [findPair?, h]
      · simpa [findPair?, h] using ih (by simp_all)

/-- The list of a key after pairs were pushed one after the other: its values come last, in the
order of the pairs. -/
theorem getD_find?_foldl_push (pairs : List (κ × ν)) (table : Table κ (List ν)) (key : κ) :
    ((pairs.foldl (fun table pair => table.push pair.1 pair.2) table).find? key).getD []
      = (table.find? key).getD [] ++ (pairs.filter (·.1 = key)).map Prod.snd := by
  induction pairs generalizing table with
  | nil => simp
  | cons pair rest ih =>
      rw [List.foldl_cons, ih, push, find?_insert]
      by_cases h : pair.1 = key
      · simp [h]
      · simp [h, Ne.symm h]

/-- The list of a key in a grouped table holds the values of that key, in the order of the pairs. -/
theorem getD_find?_group (pairs : List (κ × ν)) (key : κ) :
    ((group pairs).find? key).getD [] = (pairs.filter (·.1 = key)).map Prod.snd := by
  simpa [group] using getD_find?_foldl_push pairs empty key

omit [DecidableEq κ] in
theorem ext {s t : Table κ ν} (h : s.pairs = t.pairs) : s = t := by
  cases s
  cases t
  simp_all

/-- A look-up finds exactly the value that is paired with the key. -/
theorem find?_eq_some_iff {table : Table κ ν} {key : κ} {value : ν} :
    table.find? key = some value ↔ (key, value) ∈ table.pairs :=
  findPair?_eq_some_iff table.nodup

/-- A look-up finds something for the keys only. -/
theorem mem_keys_iff {table : Table κ ν} {key : κ} :
    key ∈ table.keys ↔ ∃ value, table.find? key = some value := by
  simp [keys, find?_eq_some_iff]

/-- After pairs were written one after the other, the last one with a key counts. -/
theorem find?_foldl_insert (pairs : List (κ × ν)) (table : Table κ ν) (key : κ) :
    (pairs.foldl (fun table pair => table.insert pair.1 pair.2) table).find? key
      = ((pairs.filter (·.1 = key)).map Prod.snd).getLast?.or (table.find? key) := by
  induction pairs generalizing table with
  | nil => simp
  | cons pair rest ih =>
    rw [List.foldl_cons, ih, find?_insert]
    by_cases h : pair.1 = key
    · simp [h, List.getLast?_cons]
    · simp [h, Ne.symm h]

/-- A table made from pairs has the last value that is paired with a key. -/
theorem find?_ofList (pairs : List (κ × ν)) (key : κ) :
    (ofList pairs).find? key = ((pairs.filter (·.1 = key)).map Prod.snd).getLast? := by
  simpa [ofList] using find?_foldl_insert pairs empty key

omit [DecidableEq κ] in
/-- Steps that each write under the key of a pair add the keys of the pairs. -/
theorem mem_keys_foldl {μ : Type} {step : Table κ μ → κ × ν → Table κ μ}
    (hstep : ∀ table pair k, k ∈ (step table pair).keys ↔ k = pair.1 ∨ k ∈ table.keys)
    (pairs : List (κ × ν)) (table : Table κ μ) (key : κ) :
    key ∈ (pairs.foldl step table).keys ↔ key ∈ pairs.map Prod.fst ∨ key ∈ table.keys := by
  induction pairs generalizing table with
  | nil => simp
  | cons pair rest ih =>
    rw [List.foldl_cons, ih, hstep, List.map_cons, List.mem_cons, or_left_comm, or_assoc]

/-- The keys of a table made from pairs are those of the pairs. -/
theorem mem_keys_ofList (pairs : List (κ × ν)) (key : κ) :
    key ∈ (ofList pairs).keys ↔ key ∈ pairs.map Prod.fst := by
  have h := mem_keys_foldl (fun table pair k => mem_keys_insert table pair.1 k pair.2) pairs
    empty key
  simpa [ofList] using h

/-- The keys of a table of grouped pairs are those of the pairs. -/
theorem mem_keys_group (pairs : List (κ × ν)) (key : κ) :
    key ∈ (group pairs).keys ↔ key ∈ pairs.map Prod.fst := by
  have h := mem_keys_foldl
    (fun table pair k => mem_keys_insert table pair.1 k ((table.find? pair.1).getD [] ++ [pair.2]))
    pairs empty key
  simpa [group, push] using h

/-- Pairs that are written later are written into the table of the earlier ones. -/
theorem ofList_append (pairs more : List (κ × ν)) :
    ofList (pairs ++ more)
      = more.foldl (fun table pair => table.insert pair.1 pair.2) (ofList pairs) :=
  List.foldl_append

/-- Pairs that come later are grouped into the table of the earlier ones. -/
theorem group_concat (pairs : List (κ × ν)) (pair : κ × ν) :
    group (pairs ++ [pair]) = (group pairs).push pair.1 pair.2 :=
  List.foldl_append

omit [DecidableEq κ] in
/-- Two replacements of all values are one. -/
theorem map_map {μ ρ : Type} (f : ν → μ) (g : μ → ρ) (table : Table κ ν) :
    (table.map f).map g = table.map (g ∘ f) := by
  refine ext ?_
  show (table.pairs.map _).map _ = table.pairs.map _
  rw [List.map_map]
  rfl

omit [DecidableEq κ] in
/-- Replacing the values by their images keeps the keys. -/
theorem keys_map {μ : Type} (f : ν → μ) (table : Table κ ν) : (table.map f).keys = table.keys := by
  show (table.pairs.map _).map _ = table.pairs.map _
  rw [List.map_map]
  rfl

/-- Replacing the values by their images goes with writing. -/
theorem map_insert {μ : Type} (f : ν → μ) (table : Table κ ν) (key : κ) (value : ν) :
    (table.insert key value).map f = (table.map f).insert key (f value) :=
  ext (map_insertPair f key value table.pairs)

/-- Replacing the values by their images goes with making a table. -/
theorem map_ofList {μ : Type} (f : ν → μ) (pairs : List (κ × ν)) :
    (ofList pairs).map f = ofList (pairs.map fun pair => (pair.1, f pair.2)) := by
  rw [ofList, ofList, List.foldl_map]
  exact (List.foldl_hom (Table.map f)
    fun table pair => (map_insert f table pair.1 pair.2).symm).symm

/-- Replacing the values by their images goes with pushing one more. -/
theorem map_push {μ : Type} (f : ν → μ) (table : Table κ (List ν)) (key : κ) (value : ν) :
    (table.push key value).map (List.map f) = (table.map (List.map f)).push key (f value) := by
  rw [push, push, map_insert, find?_map]
  cases table.find? key <;> simp

/-- Replacing the values by their images goes with grouping. -/
theorem map_group {μ : Type} (f : ν → μ) (pairs : List (κ × ν)) :
    (group pairs).map (List.map f) = group (pairs.map fun pair => (pair.1, f pair.2)) := by
  rw [group, group, List.foldl_map]
  exact (List.foldl_hom (Table.map (List.map f))
    fun table pair => (map_push f table pair.1 pair.2).symm).symm

end Table

end EmojiText
