import Std.Data.HashMap
import PathRouter.Text.Value

/-!
Route parameters: an ordered mapping from names to values. A name keeps the place of its first
write and has the value of its last.
-/

namespace PathRouter

/-- Writes `value` under `name`: in place if the name is there, at the end if not. -/
def insertEntry (name value : String) : List (String × String) → List (String × String)
  | [] => [(name, value)]
  | (k, v) :: rest =>
    if k = name then (k, value) :: rest else (k, v) :: insertEntry name value rest

theorem mem_keys_insertEntry {name value k : String} {entries : List (String × String)} :
    k ∈ (insertEntry name value entries).map (·.1) ↔ k = name ∨ k ∈ entries.map (·.1) := by
  fun_induction insertEntry name value entries with grind

theorem nodup_keys_insertEntry {name value : String} {entries : List (String × String)}
    (h : (entries.map (·.1)).Nodup) : ((insertEntry name value entries).map (·.1)).Nodup := by
  fun_induction insertEntry name value entries with
  | case1 => simp
  | case2 v rest => simpa using h
  | case3 k v rest hk ih =>
    simp only [List.map_cons, List.nodup_cons] at h ⊢
    exact ⟨by rw [mem_keys_insertEntry]; grind, ih h.2⟩

/-- Writes `value` under `name` in the same way and returns the value that it replaces, too. -/
def replaceEntry (name value : String) :
    List (String × String) → Option String × List (String × String)
  | [] => (none, [(name, value)])
  | (k, v) :: rest =>
    if k = name then (some v, (k, value) :: rest)
    else
      let (old, rest) := replaceEntry name value rest
      (old, (k, v) :: rest)

theorem replaceEntry_eq (name value : String) (entries : List (String × String)) :
    replaceEntry name value entries = (entries.lookup name, insertEntry name value entries) := by
  induction entries with
  | nil => rfl
  | cons entry rest ih =>
    obtain ⟨k, v⟩ := entry
    rw [replaceEntry, insertEntry, List.lookup_cons]
    by_cases hk : k = name
    · rw [if_pos hk, if_pos hk, beq_iff_eq.mpr hk.symm]
    · rw [if_neg hk, if_neg hk, beq_eq_false_iff_ne.mpr (Ne.symm hk), ih]

theorem nodup_keys_replaceEntry {name value : String} {entries : List (String × String)}
    (h : (entries.map (·.1)).Nodup) : ((replaceEntry name value entries).2.map (·.1)).Nodup := by
  rw [replaceEntry_eq]
  exact nodup_keys_insertEntry h

/-- Parameters in order, each name once. -/
structure Params where
  entries : List (String × String)
  nodup_keys : (entries.map (·.1)).Nodup
deriving DecidableEq

namespace Params

/-- No parameters. -/
def empty : Params := ⟨[], by simp⟩

instance : Inhabited Params := ⟨empty⟩

/-- How many names there are. -/
def size (p : Params) : Nat := p.entries.length

/-- The value of `name`. -/
def get? (p : Params) (name : String) : Option String := p.entries.lookup name

/-- Whether `name` has a value. -/
def contains (p : Params) (name : String) : Bool := (p.get? name).isSome

/-- Writes `value` under `name`. -/
def insert (p : Params) (name value : String) : Params :=
  ⟨insertEntry name value p.entries, nodup_keys_insertEntry p.nodup_keys⟩

/-- Writes `value` under `name` and returns the value that it replaces, too. -/
def replace (p : Params) (name value : String) : Option String × Params :=
  let written := replaceEntry name value p.entries
  (written.1, ⟨written.2, nodup_keys_replaceEntry p.nodup_keys⟩)

/-- What is returned is the value that was there, and what is left is what writing leaves. -/
theorem replace_eq (p : Params) (name value : String) :
    p.replace name value = (p.get? name, p.insert name value) := by
  simp only [replace, get?, insert, replaceEntry_eq]

/-- Writes the pairs one after the other. -/
def extend (p : Params) (pairs : List (String × String)) : Params :=
  pairs.foldl (fun p kv => p.insert kv.1 kv.2) p

/-- The parameters that writing the pairs into an empty mapping gives. -/
def ofList (pairs : List (String × String)) : Params := empty.extend pairs

/-- Overlays the entries of `other`. -/
def merge (p other : Params) : Params := p.extend other.entries

/-- The value of `name`, read as a value of type `t`. -/
def read? (p : Params) (name : String) (t : Text.ValueType) :
    Option (Except Text.ValueError Text.Value) :=
  (p.get? name).map (Text.Value.read t)

/-- The entries as an unordered map. -/
def toHashMap (p : Params) : Std.HashMap String String := Std.HashMap.ofList p.entries

/-- The entries in code-point order of their names. -/
def sorted (p : Params) : List (String × String) :=
  p.entries.mergeSort fun a b => a.1 ≤ b.1

/-- A double-ended walk over the entries: what neither end has taken yet. -/
structure Cursor where
  remaining : List (String × String)
deriving DecidableEq

namespace Cursor

/-- How many entries are left. -/
def size (c : Cursor) : Nat := c.remaining.length

/-- Takes the first entry that is left. -/
def next (c : Cursor) : Option (String × String) × Cursor := (c.remaining.head?, ⟨c.remaining.tail⟩)

/-- Takes the last entry that is left. -/
def nextBack (c : Cursor) : Option (String × String) × Cursor :=
  (c.remaining.getLast?, ⟨c.remaining.dropLast⟩)

end Cursor

/-- A walk over all entries. -/
def cursor (p : Params) : Cursor := ⟨p.entries⟩

end Params

end PathRouter
