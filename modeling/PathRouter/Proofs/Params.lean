import Mathlib.Data.List.Induction
import Mathlib.Data.List.Nodup
import Mathlib.Logic.Function.Iterate
import PathRouter.Params

/-!
# Parameters are what was written last

Parameters come about by writes, one after the other, be it that a name is written by itself, from a
list or from other parameters. What they are is a function of the log of these writes alone: each
name once, at the place of its first write, with the value of its last.

* `canonical` is this form of a log. It looks a value up for each name and writes no entry.
* `canonical_append_singleton` is the step: a write behind a log is an entry written into the
  canonical form. `entries_extend_eq` is the run.
* `canonical_append_congr`: a part of a log counts only by its canonical form. That overlaying is
  associative and changes nothing when it is done again follows from this and from
  `canonical_of_nodup`.
* `History` is any way to come by parameters, and `History.reads_log` what they are then.
-/

namespace PathRouter

/-! ## Looking up in a log -/

theorem lookup_cons_ite {α β : Type} [DecidableEq α] (entry : α × β) (rest : List (α × β))
    (key : α) :
    (entry :: rest).lookup key = if entry.1 = key then some entry.2 else rest.lookup key := by
  rw [List.lookup_cons]
  by_cases h : entry.1 = key
  · rw [if_pos h, beq_iff_eq.mpr h.symm]
  · rw [if_neg h, beq_eq_false_iff_ne.mpr (Ne.symm h)]

/-- Looking up what was made of the values, each with its key. -/
theorem lookup_map_key {α β γ : Type} [DecidableEq α] (f : α → β → γ) (entries : List (α × β))
    (key : α) :
    (entries.map fun entry => (entry.1, f entry.1 entry.2)).lookup key =
      (entries.lookup key).map (f key) := by
  induction entries with
  | nil => rfl
  | cons entry entries ih =>
    rw [List.map_cons, lookup_cons_ite, lookup_cons_ite, ih]
    split
    · next heq => rw [Option.map_some, heq]
    · rfl

theorem lookup_reverse_eq_none_iff {α β : Type} [DecidableEq α] {log : List (α × β)} {key : α} :
    log.reverse.lookup key = none ↔ ∀ value, (key, value) ∉ log := by
  rw [List.lookup_eq_none_iff]
  constructor
  · intro h value hmem
    simpa using h _ (List.mem_reverse.mpr hmem)
  · rintro h ⟨key', value⟩ hmem
    rw [bne_iff_ne]
    rintro rfl
    exact h value (List.mem_reverse.mp hmem)

/-- The value of the last pair with the name `name`. -/
def lastValue (log : List (String × String)) (name : String) : Option String :=
  log.reverse.lookup name

theorem lastValue_append (log later : List (String × String)) (name : String) :
    lastValue (log ++ later) name = (lastValue later name).or (lastValue log name) := by
  rw [lastValue, List.reverse_append, List.lookup_append]
  rfl

theorem lastValue_append_singleton (log : List (String × String)) (name value key : String) :
    lastValue (log ++ [(name, value)]) key =
      if name = key then some value else lastValue log key := by
  rw [lastValue_append, lastValue, List.reverse_singleton, lookup_cons_ite]
  split <;> rfl

theorem lastValue_eq_none_iff {log : List (String × String)} {name : String} :
    lastValue log name = none ↔ name ∉ log.map (·.1) := by
  rw [lastValue, lookup_reverse_eq_none_iff]
  simp

/-- Where no name occurs twice the first pair is the last. -/
theorem lastValue_of_nodup {log : List (String × String)} (h : (log.map (·.1)).Nodup)
    (name : String) : lastValue log name = log.lookup name := by
  induction log with
  | nil => rfl
  | cons entry rest ih =>
    rw [List.map_cons, List.nodup_cons] at h
    rw [← List.singleton_append, lastValue_append, ih h.2, List.singleton_append, lookup_cons_ite,
      lastValue, List.reverse_singleton, lookup_cons_ite, List.lookup_nil]
    by_cases hname : entry.1 = name
    · -- the name does not occur behind the entry
      have hnone : lastValue rest name = none := lastValue_eq_none_iff.mpr (hname ▸ h.1)
      rw [ih h.2] at hnone
      rw [hnone, if_pos hname, Option.none_or]
    · rw [if_neg hname, if_neg hname, Option.or_none]

/-! ## First occurrences -/

theorem eraseDups_append_singleton (names : List String) (name : String) :
    (names ++ [name]).eraseDups =
      if name ∈ names then names.eraseDups else names.eraseDups ++ [name] := by
  rw [List.eraseDups_append, List.removeAll, List.filter_singleton]
  by_cases h : name ∈ names
  · simp [h]
  · simp [h, show [name].eraseDups = [name] from rfl]

theorem eraseDups_append_eq (names later : List String) :
    (names ++ later).eraseDups =
      names.eraseDups ++ later.eraseDups.filter (· ∉ names) := by
  induction later using List.reverseRecOn with
  | nil => simp
  | append_singleton later name ih =>
    rw [← List.append_assoc, eraseDups_append_singleton, eraseDups_append_singleton, ih]
    by_cases hnames : name ∈ names <;> by_cases hlater : name ∈ later <;> simp [hnames, hlater]

theorem nodup_eraseDups (names : List String) : names.eraseDups.Nodup := by
  induction names using List.reverseRecOn with
  | nil => exact List.nodup_nil
  | append_singleton names name ih =>
    rw [eraseDups_append_singleton]
    split
    · exact ih
    · next hname =>
      rw [← List.concat_eq_append]
      exact ih.concat fun hmem => hname (List.mem_eraseDups.mp hmem)

theorem eraseDups_of_nodup {names : List String} (h : names.Nodup) : names.eraseDups = names := by
  induction names with
  | nil => rfl
  | cons name rest ih =>
    rw [List.nodup_cons] at h
    have hrest : rest.filter (fun other => !other == name) = rest :=
      List.filter_eq_self.mpr fun other hother => by simpa using ne_of_mem_of_not_mem hother h.1
    rw [List.eraseDups_cons, hrest, ih h.2]

/-! ## Tables of values -/

/-- The names that have a value, each with its value. -/
def tabulate (names : List String) (value? : String → Option String) : List (String × String) :=
  names.filterMap fun name => (value? name).map (Prod.mk name)

section Tabulate

variable {names : List String} {value? : String → Option String}

theorem tabulate_cons_of_eq_some {name value : String} (h : value? name = some value) :
    tabulate (name :: names) value? = (name, value) :: tabulate names value? := by
  rw [tabulate, List.filterMap_cons, h]
  rfl

theorem tabulate_congr {other? : String → Option String}
    (h : ∀ name ∈ names, value? name = other? name) :
    tabulate names value? = tabulate names other? :=
  List.filterMap_congr fun name hname => by rw [h name hname]

theorem keys_tabulate (h : ∀ name ∈ names, (value? name).isSome) :
    (tabulate names value?).map (·.1) = names := by
  induction names with
  | nil => rfl
  | cons name names ih =>
    obtain ⟨value, hvalue⟩ := Option.isSome_iff_exists.mp (h name List.mem_cons_self)
    rw [tabulate_cons_of_eq_some hvalue, List.map_cons,
      ih fun other hother => h other (List.mem_cons_of_mem _ hother)]

theorem lookup_tabulate (name : String) :
    (tabulate names value?).lookup name = if name ∈ names then value? name else none := by
  induction names with
  | nil => rfl
  | cons first names ih =>
    cases hfirst : value? first with
    | none =>
      rw [tabulate, List.filterMap_cons, hfirst]
      show (tabulate names value?).lookup name = _
      rw [ih]
      by_cases hname : name = first
      · simp [hname, hfirst]
      · simp [hname]
    | some value =>
      rw [tabulate_cons_of_eq_some hfirst, lookup_cons_ite, ih]
      by_cases hname : first = name
      · subst hname
        simp [hfirst]
      · simp [hname, Ne.symm hname]

/-- A name that is there gets its value in place. -/
theorem insertEntry_tabulate (hnodup : names.Nodup) (h : ∀ name ∈ names, (value? name).isSome)
    {name : String} (hname : name ∈ names) (value : String) :
    insertEntry name value (tabulate names value?) =
      tabulate names fun key => if name = key then some value else value? key := by
  induction names with
  | nil => cases hname
  | cons first names ih =>
    obtain ⟨hfirst, hnodup⟩ := List.nodup_cons.mp hnodup
    obtain ⟨old, hold⟩ := Option.isSome_iff_exists.mp (h first List.mem_cons_self)
    rw [tabulate_cons_of_eq_some hold, insertEntry]
    by_cases heq : first = name
    · subst heq
      rw [if_pos rfl, tabulate_cons_of_eq_some (if_pos rfl)]
      -- behind it the name does not occur
      refine congrArg _ (tabulate_congr fun other hother => ?_)
      rw [if_neg (ne_of_mem_of_not_mem hother hfirst).symm]
    · have hrest : name ∈ names := List.mem_of_ne_of_mem (Ne.symm heq) hname
      rw [if_neg heq, ih hnodup (fun other hother => h other (List.mem_cons_of_mem _ hother)) hrest,
        tabulate_cons_of_eq_some ((if_neg (Ne.symm heq)).trans hold)]

end Tabulate

theorem insertEntry_of_not_mem {name value : String} {entries : List (String × String)}
    (h : name ∉ entries.map (·.1)) :
    insertEntry name value entries = entries ++ [(name, value)] := by
  fun_induction insertEntry name value entries with
  | case1 => rfl
  | case2 v rest => simp at h
  | case3 k v rest hk ih =>
    rw [List.map_cons, List.mem_cons, not_or] at h
    rw [ih h.2, List.cons_append]

/-! ## The canonical form of a log -/

/-- Each name once, at the place of its first pair, with the value of its last. -/
def canonical (log : List (String × String)) : List (String × String) :=
  tabulate (log.map (·.1)).eraseDups (lastValue log)

theorem isSome_lastValue {log : List (String × String)} {name : String}
    (h : name ∈ (log.map (·.1)).eraseDups) : (lastValue log name).isSome := by
  rw [Option.isSome_iff_ne_none, Ne, lastValue_eq_none_iff, not_not]
  exact List.mem_eraseDups.mp h

theorem keys_canonical (log : List (String × String)) :
    (canonical log).map (·.1) = (log.map (·.1)).eraseDups :=
  keys_tabulate fun _ => isSome_lastValue

theorem lookup_canonical (log : List (String × String)) (name : String) :
    (canonical log).lookup name = lastValue log name := by
  rw [canonical, lookup_tabulate]
  split
  · rfl
  · next hname =>
    rw [List.mem_eraseDups] at hname
    exact (lastValue_eq_none_iff.mpr hname).symm

/-- The names and the values are all of it. -/
theorem canonical_congr {log log' : List (String × String)}
    (hnames : (log.map (·.1)).eraseDups = (log'.map (·.1)).eraseDups)
    (hvalues : ∀ name, lastValue log name = lastValue log' name) :
    canonical log = canonical log' := by
  rw [canonical, canonical, hnames]
  exact tabulate_congr fun name _ => hvalues name

/-- **The step.** -/
theorem canonical_append_singleton (log : List (String × String)) (name value : String) :
    canonical (log ++ [(name, value)]) = insertEntry name value (canonical log) := by
  have hvalues : lastValue (log ++ [(name, value)]) =
      fun key => if name = key then some value else lastValue log key :=
    funext (lastValue_append_singleton log name value)
  rw [canonical, List.map_append, List.map_singleton, eraseDups_append_singleton, hvalues]
  split
  · next hname =>
    rw [canonical, insertEntry_tabulate (nodup_eraseDups _) (fun _ => isSome_lastValue)
      (List.mem_eraseDups.mpr hname)]
  · next hname =>
    have hkey : name ∉ (canonical log).map (·.1) := by
      rwa [keys_canonical, List.mem_eraseDups]
    rw [insertEntry_of_not_mem hkey, tabulate, List.filterMap_append]
    congr 1
    · -- the names before it are others, so that their values stay
      refine tabulate_congr fun other hother => if_neg ?_
      rintro rfl
      exact hname (List.mem_eraseDups.mp hother)
    · simp

theorem canonical_of_nodup {log : List (String × String)} (h : (log.map (·.1)).Nodup) :
    canonical log = log := by
  induction log using List.reverseRecOn with
  | nil => rfl
  | append_singleton log pair ih =>
    obtain ⟨hlog, hpair⟩ : (log.map (·.1)).Nodup ∧ pair.1 ∉ log.map (·.1) := by
      rw [List.map_append, List.nodup_append] at h
      exact ⟨h.1, fun hmem => h.2.2 _ hmem _ List.mem_cons_self rfl⟩
    rw [canonical_append_singleton, ih hlog, insertEntry_of_not_mem hpair]

theorem nodup_keys_canonical (log : List (String × String)) :
    ((canonical log).map (·.1)).Nodup := by
  rw [keys_canonical]
  exact nodup_eraseDups _

/-- A part of a log counts only by its canonical form. -/
theorem canonical_append_congr {log log' later later' : List (String × String)}
    (h : canonical log = canonical log') (hlater : canonical later = canonical later') :
    canonical (log ++ later) = canonical (log' ++ later') := by
  have hnames : (log.map (·.1)).eraseDups = (log'.map (·.1)).eraseDups := by
    rw [← keys_canonical, h, keys_canonical]
  have hnames' : (later.map (·.1)).eraseDups = (later'.map (·.1)).eraseDups := by
    rw [← keys_canonical, hlater, keys_canonical]
  refine canonical_congr ?_ fun name => ?_
  · have hmem (name : String) : name ∈ log.map (·.1) ↔ name ∈ log'.map (·.1) := by
      rw [← List.mem_eraseDups, hnames, List.mem_eraseDups]
    rw [List.map_append, List.map_append, eraseDups_append_eq, eraseDups_append_eq, hnames, hnames']
    simp only [hmem]
  · rw [lastValue_append, lastValue_append, ← lookup_canonical, ← lookup_canonical log, h, hlater,
      lookup_canonical, lookup_canonical]

namespace Params

/-! ## Parameters and their log -/

theorem eq_of_entries {p q : Params} (h : p.entries = q.entries) : p = q := by
  cases p
  cases q
  cases h
  rfl

theorem get?_eq_none_iff {p : Params} {name : String} :
    p.get? name = none ↔ name ∉ p.entries.map (·.1) := by
  rw [get?, ← lastValue_of_nodup p.nodup_keys, lastValue_eq_none_iff]

theorem canonical_entries (p : Params) : canonical p.entries = p.entries :=
  canonical_of_nodup p.nodup_keys

/-- **The run.** -/
theorem entries_extend_eq (p : Params) (pairs : List (String × String)) :
    (p.extend pairs).entries = canonical (p.entries ++ pairs) := by
  induction pairs using List.reverseRecOn with
  | nil => rw [List.append_nil, p.canonical_entries, extend, List.foldl_nil]
  | append_singleton pairs pair ih =>
    rw [← List.append_assoc, canonical_append_singleton, ← ih, extend, List.foldl_append]
    rfl

theorem entries_ofList (pairs : List (String × String)) :
    (ofList pairs).entries = canonical pairs :=
  entries_extend_eq .empty pairs

theorem entries_merge (p other : Params) :
    (p.merge other).entries = canonical (p.entries ++ other.entries) :=
  p.entries_extend_eq other.entries

/-- New names go to the end, in order. -/
theorem entries_extend {p : Params} {pairs : List (String × String)}
    (h : ((p.entries ++ pairs).map (·.1)).Nodup) :
    (p.extend pairs).entries = p.entries ++ pairs := by
  rw [entries_extend_eq, canonical_of_nodup h]

/-! ## Overlaying -/

theorem merge_assoc (p q r : Params) : (p.merge q).merge r = p.merge (q.merge r) := by
  refine eq_of_entries ?_
  have hleft : canonical (p.merge q).entries = canonical (p.entries ++ q.entries) := by
    rw [canonical_entries, entries_merge]
  have hright : canonical (q.merge r).entries = canonical (q.entries ++ r.entries) := by
    rw [canonical_entries, entries_merge]
  calc ((p.merge q).merge r).entries
      = canonical ((p.merge q).entries ++ r.entries) := entries_merge _ _
    _ = canonical (p.entries ++ q.entries ++ r.entries) := canonical_append_congr hleft rfl
    _ = canonical (p.entries ++ (q.entries ++ r.entries)) := by rw [List.append_assoc]
    _ = canonical (p.entries ++ (q.merge r).entries) := (canonical_append_congr rfl hright).symm
    _ = (p.merge (q.merge r)).entries := (entries_merge _ _).symm

theorem empty_merge (p : Params) : empty.merge p = p :=
  eq_of_entries ((entries_merge empty p).trans p.canonical_entries)

theorem merge_empty (p : Params) : p.merge empty = p := rfl

theorem merge_self (p : Params) : p.merge p = p := by
  refine eq_of_entries ?_
  have hnames : (p.entries.map (·.1)).eraseDups.filter (· ∉ p.entries.map (·.1)) = [] :=
    List.filter_eq_nil_iff.mpr fun name hname => by simpa using List.mem_eraseDups.mp hname
  have hsame : canonical (p.entries ++ p.entries) = canonical p.entries := by
    refine canonical_congr ?_ fun name => ?_
    · rw [List.map_append, eraseDups_append_eq, hnames, List.append_nil]
    · rw [lastValue_append, Option.or_self]
  rw [entries_merge, hsame, canonical_entries]

/-! ## Walking over the entries -/

namespace Cursor

theorem remaining_iterate_next (c : Cursor) (n : Nat) :
    ((fun c : Cursor => c.next.2)^[n] c).remaining = c.remaining.drop n := by
  induction n generalizing c with
  | zero => rfl
  | succ n ih => rw [Function.iterate_succ_apply, ih, next, List.drop_tail]

end Cursor

/-! ## The entries as an unordered map -/

/-- Different entries have names that a hash map tells apart. -/
theorem pairwise_entries (p : Params) : p.entries.Pairwise fun a b => (a.1 == b.1) = false := by
  refine (List.pairwise_map.mp p.nodup_keys).imp ?_
  intro a b hne
  exact beq_eq_false_iff_ne.mpr hne

theorem getElem?_toHashMap (p : Params) (name : String) : p.toHashMap[name]? = p.get? name := by
  cases hget : p.get? name with
  | none =>
    refine Std.HashMap.getElem?_ofList_of_contains_eq_false ?_
    rw [List.contains_eq_mem, decide_eq_false_iff_not]
    exact get?_eq_none_iff.mp hget
  | some value =>
    obtain ⟨before, later, hentries, -⟩ := List.lookup_eq_some_iff.mp hget
    refine Std.HashMap.getElem?_ofList_of_mem (beq_self_eq_true name) p.pairwise_entries ?_
    rw [hentries]
    exact List.mem_append_right _ List.mem_cons_self

theorem size_toHashMap (p : Params) : p.toHashMap.size = p.size :=
  Std.HashMap.size_ofList p.pairwise_entries

/-! ## Ways to come by parameters -/

/-- A way to come by parameters. Parameters that are overlaid have a history of their own. -/
inductive History where
  /-- Nothing has been written. -/
  | new
  /-- A list is collected. -/
  | collect (pairs : List (String × String))
  /-- A name is written. -/
  | insert (before : History) (name value : String)
  /-- The pairs of a list are written. -/
  | extend (before : History) (pairs : List (String × String))
  /-- Other parameters are overlaid. -/
  | merge (before other : History)

namespace History

/-- The parameters that come about. -/
def params : History → Params
  | new => .empty
  | collect pairs => .ofList pairs
  | insert before name value => before.params.insert name value
  | extend before pairs => before.params.extend pairs
  | merge before other => before.params.merge other.params

/-- Every pair that has been written, in order. -/
def log : History → List (String × String)
  | new => []
  | collect pairs => pairs
  | insert before name value => before.log ++ [(name, value)]
  | extend before pairs => before.log ++ pairs
  | merge before other => before.log ++ other.log

theorem entries_params (h : History) : h.params.entries = canonical h.log := by
  have hform {h : History} (ih : h.params.entries = canonical h.log) :
      canonical h.params.entries = canonical h.log := by
    rw [canonical_entries, ih]
  induction h with
  | new => rfl
  | collect pairs => exact entries_ofList pairs
  | insert before name value ih =>
    rw [log, canonical_append_singleton, ← ih]
    rfl
  | extend before pairs ih =>
    rw [params, entries_extend_eq, log]
    exact canonical_append_congr (hform ih) rfl
  | merge before other ih ihother =>
    rw [params, entries_merge, log]
    exact canonical_append_congr (hform ih) (hform ihother)

theorem get?_params (h : History) (name : String) : h.params.get? name = lastValue h.log name := by
  rw [get?, entries_params, lookup_canonical]

end History

/-- **Parameters are what was written last.** However parameters come about, each name that was
written is there once, at the place of its first write and with the value of its last, and every way
to read them agrees with that. A write returns the value that was there before. Overlaying writes
the entries of the other parameters behind what was written so far; it is associative, nothing
comes of overlaying no parameters or of overlaying on none, and nothing of overlaying parameters on
themselves. -/
theorem History.reads_log (h : History) :
    h.params.entries = canonical h.log ∧ (h.params.entries.map (·.1)).Nodup ∧
      (∀ name value,
        h.params.replace name value = (lastValue h.log name, (h.insert name value).params)) ∧
      (∀ name, h.params.get? name = lastValue h.log name ∧
        (h.params.contains name ↔ name ∈ h.log.map (·.1)) ∧
        h.params.toHashMap[name]? = lastValue h.log name) ∧
      h.params.size = (h.log.map (·.1)).eraseDups.length ∧
      h.params.toHashMap.size = h.params.size ∧
      (∀ n, ((fun c : Cursor => c.next.2)^[n] h.params.cursor).next.1 = (canonical h.log)[n]?) ∧
      (∀ q, (h.params.merge q).entries = canonical (h.log ++ q.entries)) ∧
      (∀ q r, (h.params.merge q).merge r = h.params.merge (q.merge r)) ∧
      empty.merge h.params = h.params ∧ h.params.merge empty = h.params ∧
      h.params.merge h.params = h.params := by
  refine ⟨h.entries_params, h.params.nodup_keys, fun name value => ?_, fun name => ⟨?_, ?_, ?_⟩,
    ?_, h.params.size_toHashMap, fun n => ?_, fun q => ?_, h.params.merge_assoc,
    h.params.empty_merge, h.params.merge_empty, h.params.merge_self⟩
  · rw [replace_eq, h.get?_params]
    rfl
  · exact h.get?_params name
  · rw [contains, h.get?_params, Option.isSome_iff_ne_none, Ne, lastValue_eq_none_iff, not_not]
  · rw [getElem?_toHashMap, h.get?_params]
  · rw [size, h.entries_params, ← keys_canonical, List.length_map]
  · rw [Cursor.next, Cursor.remaining_iterate_next, List.head?_drop, cursor, h.entries_params]
  · rw [entries_merge]
    refine canonical_append_congr ?_ rfl
    rw [canonical_entries, h.entries_params]

end Params

end PathRouter
