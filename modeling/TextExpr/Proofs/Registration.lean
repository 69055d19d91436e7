import Mathlib.Data.List.Induction
import Mathlib.Data.List.Nodup
import Mathlib.Data.List.TakeWhile
import TextExpr.Registry

/-!
# Registries over their whole history

Functions are added to a new registry by any sequence of calls, and some of the calls may be
refused, a call with many functions also halfway. A call adds the functions that stand before the
first one whose name is built in or already there. So no name is there twice, its function is the
one that was added first, and all that can be asked of a registry agrees.
-/
namespace TextExpr

section Order

variable {s t u : Text}

theorem Text.precedes_cons_iff {p q : Point} :
    Text.precedes (p :: s) (q :: t) = true ↔ p.code < q.code ∨ p = q ∧ s.precedes t = true := by
  rw [Text.precedes]
  by_cases same : p.code = q.code
  · have equal : p = q := Point.code_injective same
    simp [equal]
  · have different : p ≠ q := fun equal => same (congrArg Point.code equal)
    simp [same, different]

theorem Text.precedes_irrefl (t : Text) : t.precedes t = false := by
  induction t with
  | nil => rfl
  | cons p t ih => simp [Text.precedes, ih]

theorem Text.precedes_trans (first : s.precedes t = true) (second : t.precedes u = true) :
    s.precedes u = true := by
  induction s generalizing t u with
  | nil =>
    cases u with
    | nil => cases t <;> cases second
    | cons => rfl
  | cons p s ih =>
    cases t with
    | nil => cases first
    | cons q t =>
      cases u with
      | nil => cases second
      | cons o u =>
        rw [Text.precedes_cons_iff] at first second ⊢
        rcases first with below | ⟨rfl, first⟩
        · rcases second with below' | ⟨rfl, _⟩
          · exact Or.inl (Nat.lt_trans below below')
          · exact Or.inl below
        · rcases second with below' | ⟨rfl, second⟩
          · exact Or.inl below'
          · exact Or.inr ⟨rfl, ih first second⟩

theorem Text.precedes_trichotomy (s t : Text) :
    s = t ∨ s.precedes t = true ∨ t.precedes s = true := by
  induction s generalizing t with
  | nil => cases t <;> simp [Text.precedes]
  | cons p s ih =>
    cases t with
    | nil => exact Or.inr (Or.inr rfl)
    | cons q t =>
      simp only [Text.precedes_cons_iff]
      rcases Nat.lt_trichotomy p.code q.code with below | same | above
      · exact Or.inr (Or.inl (Or.inl below))
      · have equal : p = q := Point.code_injective same
        subst equal
        rcases ih t with rfl | before | behind
        · exact Or.inl rfl
        · exact Or.inr (Or.inl (Or.inr ⟨rfl, before⟩))
        · exact Or.inr (Or.inr (Or.inr ⟨rfl, behind⟩))
      · exact Or.inr (Or.inr (Or.inl above))

/-- Not to be preceded is to stand at the same place or before. -/
theorem Text.not_precedes_iff : (!t.precedes s) = true ↔ s = t ∨ s.precedes t = true := by
  rw [Bool.not_eq_true']
  constructor
  · intro behind
    rcases Text.precedes_trichotomy s t with same | before | after
    · exact Or.inl same
    · exact Or.inr before
    · rw [behind] at after
      cases after
  · rintro (rfl | before)
    · exact Text.precedes_irrefl s
    · cases behind : t.precedes s with
      | false => rfl
      | true =>
        have circular := Text.precedes_trans before behind
        rw [Text.precedes_irrefl] at circular
        cases circular

end Order

namespace Registry

variable {φ : Type} {r : Registry φ} {name : Text} {f : φ}

/-- Functions with names, no name twice. -/
structure Mapping (φ : Type) where
  entries : List (Text × φ)
  distinct : (entries.map Prod.fst).Nodup

/-- A call that adds functions. -/
inductive Call (φ : Type) where
  | register (name : Text) (f : φ)
  | registerAll (functions : Mapping φ)

def Call.entries : Call φ → List (Text × φ)
  | register name f => [(name, f)]
  | registerAll functions => functions.entries

theorem Call.distinct (call : Call φ) : (call.entries.map Prod.fst).Nodup := by
  cases call with
  | register name f => exact List.nodup_singleton name
  | registerAll functions => exact functions.distinct

/-- The registry after a call, and the fault that it raises, if it does. -/
def perform (r : Registry φ) : Call φ → Registry φ × Option Fault
  | .register name f =>
    match r.register name f with
    | .ok larger => (larger, none)
    | .error fault => (r, some fault)
  | .registerAll functions => r.registerAll functions.entries

/-- What a new registry has become after a sequence of calls. -/
def after (calls : List (Call φ)) : Registry φ :=
  calls.foldl (fun r call => (r.perform call).1) empty

/-- The name cannot be added. -/
def offends (r : Registry φ) (name : Text) : Bool := Builtin.names.contains name || r.has name

def refusal (name : Text) : Fault :=
  if Builtin.names.contains name then .builtinName name else .registeredName name

/-- The entries of a call before the first one that cannot be added. -/
def accepts (r : Registry φ) (call : Call φ) : List (Text × φ) :=
  call.entries.takeWhile fun entry => !r.offends entry.1

theorem offends_iff : r.offends name = true ↔ name ∈ Builtin.names ∨ name ∈ r := by
  rw [offends, Bool.or_eq_true, List.contains_iff_mem, has, decide_eq_true_iff]

theorem not_offends_iff : r.offends name = false ↔ name ∉ Builtin.names ∧ name ∉ r := by
  rw [← Bool.not_eq_true, offends_iff, not_or]

theorem register_of_offends (refused : r.offends name = true) (f : φ) :
    r.register name f = .error (refusal name) := by
  rw [register, refusal]
  by_cases builtin : name ∈ Builtin.names
  · rw [if_pos builtin, if_pos (List.contains_iff_mem.mpr builtin)]
  · have present : name ∈ r := (offends_iff.mp refused).resolve_left builtin
    have host : ¬ Builtin.names.contains name = true := by rwa [List.contains_iff_mem]
    rw [if_neg builtin, if_pos present, if_neg host]

theorem register_of_fresh (fresh : r.offends name = false) (f : φ) :
    r.register name f = .ok ⟨r.entries ++ [(name, f)]⟩ := by
  obtain ⟨host, absent⟩ := not_offends_iff.mp fresh
  rw [register, if_neg host, if_neg absent]

theorem offends_append (r : Registry φ) {name other : Text} (f : φ) (different : other ≠ name) :
    Registry.offends ⟨r.entries ++ [(name, f)]⟩ other = r.offends other := by
  have same : other ∈ (⟨r.entries ++ [(name, f)]⟩ : Registry φ) ↔ other ∈ r := by
    show other ∈ (r.entries ++ [(name, f)]).map Prod.fst ↔ other ∈ r.entries.map Prod.fst
    simp [different]
  rw [Bool.eq_iff_iff, offends_iff, offends_iff, same]

/-- The function of each entry is added until a name offends. Since no name stands twice in the
call, what is added on the way makes no other name offend. -/
theorem registerAll_eq (r : Registry φ) (entries : List (Text × φ)) (p : Text × φ → Bool)
    (distinct : (entries.map Prod.fst).Nodup)
    (told : ∀ entry ∈ entries, p entry = r.offends entry.1) :
    r.registerAll entries = (⟨r.entries ++ entries.takeWhile fun entry => !p entry⟩,
      (entries.find? p).map fun entry => refusal entry.1) := by
  induction entries generalizing r with
  | nil => simp [registerAll]
  | cons entry rest ih =>
    obtain ⟨name, f⟩ := entry
    have first : p (name, f) = r.offends name := told (name, f) List.mem_cons_self
    rw [List.map_cons, List.nodup_cons] at distinct
    obtain ⟨once, distinct⟩ := distinct
    rw [registerAll]
    cases offends : r.offends name with
    | true =>
      rw [offends] at first
      simp [register_of_offends offends, first]
    | false =>
      rw [offends] at first
      have rest_told : ∀ entry ∈ rest,
          p entry = Registry.offends ⟨r.entries ++ [(name, f)]⟩ entry.1 := by
        intro entry later
        have different : entry.1 ≠ name := by
          rintro rfl
          exact once (List.mem_map.mpr ⟨entry, later, rfl⟩)
        rw [offends_append r f different]
        exact told entry (List.mem_cons_of_mem _ later)
      rw [register_of_fresh offends]
      simp only [ih _ distinct rest_told]
      simp [first]

/-- A call adds what it accepts, and it raises a fault exactly if that is not all of it. -/
theorem perform_eq (r : Registry φ) (call : Call φ) :
    r.perform call = (⟨r.entries ++ r.accepts call⟩,
      (call.entries.find? fun entry => r.offends entry.1).map fun entry => refusal entry.1) := by
  cases call with
  | register name f =>
    rw [perform]
    cases offends : r.offends name with
    | true => simp [register_of_offends offends, accepts, Call.entries, offends]
    | false => simp [register_of_fresh offends, accepts, Call.entries, offends]
  | registerAll functions => exact registerAll_eq r _ _ functions.distinct fun _ _ => rfl

theorem mem_accepts {call : Call φ} {entry : Text × φ} (accepted : entry ∈ r.accepts call) :
    entry.1 ∉ Builtin.names ∧ entry.1 ∉ r := by
  have fresh := List.mem_takeWhile_imp accepted
  rw [Bool.not_eq_true'] at fresh
  exact not_offends_iff.mp fresh

theorem accepts_distinct (r : Registry φ) (call : Call φ) :
    ((r.accepts call).map Prod.fst).Nodup :=
  call.distinct.sublist ((List.takeWhile_sublist _).map Prod.fst)

section Lookup

theorem isSome_lookup_iff : (r.lookup name).isSome = true ↔ name ∈ r := by
  show (r.entries.lookup name).isSome = true ↔ name ∈ r.entries.map Prod.fst
  rw [List.lookup_isSome_iff, List.mem_map]
  constructor
  · rintro ⟨entry, inside, same⟩
    exact ⟨entry, inside, (beq_iff_eq.mp same).symm⟩
  · rintro ⟨entry, inside, same⟩
    exact ⟨entry, inside, beq_iff_eq.mpr same.symm⟩

theorem lookup_eq_none_iff : r.lookup name = none ↔ name ∉ r := by
  rw [← isSome_lookup_iff, Option.not_isSome_iff_eq_none]

/-- Where no name stands twice, the look-up of a name finds the entry that has it. -/
theorem lookup_of_mem {entries : List (Text × φ)} (distinct : (entries.map Prod.fst).Nodup)
    (inside : (name, f) ∈ entries) : entries.lookup name = some f := by
  induction entries with
  | nil => cases inside
  | cons entry rest ih =>
    rw [List.map_cons, List.nodup_cons] at distinct
    rcases List.mem_cons.mp inside with rfl | later
    · simp
    · have different : (name == entry.1) = false := by
        rw [beq_eq_false_iff_ne]
        rintro rfl
        exact distinct.1 (List.mem_map.mpr ⟨_, later, rfl⟩)
      rw [List.lookup_cons, different]
      exact ih distinct.2 later

theorem mem_of_lookup {entries : List (Text × φ)} (found : entries.lookup name = some f) :
    (name, f) ∈ entries := by
  obtain ⟨before, later, split, _⟩ := List.lookup_eq_some_iff.mp found
  simp [split]

/-- What was found before a call is found after it, and else what the call adds. -/
theorem lookup_perform (r : Registry φ) (call : Call φ) (name : Text) :
    (r.perform call).1.lookup name = (r.lookup name).or ((r.accepts call).lookup name) := by
  rw [perform_eq]
  exact List.lookup_append

theorem lookup_perform_of_found (found : r.lookup name = some f) (call : Call φ) :
    (r.perform call).1.lookup name = some f := by
  rw [lookup_perform, found, Option.some_or]

/-- A call that accepts an entry makes its function the one that is found. -/
theorem lookup_perform_of_accepted {call : Call φ} (accepted : (name, f) ∈ r.accepts call) :
    (r.perform call).1.lookup name = some f := by
  have absent : r.lookup name = none := lookup_eq_none_iff.mpr (mem_accepts accepted).2
  rw [lookup_perform, absent, Option.none_or]
  exact lookup_of_mem (accepts_distinct r call) accepted

end Lookup

/-- No name stands twice in the registry, and none is that of a built-in function. -/
structure Sound (r : Registry φ) : Prop where
  distinct : (r.entries.map Prod.fst).Nodup
  host : ∀ name ∈ r, name ∉ Builtin.names

theorem sound_empty : (empty : Registry φ).Sound where
  distinct := List.nodup_nil
  host := by
    intro name inside
    cases inside

/-- One call keeps a registry sound, whether it raises a fault or not. -/
theorem Sound.perform (sound : r.Sound) (call : Call φ) : (r.perform call).1.Sound := by
  rw [perform_eq]
  constructor
  · show ((r.entries ++ r.accepts call).map Prod.fst).Nodup
    rw [List.map_append, List.nodup_append]
    refine ⟨sound.distinct, accepts_distinct r call, ?_⟩
    intro name old name' new same
    subst same
    obtain ⟨entry, accepted, rfl⟩ := List.mem_map.mp new
    exact (mem_accepts accepted).2 old
  · intro name inside
    have either : name ∈ r.entries.map Prod.fst ++ (r.accepts call).map Prod.fst := by
      rw [← List.map_append]
      exact inside
    rcases List.mem_append.mp either with old | new
    · exact sound.host name old
    · obtain ⟨entry, accepted, rfl⟩ := List.mem_map.mp new
      exact (mem_accepts accepted).1

section History

variable {calls : List (Call φ)}

theorem after_append (calls later : List (Call φ)) :
    after (calls ++ later) = later.foldl (fun r call => (r.perform call).1) (after calls) :=
  List.foldl_append

theorem after_append_singleton (calls : List (Call φ)) (call : Call φ) :
    after (calls ++ [call]) = ((after calls).perform call).1 := after_append calls [call]

theorem sound_after (calls : List (Call φ)) : (after calls).Sound := by
  induction calls using List.reverseRecOn with
  | nil => exact sound_empty
  | append_singleton calls call ih =>
    rw [after_append_singleton]
    exact ih.perform call

/-- What is found once is found for ever after. -/
theorem lookup_after_append (found : (after calls).lookup name = some f)
    (later : List (Call φ)) : (after (calls ++ later)).lookup name = some f := by
  induction later using List.reverseRecOn with
  | nil => rwa [List.append_nil]
  | append_singleton later call ih =>
    rw [← List.append_assoc, after_append_singleton]
    exact lookup_perform_of_found ih call

/-- A function is found exactly if a call of the history has added it when its name was free. -/
theorem lookup_after_iff : (after calls).lookup name = some f ↔
    ∃ before call later, calls = before ++ call :: later ∧
      (after before).lookup name = none ∧ (name, f) ∈ (after before).accepts call := by
  constructor
  · intro found
    induction calls using List.reverseRecOn with
    | nil => cases found
    | append_singleton calls call ih =>
      rw [after_append_singleton, lookup_perform] at found
      cases earlier : (after calls).lookup name with
      | some g =>
        rw [earlier, Option.some_or] at found
        obtain ⟨before, first, later, rfl, absent, accepted⟩ := ih (earlier.trans found)
        exact ⟨before, first, later ++ [call], by simp, absent, accepted⟩
      | none =>
        rw [earlier, Option.none_or] at found
        exact ⟨calls, call, [], rfl, earlier, mem_of_lookup found⟩
  · rintro ⟨before, call, later, rfl, _, accepted⟩
    have found : (after (before ++ [call])).lookup name = some f := by
      rw [after_append_singleton]
      exact lookup_perform_of_accepted accepted
    have kept := lookup_after_append found later
    rwa [List.append_assoc, List.singleton_append] at kept

end History

/-- All that can be asked of a registry agrees: its names ascend, none is that of a built-in
function, and they are what a loop goes through, what is counted and what is there. -/
structure Consistent (r : Registry φ) : Prop where
  ascending : r.names.Pairwise fun a b => a.precedes b = true
  host : ∀ name ∈ Builtin.names, name ∉ r.names
  listed : r.toList = r.names
  counted : r.size = r.names.length
  has_iff : ∀ name, r.has name = true ↔ name ∈ r.names
  mem_iff : ∀ name, name ∈ r ↔ name ∈ r.names
  lookup_iff : ∀ name, (r.lookup name).isSome = true ↔ name ∈ r.names

theorem mem_names_iff : name ∈ r.names ↔ name ∈ r := List.mem_mergeSort

/-- The names are sorted, and no two are the same, so they ascend strictly. -/
theorem Sound.ascending (sound : r.Sound) : r.names.Pairwise fun a b => a.precedes b = true := by
  have sorted : r.names.Pairwise fun a b => (!b.precedes a) = true := by
    refine List.pairwise_mergeSort ?_ ?_ _
    · intro a b c first second
      rw [Text.not_precedes_iff] at first second ⊢
      rcases first with rfl | first
      · exact second
      · rcases second with rfl | second
        · exact Or.inr first
        · exact Or.inr (Text.precedes_trans first second)
    · intro a b
      rw [Bool.or_eq_true, Text.not_precedes_iff, Text.not_precedes_iff]
      rcases Text.precedes_trichotomy a b with same | before | after
      · exact Or.inl (Or.inl same)
      · exact Or.inl (Or.inr before)
      · exact Or.inr (Or.inr after)
  have distinct : r.names.Nodup := (List.mergeSort_perm _ _).nodup_iff.mpr sound.distinct
  refine (sorted.and distinct).imp fun {a b} both => ?_
  exact (Text.not_precedes_iff.mp both.1).resolve_left both.2

theorem Sound.consistent (sound : r.Sound) : r.Consistent where
  ascending := sound.ascending
  host := by
    intro name builtin inside
    exact sound.host name (mem_names_iff.mp inside) builtin
  listed := rfl
  counted := by
    rw [names, List.length_mergeSort, List.length_map, size]
  has_iff := by
    intro name
    rw [mem_names_iff, has, decide_eq_true_iff]
  mem_iff := fun name => mem_names_iff.symm
  lookup_iff := by
    intro name
    rw [mem_names_iff, isSome_lookup_iff]

/-- Whatever calls were made on a new registry, all that can be asked of it agrees, and a name has
the function that the first successful registration of the name gave it. The next registration of
one function is refused exactly if its name is built in or there, and then changes nothing; one of
many functions adds those before the first that is refused. -/
theorem registry_after (calls : List (Call φ)) :
    (after calls).Consistent ∧
    (∀ name f, (after calls).lookup name = some f ↔
      ∃ before call later, calls = before ++ call :: later ∧
        (after before).lookup name = none ∧ (name, f) ∈ (after before).accepts call) ∧
    (∀ name f,
      (((after calls).perform (.register name f)).2.isSome = true ↔
        name ∈ Builtin.names ∨ name ∈ after calls) ∧
      (((after calls).perform (.register name f)).2.isSome = true →
        (after calls).perform (.register name f) = (after calls, some (refusal name))) ∧
      (((after calls).perform (.register name f)).2 = none →
        (after calls).perform (.register name f) =
          (⟨(after calls).entries ++ [(name, f)]⟩, none))) ∧
    ∀ functions : Mapping φ,
      ((after calls).perform (.registerAll functions)).1 =
        ⟨(after calls).entries ++
          functions.entries.takeWhile fun entry => !(after calls).offends entry.1⟩ ∧
      (((after calls).perform (.registerAll functions)).2.isSome = true ↔
        ∃ entry ∈ functions.entries, entry.1 ∈ Builtin.names ∨ entry.1 ∈ after calls) := by
  refine ⟨(sound_after calls).consistent, fun name f => lookup_after_iff, ?_, ?_⟩
  · intro name f
    rw [perform_eq, ← offends_iff]
    cases offends : (after calls).offends name with
    | true => simp [accepts, Call.entries, offends]
    | false => simp [accepts, Call.entries, offends]
  · intro functions
    rw [perform_eq]
    refine ⟨rfl, ?_⟩
    simp [Call.entries, offends_iff]

end Registry

end TextExpr
