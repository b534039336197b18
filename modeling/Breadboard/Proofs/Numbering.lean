import Breadboard.Program.Wiring
import Mathlib

/-! # Counting first uses

A numbering is asked for the name of one binding after the other. `Numbering.given` is the table of the names that it
has given, and `Numbering.Answers` says what one call does with it: a binding that has a name gets it again, and any
other gets the number behind the last. A binding is named at its first call, so along a run of calls its number counts
the distinct bindings asked for before: `Numbering.Counted` is kept by every call.

Main statement: `Numbering.countsFirstUses`.
-/

namespace Breadboard

namespace Numbering

variable {κ : Type}

/-- The bindings with the names that they were given, in the order of their numbers. -/
def given (numbering : Numbering κ) : List (κ × String) :=
  numbering.keys.zipIdx.map fun (key, index) => (key, numbering.stem ++ (index + 1).repr)

/-- What a call for a binding does. The number of a new name is read off the size of the table. -/
inductive Answers (numbering : Numbering κ) (key : κ) (answer : Assigned κ) : Prop where
  | known (found : (key, answer.name) ∈ numbering.given) (isNew : answer.isNew = false)
      (same : answer.after = numbering)
  | fresh (unknown : ∀ name, (key, name) ∉ numbering.given) (isNew : answer.isNew = true)
      (named : answer.name = numbering.stem ++ (numbering.size + 1).repr)
      (stem : answer.after.stem = numbering.stem)
      (longer : answer.after.given = numbering.given ++ [(key, answer.name)])

/-! ## The table -/

private theorem length_given (numbering : Numbering κ) : numbering.given.length = numbering.size := by
  simp [given, size]

private theorem mem_given_iff {numbering : Numbering κ} {key : κ} {name : String} : (key, name) ∈ numbering.given ↔
    ∃ index, numbering.keys[index]? = some key ∧ name = numbering.stem ++ (index + 1).repr := by
  simp only [given, List.mem_map, Prod.exists, Prod.mk.injEq, List.mk_mem_zipIdx_iff_getElem?]
  constructor
  · rintro ⟨_, index, found, rfl, rfl⟩
    exact ⟨index, found, rfl⟩
  · rintro ⟨index, found, rfl⟩
    exact ⟨key, index, found, rfl, rfl⟩

/-- No name is given to two bindings. -/
theorem eq_of_mem_given {numbering : Numbering κ} {key other : κ} {name : String}
    (first : (key, name) ∈ numbering.given) (second : (other, name) ∈ numbering.given) : key = other := by
  obtain ⟨index, found, named⟩ := mem_given_iff.mp first
  obtain ⟨place, placed, same⟩ := mem_given_iff.mp second
  have numbers : index + 1 = place + 1 := Nat.repr_inj.mp (String.append_right_inj _ |>.mp (named.symm.trans same))
  rw [Nat.add_right_cancel numbers, placed] at found
  exact (Option.some.inj found).symm

variable [DecidableEq κ]

/-- A known key keeps its name, and a new one gets the next number. -/
theorem assign_answers (numbering : Numbering κ) (key : κ) : numbering.Answers key (numbering.assign key) := by
  by_cases known : key ∈ numbering.keys
  · refine .known (mem_given_iff.mpr ⟨_, List.getElem?_idxOf known, rfl⟩) ?_ ?_ <;> simp [assign, known]
  · have named : (numbering.assign key).name = numbering.stem ++ (numbering.size + 1).repr := by
      simp [assign, known, number, size]
    refine .fresh (fun name found => ?_) (decide_eq_true known) named (numbering.stem_assign key) ?_
    · obtain ⟨index, found, -⟩ := mem_given_iff.mp found
      exact known (List.mem_of_getElem? found)
    · rw [named]
      simp [given, known, List.zipIdx_append, size]

/-- The answer to a call stands in the table afterwards. -/
theorem mem_given_assign (numbering : Numbering κ) (key : κ) :
    (key, (numbering.assign key).name) ∈ (numbering.assign key).after.given := by
  cases numbering.assign_answers key with
  | known found isNew same => rwa [same]
  | fresh unknown isNew named stem longer => simp [longer]

/-! ## Runs of calls -/

/-- The answers to calls for some bindings, in the order of the calls. -/
def assignAll (numbering : Numbering κ) : List κ → List (Assigned κ)
  | [] => []
  | key :: rest => numbering.assign key :: (numbering.assign key).after.assignAll rest

/-- The numbering after calls for some bindings. -/
def afterAll (numbering : Numbering κ) : List κ → Numbering κ
  | [] => numbering
  | key :: rest => (numbering.assign key).after.afterAll rest

private theorem afterAll_concat (numbering : Numbering κ) (keys : List κ) (key : κ) :
    numbering.afterAll (keys ++ [key]) = ((numbering.afterAll keys).assign key).after := by
  induction keys generalizing numbering with
  | nil => rfl
  | cons first rest ih => exact ih _

/-- Each call is answered by the numbering that the calls before it leave. -/
theorem getElem?_assignAll (numbering : Numbering κ) (keys : List κ) (index : Nat) :
    (numbering.assignAll keys)[index]? = keys[index]?.map (numbering.afterAll (keys.take index)).assign := by
  induction keys generalizing numbering index with
  | nil => rfl
  | cons first rest ih =>
    cases index with
    | zero => rfl
    | succ index => exact ih _ index

/-- How many distinct bindings are asked for before the first call for `key`. -/
def earlier (keys : List κ) (key : κ) : Nat :=
  (keys.takeWhile (· ≠ key)).toFinset.card

private theorem earlier_append {keys : List κ} {key : κ} (member : key ∈ keys) (rest : List κ) :
    earlier (keys ++ rest) key = earlier keys key := by
  have stopped : (keys.takeWhile (· ≠ key)).length ≠ keys.length := by
    intro whole
    have all := List.takeWhile_eq_self_iff.mp ((List.takeWhile_prefix _).eq_of_length whole) key member
    simp at all
  rw [earlier, earlier, List.takeWhile_append, if_neg stopped]

private theorem earlier_concat {keys : List κ} {key : κ} (unknown : key ∉ keys) :
    earlier (keys ++ [key]) key = keys.toFinset.card := by
  have others : ∀ other ∈ keys, decide (other ≠ key) = true := by
    intro other member
    exact decide_eq_true (ne_of_mem_of_not_mem member unknown)
  rw [earlier, List.takeWhile_append_of_pos others]
  simp

/-- What a numbering knows after calls for some bindings. -/
structure Counted (stem : String) (keys : List κ) (numbering : Numbering κ) : Prop where
  stem_eq : numbering.stem = stem
  size_eq : numbering.size = keys.toFinset.card
  mem_given {key : κ} {name : String} :
    (key, name) ∈ numbering.given ↔ key ∈ keys ∧ name = stem ++ (1 + earlier keys key).repr

variable {stem : String} {keys : List κ} {numbering : Numbering κ}

private theorem counted_empty (stem : String) : Counted stem ([] : List κ) (.empty stem) where
  stem_eq := rfl
  size_eq := rfl
  mem_given := by simp [given, empty]

/-- The bindings that have a name are those that were asked for. -/
theorem Counted.exists_given_iff (counted : Counted stem keys numbering) {key : κ} :
    (∃ name, (key, name) ∈ numbering.given) ↔ key ∈ keys := by
  simp [counted.mem_given]

/-- One more call counts on. -/
theorem Counted.assign (counted : Counted stem keys numbering) (key : κ) :
    Counted stem (keys ++ [key]) (numbering.assign key).after := by
  cases numbering.assign_answers key with
  | known found isNew same =>
    have member := counted.exists_given_iff.mp ⟨_, found⟩
    have asked (other : κ) : other ∈ keys ++ [key] ↔ other ∈ keys := by
      simp only [List.mem_append, List.mem_singleton, or_iff_left_iff_imp]
      rintro rfl
      exact member
    rw [same]
    refine ⟨counted.stem_eq, ?_, fun {other name} => ?_⟩
    · rw [counted.size_eq]
      congr 1
      ext other
      rw [List.mem_toFinset, List.mem_toFinset, asked]
    · rw [counted.mem_given, asked]
      refine and_congr_right fun used => ?_
      rw [earlier_append used]
  | fresh unknown isNew named stem_eq longer =>
    have absent : key ∉ keys := fun member => by
      obtain ⟨name, found⟩ := counted.exists_given_iff.mpr member
      exact unknown name found
    refine ⟨stem_eq.trans counted.stem_eq, ?_, fun {other name} => ?_⟩
    · have apart : Disjoint keys.toFinset [key].toFinset := by simpa using absent
      rw [← length_given, longer, List.length_append, length_given, counted.size_eq, List.toFinset_append,
        Finset.card_union_of_disjoint apart]
      rfl
    · rw [longer, named, List.mem_append, List.mem_append, counted.mem_given, counted.stem_eq, counted.size_eq]
      by_cases own : other = key
      · subst own
        simp [absent, earlier_concat absent, Nat.add_comm]
      · have others : (other ∈ keys ∧ name = stem ++ (1 + earlier (keys ++ [key]) other).repr) ↔
            other ∈ keys ∧ name = stem ++ (1 + earlier keys other).repr :=
          and_congr_right fun used => by rw [earlier_append used]
        simpa [own] using others.symm

/-- After any calls, a key has one number more than there are different keys called for before it. -/
theorem counted_afterAll (stem : String) (keys : List κ) : Counted stem keys ((empty stem).afterAll keys) := by
  induction keys using List.reverseRecOn with
  | nil => exact counted_empty stem
  | append_singleton keys key ih =>
    rw [afterAll_concat]
    exact ih.assign key

/-- The names given along a run of calls on a new numbering, and how many it holds after each of them. -/
structure CountsFirstUses (stem : String) (keys : List κ) : Prop where
  /-- Every call is answered, and as new exactly if none before was for the same binding. -/
  answered (index : Nat) (key : κ) (called : keys[index]? = some key) :
    ∃ answer, ((empty stem).assignAll keys)[index]? = some answer ∧
      answer.name = stem ++ (1 + earlier keys key).repr ∧ (answer.isNew = true ↔ key ∉ keys.take index)
  size (count : Nat) : ((empty stem).afterAll (keys.take count)).size = (keys.take count).toFinset.card
  names {first second : Nat} {key other : κ} {answer another : Assigned κ} (called : keys[first]? = some key)
    (calledToo : keys[second]? = some other) (answered : ((empty stem).assignAll keys)[first]? = some answer)
    (answeredToo : ((empty stem).assignAll keys)[second]? = some another) : answer.name = another.name ↔ key = other

/-- The call behind some others is answered with the number of its binding, as new if none of them was for it. -/
theorem Counted.answered (counted : Counted stem keys numbering) (key : κ) :
    (numbering.assign key).name = stem ++ (1 + earlier (keys ++ [key]) key).repr ∧
      ((numbering.assign key).isNew = true ↔ key ∉ keys) := by
  constructor
  · exact ((counted.assign key).mem_given.mp (numbering.mem_given_assign key)).2
  · rw [← counted.exists_given_iff]
    cases numbering.assign_answers key with
    | known found isNew same => simpa [isNew] using ⟨_, found⟩
    | fresh unknown isNew named stem longer => simpa [isNew] using unknown

private theorem answered_at (stem : String) {keys : List κ} {index : Nat} {key : κ} (called : keys[index]? = some key) :
    ∃ answer, ((empty stem).assignAll keys)[index]? = some answer ∧
      answer.name = stem ++ (1 + earlier keys key).repr ∧ (answer.isNew = true ↔ key ∉ keys.take index) := by
  obtain ⟨named, isNew⟩ := (counted_afterAll stem (keys.take index)).answered key
  refine ⟨_, by rw [getElem?_assignAll, called, Option.map_some], ?_, isNew⟩
  have whole : (keys.take index ++ [key]) ++ keys.drop (index + 1) = keys := by
    rw [← Option.toList_some (a := key), ← called, ← List.take_add_one, List.take_append_drop]
  rw [named, ← earlier_append (by simp) (keys.drop (index + 1)), whole]

private theorem exists_number {answer : Assigned κ} (member : answer ∈ (empty stem).assignAll keys) :
    ∃ number : Nat, answer.name = stem ++ number.repr := by
  obtain ⟨index, given⟩ := List.mem_iff_getElem?.mp member
  have answered := given
  rw [getElem?_assignAll] at answered
  obtain ⟨key, called, -⟩ := Option.map_eq_some_iff.mp answered
  obtain ⟨_, same, named, -⟩ := answered_at stem called
  rw [given] at same
  exact ⟨_, Option.some.inj same ▸ named⟩

/-- Two calls get the same name exactly if they are for the same binding. -/
theorem name_eq_iff (stem : String) {keys : List κ} {first second : Nat} {key other : κ} {answer another : Assigned κ}
    (called : keys[first]? = some key) (calledToo : keys[second]? = some other)
    (answered : ((empty stem).assignAll keys)[first]? = some answer)
    (answeredToo : ((empty stem).assignAll keys)[second]? = some another) :
    answer.name = another.name ↔ key = other := by
  obtain ⟨_, same, named, -⟩ := answered_at stem called
  obtain ⟨_, sameToo, namedToo, -⟩ := answered_at stem calledToo
  rw [Option.some.inj (answered.symm.trans same), Option.some.inj (answeredToo.symm.trans sameToo), named, namedToo]
  constructor
  · intro equal
    -- Both bindings have their name in the table that all calls leave.
    have counted := counted_afterAll stem keys
    exact eq_of_mem_given (counted.mem_given.mpr ⟨List.mem_of_getElem? called, rfl⟩)
      (counted.mem_given.mpr ⟨List.mem_of_getElem? calledToo, equal⟩)
  · rintro rfl
    rfl

/-- Every numbering counts bindings by their first use, and no motor of one sort is named like one of the other. -/
theorem countsFirstUses {ν : Type} [DecidableEq ν] (stem : String) (keys : List κ) (actuators : List κ)
    (stepMotors : List ν) : CountsFirstUses stem keys ∧
      ∀ actuator ∈ (empty Wiring.actuatorStem).assignAll actuators,
        ∀ stepMotor ∈ (empty Wiring.stepMotorStem).assignAll stepMotors, actuator.name ≠ stepMotor.name := by
  refine ⟨⟨fun _ _ => answered_at stem, fun count => (counted_afterAll stem (keys.take count)).size_eq,
    name_eq_iff stem⟩, ?_⟩
  intro actuator given stepMotor givenToo same
  obtain ⟨number, named⟩ := exists_number given
  obtain ⟨other, namedToo⟩ := exists_number givenToo
  rw [named, namedToo] at same
  exact Wiring.actuatorStem_append_ne _ _ same

end Numbering

end Breadboard
