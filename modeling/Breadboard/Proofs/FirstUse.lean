import Breadboard.Program.Wiring
import Mathlib.Data.List.Basic
import Mathlib.Data.List.Induction

/-! # First users

`firstUsers` picks from a list the items whose key no item before them has. Their keys are the distinct keys in
order of first occurrence, and that order is what a `Numbering` counts: asked for one binding after the other, it
knows the distinct ones and numbers each by its rank among them.
-/

namespace Breadboard

section Distinct

variable {κ : Type} [BEq κ] [LawfulBEq κ]

private theorem eraseDups_concat (keys : List κ) (key : κ) :
    (keys ++ [key]).eraseDups = if key ∈ keys then keys.eraseDups else keys.eraseDups ++ [key] := by
  rw [List.eraseDups_append]
  split <;> simp_all [List.removeAll, List.eraseDups_cons]

/-- The first occurrences are distinct. -/
theorem nodup_eraseDups (keys : List κ) : keys.eraseDups.Nodup := by
  induction keys using List.reverseRecOn with
  | nil => exact List.nodup_nil
  | append_singleton keys key ih =>
    rw [eraseDups_concat]
    split
    · exact ih
    · exact List.nodup_append.mpr ⟨ih, by simp, by grind [List.mem_eraseDups]⟩

/-- A list of distinct keys after one more use, which may have no key. -/
def appendNew (keys : List κ) : Option κ → List κ
  | none => keys
  | some key => if key ∈ keys then keys else keys ++ [key]

/-- One key more at the end adds itself to the first occurrences, if it is new. -/
theorem appendNew_eraseDups (keys : List κ) (key : κ) :
    appendNew keys.eraseDups (some key) = (keys ++ [key]).eraseDups := by
  rw [eraseDups_concat, appendNew]
  simp only [List.mem_eraseDups]

/-- One item more at the end adds its key to the first occurrences, if it has a new one. -/
theorem eraseDups_filterMap_concat {α : Type} (key? : α → Option κ) (items : List α) (item : α) :
    ((items ++ [item]).filterMap key?).eraseDups = appendNew (items.filterMap key?).eraseDups (key? item) := by
  rw [List.filterMap_append]
  cases found : key? item with
  | none => simp [found, appendNew]
  | some key =>
    have single : [item].filterMap key? = [key] := by simp [found]
    rw [single, appendNew_eraseDups]

/-- A key is ranked by what stands before its first occurrence, whatever follows. -/
theorem idxOf_eraseDups_append_cons (keys : List κ) (key : κ) (rest : List κ) :
    (keys ++ key :: rest).eraseDups.idxOf key = keys.eraseDups.idxOf key := by
  have split : keys ++ key :: rest = (keys ++ [key]) ++ rest := by simp
  rw [split, List.eraseDups_append, List.idxOf_append_of_mem (by simp [List.mem_eraseDups]), eraseDups_concat]
  split
  · rfl
  next unknown =>
    have absent : key ∉ keys.eraseDups := fun member => unknown (List.mem_eraseDups.mp member)
    rw [List.idxOf_append_of_notMem absent, List.idxOf_eq_length absent]
    simp

/-- Renaming keys apart renames their first occurrences. -/
theorem eraseDups_map {ν : Type} [BEq ν] [LawfulBEq ν] {f : κ → ν} (injective : Function.Injective f) (keys : List κ) :
    (keys.map f).eraseDups = keys.eraseDups.map f := by
  induction keys using List.reverseRecOn with
  | nil => rfl
  | append_singleton keys key ih =>
    have same : f key ∈ keys.map f ↔ key ∈ keys := List.mem_map_of_injective injective
    rw [List.map_append, List.map_cons, List.map_nil, eraseDups_concat, eraseDups_concat, ih]
    by_cases known : key ∈ keys
    · rw [if_pos known, if_pos (same.mpr known)]
    · rw [if_neg known, if_neg (fun member => known (same.mp member)), List.map_append, List.map_cons, List.map_nil]

/-- Renaming keys apart leaves each at its index. -/
theorem idxOf_map {ν : Type} [BEq ν] [LawfulBEq ν] {f : κ → ν} (injective : Function.Injective f) (keys : List κ) (key : κ) :
    (keys.map f).idxOf (f key) = keys.idxOf key := by
  induction keys with
  | nil => rfl
  | cons head rest ih =>
    have same : (f head == f key) = (head == key) := by simp [injective.eq_iff]
    simp only [List.map_cons, List.idxOf_cons, ih, same]

end Distinct

section FirstUsers

variable {α κ : Type} [DecidableEq κ]

/-- The items whose key no item before them has, in order. Items without a key are left out. -/
def firstUsers (key? : α → Option κ) (items : List α) : List α :=
  (items.zipIdx.filter fun (item, position) =>
    (key? item).isSome && key? item ∉ (items.take position).map key?).map Prod.fst

/-- One item more at the end is the first user of its key, or no first user at all. -/
theorem firstUsers_concat (key? : α → Option κ) (items : List α) (item : α) :
    firstUsers key? (items ++ [item]) =
      firstUsers key? items ++ if (key? item).isSome && key? item ∉ items.map key? then [item] else [] := by
  have same : (items.zipIdx.filter fun (earlier, position) =>
      (key? earlier).isSome && key? earlier ∉ ((items ++ [item]).take position).map key?) =
      items.zipIdx.filter fun (earlier, position) =>
        (key? earlier).isSome && key? earlier ∉ (items.take position).map key? := by
    apply List.filter_congr
    rintro ⟨earlier, position⟩ member
    have bound := (List.mem_zipIdx member).2.1
    dsimp only
    rw [List.take_append_of_le_length (by omega)]
  rw [firstUsers, List.zipIdx_append, List.filter_append, List.map_append, same]
  simp only [firstUsers, List.zipIdx_cons, List.zipIdx_nil, List.filter_cons, List.filter_nil, Nat.zero_add,
    List.take_left]
  split <;> rfl

/-- A first user has a key. -/
theorem isSome_of_mem_firstUsers {key? : α → Option κ} {items : List α} {item : α}
    (member : item ∈ firstUsers key? items) : (key? item).isSome = true := by
  obtain ⟨⟨_, _⟩, found, rfl⟩ := List.mem_map.mp member
  exact (Bool.and_eq_true_iff.mp (List.mem_filter.mp found).2).1

/-- The first users are among the items. -/
theorem mem_of_mem_firstUsers {key? : α → Option κ} {items : List α} {item : α}
    (member : item ∈ firstUsers key? items) : item ∈ items := by
  obtain ⟨⟨_, _⟩, found, rfl⟩ := List.mem_map.mp member
  exact List.fst_mem_of_mem_zipIdx (List.mem_filter.mp found).1

/-- The first users have the distinct keys, in order of first occurrence. -/
theorem filterMap_firstUsers (key? : α → Option κ) (items : List α) :
    (firstUsers key? items).filterMap key? = (items.filterMap key?).eraseDups := by
  induction items using List.reverseRecOn with
  | nil => rfl
  | append_singleton items item ih =>
    rw [firstUsers_concat, List.filterMap_append, ih, List.filterMap_append]
    cases found : key? item with
    | none => simp [found]
    | some key =>
      have known : some key ∈ items.map key? ↔ key ∈ items.filterMap key? := by simp
      simp only [List.filterMap_cons, List.filterMap_nil, found, eraseDups_concat, known]
      split <;> simp_all

/-- The first user of a key is the first item that has it. -/
theorem filter_firstUsers (key? : α → Option κ) (items : List α) (key : κ) :
    (firstUsers key? items).filter (fun item => key? item = some key) =
      (items.find? fun item => key? item = some key).toList := by
  induction items using List.reverseRecOn with
  | nil => rfl
  | append_singleton items item ih =>
    rw [firstUsers_concat, List.filter_append, ih, List.find?_append]
    by_cases own : key? item = some key
    · have known : some key ∈ items.map key? ↔ (items.find? fun item => key? item = some key).isSome := by simp
      simp only [own, Option.isSome_some, Bool.true_and, known]
      cases items.find? fun item => key? item = some key <;> simp [own]
    · split <;> simp [own]

/-- An item whose key is known before it may be left out. -/
theorem firstUsers_of_known {key? : α → Option κ} {before behind : List α} {item : α}
    (known : ∀ key, key? item = some key → ∃ earlier ∈ before, key? earlier = some key) :
    firstUsers key? (before ++ item :: behind) = firstUsers key? (before ++ behind) := by
  induction behind using List.reverseRecOn with
  | nil =>
    rw [firstUsers_concat, List.append_nil, if_neg, List.append_nil]
    cases keyed : key? item with
    | none => simp
    | some key => simpa using known key keyed
  | append_singleton behind last ih =>
    -- An item further behind finds the key of the one left out before it all the same.
    have regroup : before ++ item :: (behind ++ [last]) = (before ++ item :: behind) ++ [last] := by simp
    rw [regroup, firstUsers_concat, ih, ← List.append_assoc, firstUsers_concat]
    cases keyed : key? last with
    | none => simp
    | some key =>
      have same : some key ∈ (before ++ item :: behind).map key? ↔ some key ∈ (before ++ behind).map key? := by
        have earlier : key? item = some key → ∃ earlier ∈ before, key? earlier = some key := known key
        simp only [List.map_append, List.map_cons, List.mem_append, List.mem_cons, List.mem_map]
        grind
      simp only [same]

/-- Keys that are told apart alike have the same first users. -/
theorem firstUsers_map {ν : Type} [DecidableEq ν] {f : κ → ν} (injective : Function.Injective f) (key? : α → Option κ)
    (items : List α) : firstUsers (fun item => (key? item).map f) items = firstUsers key? items := by
  induction items using List.reverseRecOn with
  | nil => rfl
  | append_singleton items item ih =>
    have same : (key? item).map f ∈ items.map (fun item => (key? item).map f) ↔ key? item ∈ items.map key? := by
      have split : items.map (fun item => (key? item).map f) = (items.map key?).map (Option.map f) := by simp
      rw [split]
      exact List.mem_map_of_injective (Option.map_injective injective)
    simp only [firstUsers_concat, ih, same, Option.isSome_map]

/-- Items that come from others have the same first users as those they come from. -/
theorem firstUsers_filterMap {β : Type} (of? : β → Option α) (key? : α → Option κ) (sources : List β) :
    firstUsers key? (sources.filterMap of?) =
      (firstUsers (fun source => (of? source).bind key?) sources).filterMap of? := by
  induction sources using List.reverseRecOn with
  | nil => rfl
  | append_singleton sources source ih =>
    rw [firstUsers_concat, List.filterMap_append, List.filterMap_append, ← ih]
    cases found : of? source with
    | none => simp [found]
    | some item =>
      have single : [source].filterMap of? = [item] := by simp [found]
      have known (key : κ) : some key ∈ (sources.filterMap of?).map key? ↔
          some key ∈ sources.map fun source => (of? source).bind key? := by
        simp [Option.bind_eq_some_iff]
        grind
      rw [single, firstUsers_concat]
      cases keyed : key? item with
      | none => simp [keyed]
      | some key =>
        simp only [keyed, known, Option.bind_some]
        split <;> simp [found]

/-- The first users among items that are made are made of the first users among their sources. -/
theorem firstUsers_of_map {β : Type} (make : β → α) (key? : α → Option κ) (sources : List β) :
    firstUsers key? (sources.map make) = (firstUsers (fun source => key? (make source)) sources).map make := by
  have made := firstUsers_filterMap (some ∘ make) key? sources
  rwa [List.filterMap_eq_map] at made

/-- Where keys do not repeat, an item is found by its key alone. -/
theorem filter_eq_singleton {key? : α → Option κ} {items : List α} (distinct : (items.filterMap key?).Nodup)
    {item : α} (member : item ∈ items) {key : κ} (keyed : key? item = some key) :
    items.filter (fun other => key? other = some key) = [item] := by
  induction items with
  | nil => cases member
  | cons head rest ih =>
    rcases List.mem_cons.mp member with rfl | later
    · rw [List.filterMap_cons_some keyed] at distinct
      have alone : rest.filter (fun other => key? other = some key) = [] := by
        apply List.filter_eq_nil_iff.mpr
        intro other present same
        exact (List.nodup_cons.mp distinct).1 (List.mem_filterMap.mpr ⟨other, present, of_decide_eq_true same⟩)
      rw [List.filter_cons, if_pos (decide_eq_true keyed), alone]
    · have differ : key? head ≠ some key := by
        intro same
        rw [List.filterMap_cons_some same] at distinct
        exact (List.nodup_cons.mp distinct).1 (List.mem_filterMap.mpr ⟨item, later, keyed⟩)
      have tail : (rest.filterMap key?).Nodup :=
        distinct.sublist ((List.sublist_cons_self head rest).filterMap key?)
      rw [List.filter_cons, if_neg (by simpa using differ), ih tail later]

end FirstUsers

end Breadboard
