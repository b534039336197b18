import Breadboard.Text.Lowercase
import Mathlib.Data.List.Basic

/-! # Letters A to Z in any case

The lowercase mapping of a text looks at more than the letters A to Z, but it does not see whether one of these is
written as a capital: `Text.lowercase_eq_of_lowercaseAscii_eq`. So texts that differ in the case of such letters only
are one key, one directive and one keyword.
-/

namespace Breadboard.Text

def capitals : List Char :=
  "ABCDEFGHIJKLMNOPQRSTUVWXYZ".toList

private theorem toLower_eq_self_or_mem (c : Char) : c.toLower = c ∨ c ∈ capitals := by
  by_cases capital : c.val ≥ 'A'.val ∧ c.val ≤ 'Z'.val
  · have known : ∀ index : Fin 26, Char.ofNat (65 + index) ∈ capitals := by decide +kernel
    obtain ⟨low, high⟩ := capital
    have low : 65 ≤ c.toNat := low
    have high : c.toNat ≤ 90 := high
    have member := known ⟨c.toNat - 65, by omega⟩
    rw [Nat.add_sub_cancel' low, Char.ofNat_toNat] at member
    exact .inr member
  · exact .inl (dif_neg capital)

private theorem isCased_toLower (c : Char) : isCased c.toLower = isCased c := by
  have letters : capitals.all (fun c => isCased c.toLower = isCased c) = true := by decide +kernel
  rcases toLower_eq_self_or_mem c with same | capital
  · rw [same]
  · exact of_decide_eq_true (List.all_eq_true.mp letters c capital)

private theorem isCaseIgnorable_toLower (c : Char) : isCaseIgnorable c.toLower = isCaseIgnorable c := by
  have letters : capitals.all (fun c => isCaseIgnorable c.toLower = isCaseIgnorable c) = true := by decide +kernel
  rcases toLower_eq_self_or_mem c with same | capital
  · rw [same]
  · exact of_decide_eq_true (List.all_eq_true.mp letters c capital)

private theorem startsCased_map_toLower (text : List Char) :
    startsCased (text.map Char.toLower) = startsCased text := by
  induction text with
  | nil => rfl
  | cons c rest ih =>
    simp only [startsCased, List.map_cons, List.dropWhile_cons, isCaseIgnorable_toLower] at ih ⊢
    cases isCaseIgnorable c with
    | true => exact ih
    | false => exact isCased_toLower c

/-- A capital letter has the lowercase form of the small one, whatever stands around it. -/
theorem lowercaseChar_toLower (before : List Char) (c : Char) (after : List Char) :
    lowercaseChar (before.map Char.toLower) c.toLower (after.map Char.toLower) = lowercaseChar before c after := by
  have letters : capitals.all (fun c => c ≠ 'Σ' ∧ c ≠ 'İ' ∧ c.toLower ≠ 'Σ' ∧ c.toLower ≠ 'İ' ∧
      lowercaseCode lowercaseRuns c.toLower.toNat = lowercaseCode lowercaseRuns c.toNat) = true := by decide +kernel
  simp only [lowercaseChar, startsCased_map_toLower]
  rcases toLower_eq_self_or_mem c with same | capital
  · rw [same]
  · obtain ⟨sigma, dotted, smallSigma, smallDotted, code⟩ := of_decide_eq_true (List.all_eq_true.mp letters c capital)
    simp only [sigma, dotted, smallSigma, smallDotted, if_false, code]

private theorem lowercaseFrom_map_toLower (before text : List Char) :
    lowercaseFrom (before.map Char.toLower) (text.map Char.toLower) = lowercaseFrom before text := by
  induction text generalizing before with
  | nil => rfl
  | cons c rest ih => rw [List.map_cons, lowercaseFrom, lowercaseFrom, lowercaseChar_toLower, ← List.map_cons, ih]

/-- Lowering the ASCII letters first makes no difference to lowering all of them. -/
theorem lowercase_lowercaseAscii (text : String) : lowercase (lowercaseAscii text) = lowercase text := by
  rw [lowercase, lowercase, toList_lowercaseAscii]
  exact congrArg String.ofList (lowercaseFrom_map_toLower [] text.toList)

/-- Texts that agree up to the case of ASCII letters agree in lower case. -/
theorem lowercase_eq_of_lowercaseAscii_eq {text other : String} (same : lowercaseAscii text = lowercaseAscii other) :
    lowercase text = lowercase other := by
  rw [← lowercase_lowercaseAscii text, same, lowercase_lowercaseAscii]

end Breadboard.Text
