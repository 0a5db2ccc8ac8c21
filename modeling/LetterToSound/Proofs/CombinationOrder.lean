import LetterToSound.Proofs.ModesAgree
import Mathlib.Tactic.Ring

namespace LetterToSound

/-- Writes one more digit, given with its base, behind a number. -/
def withDigit (number : Nat) (place : Nat × Nat) : Nat := number * place.1 + place.2

/-- The number that digits write where each of them has a base of its own. -/
def mixedRadix (bases digits : List Nat) : Nat := (bases.zip digits).foldl withDigit 0

/-- What stands in front of some digits counts as often as their bases multiply to. -/
theorem foldl_with_digit (places : List (Nat × Nat)) (front : Nat) :
    places.foldl withDigit front =
      front * (places.map Prod.fst).prod + places.foldl withDigit 0 := by
  induction places generalizing front with
  | nil => simp
  | cons place places ih =>
    simp only [List.foldl_cons, List.map_cons, List.prod_cons]
    rw [ih, ih (withDigit 0 place)]
    simp only [withDigit]
    ring

theorem mixed_radix_cons {bases digits : List Nat} (h : bases.length = digits.length)
    (base digit : Nat) :
    mixedRadix (base :: bases) (digit :: digits) =
      digit * bases.prod + mixedRadix bases digits := by
  have hb : (bases.zip digits).map Prod.fst = bases := List.map_fst_zip (Nat.le_of_eq h)
  rw [mixedRadix, List.zip_cons_cons, List.foldl_cons, foldl_with_digit, hb]
  simp only [withDigit, Nat.zero_mul, Nat.zero_add, mixedRadix]

/-- One index for each segment, in its range. -/
def Selects (segments : List (List Text)) (indices : List Nat) : Prop :=
  List.Forall₂ (fun alternatives index => index < alternatives.length) segments indices

/-- The alternatives that stand at the indices. -/
inductive Picks : List (List Text) → List Nat → List Text → Prop
  | nil : Picks [] [] []
  | cons {alternatives : List Text} {segments : List (List Text)} {index : Nat}
      {indices : List Nat} {chosen : Text} {parts : List Text}
      (here : alternatives[index]? = some chosen) (rest : Picks segments indices parts) :
      Picks (alternatives :: segments) (index :: indices) (chosen :: parts)

section

variable {segments : List (List Text)} {indices : List Nat} {parts : List Text}

theorem Selects.length_eq (h : Selects segments indices) :
    (segments.map List.length).length = indices.length := by
  rw [List.length_map]
  exact List.Forall₂.length_eq h

theorem Selects.exists_picks (h : Selects segments indices) :
    ∃ parts, Picks segments indices parts := by
  induction h with
  | nil => exact ⟨[], .nil⟩
  | cons here _ ih =>
    obtain ⟨parts, hp⟩ := ih
    exact ⟨_, .cons (List.getElem?_eq_getElem here) hp⟩

theorem Picks.selects (h : Picks segments indices parts) : Selects segments indices := by
  induction h with
  | nil => exact .nil
  | cons here _ ih => exact .cons (List.getElem?_eq_some_iff.mp here).1 ih

theorem Picks.parts_ne_nil (h : Picks segments indices parts) (hs : segments ≠ []) :
    parts ≠ [] := by
  cases h with
  | nil => exact absurd rfl hs
  | cons _ _ => simp

/-- Rows of equal length one after the other: a place is found by its row and its place there. -/
theorem get_flat_map {α β γ : Type} {f : α → β → γ} {xs : List α} {ys : List β} {i j : Nat}
    {x : α} {y : β} (hx : xs[i]? = some x) (hy : ys[j]? = some y) :
    (xs.flatMap fun x => ys.map (f x))[i * ys.length + j]? = some (f x y) := by
  induction xs generalizing i with
  | nil => cases hx
  | cons first xs ih =>
    rw [List.flatMap_cons]
    cases i with
    | zero =>
      cases hx
      have hj : j < ys.length := (List.getElem?_eq_some_iff.mp hy).1
      rw [Nat.zero_mul, Nat.zero_add, List.getElem?_append_left (by simpa using hj)]
      simp [hy]
    | succ i =>
      have hr : (i + 1) * ys.length + j = (ys.map (f first)).length + (i * ys.length + j) := by
        rw [List.length_map]
        ring
      rw [hr, List.getElem?_append_right (Nat.le_add_right _ _), Nat.add_sub_cancel_left]
      exact ih hx

theorem Picks.combination (h : Picks segments indices parts) (hs : segments ≠ []) :
    (combinations segments)[mixedRadix (segments.map List.length) indices]? =
      some (spaced parts) := by
  induction h with
  | nil => exact absurd rfl hs
  | @cons alternatives segments index indices chosen parts here rest ih =>
    by_cases hn : segments = []
    · subst hn
      cases rest
      simp [combinations, mixedRadix, withDigit, spaced, here]
    · rw [combinations_cons hn, List.map_cons, mixed_radix_cons rest.selects.length_eq,
        ← length_combinations hn, spaced_cons (rest.parts_ne_nil hn)]
      exact get_flat_map here (ih hn)

theorem Selects.lt (h : Selects segments indices) :
    mixedRadix (segments.map List.length) indices < (segments.map List.length).prod := by
  induction h with
  | nil => simp [mixedRadix]
  | @cons alternatives index segments indices here rest ih =>
    rw [List.map_cons, mixed_radix_cons (Selects.length_eq rest), List.prod_cons]
    have hm := Nat.mul_le_mul_right (segments.map List.length).prod (Nat.succ_le_of_lt here)
    rw [Nat.succ_mul] at hm
    omega

theorem exists_unique_selects {position : Nat}
    (h : position < (segments.map List.length).prod) :
    ∃! indices, Selects segments indices ∧
      mixedRadix (segments.map List.length) indices = position := by
  induction segments generalizing position with
  | nil =>
    refine ⟨[], ⟨.nil, ?_⟩, ?_⟩
    · simp at h
      simp [mixedRadix, h]
    · rintro other ⟨⟨⟩, _⟩
      rfl
  | cons alternatives segments ih =>
    rw [List.map_cons, List.prod_cons] at h
    have hpos : 0 < (segments.map List.length).prod :=
      Nat.pos_of_ne_zero fun hz => by simp [hz] at h
    obtain ⟨indices, ⟨hs, hr⟩, hu⟩ := ih (Nat.mod_lt position hpos)
    refine ⟨_ :: indices, ⟨.cons ((Nat.div_lt_iff_lt_mul hpos).mpr h) hs, ?_⟩, ?_⟩
    · rw [List.map_cons, mixed_radix_cons hs.length_eq, hr]
      exact Nat.div_add_mod' _ _
    · rintro other ⟨ho, hn⟩
      cases ho with
      | @cons _ index _ rest here hrest =>
        rw [List.map_cons, mixed_radix_cons (Selects.length_eq hrest), Nat.add_comm,
          Nat.mul_comm] at hn
        -- The first index is the quotient by the size of a row, and the others write the rest.
        obtain ⟨hdiv, hmod⟩ := (Nat.div_mod_unique hpos).mpr ⟨hn, Selects.lt hrest⟩
        rw [hdiv, hu rest ⟨hrest, hmod.symm⟩]

end

/-- There are as many combinations as the lengths of the segments multiply to. What indices choose
stands at the number that they write, and every place is the number of one choice. -/
theorem combinations_in_order {segments : List (List Text)} (h : segments ≠ []) :
    (combinations segments).length = (segments.map List.length).prod ∧
    (∀ indices, Selects segments indices → ∃ parts, Picks segments indices parts ∧
      (combinations segments)[mixedRadix (segments.map List.length) indices]? =
        some (spaced parts)) ∧
    ∀ position < (combinations segments).length, ∃! indices, Selects segments indices ∧
      mixedRadix (segments.map List.length) indices = position := by
  refine ⟨length_combinations h, fun indices hs => ?_, fun position hp => ?_⟩
  · obtain ⟨parts, hp⟩ := hs.exists_picks
    exact ⟨parts, hp, hp.combination h⟩
  · rw [length_combinations h] at hp
    exact exists_unique_selects hp

theorem combinations_in_order_of_three :
    let segments : List (List Text) := [["a", "b"], ["c"], ["d", "e", "f"]]
    segments ≠ [] ∧ (combinations segments).length = 6 ∧ Selects segments [1, 0, 2] ∧
      (combinations segments)[(1 * 1 + 0) * 3 + 2]? = some "b c f".toList ∧
      ∃! indices, Selects segments indices ∧ mixedRadix [2, 1, 3] indices = 4 := by
  intro segments
  have hn : segments ≠ [] := List.cons_ne_nil _ _
  have hs : Selects segments [1, 0, 2] := by simp [Selects, segments]
  obtain ⟨hl, hc, hu⟩ := combinations_in_order hn
  obtain ⟨parts, hp, hat⟩ := hc _ hs
  dsimp only [segments] at hp
  obtain _ | ⟨⟨⟩, _ | ⟨⟨⟩, _ | ⟨⟨⟩, ⟨⟩⟩⟩⟩ := hp
  have hfour : 4 < (combinations segments).length := by
    rw [hl]
    decide
  exact ⟨hn, hl, hs, hat, hu 4 hfour⟩

end LetterToSound
