import LetterToSound.Proofs.TextLines
import LetterToSound.Rules.Book
import Mathlib.Data.List.DropRight

namespace LetterToSound

namespace Text

theorem trim_eq_rdrop (t : Text) : t.trim = (t.dropWhile isBlank).rdropWhile isBlank := rfl

theorem trim_begins (t : Text) : t.trim <+: t.dropWhile isBlank := List.rdropWhile_prefix _ _

theorem mem_of_mem_trim {t : Text} {c : Char} (h : c ∈ t.trim) : c ∈ t :=
  (List.dropWhile_suffix isBlank).subset ((trim_begins t).subset h)

theorem head_drop_blanks {t : Text} {c : Char} (h : (t.dropWhile isBlank).head? = some c) :
    isBlank c = false := by
  have hn := List.head?_dropWhile_not isBlank t
  rw [h] at hn
  exact hn

/-- A text that is not all blank begins after trimming as it did once its first blanks were gone. -/
theorem head_trim {t : Text} (h : t.trim ≠ []) : t.trim.head? = (t.dropWhile isBlank).head? := by
  obtain ⟨rest, hr⟩ := trim_begins t
  rw [← hr, List.head?_append_of_ne_nil _ h]

theorem head_trim_not_blank {t : Text} {c : Char} (h : t.trim.head? = some c) :
    isBlank c = false := by
  have hn : t.trim ≠ [] := by
    intro hn
    rw [hn] at h
    cases h
  exact head_drop_blanks (head_trim hn ▸ h)

theorem trim_trim (t : Text) : t.trim.trim = t.trim := by
  have hd : t.trim.dropWhile isBlank = t.trim := by
    cases ht : t.trim with
    | nil => rfl
    | cons c rest =>
      have hc := head_trim_not_blank (t := t) (c := c) (by rw [ht]; rfl)
      exact List.dropWhile_cons_of_neg (by simp [hc])
  rw [trim_eq_rdrop t.trim, hd, trim_eq_rdrop, List.rdropWhile_idempotent]

/-- Trimming leaves a first letter that is no blank where it is. -/
theorem head_trim_of_head {t : Text} {c : Char} (h : t.head? = some c) (hc : isBlank c = false)
    (hn : t.trim ≠ []) : t.trim.head? = some c := by
  rw [head_trim hn]
  cases t with
  | nil => cases h
  | cons d rest =>
    cases h
    rw [List.dropWhile_cons_of_neg (by simp [hc])]
    rfl

theorem trim_eq_nil_iff {t : Text} : t.trim = [] ↔ ∀ c ∈ t, isBlank c = true := by
  rw [trim_eq_rdrop, List.rdropWhile_eq_nil_iff]
  constructor
  · intro h
    have hd : t.dropWhile isBlank = [] := by
      cases hd : t.dropWhile isBlank with
      | nil => rfl
      | cons c rest =>
        have hc := head_drop_blanks (t := t) (c := c) (by rw [hd]; rfl)
        rw [h c (hd ▸ List.mem_cons_self)] at hc
        cases hc
    exact List.dropWhile_eq_nil_iff.mp hd
  · intro h c hc
    exact h c ((List.dropWhile_suffix isBlank).subset hc)

theorem trim_concat_blank {c : Char} (hc : isBlank c = true) (t : Text) :
    Text.trim (t ++ [c]) = t.trim := by
  rw [trim_eq_rdrop, trim_eq_rdrop, List.dropWhile_append]
  split
  · rename_i he
    rw [List.isEmpty_iff.mp he, List.dropWhile_cons_of_pos hc, List.dropWhile_nil]
  · exact List.rdropWhile_concat_pos isBlank _ c hc

theorem trim_blanks_append {pad : Text} (hp : ∀ c ∈ pad, isBlank c = true) (t : Text) :
    Text.trim (pad ++ t) = t.trim := by
  rw [trim_eq_rdrop, trim_eq_rdrop, List.dropWhile_append_of_pos hp]

theorem mem_of_mem_piece {separator c : Char} {t piece : Text}
    (h : piece ∈ t.pieces separator) (hc : c ∈ piece) : c ∈ t := by
  obtain ⟨raw, hr, rfl⟩ := List.mem_map.mp h
  exact (mem_of_mem_split hr (mem_of_mem_trim hc)).1

/-- Something is left after trimming, and nothing in it could be taken for a separator. -/
structure Clean (separators : List Char) (t : Text) : Prop where
  ne_nil : t ≠ []
  trimmed : t.trim = t
  free : ∀ c ∈ separators, c ∉ t

theorem Clean.mono {separators fewer : List Char} {t : Text} (h : t.Clean separators)
    (hs : fewer ⊆ separators) : t.Clean fewer :=
  ⟨h.ne_nil, h.trimmed, fun c hc => h.free c (hs hc)⟩

theorem clean_trim {separators : List Char} {t : Text} (hn : t.trim ≠ [])
    (hf : ∀ c ∈ separators, c ∉ t) : t.trim.Clean separators :=
  ⟨hn, trim_trim t, fun c hc hm => hf c hc (mem_of_mem_trim hm)⟩

/-- A piece that is not empty is clean of the separator and of what the whole text lacks. -/
theorem clean_piece {separator : Char} {separators : List Char} {t piece : Text}
    (h : piece ∈ t.pieces separator) (hn : piece ≠ []) (hf : ∀ c ∈ separators, c ∉ t) :
    piece.Clean (separator :: separators) := by
  obtain ⟨raw, hr, rfl⟩ := List.mem_map.mp h
  refine clean_trim hn ?_
  intro c hc hm
  obtain ⟨ht, hs⟩ := mem_of_mem_split hr hm
  rcases List.mem_cons.mp hc with rfl | hc
  · exact hs rfl
  · exact hf c hc ht

end Text

theorem read_items_eq_ok_iff {blank : LineError} {t : Text} {items : List Text} :
    readItems blank t = .ok items ↔ [] ∉ t.pieces ',' ∧ items = t.pieces ',' := by
  unfold readItems
  split
  · rename_i hb
    simp [hb]
  · rename_i hb
    simp [hb, @eq_comm _ items]

theorem clean_items {blank : LineError} {separators : List Char} {t : Text} {items : List Text}
    (h : readItems blank t = .ok items) (hf : ∀ c ∈ separators, c ∉ t) :
    ∀ item ∈ items, item.Clean (',' :: separators) := by
  obtain ⟨hb, rfl⟩ := read_items_eq_ok_iff.mp h
  intro item hi
  exact Text.clean_piece hi (fun hn => hb (hn ▸ hi)) hf

end LetterToSound
