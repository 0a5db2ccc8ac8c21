import LetterToSound.Proofs.TextLines
import LetterToSound.Text.Blank

namespace LetterToSound.Text

/-- The words of a text, with blanks between them and around them. -/
inductive CutsInto : Text → List Text → Prop
  | none {pad : Text} (blank : ∀ c ∈ pad, isBlank c = true) : CutsInto pad []
  | word {pad word rest : Text} {words : List Text} (blank : ∀ c ∈ pad, isBlank c = true)
      (filled : word ≠ []) (no_blank : ∀ c ∈ word, isBlank c = false)
      (ends : ∀ c, rest.head? = some c → isBlank c = true) (others : CutsInto rest words) :
      CutsInto (pad ++ word ++ rest) (word :: words)

theorem words_append_blank {c : Char} (h : isBlank c = true) (t u : Text) :
    words (t ++ c :: u) = t.words ++ u.words := by
  simp only [words, List.splitOnP_append_cons t u h, List.filter_append]

theorem words_cons_blank {c : Char} (h : isBlank c = true) (t : Text) :
    words (c :: t) = t.words := by
  have hw := words_append_blank h [] t
  simpa [words] using hw

theorem words_blanks_append {pad : Text} (h : ∀ c ∈ pad, isBlank c = true) (t : Text) :
    words (pad ++ t) = t.words := by
  induction pad with
  | nil => rfl
  | cons c pad ih =>
    rw [List.cons_append, words_cons_blank (h c List.mem_cons_self)]
    exact ih fun d hd => h d (List.mem_cons_of_mem _ hd)

theorem words_of_no_blank {word : Text} (hn : word ≠ []) (h : ∀ c ∈ word, isBlank c = false) :
    word.words = [word] := by
  simp [words, List.splitOnP_eq_singleton h, hn]

theorem CutsInto.words_eq {t : Text} {words : List Text} (h : t.CutsInto words) :
    t.words = words := by
  induction h with
  | @none pad blank =>
    have hw := words_blanks_append blank []
    rw [List.append_nil] at hw
    exact hw
  | @word pad word rest words blank filled no_blank ends others ih =>
    rw [List.append_assoc, words_blanks_append blank]
    cases rest with
    | nil =>
      rw [List.append_nil, words_of_no_blank filled no_blank, ← ih]
      rfl
    | cons c rest =>
      have hc := ends c rfl
      rw [words_append_blank hc, words_of_no_blank filled no_blank, ← ih, words_cons_blank hc]
      rfl

theorem CutsInto.cons_blank {c : Char} {t : Text} {words : List Text} (hc : isBlank c = true)
    (h : t.CutsInto words) : CutsInto (c :: t) words := by
  cases h with
  | none blank => exact .none (List.forall_mem_cons.mpr ⟨hc, blank⟩)
  | word blank filled no_blank ends others =>
    have hb : ∀ d ∈ c :: _, isBlank d = true := List.forall_mem_cons.mpr ⟨hc, blank⟩
    exact @CutsInto.word (c :: _) _ _ _ hb filled no_blank ends others

/-- A letter lengthens the word that it stands before, or is a word of its own. -/
theorem CutsInto.cons_letter {c : Char} {t : Text} {words : List Text} (hc : isBlank c = false)
    (h : t.CutsInto words) : ∃ words, CutsInto (c :: t) words := by
  have hl : ∀ d ∈ [c], isBlank d = false := List.forall_mem_singleton.mpr hc
  have halone (hb : ∀ d, t.head? = some d → isBlank d = true) : ∃ words, CutsInto (c :: t) words :=
    ⟨_, @CutsInto.word [] _ _ _ nofun (List.cons_ne_nil c []) hl hb h⟩
  cases h with
  | @none pad blank =>
    apply halone
    intro d hd
    exact blank d (List.mem_of_mem_head? hd)
  | @word pad word rest words blank filled no_blank ends others =>
    cases pad with
    | nil =>
      have hw : ∀ d ∈ c :: word, isBlank d = false := List.forall_mem_cons.mpr ⟨hc, no_blank⟩
      exact ⟨_, @CutsInto.word [] _ _ _ nofun (List.cons_ne_nil c word) hw ends others⟩
    | cons d pad =>
      apply halone
      intro e he
      cases he
      exact blank d List.mem_cons_self

theorem exists_cut (t : Text) : ∃ words, t.CutsInto words := by
  induction t with
  | nil => exact ⟨[], .none nofun⟩
  | cons c t ih =>
    obtain ⟨words, h⟩ := ih
    cases hc : isBlank c with
    | true => exact ⟨words, h.cons_blank hc⟩
    | false => exact h.cons_letter hc

theorem words_eq_iff {t : Text} {words : List Text} : t.words = words ↔ t.CutsInto words := by
  refine ⟨?_, CutsInto.words_eq⟩
  rintro rfl
  obtain ⟨words, h⟩ := exists_cut t
  rw [h.words_eq]
  exact h

theorem words_intercalate {c : Char} (h : isBlank c = true) (parts : List Text) :
    words ([c].intercalate parts) = parts.flatMap words := by
  induction parts with
  | nil => rfl
  | cons part parts ih =>
    cases parts with
    | nil => simp
    | cons next parts =>
      rw [List.intercalate_cons_cons, List.append_assoc, List.singleton_append,
        words_append_blank h, ih]
      rfl

theorem flat_map_words_lines (t : Text) : t.lines.flatMap words = t.words := by
  have hb : isBlank '\n' = true := by decide
  have hs : (t.splitOn '\n').flatMap words = t.words := by
    rw [← words_intercalate hb, List.intercalate_splitOn]
  rw [← hs]
  simp only [lines, endedBy]
  split
  · rename_i hl
    obtain ⟨front, hf⟩ := List.getLast?_eq_some_iff.mp hl
    rw [hf, List.dropLast_concat, List.flatMap_append]
    exact (List.append_nil _).symm
  · rfl

/-- Texts have the words of one text in which they stand on lines of their own. -/
theorem flat_map_words_joined (texts : List Text) :
    (texts.flatMap lines).flatMap words = (lines (['\n'].intercalate texts)).flatMap words := by
  rw [flat_map_words_lines, words_intercalate (by decide), List.flatMap_assoc]
  simp only [flat_map_words_lines]

end LetterToSound.Text
