import LetterToSound.Proofs.ModesAgree
import LetterToSound.Proofs.Streams
import LetterToSound.Proofs.WrittenBook

namespace LetterToSound

theorem Text.Clean.spaced {signs : List Char} {t u : Text} (hs : ' ' ∉ signs) (ht : t.Clean signs)
    (hu : u.Clean signs) : Text.Clean signs (t ++ ' ' :: u) := by
  have hb : Text.Bare (t ++ ' ' :: u) := by
    have hb := ht.bare.between [' '] hu.bare
    rw [List.append_assoc] at hb
    exact hb
  refine ⟨hb.ne_nil, hb.trim, fun c hc => ?_⟩
  rw [List.mem_append, List.mem_cons, not_or, not_or]
  refine ⟨ht.free c hc, ?_, hu.free c hc⟩
  rintro rfl
  exact hs hc

/-- The words that are transcribed, each with its transcriptions. -/
def RuleTrie.transcribed (trie : RuleTrie) (mode : Mode) (words : List Text) :
    List (Text × List Text) :=
  words.filterMap fun word => (trie.transcribe mode word).toOption.map (word, ·)

namespace Record

/-- A word and its transcriptions have no sign that a record puts between them. -/
structure Fits (entry : Text × List Text) : Prop where
  word_filled : entry.1 ≠ []
  word_no_blank : ∀ c ∈ entry.1, isBlank c = false
  transcribed : entry.2 ≠ []
  clean : ∀ t ∈ entry.2, t.Clean ['\t', '\n', '|']

/-- The line has the word, the number of its transcriptions and the transcriptions, and they can be
told apart. -/
structure Holds (line : Text) (entry : Text × List Text) : Prop extends Fits entry where
  tabs : line.count '\t' = 2
  fields : ∃ body, line.splitOn '\t' = [entry.1, Text.ofNat entry.2.length, body] ∧
    body.splitOn '|' = entry.2

/-- Reads the word and its transcriptions back, if there are as many as the line says. -/
def read? (line : Text) : Option (Text × List Text) :=
  match line.splitOn '\t' with
  | [word, count, body] =>
    let transcriptions := body.splitOn '|'
    if count = Text.ofNat transcriptions.length then some (word, transcriptions) else none
  | _ => none

theorem not_mem_of_nat {c : Char} (h : c.isDigit = false) (n : Nat) : c ∉ Text.ofNat n := by
  intro hm
  rw [Nat.isDigit_of_mem_toDigits (by decide) (by decide) hm] at h
  cases h

variable {entry : Text × List Text} {entries : List (Text × List Text)}

theorem Fits.not_mem_word (h : Fits entry) {c : Char} (hc : isBlank c = true) : c ∉ entry.1 := by
  intro hm
  rw [h.word_no_blank c hm] at hc
  cases hc

theorem Fits.not_mem_body (h : Fits entry) {c : Char} (hc : c ∈ ['\t', '\n']) :
    c ∉ ['|'].intercalate entry.2 := by
  simp only [List.mem_cons, List.not_mem_nil, or_false] at hc
  apply Text.not_mem_intercalate
  · rcases hc with rfl | rfl <;> decide
  · intro t hm
    apply (h.clean t hm).free
    rcases hc with rfl | rfl <;> simp

theorem Fits.holds (h : Fits entry) : Holds (record entry.1 entry.2) entry := by
  have hword := h.not_mem_word (c := '\t') rfl
  have hcount := not_mem_of_nat (c := '\t') rfl entry.2.length
  have hbody := h.not_mem_body (c := '\t') List.mem_cons_self
  refine ⟨h, ?_, ['|'].intercalate entry.2, ?_, ?_⟩
  · rw [record, List.append_assoc, List.cons_append, List.count_append, List.count_cons_self,
      List.count_append, List.count_cons_self, List.count_eq_zero_of_not_mem hword,
      List.count_eq_zero_of_not_mem hcount, List.count_eq_zero_of_not_mem hbody]
  · rw [record, List.append_assoc, List.cons_append,
      List.splitOn_append_cons_self_of_not_mem hword,
      List.splitOn_append_cons_self_of_not_mem hcount, List.splitOn_eq_singleton hbody]
  · exact List.splitOn_intercalate '|' (fun t hm => (h.clean t hm).free '|' (by simp)) h.transcribed

theorem Holds.read {line : Text} (h : Holds line entry) : read? line = some entry := by
  obtain ⟨body, hf, hb⟩ := h.fields
  rw [read?, hf]
  simp only [hb, if_true]

/-- An output of records. -/
def written (entries : List (Text × List Text)) : Text :=
  entries.flatMap fun entry => record entry.1 entry.2 ++ ['\n']

end Record

namespace Machine

end Machine

end LetterToSound
