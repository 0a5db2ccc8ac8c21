import LetterToSound.Files.Content
import Mathlib.Data.List.Infix

namespace LetterToSound

section

variable {α : Type} [DecidableEq α] {sign : α}

/-- What stands before each sign, and what stands after the last one unless it is empty. -/
def endedBy (sign : α) (xs : List α) : List (List α) :=
  let parts := xs.splitOn sign
  if parts.getLast? = some [] then parts.dropLast else parts

theorem mem_of_mem_split {x : α} {xs piece : List α} (h : piece ∈ xs.splitOn sign)
    (hx : x ∈ piece) : x ∈ xs ∧ x ≠ sign := by
  induction xs generalizing piece with
  | nil =>
    rw [List.splitOn_nil, List.mem_singleton] at h
    rw [h] at hx
    cases hx
  | cons y xs ih =>
    rw [List.splitOn_cons_eq_if_modifyHead] at h
    split at h
    · rcases List.mem_cons.mp h with rfl | h
      · cases hx
      · exact (ih h hx).imp_left (List.mem_cons_of_mem y)
    · rename_i hy
      obtain ⟨first, rest, hs⟩ := List.exists_cons_of_ne_nil (List.splitOn_ne_nil sign xs)
      rw [hs, List.modifyHead_cons] at h
      rw [hs] at ih
      rcases List.mem_cons.mp h with rfl | h
      · rcases List.mem_cons.mp hx with rfl | hx
        · exact ⟨List.mem_cons_self, by simpa using hy⟩
        · exact (ih List.mem_cons_self hx).imp_left (List.mem_cons_of_mem y)
      · exact (ih (List.mem_cons_of_mem _ h) hx).imp_left (List.mem_cons_of_mem y)

theorem split_not_mem {xs piece : List α} (h : piece ∈ xs.splitOn sign) : sign ∉ piece :=
  fun hm => (mem_of_mem_split h hm).2 rfl

theorem ended_nil : endedBy sign [] = [] := rfl

/-- Signs before the last one stay where they are, whatever follows it. -/
theorem ended_append_sign (xs ys : List α) :
    endedBy sign (xs ++ sign :: ys) = xs.splitOn sign ++ endedBy sign ys := by
  obtain ⟨init, last, hy⟩ := List.eq_nil_or_concat (ys.splitOn sign) |>.resolve_left
    (List.splitOn_ne_nil sign ys)
  simp only [endedBy, List.splitOn_append_cons_self, hy, List.concat_eq_append]
  rw [← List.append_assoc, List.getLast?_concat, List.getLast?_concat]
  split
  · rw [List.dropLast_concat, List.dropLast_concat]
  · rw [List.append_assoc]

theorem ended_append {xs : List α} (h : xs = [] ∨ xs.getLast? = some sign) (ys : List α) :
    endedBy sign (xs ++ ys) = endedBy sign xs ++ endedBy sign ys := by
  rcases h with rfl | h
  · rfl
  · obtain ⟨init, rfl⟩ := List.getLast?_eq_some_iff.mp h
    rw [List.append_assoc, List.singleton_append, ended_append_sign, ended_append_sign, ended_nil,
      List.append_nil]

/-- Lines that are written out are cut again where they ended. -/
theorem ended_flat_map {lines : List (List α)} (h : ∀ line ∈ lines, sign ∉ line) :
    endedBy sign (lines.flatMap (· ++ [sign])) = lines := by
  induction lines with
  | nil => rfl
  | cons line lines ih =>
    rw [List.flatMap_cons, List.append_assoc, List.singleton_append, ended_append_sign,
      List.splitOn_eq_singleton (h line List.mem_cons_self),
      ih fun other ho => h other (List.mem_cons_of_mem _ ho), List.singleton_append]

theorem ended_not_mem {xs line : List α} (h : line ∈ endedBy sign xs) : sign ∉ line := by
  unfold endedBy at h
  dsimp only at h
  split at h
  · exact split_not_mem (List.mem_of_mem_dropLast h)
  · exact split_not_mem h

end

namespace Text

def lines (t : Text) : List Text := endedBy '\n' t

def utf8 (t : Text) : Bytes := t.flatMap String.utf8EncodeChar

theorem utf8_append (t u : Text) : (t ++ u).utf8 = t.utf8 ++ u.utf8 := List.flatMap_append

theorem utf8_eq_nil_iff {t : Text} : t.utf8 = [] ↔ t = [] := by
  cases t with
  | nil => simp [utf8]
  | cons c t => simp [utf8, String.utf8EncodeChar_ne_nil]

theorem utf8_intercalate (sign : Char) (parts : List Text) :
    utf8 ([sign].intercalate parts) = (utf8 [sign]).intercalate (parts.map utf8) := by
  induction parts with
  | nil => rfl
  | cons part parts ih =>
    cases parts with
    | nil => simp
    | cons next parts =>
      rw [List.intercalate_cons_cons, utf8_append, utf8_append, ih]
      simp only [List.map_cons, List.intercalate_cons_cons]

/-- The byte of an ASCII sign stands for nothing else: all bytes of a longer encoding are 128 or
more. -/
theorem sign_mem_encode (sign : Char) {c : Char} (h : sign.val.toNat < 128) :
    UInt8.ofNat sign.val.toNat ∈ String.utf8EncodeChar c ↔ c = sign := by
  have hc : c = sign ↔ c.val.toNat = sign.val.toNat := by
    rw [← Char.val_inj, ← UInt32.toNat_inj]
  have hb {n : Nat} (hn : n < 256) :
      UInt8.ofNat sign.val.toNat = UInt8.ofNat n ↔ n = sign.val.toNat := by
    rw [← UInt8.toNat_inj, UInt8.toNat_ofNat', UInt8.toNat_ofNat', Nat.mod_eq_of_lt hn,
      Nat.mod_eq_of_lt (Nat.lt_trans h (by decide))]
    exact eq_comm
  unfold String.utf8EncodeChar
  dsimp only
  split
  · rw [List.mem_singleton, hb (by omega), hc]
  · split
    · simp (disch := omega) only [List.mem_cons, List.not_mem_nil, or_false, hb, hc]
      omega
    · split
      · simp (disch := omega) only [List.mem_cons, List.not_mem_nil, or_false, hb, hc]
        omega
      · simp (disch := omega) only [List.mem_cons, List.not_mem_nil, or_false, hb, hc]
        omega

theorem line_feed_mem_utf8 {t : Text} : Bytes.lineFeed ∈ t.utf8 ↔ '\n' ∈ t := by
  have hs (c : Char) : Bytes.lineFeed ∈ String.utf8EncodeChar c ↔ c = '\n' :=
    sign_mem_encode '\n' (by decide)
  simp only [utf8, List.mem_flatMap, hs, exists_eq_right]

theorem splitOn_utf8 (t : Text) :
    t.utf8.splitOn Bytes.lineFeed = (t.splitOn '\n').map utf8 := by
  have hf : ∀ part ∈ (t.splitOn '\n').map utf8, Bytes.lineFeed ∉ part := by
    intro part hp hm
    obtain ⟨piece, hs, rfl⟩ := List.mem_map.mp hp
    exact split_not_mem hs (line_feed_mem_utf8.mp hm)
  have hn : (t.splitOn '\n').map utf8 ≠ [] := by simp
  have hu := utf8_intercalate '\n' (t.splitOn '\n')
  rw [List.intercalate_splitOn] at hu
  rw [hu]
  exact List.splitOn_intercalate Bytes.lineFeed hf hn

end Text

namespace Bytes

theorem lines_eq (bytes : Bytes) : bytes.lines = endedBy lineFeed bytes := rfl

theorem lines_utf8 (t : Text) : lines t.utf8 = t.lines.map Text.utf8 := by
  have hl : ((t.splitOn '\n').map Text.utf8).getLast? = some [] ↔
      (t.splitOn '\n').getLast? = some [] := by
    rw [List.getLast?_map, Option.map_eq_some_iff]
    simp only [Text.utf8_eq_nil_iff, exists_eq_right]
  simp only [lines_eq, Text.lines, endedBy, Text.splitOn_utf8, hl]
  split
  · rw [List.map_dropLast]
  · rfl

/-- Bytes can be decoded if they are the encoding of a text, and then they give that text. -/
theorem decode_eq_some_iff {bytes : Bytes} {t : Text} :
    bytes.decode? = some t ↔ bytes = t.utf8 := by
  have ha : ByteArray.mk bytes.toArray = bytes.toByteArray := by
    rw [ByteArray.ext_iff, List.data_toByteArray]
  have hu : (String.ofList t).toByteArray = t.utf8.toByteArray := String.toByteArray_ofList
  unfold decode?
  rw [ha, String.fromUTF8?]
  split
  · rename_i hv
    simp only [Option.map_some, Option.some.injEq]
    rw [← String.ofList_inj, String.ofList_toList, ← String.toByteArray_inj, hu]
    exact List.toByteArray_inj
  · rename_i hv
    simp only [Option.map_none, reduceCtorEq, false_iff]
    rintro rfl
    rw [← hu] at hv
    exact hv (String.isValidUTF8 _)

theorem text_eq_ok_iff {bytes : Bytes} {t : Text} : bytes.text = .ok t ↔ bytes = t.utf8 := by
  rw [← decode_eq_some_iff]
  unfold text
  cases bytes.decode? with
  | none => simp
  | some found => simp

end Bytes

/-- The lines of an encoded text are the lines of the text. -/
theorem Content.lines_utf8 (t : Text) : (Content.file t.utf8).lines = t.lines.map .ok := by
  simp only [Content.lines, Bytes.lines_utf8, List.map_map]
  exact List.map_congr_left fun line _ => Bytes.text_eq_ok_iff.mpr rfl

/-- No line that is read from a file has a line feed in it. -/
theorem Content.line_feed_not_mem {content : Content} {line : Text}
    (h : .ok line ∈ content.lines) : '\n' ∉ line := by
  cases content with
  | directory => simp [Content.lines] at h
  | closed cause => simp [Content.lines] at h
  | file bytes =>
    obtain ⟨raw, hr, ht⟩ := List.mem_map.mp h
    rw [Bytes.text_eq_ok_iff.mp ht] at hr
    exact fun hm => ended_not_mem hr (Text.line_feed_mem_utf8.mpr hm)

end LetterToSound
