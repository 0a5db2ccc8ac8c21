import LetterToSound.Proofs.Pieces
import LetterToSound.Proofs.TextLines
import LetterToSound.Rules.Reading

namespace LetterToSound

namespace RuleBook

theorem read_lines_accepted {book next : RuleBook} {done : List Text}
    (h : done.foldlM readLine book = .ok next) (number : Nat)
    (rest : List (Except FileError Text)) :
    book.readLines number (done.map .ok ++ rest) = next.readLines (number + done.length) rest := by
  induction done generalizing book number with
  | nil =>
    cases h
    rfl
  | cons line done ih =>
    rw [List.foldlM_cons] at h
    cases hl : book.readLine line with
    | error error =>
      rw [hl] at h
      cases h
    | ok middle =>
      rw [hl] at h
      have hr := ih h (number + 1)
      simp only [List.map_cons, List.cons_append, readLines, hl, hr, List.length_cons]
      rw [Nat.add_assoc, Nat.add_comm 1]

/-- The line cannot be read into the book. -/
inductive Stops (book : RuleBook) (number : Nat) : Except FileError Text → RulesError → Prop
  | unreadable (cause : FileError) : Stops book number (.error cause) (.unreadable cause)
  | refused {line : Text} {error : LineError} (h : book.readLine line = .error error) :
      Stops book number (.ok line) (.badLine number line.trim error)

/-- A reading accepts every line, or all lines before the first that stops it. -/
inductive Reads (book : RuleBook) (number : Nat) :
    List (Except FileError Text) → Reading → Prop
  | all (done : List Text) {next : RuleBook} (accepted : done.foldlM readLine book = .ok next) :
      Reads book number (done.map .ok) ⟨next, none⟩
  | upTo (done : List Text) {line : Except FileError Text} (rest : List (Except FileError Text))
      {next : RuleBook} {error : RulesError} (accepted : done.foldlM readLine book = .ok next)
      (stops : Stops next (number + done.length) line error) :
      Reads book number (done.map .ok ++ line :: rest) ⟨next, some error⟩

theorem Stops.read_lines {book : RuleBook} {number : Nat} {line : Except FileError Text}
    {error : RulesError} (h : Stops book number line error)
    (rest : List (Except FileError Text)) :
    book.readLines number (line :: rest) = ⟨book, some error⟩ := by
  cases h with
  | unreadable cause => rfl
  | refused h => simp only [readLines, h]

theorem Reads.cons {book next : RuleBook} {number : Nat} {line : Text}
    {lines : List (Except FileError Text)} {reading : Reading}
    (hl : book.readLine line = .ok next) (h : Reads next (number + 1) lines reading) :
    Reads book number (.ok line :: lines) reading := by
  have hf (done : List Text) :
      (line :: done).foldlM readLine book = done.foldlM readLine next := by
    rw [List.foldlM_cons, hl]
    rfl
  cases h with
  | all done accepted => exact .all (line :: done) ((hf done).trans accepted)
  | upTo done rest accepted stops =>
    rw [Nat.add_assoc, Nat.add_comm 1] at stops
    exact .upTo (line :: done) rest ((hf done).trans accepted) stops

theorem reads (book : RuleBook) (number : Nat) (lines : List (Except FileError Text)) :
    Reads book number lines (book.readLines number lines) := by
  induction lines generalizing book number with
  | nil => exact .all [] rfl
  | cons line lines ih =>
    cases line with
    | error cause => exact .upTo [] lines rfl (.unreadable cause)
    | ok line =>
      simp only [readLines]
      cases hl : book.readLine line with
      | error error => exact .upTo [] lines rfl (.refused hl)
      | ok next => exact (ih next (number + 1)).cons hl

theorem Reads.eq {book : RuleBook} {number : Nat} {lines : List (Except FileError Text)}
    {reading : Reading} (h : Reads book number lines reading) :
    book.readLines number lines = reading := by
  cases h with
  | all done accepted =>
    have hr := read_lines_accepted accepted number []
    rwa [List.append_nil] at hr
  | upTo done rest accepted stops =>
    rw [read_lines_accepted accepted, stops.read_lines]

theorem read_lines_eq_iff {book next : RuleBook} {number : Nat} {lines : List Text} :
    book.readLines number (lines.map .ok) = ⟨next, none⟩ ↔
      lines.foldlM readLine book = .ok next := by
  refine ⟨fun h => ?_, fun h => (Reads.all lines h).eq⟩
  have hr := reads book number (lines.map .ok)
  rw [h] at hr
  generalize hl : lines.map Except.ok = texts at hr
  cases hr with
  | all done accepted =>
    rw [List.map_injective_iff.mpr (fun _ _ => Except.ok.inj) hl]
    exact accepted

end RuleBook

def RulesError.later (count : Nat) : RulesError → RulesError
  | .badLine number line error => .badLine (number + count) line error
  | error => error

/-- What the reading comes to when `count` lines stand before those that are read. -/
def Reading.later (count : Nat) (reading : Reading) : Reading :=
  { reading with error := reading.error.map (.later count) }

namespace RuleBook

theorem read_lines_later (book : RuleBook) (number count : Nat)
    (lines : List (Except FileError Text)) :
    book.readLines (number + count) lines = (book.readLines number lines).later count := by
  induction lines generalizing book number with
  | nil => rfl
  | cons line lines ih =>
    cases line with
    | error cause => rfl
    | ok line =>
      simp only [readLines]
      cases book.readLine line with
      | error error => rfl
      | ok next =>
        dsimp only
        rw [Nat.add_right_comm, ih]

/-- A reading that came to its end goes on with further lines. -/
theorem read_lines_append {book next : RuleBook} {number : Nat}
    {lines : List (Except FileError Text)} (h : book.readLines number lines = ⟨next, none⟩)
    (rest : List (Except FileError Text)) :
    book.readLines number (lines ++ rest) = (next.readLines number rest).later lines.length := by
  have hr := reads book number lines
  rw [h] at hr
  cases hr with
  | all done accepted =>
    rw [read_lines_accepted accepted, read_lines_later, List.length_map]

/-- A reading that was stopped does not see further lines. -/
theorem read_lines_append_stopped {book next : RuleBook} {number : Nat} {error : RulesError}
    {lines : List (Except FileError Text)} (h : book.readLines number lines = ⟨next, some error⟩)
    (rest : List (Except FileError Text)) :
    book.readLines number (lines ++ rest) = ⟨next, some error⟩ := by
  have hr := reads book number lines
  rw [h] at hr
  cases hr with
  | upTo done others accepted stops =>
    rw [List.append_assoc, List.cons_append, read_lines_accepted accepted, stops.read_lines]

end RuleBook

namespace Bytes

theorem text_eq_error_iff {bytes : Bytes} {cause : FileError} :
    bytes.text = .error cause ↔ cause = .notText ∧ ∀ t : Text, bytes ≠ t.utf8 := by
  cases hb : bytes.text with
  | ok t =>
    simp only [reduceCtorEq, false_iff, not_and, not_forall, not_not]
    exact fun _ => ⟨t, text_eq_ok_iff.mp hb⟩
  | error found =>
    have hn (t : Text) : bytes ≠ t.utf8 := by
      intro he
      rw [text_eq_ok_iff.mpr he] at hb
      cases hb
    have hf : found = .notText := by
      unfold text at hb
      split at hb
      · cases hb
      · exact (Except.error.inj hb).symm
    simp [hf, hn, @eq_comm _ _ cause]

theorem map_text_eq_iff {lines : List Bytes} {done : List Text} :
    lines.map text = done.map .ok ↔ lines = done.map Text.utf8 := by
  induction lines generalizing done with
  | nil => simp
  | cons line lines ih =>
    cases done with
    | nil => simp
    | cons t done => simp [ih, text_eq_ok_iff]

def carriageReturn : UInt8 := 13

/-- The line without the carriage return that may stand before its line feed. -/
def withoutReturn (line : Bytes) : Bytes :=
  if line.getLast? = some carriageReturn then line.dropLast else line

/-- Bytes that end in a carriage return encode texts that do. -/
theorem append_return_eq_utf8_iff {line : Bytes} {u : Text} :
    line ++ [carriageReturn] = u.utf8 ↔ ∃ t : Text, u = t ++ ['\r'] ∧ line = t.utf8 := by
  constructor
  · intro h
    rcases List.eq_nil_or_concat u with rfl | ⟨t, c, rfl⟩
    · cases line <;> cases h
    · rw [List.concat_eq_append] at h ⊢
      have he : Text.utf8 (t ++ [c]) = Text.utf8 t ++ String.utf8EncodeChar c := by
        rw [Text.utf8_append, Text.utf8, Text.utf8, List.flatMap_singleton]
      have hl := congrArg List.getLast? h
      rw [he, List.getLast?_concat,
        List.getLast?_append_of_ne_nil _ String.utf8EncodeChar_ne_nil] at hl
      obtain rfl : c = '\r' :=
        (Text.sign_mem_encode '\r' (by decide)).mp (List.mem_of_getLast? hl.symm)
      rw [he] at h
      exact ⟨t, rfl, List.append_cancel_right h⟩
  · rintro ⟨t, rfl, rfl⟩
    rw [Text.utf8_append]
    rfl

/-- The carriage return is a blank at the end of its line. -/
theorem text_without_return (line : Bytes) :
    line.withoutReturn.text.map Text.trim = line.text.map Text.trim := by
  unfold withoutReturn
  split
  · rename_i hl
    obtain ⟨front, rfl⟩ := List.getLast?_eq_some_iff.mp hl
    rw [List.dropLast_concat]
    cases hf : text front with
    | ok t =>
      have hr : text (front ++ [carriageReturn]) = .ok (t ++ ['\r']) :=
        text_eq_ok_iff.mpr (append_return_eq_utf8_iff.mpr ⟨t, rfl, text_eq_ok_iff.mp hf⟩)
      rw [hr]
      exact congrArg Except.ok (Text.trim_concat_blank (by decide) t).symm
    | error cause =>
      obtain ⟨hc, hn⟩ := text_eq_error_iff.mp hf
      have hr : text (front ++ [carriageReturn]) = .error cause := by
        refine text_eq_error_iff.mpr ⟨hc, fun u hu => ?_⟩
        obtain ⟨t, _, he⟩ := append_return_eq_utf8_iff.mp hu
        exact hn t he
      rw [hr]
  · rfl

end Bytes

namespace RuleBook

theorem read_line_trim (book : RuleBook) (line : Text) :
    book.readLine line.trim = book.readLine line := by
  simp only [readLine, Text.trim_trim]

/-- Blanks at the ends of the lines do not count. -/
theorem read_lines_trim (book : RuleBook) (number : Nat) (lines : List (Except FileError Text)) :
    book.readLines number (lines.map (Except.map Text.trim)) = book.readLines number lines := by
  induction lines generalizing book number with
  | nil => rfl
  | cons line lines ih =>
    cases line with
    | error cause => rfl
    | ok line =>
      simp only [List.map_cons, Except.map, readLines, read_line_trim, Text.trim_trim, ih]

/-- Lines may end in a line feed alone or in a carriage return and a line feed. -/
theorem read_without_returns (book : RuleBook) (bytes : Bytes) :
    book.readLines 1 (bytes.lines.map fun line => line.withoutReturn.text) =
      book.read (.file bytes) := by
  have hl : (bytes.lines.map fun line => line.withoutReturn.text).map (Except.map Text.trim) =
      (Content.file bytes).lines.map (Except.map Text.trim) := by
    simp only [Content.lines, List.map_map]
    exact List.map_congr_left fun line _ => Bytes.text_without_return line
  rw [← read_lines_trim, hl, read_lines_trim]
  rfl

/-- What reading lines of bytes comes to. All of them are accepted, or those before the first that
encodes no text or is refused. -/
inductive ReadsBytes (book : RuleBook) : List Bytes → Reading → Prop
  | all (done : List Text) {next : RuleBook} (accepted : done.foldlM readLine book = .ok next) :
      ReadsBytes book (done.map Text.utf8) ⟨next, none⟩
  | noText (done : List Text) {line : Bytes} (rest : List Bytes) {next : RuleBook}
      (accepted : done.foldlM readLine book = .ok next) (unreadable : ∀ t : Text, line ≠ t.utf8) :
      ReadsBytes book (done.map Text.utf8 ++ line :: rest) ⟨next, some (.unreadable .notText)⟩
  | refused (done : List Text) {line : Text} (rest : List Bytes) {next : RuleBook}
      {error : LineError} (accepted : done.foldlM readLine book = .ok next)
      (refused : next.readLine line = .error error) :
      ReadsBytes book (done.map Text.utf8 ++ line.utf8 :: rest)
        ⟨next, some (.badLine (done.length + 1) line.trim error)⟩

theorem Reads.bytes {book : RuleBook} {lines : List Bytes} {reading : Reading}
    (h : Reads book 1 (lines.map Bytes.text) reading) : ReadsBytes book lines reading := by
  generalize hl : lines.map Bytes.text = texts at h
  cases h with
  | all done accepted =>
    rw [Bytes.map_text_eq_iff.mp hl]
    exact .all done accepted
  | upTo done rest accepted stops =>
    obtain ⟨front, back, rfl, hf, hb⟩ := List.map_eq_append_iff.mp hl
    obtain ⟨line, back, rfl, ht, _⟩ := List.map_eq_cons_iff.mp hb
    rw [Bytes.map_text_eq_iff.mp hf]
    cases stops with
    | unreadable cause =>
      obtain ⟨rfl, hn⟩ := Bytes.text_eq_error_iff.mp ht
      exact .noText done back accepted hn
    | refused h =>
      rw [Bytes.text_eq_ok_iff.mp ht, Nat.add_comm]
      exact .refused done back accepted h

theorem ReadsBytes.reads {book : RuleBook} {lines : List Bytes} {reading : Reading}
    (h : ReadsBytes book lines reading) : Reads book 1 (lines.map Bytes.text) reading := by
  cases h with
  | all done accepted =>
    rw [Bytes.map_text_eq_iff.mpr rfl]
    exact .all done accepted
  | noText done rest accepted unreadable =>
    rw [List.map_append, Bytes.map_text_eq_iff.mpr rfl, List.map_cons,
      Bytes.text_eq_error_iff.mpr ⟨rfl, unreadable⟩]
    exact .upTo done _ accepted (.unreadable .notText)
  | refused done rest accepted refused =>
    rw [List.map_append, Bytes.map_text_eq_iff.mpr rfl, List.map_cons,
      Bytes.text_eq_ok_iff.mpr rfl, Nat.add_comm]
    exact .upTo done _ accepted (.refused refused)

theorem read_utf8 (book : RuleBook) (t : Text) :
    book.read (.file t.utf8) = book.readLines 1 (t.lines.map .ok) := by
  rw [read, Content.lines_utf8]

/-- Bytes that end with a line can be read before what follows them. A reading stops at the first
line that is no text or is refused, and carriage returns before line feeds change nothing. -/
theorem reads_in_pieces (book : RuleBook) (a b : Bytes) :
    (a = [] ∨ a.getLast? = some Bytes.lineFeed →
      (∀ middle, book.read (.file a) = ⟨middle, none⟩ →
        book.read (.file (a ++ b)) = (middle.read (.file b)).later a.lines.length) ∧
      ∀ middle error, book.read (.file a) = ⟨middle, some error⟩ →
        book.read (.file (a ++ b)) = ⟨middle, some error⟩) ∧
    (∀ reading, book.read (.file a) = reading ↔ ReadsBytes book a.lines reading) ∧
    book.readLines 1 (a.lines.map fun line => line.withoutReturn.text) = book.read (.file a) := by
  refine ⟨fun ha => ?_, fun reading => ⟨?_, fun h => h.reads.eq⟩, read_without_returns book a⟩
  · have hl : (Content.file (a ++ b)).lines = (Content.file a).lines ++ (Content.file b).lines := by
      simp only [Content.lines, Bytes.lines_eq, ended_append ha, List.map_append]
    refine ⟨fun middle hm => ?_, fun middle error hm => ?_⟩
    · rw [read, hl, read_lines_append hm]
      simp only [Content.lines, List.length_map]
      rfl
    · rw [read, hl, read_lines_append_stopped hm]
  · rintro rfl
    exact (reads book 1 (Content.file a).lines).bytes

theorem reads_in_two_pieces :
    let a := Text.utf8 "V = a\n"
    let bad := Text.utf8 "V = a\nV\n"
    let b := Text.utf8 "W = b\r\nV\tb"
    a.getLast? = some Bytes.lineFeed ∧ bad.getLast? = some Bytes.lineFeed ∧
      (∃ middle, empty.read (.file a) = ⟨middle, none⟩ ∧
        empty.read (.file (a ++ b)) = (middle.read (.file b)).later 1 ∧
        (empty.read (.file (a ++ b))).error = some (.badLine 3 "V\tb" (.fieldCount 2))) ∧
      ∃ middle, empty.read (.file bad) = ⟨middle, some (.badLine 2 "V" (.fieldCount 1))⟩ ∧
        empty.read (.file (bad ++ b)) = ⟨middle, some (.badLine 2 "V" (.fieldCount 1))⟩ := by
  intro a bad b
  have ha : (empty.read (.file a)).error = none := by rw [read_utf8]; decide
  have hab : (empty.read (.file (a ++ b))).error = some (.badLine 3 "V\tb" (.fieldCount 2)) := by
    rw [← Text.utf8_append, read_utf8]
    decide
  have hbad : (empty.read (.file bad)).error = some (.badLine 2 "V" (.fieldCount 1)) := by
    rw [read_utf8]
    decide
  have hr : empty.read (.file a) = ⟨(empty.read (.file a)).book, none⟩ := by rw [← ha]
  have hs : empty.read (.file bad) =
      ⟨(empty.read (.file bad)).book, some (.badLine 2 "V" (.fieldCount 1))⟩ := by rw [← hbad]
  exact ⟨rfl, rfl, ⟨_, hr, ((reads_in_pieces empty a b).1 (.inr rfl)).1 _ hr, hab⟩,
    ⟨_, hs, ((reads_in_pieces empty bad b).1 (.inr rfl)).2 _ _ hs⟩⟩

end RuleBook

end LetterToSound
