import LetterToSound.Proofs.Readings
import LetterToSound.Proofs.SoundBook
import Mathlib.Data.List.Nodup

namespace LetterToSound

theorem split_eq_pair_iff {α : Type} [DecidableEq α] {sign : α} {xs left right : List α} :
    xs.splitOn sign = [left, right] ↔
      xs = left ++ sign :: right ∧ sign ∉ left ∧ sign ∉ right := by
  constructor
  · intro h
    have hx : [sign].intercalate (xs.splitOn sign) = xs := List.intercalate_splitOn sign
    rw [h] at hx
    exact ⟨by simpa using hx.symm, split_not_mem (h ▸ List.mem_cons_self),
      split_not_mem (h ▸ List.mem_cons_of_mem _ List.mem_cons_self)⟩
  · rintro ⟨rfl, hl, hr⟩
    rw [List.splitOn_append_cons_self_of_not_mem hl, List.splitOn_eq_singleton hr]

namespace Text

/-- The line says nothing. -/
def Remark (line : Text) : Prop := line.trim = [] ∨ line.trim.head? = some '#'

/-- The items stand between commas, and each of them is more than blanks. -/
structure Lists (t : Text) (items : List Text) : Prop where
  items : items = (t.splitOn ',').map trim
  filled : ∀ piece ∈ t.splitOn ',', trim piece ≠ []

/-- One equals sign stands between a name and its values. All tokens get the word boundary if it is
not among them. -/
inductive Assigns : Text → Text → List Text → Prop
  | intro {left right : Text} {items : List Text} (left_free : '=' ∉ left)
      (right_free : '=' ∉ right) (named : left.trim ≠ []) (no_list : left.trim.head? ≠ some '(')
      (no_exclusion : left.trim.head? ≠ some '-') (lists : right.Lists items) :
      Assigns (left ++ '=' :: right) left.trim
        (if left.trim = Variables.allName ∧ Token.boundary ∉ items then items ++ [Token.boundary]
          else items)

/-- Four fields stand between tabs, and the two contexts can be read. -/
inductive States (vars : Variables) (line : Text) : Rule → Prop
  | intro {left source right targets : Text} {items : List Text} {before after : Context}
      (cut : line.splitOn '\t' = [left, source, right, targets]) (no_assignment : '=' ∉ line)
      (sourced : source.trim ≠ []) (left_read : Context.read vars left.trim = .ok before)
      (right_read : Context.read vars right.trim = .ok after) (lists : targets.trim.Lists items) :
      States vars line ⟨before, source.trim, after, items⟩

end Text

theorem read_items_iff_lists {blank : LineError} {t : Text} {items : List Text} :
    readItems blank t = .ok items ↔ t.Lists items := by
  rw [read_items_eq_ok_iff]
  have hf : [] ∉ t.pieces ',' ↔ ∀ piece ∈ t.splitOn ',', Text.trim piece ≠ [] := by
    simp [Text.pieces]
  rw [hf]
  exact ⟨fun h => ⟨h.2, h.1⟩, fun h => ⟨h.filled, h.items⟩⟩

theorem Text.Lists.trim_ne_nil {t : Text} {items : List Text} (h : t.Lists items) :
    t.trim ≠ [] := by
  intro hn
  obtain ⟨piece, hp⟩ := List.exists_mem_of_ne_nil _ (List.splitOn_ne_nil ',' t)
  apply h.filled piece hp
  rw [Text.trim_eq_nil_iff] at hn ⊢
  exact fun c hc => hn c (mem_of_mem_split hp hc).1

theorem Assignment.read_iff {line : Text} {assignment : Assignment} :
    Assignment.read line = .ok assignment ↔ line.Assigns assignment.name assignment.values := by
  constructor
  · intro h
    obtain ⟨left, right, items, hs, hname, hn, hl, hx, hi, hvalues⟩ := read_cases h
    obtain ⟨rfl, hleft, hright⟩ := split_eq_pair_iff.mp hs
    rw [hname, hvalues]
    exact .intro hleft hright hn hl hx (read_items_iff_lists.mp hi)
  · obtain ⟨name, values⟩ := assignment
    dsimp only
    rintro ⟨left_free, right_free, named, no_list, no_exclusion, lists⟩
    rename_i left right items
    have hs := split_eq_pair_iff.mpr ⟨rfl, left_free, right_free⟩
    have hi : readItems .emptyValue right = .ok items := read_items_iff_lists.mpr lists
    simp only [read, hs, named, no_list, no_exclusion, or_false, if_false, lists.trim_ne_nil, hi]
    rfl

theorem Rule.read_iff {vars : Variables} {line : Text} {rule : Rule} :
    '=' ∉ line ∧ Rule.read vars line = .ok rule ↔ line.States vars rule := by
  constructor
  · rintro ⟨he, h⟩
    obtain ⟨left, right, targets, hp, hs, hleft, hright, ht⟩ := read_cases h
    obtain ⟨before, source, after, items⟩ := rule
    simp only [Text.pieces, List.map_eq_cons_iff, List.map_eq_nil_iff] at hp
    obtain ⟨left, _, hc, rfl, source, _, rfl, rfl, right, _, rfl, rfl, targets, _, rfl, rfl, rfl⟩ :=
      hp
    exact .intro hc he hs hleft hright (read_items_iff_lists.mp ht)
  · rintro ⟨cut, no_assignment, sourced, left_read, right_read, lists⟩
    refine ⟨no_assignment, ?_⟩
    rename_i left source right targets items before after
    have hi : readItems .emptyTarget targets.trim = .ok items := read_items_iff_lists.mpr lists
    simp only [read, Text.pieces, cut, List.map_cons, List.map_nil, if_neg sourced, left_read,
      right_read, hi]
    rfl

namespace Variables

theorem nodup_entries (vars : Variables) : vars.entries.Nodup :=
  vars.inOrder.imp fun {entry other} h (he : entry = other) =>
    List.lt_irrefl other.1 (he ▸ h : other.1 < other.1)

theorem get_eq_some_iff {vars : Variables} {name : Text} {values : List Text} :
    vars.get? name = some values ↔ (name, values) ∈ vars.entries := by
  refine ⟨mem_entries, fun h => ?_⟩
  obtain ⟨before, after, he⟩ := List.append_of_mem h
  have ho := vars.inOrder
  rw [InOrder, he, List.pairwise_append] at ho
  refine List.lookup_eq_some_iff.mpr ⟨before, after, he, fun entry hm => ?_⟩
  have hl := ho.2.2 entry hm (name, values) List.mem_cons_self
  simpa using fun hn : name = entry.1 => List.lt_irrefl _ (hn ▸ hl)

theorem ext_get {vars other : Variables} (h : ∀ name, vars.get? name = other.get? name) :
    vars = other := by
  have hm (entry : Text × List Text) : entry ∈ vars.entries ↔ entry ∈ other.entries := by
    rw [← get_eq_some_iff, ← get_eq_some_iff, h]
  have hp : vars.entries.Perm other.entries :=
    (List.perm_ext_iff_of_nodup vars.nodup_entries other.nodup_entries).mpr hm
  have he : vars.entries = other.entries :=
    hp.eq_of_pairwise (fun _ _ _ _ h h' => absurd (List.lt_trans h h') (List.lt_irrefl _))
      vars.inOrder other.inOrder
  cases vars
  cases other
  cases he
  rfl

end Variables

namespace RuleBook

/-- Only the values of one name have changed. -/
structure Sets (book next : RuleBook) (name : Text) (values : List Text) : Prop where
  here : next.vars.get? name = some values
  elsewhere : ∀ other, other ≠ name → next.vars.get? other = book.vars.get? other
  rules : next.rules = book.rules

/-- Only a rule at the end has come in. -/
structure Adds (book next : RuleBook) (rule : Rule) : Prop where
  vars : next.vars = book.vars
  rules : next.rules = book.rules ++ [rule]

/-- A line and what it makes of a book. A remark is nothing else, whatever stands in it. -/
inductive Takes (book : RuleBook) (line : Text) : RuleBook → Prop
  | remark (h : line.Remark) : Takes book line book
  | assignment {next : RuleBook} {name : Text} {values : List Text} (h : ¬line.Remark)
      (assigns : line.trim.Assigns name values) (sets : book.Sets next name values) :
      Takes book line next
  | rule {next : RuleBook} {rule : Rule} (h : ¬line.Remark)
      (states : line.trim.States book.vars rule) (adds : book.Adds next rule) : Takes book line next

theorem sets_iff {book next : RuleBook} {name : Text} {values : List Text} :
    book.Sets next name values ↔ next = { book with vars := book.vars.set name values } := by
  constructor
  · intro h
    have hv : next.vars = book.vars.set name values := by
      refine Variables.ext_get fun other => ?_
      rw [Variables.get_set]
      split
      · rename_i ho
        rw [ho, h.here]
      · rename_i ho
        exact h.elsewhere other ho
    rw [← hv, ← h.rules]
  · rintro rfl
    exact ⟨by simp [Variables.get_set], fun other ho => by simp [Variables.get_set, ho], rfl⟩

theorem adds_iff {book next : RuleBook} {rule : Rule} :
    book.Adds next rule ↔ next = { book with rules := book.rules ++ [rule] } := by
  constructor
  · intro h
    rw [← h.rules, ← h.vars]
  · rintro rfl
    exact ⟨rfl, rfl⟩

theorem Takes.read_line {book next : RuleBook} {line : Text} (h : book.Takes line next) :
    book.readLine line = .ok next := by
  cases h with
  | remark h => exact if_pos h
  | @assignment next name values h assigns sets =>
    have he : '=' ∈ line.trim := by
      generalize line.trim = t at assigns
      cases assigns
      simp
    have ha : Assignment.read line.trim = .ok ⟨name, values⟩ := Assignment.read_iff.mpr assigns
    rw [sets_iff.mp sets]
    exact (if_neg h).trans ((if_pos he).trans (bind_ok.mpr ⟨_, ha, rfl⟩))
  | rule h states adds =>
    obtain ⟨he, hr⟩ := Rule.read_iff.mpr states
    rw [adds_iff.mp adds]
    exact (if_neg h).trans ((if_neg he).trans (bind_ok.mpr ⟨_, hr, rfl⟩))

theorem read_line_iff {book next : RuleBook} {line : Text} :
    book.readLine line = .ok next ↔ book.Takes line next := by
  refine ⟨fun h => ?_, Takes.read_line⟩
  rcases read_line_cases h with ⟨hb, rfl⟩ | ⟨hb, ⟨_, assignment, ha, hn⟩ | ⟨he, rule, hr, hn⟩⟩
  · exact .remark hb
  · exact .assignment hb (Assignment.read_iff.mp ha) (sets_iff.mpr hn)
  · exact .rule hb (Rule.read_iff.mp ⟨he, hr⟩) (adds_iff.mpr hn)

/-- Lines one after the other, each for the book that those before it have made. -/
inductive TakesAll : RuleBook → List Text → RuleBook → Prop
  | nil {book : RuleBook} : TakesAll book [] book
  | cons {book next last : RuleBook} {line : Text} {lines : List Text}
      (first : book.Takes line next) (rest : TakesAll next lines last) : TakesAll book (line :: lines) last

theorem foldl_read_line_iff {book last : RuleBook} {lines : List Text} :
    lines.foldlM readLine book = .ok last ↔ TakesAll book lines last := by
  induction lines generalizing book with
  | nil =>
    constructor
    · intro h
      cases h
      exact .nil
    · rintro ⟨⟩
      rfl
  | cons line lines ih =>
    rw [List.foldlM_cons, bind_ok]
    constructor
    · rintro ⟨next, hn, hr⟩
      exact .cons (read_line_iff.mp hn) (ih.mp hr)
    · rintro ⟨⟩
      rename_i next first rest
      exact ⟨next, read_line_iff.mpr first, ih.mpr rest⟩

theorem of_content_eq_ok_iff {content : Content} {book : RuleBook} :
    ofContent content = .ok book ↔ empty.read content = ⟨book, none⟩ := by
  unfold ofContent Reading.complete
  generalize empty.read content = reading
  obtain ⟨next, error⟩ := reading
  cases error with
  | none => simp
  | some error => simp

/-- A line is accepted if it is in the grammar, and has the effect that is stated there. A text is
read to its end if each line is accepted by the book that those before it have made. -/
theorem accepts_line_grammar :
    (∀ (book next : RuleBook) (line : Text),
      book.readLine line = .ok next ↔ book.Takes line next) ∧
    ∀ (t : Text) (book : RuleBook),
      ofContent (.file t.utf8) = .ok book ↔ TakesAll .empty t.lines book := by
  refine ⟨fun _ _ _ => read_line_iff, fun t book => ?_⟩
  rw [of_content_eq_ok_iff, read_utf8, read_lines_eq_iff, foldl_read_line_iff]

end RuleBook

end LetterToSound
