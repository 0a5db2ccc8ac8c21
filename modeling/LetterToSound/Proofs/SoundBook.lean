import LetterToSound.Proofs.Pieces
import LetterToSound.Proofs.Session
import Mathlib.Data.List.Forall2

namespace LetterToSound

theorem map_m_ok {α β ε : Type} {f : α → Except ε β} {xs : List α} {ys : List β} :
    xs.mapM f = .ok ys ↔ List.Forall₂ (fun x y => f x = .ok y) xs ys := by
  induction xs generalizing ys with
  | nil =>
    simp only [List.mapM_nil, List.forall₂_nil_left_iff]
    exact ⟨fun h => (Except.ok.inj h).symm, fun h => h ▸ rfl⟩
  | cons x xs ih =>
    simp only [List.mapM_cons, bind_ok, List.forall₂_cons_left_iff, ih]
    constructor
    · rintro ⟨y, hy, rest, hr, he⟩
      exact ⟨y, rest, hy, hr, (Except.ok.inj he).symm⟩
    · rintro ⟨y, rest, hy, hr, rfl⟩
      exact ⟨y, hy, rest, hr, rfl⟩

namespace Context

/-- Either everything is admitted, or some tokens are, and none of them is empty. -/
def Sound (context : Context) : Prop :=
  ∀ tokens, context.tokens? = some tokens → tokens ≠ [] ∧ [] ∉ tokens

theorem without_sublist (tokens removed : List Text) : (without tokens removed).Sublist tokens :=
  List.filter_sublist

theorem foldl_without_sublist (tokens : List Text) (lists : List (List Text)) :
    (lists.foldl without tokens).Sublist tokens := by
  induction lists generalizing tokens with
  | nil => exact List.Sublist.refl tokens
  | cons removed lists ih => exact (ih _).trans (without_sublist tokens removed)

end Context

theorem read_list_cases {t : Text} {items : List Text} (h : readList t = .ok items) :
    ∃ inner, t = '(' :: inner ∧ inner.getLast? = some ')' ∧
      readItems .emptyValue inner.dropLast = .ok items := by
  unfold readList at h
  split at h
  · rename_i inner
    split at h
    · rename_i hl
      exact ⟨inner, rfl, hl, h⟩
    · cases h
  · cases h

theorem Variables.find_eq_ok_iff {vars : Variables} {name : Text} {values : List Text} :
    vars.find name = .ok values ↔ vars.get? name.trim = some values := by
  unfold find
  cases vars.get? name.trim with
  | none => simp
  | some found => simp

namespace Context

/-- What a field that is no wildcard's name can be read as: the items of a list, the values of
some variables, or a part of all tokens. -/
theorem read_tokens_cases {vars : Variables} {all : List Text} {field : Text} {context : Context}
    (h : readTokens vars all field = .ok context) :
    (∃ inner tokens, inner ⊆ field ∧ readItems .emptyValue inner = .ok tokens ∧
        context = .only tokens) ∨
      (∃ (names : List Text) (lists : List (List Text)),
        List.Forall₂ (fun name values => vars.get? name.trim = some values) names lists ∧
        context = .only lists.flatten) ∨
      ∃ remaining, remaining.Sublist all ∧ context = .allBut remaining := by
  unfold readTokens at h
  split at h
  · obtain ⟨removed, _, h⟩ := bind_ok.mp h
    exact .inr (.inr ⟨_, without_sublist all removed, (Except.ok.inj h).symm⟩)
  · obtain ⟨lists, _, h⟩ := bind_ok.mp h
    exact .inr (.inr ⟨_, foldl_without_sublist all lists, (Except.ok.inj h).symm⟩)
  · obtain ⟨tokens, ht, h⟩ := bind_ok.mp h
    obtain ⟨inner, hf, _, hi⟩ := read_list_cases ht
    have hs : inner.dropLast ⊆ '(' :: inner :=
      fun _ hc => List.mem_cons_of_mem _ (List.dropLast_subset inner hc)
    exact .inl ⟨_, tokens, hf ▸ hs, hi, (Except.ok.inj h).symm⟩
  · obtain ⟨lists, hl, h⟩ := bind_ok.mp h
    have hf := (map_m_ok.mp hl).imp fun _ _ => Variables.find_eq_ok_iff.mp
    exact .inr (.inl ⟨_, lists, hf, (Except.ok.inj h).symm⟩)

/-- A context that excludes tokens keeps a part of what all tokens are. -/
def ExcludesFrom (vars : Variables) (context : Context) : Prop :=
  ∀ remaining, context = .allBut remaining → ∃ all, vars.all? = some all ∧ remaining.Sublist all

theorem read_excludes_from {vars : Variables} {field : Text} {context : Context}
    (h : read vars field = .ok context) : context.ExcludesFrom vars := by
  rintro remaining rfl
  rcases read_cases h with ⟨_, hn⟩ | ⟨all, ha, ht, _⟩
  · cases hn
  · rcases read_tokens_cases ht with ⟨_, _, _, _, hn⟩ | ⟨_, _, _, hn⟩ | ⟨_, hs, he⟩
    · cases hn
    · cases hn
    · cases he
      exact ⟨all, ha, hs⟩

end Context

/-- A name that an assignment can have. -/
structure Variables.SoundName (name : Text) : Prop extends name.Clean ['='] where
  no_list : name.head? ≠ some '('
  no_exclusion : name.head? ≠ some '-'
  no_comment : name.head? ≠ some '#'

structure Variables.Sound (vars : Variables) : Prop where
  name : ∀ entry ∈ vars.entries, SoundName entry.1
  filled : ∀ entry ∈ vars.entries, entry.2 ≠ []
  value : ∀ entry ∈ vars.entries, ∀ value ∈ entry.2, value.Clean [',', '=']
  boundary : ∀ all, vars.all? = some all → Token.boundary ∈ all

structure Rule.Sound (rule : Rule) : Prop where
  left : rule.left.Sound
  source : rule.source.Clean ['\t', '=']
  right : rule.right.Sound
  filled : rule.targets ≠ []
  target : ∀ target ∈ rule.targets, target.Clean ['\t', ',', '=']

structure RuleBook.Sound (book : RuleBook) : Prop where
  vars : book.vars.Sound
  rules : ∀ rule ∈ book.rules, rule.Sound

theorem lookup_set_sorted (name other : Text) (values : List Text)
    (entries : List (Text × List Text)) :
    (setSorted name values entries).lookup other =
      if other = name then some values else entries.lookup other := by
  have hb (first : Text) : (other == first) = decide (other = first) := by
    rw [beq_eq_decide]
  induction entries with
  | nil => by_cases ho : other = name <;> simp [setSorted, List.lookup_cons, hb, ho]
  | cons head rest ih =>
    obtain ⟨first, old⟩ := head
    simp only [setSorted]
    split
    · rename_i hf
      by_cases ho : other = name <;> simp [List.lookup_cons, hb, ho, ← hf]
    · rename_i hf
      split
      · by_cases ho : other = name <;> simp [List.lookup_cons, hb, ho]
      · rw [List.lookup_cons, ih, List.lookup_cons, hb]
        by_cases ho : other = name
        · simp [ho, hf]
        · simp [ho]

namespace Variables

theorem get_set (vars : Variables) (name other : Text) (values : List Text) :
    (vars.set name values).get? other = if other = name then some values else vars.get? other :=
  lookup_set_sorted name other values vars.entries

theorem mem_entries {vars : Variables} {name : Text} {values : List Text}
    (h : vars.get? name = some values) : (name, values) ∈ vars.entries := by
  obtain ⟨before, after, he, _⟩ := List.lookup_eq_some_iff.mp h
  rw [he]
  exact List.mem_append_right _ List.mem_cons_self

theorem Sound.values_filled {vars : Variables} (h : vars.Sound) {name : Text} {values : List Text}
    (hg : vars.get? name = some values) : [] ∉ values :=
  fun hn => (h.value _ (mem_entries hg) [] hn).ne_nil rfl

end Variables

theorem Assignment.read_cases {line : Text} {assignment : Assignment}
    (h : Assignment.read line = .ok assignment) :
    ∃ (left right : Text) (values : List Text), line.splitOn '=' = [left, right] ∧
      assignment.name = left.trim ∧
      left.trim ≠ [] ∧ left.trim.head? ≠ some '(' ∧ left.trim.head? ≠ some '-' ∧
      readItems .emptyValue right = .ok values ∧
      assignment.values = withBoundary left.trim values := by
  unfold Assignment.read at h
  split at h
  · rename_i left right hs
    dsimp only at h
    split at h
    · cases h
    · rename_i hn
      split at h
      · cases h
      · rename_i hf
        rw [not_or] at hf
        split at h
        · cases h
        · obtain ⟨values, hv, h⟩ := bind_ok.mp h
          cases h
          exact ⟨left, right, values, hs, rfl, hn, hf.1, hf.2, hv, rfl⟩
  · cases h

/-- A line that is no comment cannot set a name that begins like one, because the first letter of
the name is the first letter of the line. -/
theorem Assignment.no_comment {line left right : Text} (ht : line.trim = line)
    (hc : line.head? ≠ some '#') (hs : line.splitOn '=' = [left, right]) (hn : left.trim ≠ []) :
    left.trim.head? ≠ some '#' := by
  have hl : line = left ++ '=' :: right := by
    have hi : List.intercalate ['='] (line.splitOn '=') = line := List.intercalate_splitOn '='
    rw [← hi, hs]
    simp
  cases left with
  | nil => exact absurd rfl hn
  | cons c left =>
    have hh : line.head? = some c := by rw [hl]; rfl
    have hb : isBlank c = false := Text.head_trim_not_blank (t := line) (by rw [ht, hh])
    rw [Text.head_trim_of_head rfl hb hn, ← hh]
    exact hc

theorem Assignment.with_boundary_cases {name value : Text} {values : List Text}
    (h : value ∈ withBoundary name values) : value ∈ values ∨ value = Token.boundary := by
  unfold withBoundary at h
  split at h
  · exact (List.mem_append.mp h).imp_right List.mem_singleton.mp
  · exact .inl h

theorem Assignment.boundary_mem (values : List Text) :
    Token.boundary ∈ withBoundary Variables.allName values := by
  unfold withBoundary
  split
  · simp
  · rename_i hn
    simpa using hn

theorem Token.clean_boundary : Token.boundary.Clean [',', '='] :=
  ⟨by decide, by decide, by simp [boundary]⟩

/-- What a line that is no comment sets is well formed. -/
theorem Variables.Sound.set {vars : Variables} (h : vars.Sound) {line : Text}
    {assignment : Assignment} (ht : line.trim = line) (hc : line.head? ≠ some '#')
    (ha : Assignment.read line = .ok assignment) :
    (vars.set assignment.name assignment.values).Sound := by
  obtain ⟨left, right, values, hs, hname, hn, hl, hx, hv, hvalues⟩ := Assignment.read_cases ha
  have hfree {piece : Text} (hp : piece ∈ [left, right]) : ∀ c ∈ ['='], c ∉ piece := by
    intro c hm hc
    rw [List.mem_singleton.mp hm] at hc
    exact (mem_of_mem_split (hs ▸ hp) hc).2 rfl
  have hsound : SoundName assignment.name := by
    rw [hname]
    exact ⟨Text.clean_trim hn (hfree List.mem_cons_self), hl, hx, Assignment.no_comment ht hc hs hn⟩
  have hclean : ∀ value ∈ assignment.values, value.Clean [',', '='] := by
    intro value hm
    rw [hvalues] at hm
    rcases Assignment.with_boundary_cases hm with hm | rfl
    · exact clean_items hv (hfree (List.mem_cons_of_mem _ List.mem_cons_self)) value hm
    · exact Token.clean_boundary
  have hfilled : assignment.values ≠ [] := by
    rw [hvalues]
    unfold Assignment.withBoundary
    split
    · simp
    · exact items_ne_nil hv
  refine
    { name := ?_
      filled := ?_
      value := ?_
      boundary := ?_ }
  · intro entry he
    rcases mem_setSorted he with rfl | he
    · exact hsound
    · exact h.name entry he
  · intro entry he
    rcases mem_setSorted he with rfl | he
    · exact hfilled
    · exact h.filled entry he
  · intro entry he
    rcases mem_setSorted he with rfl | he
    · exact hclean
    · exact h.value entry he
  · intro all hall
    rw [all?, get_set] at hall
    split at hall
    · rename_i hset
      rw [← Option.some.inj hall, hvalues, ← hname, ← hset]
      exact Assignment.boundary_mem values
    · exact h.boundary all hall

theorem Context.read_sound {vars : Variables} (h : vars.Sound) {field : Text} {context : Context}
    (hr : Context.read vars field = .ok context) : context.Sound := by
  intro tokens hk
  have hne : tokens ≠ [] := by
    rintro rfl
    exact Context.read_tokens hr hk
  refine ⟨hne, ?_⟩
  rcases Context.read_cases hr with ⟨_, rfl⟩ | ⟨all, ha, ht, _⟩
  · cases hk
  · rcases Context.read_tokens_cases ht with
      ⟨_, items, _, hi, rfl⟩ | ⟨_, lists, hl, rfl⟩ | ⟨remaining, hs, rfl⟩
    · cases hk
      exact (read_items_eq_ok_iff.mp hi).2 ▸ (read_items_eq_ok_iff.mp hi).1
    · cases hk
      have hf : ∀ list ∈ lists, [] ∉ list := by
        have hp := hl.flip.imp (S := fun values _ => [] ∉ values ∧ True)
          fun values name hg => ⟨h.values_filled hg, trivial⟩
        exact ((List.forall₂_and_left lists _).mp hp).1
      intro hn
      obtain ⟨list, hm, hn⟩ := List.mem_flatten.mp hn
      exact hf list hm hn
    · cases hk
      exact fun hn => h.values_filled ha (hs.subset hn)

theorem Rule.read_sound {vars : Variables} (h : vars.Sound) {line : Text} {rule : Rule}
    (he : '=' ∉ line) (hr : Rule.read vars line = .ok rule) : rule.Sound := by
  obtain ⟨left, right, targets, hp, hs, hleft, hright, ht⟩ := Rule.read_cases hr
  have hfree : ∀ c ∈ ['='], c ∉ line := by simpa using he
  have hm : rule.source ∈ line.pieces '\t' := by simp [hp]
  have htargets : ∀ c ∈ ['\t', '='], c ∉ targets := by
    by_cases hn : targets = []
    · simp [hn]
    · exact (Text.clean_piece (by simp [hp]) hn hfree).free
  refine ⟨Context.read_sound h hleft, Text.clean_piece hm hs hfree, Context.read_sound h hright,
    items_ne_nil ht, ?_⟩
  intro target hi
  obtain ⟨hne, htrim, hf⟩ := clean_items ht htargets target hi
  exact ⟨hne, htrim, by simpa [and_left_comm] using hf⟩

namespace RuleBook

theorem sound_empty : Sound .empty where
  vars :=
    { name := fun _ he => by cases he
      filled := fun _ he => by cases he
      value := fun _ he => by cases he
      boundary := fun _ ha => by cases ha }
  rules := fun _ hr => by cases hr

theorem Sound.line {book next : RuleBook} (h : book.Sound) {line : Text}
    (accepted : book.readLine line = .ok next) : next.Sound := by
  rcases read_line_cases accepted with ⟨_, rfl⟩ | ⟨hn, ⟨_, assignment, ha, rfl⟩ | ⟨he, rule, hr, rfl⟩⟩
  · exact h
  · exact ⟨h.vars.set (Text.trim_trim line) (not_or.mp hn).2 ha, h.rules⟩
  · refine ⟨h.vars, ?_⟩
    intro other ho
    rcases List.mem_append.mp ho with ho | ho
    · exact h.rules other ho
    · rw [List.mem_singleton.mp ho]
      exact Rule.read_sound h.vars he hr

end RuleBook

end LetterToSound
