import LetterToSound.Proofs.LineGrammar
import LetterToSound.Proofs.PlainBook
import LetterToSound.Trie.OfRules
import LetterToSound.Words.Transcription

namespace LetterToSound

namespace Text

/-- There is no blank at either end. -/
structure Bare (t : Text) : Prop where
  first : ∃ c, t.head? = some c ∧ isBlank c = false
  last : ∃ c, t.getLast? = some c ∧ isBlank c = false

theorem Bare.ne_nil {t : Text} (h : t.Bare) : t ≠ [] := by
  rintro rfl
  obtain ⟨_, hn, _⟩ := h.first
  cases hn

theorem Bare.trim {t : Text} (h : t.Bare) : t.trim = t := by
  obtain ⟨c, hc, hb⟩ := h.first
  obtain ⟨d, hd, hl⟩ := h.last
  obtain ⟨rest, rfl⟩ := List.head?_eq_some_iff.mp hc
  rw [trim_eq_rdrop, List.dropWhile_cons_of_neg (by simp [hb])]
  obtain ⟨init, he⟩ := List.getLast?_eq_some_iff.mp hd
  rw [he, List.rdropWhile_concat_neg _ _ _ (by simp [hl])]

theorem Clean.bare {separators : List Char} {t : Text} (h : t.Clean separators) : t.Bare := by
  constructor
  · obtain ⟨c, rest, rfl⟩ := List.exists_cons_of_ne_nil h.ne_nil
    exact ⟨c, rfl, head_trim_not_blank (t := c :: rest) (by rw [h.trimmed]; rfl)⟩
  · have ht : (t.dropWhile isBlank).rdropWhile isBlank = t := h.trimmed
    have hl := List.rdropWhile_last_not isBlank (t.dropWhile isBlank) (by rw [ht]; exact h.ne_nil)
    simp only [ht] at hl
    exact ⟨t.getLast h.ne_nil, List.getLast?_eq_some_getLast h.ne_nil, by simpa using hl⟩

theorem bare_sign {c : Char} (h : isBlank c = false) : Bare [c] := ⟨⟨c, rfl, h⟩, ⟨c, rfl, h⟩⟩

theorem Bare.between {left right : Text} (hl : left.Bare) (middle : Text) (hr : right.Bare) :
    Bare (left ++ middle ++ right) := by
  obtain ⟨c, hc, hb⟩ := hl.first
  obtain ⟨d, hd, he⟩ := hr.last
  refine ⟨⟨c, ?_, hb⟩, ⟨d, ?_, he⟩⟩
  · simp [hc]
  · simp [hd]

theorem bare_intercalate (sign : Text) {items : List Text} (hn : items ≠ [])
    (h : ∀ item ∈ items, Bare item) : Bare (sign.intercalate items) := by
  induction items with
  | nil => exact absurd rfl hn
  | cons item items ih =>
    cases items with
    | nil => simpa using h item List.mem_cons_self
    | cons next items =>
      rw [List.intercalate_cons_cons]
      exact (h item List.mem_cons_self).between sign
        (ih (List.cons_ne_nil _ _) fun other ho => h other (List.mem_cons_of_mem _ ho))

theorem not_mem_intercalate {c : Char} {sign : Text} {items : List Text} (hs : c ∉ sign)
    (h : ∀ item ∈ items, c ∉ item) : c ∉ sign.intercalate items := by
  induction items with
  | nil => simp
  | cons item items ih =>
    cases items with
    | nil => simpa using h item List.mem_cons_self
    | cons next items =>
      rw [List.intercalate_cons_cons]
      simp only [List.mem_append, not_or]
      exact ⟨⟨h item List.mem_cons_self, hs⟩,
        ih fun other ho => h other (List.mem_cons_of_mem _ ho)⟩

end Text

/-- Items as they are written in a list. -/
def listed (items : List Text) : Text := [',', ' '].intercalate items

theorem bare_listed {separators : List Char} {items : List Text} (hn : items ≠ [])
    (h : ∀ item ∈ items, item.Clean separators) : (listed items).Bare :=
  Text.bare_intercalate _ hn fun item hi => (h item hi).bare

theorem not_mem_listed {c : Char} {items : List Text} (hc : c ∉ [',', ' '])
    (h : ∀ item ∈ items, c ∉ item) : c ∉ listed items :=
  Text.not_mem_intercalate hc h

/-- The blanks that follow the commas are cut off again. -/
theorem pieces_listed {items : List Text} (hn : items ≠ []) (h : ∀ item ∈ items, item.Clean [','])
    {pad : Text} (hp : ∀ c ∈ pad, isBlank c = true) :
    Text.pieces ',' (pad ++ listed items) = items := by
  induction items generalizing pad with
  | nil => exact absurd rfl hn
  | cons item items ih =>
    have hi := h item List.mem_cons_self
    have hf : ',' ∉ pad ++ item := by
      rw [List.mem_append, not_or]
      exact ⟨fun hm => absurd (hp ',' hm) (by decide), hi.free ',' List.mem_cons_self⟩
    have ht : Text.trim (pad ++ item) = item := (Text.trim_blanks_append hp item).trans hi.trimmed
    cases items with
    | nil =>
      simp only [listed, List.intercalate_singleton, Text.pieces]
      rw [List.splitOn_eq_singleton hf, List.map_singleton, ht]
    | cons next items =>
      have hb : ∀ c ∈ [' '], isBlank c = true := List.forall_mem_singleton.mpr rfl
      have hrest := ih (List.cons_ne_nil _ _)
        (fun other ho => h other (List.mem_cons_of_mem _ ho)) hb
      have hl : pad ++ listed (item :: next :: items) =
          (pad ++ item) ++ ',' :: ([' '] ++ listed (next :: items)) := by
        simp [listed, List.intercalate_cons_cons]
      rw [hl, Text.pieces, List.splitOn_append_cons_self_of_not_mem hf, List.map_cons, ht]
      exact congrArg _ hrest

theorem lists_listed {items : List Text} (hn : items ≠ []) (h : ∀ item ∈ items, item.Clean [','])
    {pad : Text} (hp : ∀ c ∈ pad, isBlank c = true) : Text.Lists (pad ++ listed items) items := by
  have hl := pieces_listed hn h hp
  refine ⟨hl.symm, fun piece hm => ?_⟩
  have hi : Text.trim piece ∈ items := hl ▸ List.mem_map_of_mem hm
  exact (h _ hi).ne_nil

theorem read_list_listed {items : List Text} (hn : items ≠ [])
    (h : ∀ item ∈ items, item.Clean [',']) :
    readList ('(' :: listed items ++ [')']) = .ok items := by
  have hi : readItems .emptyValue (listed items) = .ok items :=
    read_items_iff_lists.mpr (lists_listed hn h (List.forall_mem_nil _))
  simp only [readList, List.cons_append, List.getLast?_concat, if_true, List.dropLast_concat, hi]

namespace Context

/-- The context as a field. What it admits is listed, or else a wildcard is named. -/
def written (wildcard : Text) (context : Context) : Text :=
  match context.tokens? with
  | none => wildcard
  | some tokens => '(' :: listed tokens ++ [')']

/-- What the written context is read as. -/
def restated (context : Context) : Context :=
  match context.tokens? with
  | none => .any
  | some tokens => .only tokens

theorem tokens_restated (context : Context) : context.restated.tokens? = context.tokens? := by
  cases context <;> rfl

/-- The sign stands in none of the tokens. -/
def Lacks (c : Char) (context : Context) : Prop := ∀ token ∈ context.tokens?.getD [], c ∉ token

instance (c : Char) (context : Context) : Decidable (context.Lacks c) := by
  unfold Lacks
  infer_instance

theorem Plain.lacks {vars : Variables} {context : Context} (h : context.Plain vars) {c : Char}
    (hc : c ∈ [',', '=', '\n']) : context.Lacks c := by
  intro token hm
  cases hk : context.tokens? with
  | none =>
    rw [hk] at hm
    cases hm
  | some tokens =>
    rw [hk] at hm
    exact (h.token tokens hk token hm).free c hc

end Context

def Variables.written (entry : Text × List Text) : Text :=
  entry.1 ++ [' ', '=', ' '] ++ listed entry.2

namespace Rule

def fields (wildcard : Text) (rule : Rule) : List Text :=
  [rule.left.written wildcard, rule.source, rule.right.written wildcard, listed rule.targets]

def written (wildcard : Text) (rule : Rule) : Text :=
  ['\t'].intercalate (rule.fields wildcard)

def restated (rule : Rule) : Rule :=
  ⟨rule.left.restated, rule.source, rule.right.restated, rule.targets⟩

end Rule

/-- Takes a line for each of the variables, in any order, and then one for each rule. -/
def RuleBook.written (wildcard : Text) (entries : List (Text × List Text)) (rules : List Rule) :
    Text :=
  (entries.map Variables.written ++ rules.map (Rule.written wildcard)).flatMap (· ++ ['\n'])

namespace Context

theorem written_bare {context : Context} {wildcard : Text} (hw : wildcard.Bare) :
    (context.written wildcard).Bare := by
  unfold written
  split
  · exact hw
  · exact (Text.bare_sign (by decide)).between (listed _) (Text.bare_sign (by decide))

theorem written_head {context : Context} {wildcard : Text} (h : wildcard.head? ≠ some '#') :
    (context.written wildcard).head? ≠ some '#' := by
  unfold written
  split
  · exact h
  · simp

theorem Lacks.written {context : Context} {c : Char} (h : context.Lacks c)
    (hc : c ∉ ['(', ',', ' ', ')']) {wildcard : Text} (hw : c ∉ wildcard) :
    c ∉ context.written wildcard := by
  simp only [List.mem_cons, List.not_mem_nil, or_false, not_or] at hc
  unfold Context.written
  split
  · exact hw
  · rename_i tokens hk
    rw [Lacks, hk] at h
    have hl : c ∉ listed tokens := not_mem_listed (by simp [hc]) h
    simp [hc, hl]

/-- A written context is read in any table that has the wildcard and all tokens. -/
theorem read_written {vars : Variables} (hv : vars.Sound) {wildcard : Text}
    (hw : vars.get? wildcard = some [Token.wildcard]) {context : Context} (hs : context.Sound)
    (hp : context.Plain vars) : read vars (context.written wildcard) = .ok context.restated := by
  unfold written restated
  cases hk : context.tokens? with
  | none => exact if_pos hw
  | some tokens =>
    obtain ⟨all, ha⟩ := hp.known tokens hk
    have hn := (hs tokens hk).1
    have hc : ∀ token ∈ tokens, token.Clean [','] :=
      fun token hm => (hp.token tokens hk token hm).mono (by simp)
    have hg : vars.get? ('(' :: listed tokens ++ [')']) ≠ some [Token.wildcard] :=
      fun hg => (hv.name _ (Variables.mem_entries hg)).no_list rfl
    have ht : readTokens vars all ('(' :: listed tokens ++ [')']) = .ok (only tokens) := by
      change (do return only (← readList ('(' :: listed tokens ++ [')']))) = _
      rw [read_list_listed hn hc]
      rfl
    have he : (only tokens).tokens? ≠ some [] := fun he => hn (Option.some.inj he)
    simp only [read, if_neg hg, ha, ht]
    exact if_neg he

end Context

theorem Text.Bare.no_remark {t : Text} (h : t.Bare) (hc : t.head? ≠ some '#') : ¬t.Remark := by
  rintro (hn | hh)
  · exact h.ne_nil (h.trim ▸ hn)
  · exact hc (h.trim ▸ hh)

namespace Variables

/-- The values of all tokens have the word boundary already, so no other is added. -/
theorem assigns_written {vars : Variables} (h : vars.Sound) {name : Text} {values : List Text}
    (he : (name, values) ∈ vars.entries) : (written (name, values)).Assigns name values := by
  have hn : SoundName name := h.name _ he
  have hc : ∀ value ∈ values, value.Clean [',', '='] := h.value _ he
  have ht : Text.trim (name ++ [' ']) = name :=
    (Text.trim_concat_blank (by decide) name).trans hn.trimmed
  have hl : '=' ∉ name ++ [' '] := by simpa using hn.free '=' List.mem_cons_self
  have hr : '=' ∉ [' '] ++ listed values := by
    have hv := not_mem_listed (by decide) fun value hm => (hc value hm).free '=' (by simp)
    simpa using hv
  have hi : Text.Lists ([' '] ++ listed values) values :=
    lists_listed (h.filled _ he) (fun value hm => (hc value hm).mono (by simp))
      (List.forall_mem_singleton.mpr rfl)
  have hb : ¬(name = allName ∧ Token.boundary ∉ values) := by
    rintro ⟨rfl, hm⟩
    exact hm (h.boundary values (get_eq_some_iff.mpr he))
  have ha := Text.Assigns.intro hl hr (by rw [ht]; exact hn.ne_nil) (by rw [ht]; exact hn.no_list)
    (by rw [ht]; exact hn.no_exclusion) hi
  rw [ht, if_neg hb] at ha
  simpa [written] using ha

theorem takes_written {vars : Variables} (h : vars.Sound) {entry : Text × List Text}
    (he : entry ∈ vars.entries) (book : RuleBook) :
    book.Takes (written entry) { book with vars := book.vars.set entry.1 entry.2 } := by
  have hn : SoundName entry.1 := h.name _ he
  have hb : (written entry).Bare :=
    hn.bare.between _ (bare_listed (h.filled _ he) (h.value _ he))
  have hh : (written entry).head? ≠ some '#' := by
    rw [written, List.append_assoc, List.head?_append_of_ne_nil _ hn.ne_nil]
    exact hn.no_comment
  exact .assignment (hb.no_remark hh) (by rw [hb.trim]; exact assigns_written h he)
    (RuleBook.sets_iff.mpr rfl)

end Variables

namespace Rule

structure Lacks (c : Char) (rule : Rule) : Prop where
  left : rule.left.Lacks c
  source : c ∉ rule.source
  right : rule.right.Lacks c
  target : ∀ target ∈ rule.targets, c ∉ target

theorem Lacks.fields {rule : Rule} {c : Char} (h : rule.Lacks c) (hc : c ∉ ['(', ',', ' ', ')'])
    {wildcard : Text} (hw : c ∉ wildcard) : ∀ field ∈ rule.fields wildcard, c ∉ field := by
  have ht : c ∉ listed rule.targets := not_mem_listed (by simp_all) h.target
  simp only [Rule.fields, List.forall_mem_cons, List.not_mem_nil, false_implies, implies_true,
    and_true]
  exact ⟨h.left.written hc hw, h.source, h.right.written hc hw, ht⟩

theorem Lacks.written {rule : Rule} {c : Char} (h : rule.Lacks c)
    (hc : c ∉ ['(', ',', ' ', ')', '\t']) {wildcard : Text} (hw : c ∉ wildcard) :
    c ∉ rule.written wildcard :=
  Text.not_mem_intercalate (by simp_all) (h.fields (by simp_all) hw)

/-- All that is needed to write the rule on a line of its own. -/
structure Writable (vars : Variables) (rule : Rule) : Prop where
  sound : rule.Sound
  plain : rule.Plain vars
  left : rule.left.Lacks '\t'
  right : rule.right.Lacks '\t'

theorem Writable.lacks {vars : Variables} {rule : Rule} (h : rule.Writable vars) {c : Char}
    (hc : c ∈ ['\t', '=', '\n']) : rule.Lacks c := by
  obtain ⟨⟨_, source, _, _, target⟩, plain, left, right⟩ := h
  simp only [List.mem_cons, List.not_mem_nil, or_false] at hc
  rcases hc with rfl | rfl | rfl
  · exact ⟨left, source.free '\t' (by simp), right, fun t hm => (target t hm).free '\t' (by simp)⟩
  · exact ⟨plain.left.lacks (by simp), source.free '=' (by simp), plain.right.lacks (by simp),
      fun t hm => (target t hm).free '=' (by simp)⟩
  · exact ⟨plain.left.lacks (by simp), plain.source, plain.right.lacks (by simp), plain.target⟩

theorem Writable.fields_bare {vars : Variables} {rule : Rule} (h : rule.Writable vars)
    {wildcard : Text} (hw : wildcard.Bare) : ∀ field ∈ rule.fields wildcard, Text.Bare field := by
  simp only [fields, List.forall_mem_cons, List.not_mem_nil, false_implies, implies_true, and_true]
  exact ⟨Context.written_bare hw, h.sound.source.bare, Context.written_bare hw,
    bare_listed h.sound.filled h.sound.target⟩

theorem Writable.states {vars : Variables} {rule : Rule} (h : rule.Writable vars)
    (hv : vars.Sound) {wildcard : Text} (hw : vars.get? wildcard = some [Token.wildcard])
    (ht : '\t' ∉ wildcard) : (rule.written wildcard).States vars rule.restated := by
  have hname : Variables.SoundName wildcard := hv.name _ (Variables.mem_entries hw)
  have hcut : (rule.written wildcard).splitOn '\t' = rule.fields wildcard :=
    List.splitOn_intercalate '\t' ((h.lacks (by simp)).fields (by decide) ht) (List.cons_ne_nil _ _)
  have he : '=' ∉ rule.written wildcard :=
    (h.lacks (by simp)).written (by decide) (hname.free '=' (by simp))
  have htrim {field : Text} (hm : field ∈ rule.fields wildcard) : field.trim = field :=
    (h.fields_bare hname.bare field hm).trim
  have hl : Text.Lists (listed rule.targets) rule.targets :=
    lists_listed h.sound.filled (fun t hm => (h.sound.target t hm).mono (by simp))
      (List.forall_mem_nil _)
  have hs := Text.States.intro hcut he (by rw [h.sound.source.trimmed]; exact h.sound.source.ne_nil)
    (by rw [htrim (by simp [fields])]; exact Context.read_written hv hw h.sound.left h.plain.left)
    (by rw [htrim (by simp [fields])]; exact Context.read_written hv hw h.sound.right h.plain.right)
    (by rw [htrim (by simp [fields])]; exact hl)
  rwa [h.sound.source.trimmed] at hs

/-- The line of a rule adds it to any book that has the wildcard and all tokens. -/
theorem Writable.takes {book : RuleBook} {rule : Rule} (h : rule.Writable book.vars)
    (hv : book.vars.Sound) {wildcard : Text}
    (hw : book.vars.get? wildcard = some [Token.wildcard]) (ht : '\t' ∉ wildcard) :
    book.Takes (rule.written wildcard) { book with rules := book.rules ++ [rule.restated] } := by
  have hname : Variables.SoundName wildcard := hv.name _ (Variables.mem_entries hw)
  have hb : (rule.written wildcard).Bare :=
    Text.bare_intercalate _ (List.cons_ne_nil _ _) (h.fields_bare hname.bare)
  have hh : (rule.written wildcard).head? ≠ some '#' := by
    simp only [written, fields, List.intercalate_cons_cons, List.append_assoc]
    rw [List.head?_append_of_ne_nil _ (Context.written_bare hname.bare).ne_nil]
    exact Context.written_head hname.no_comment
  exact .rule (hb.no_remark hh) (by rw [hb.trim]; exact h.states hv hw ht)
    (RuleBook.adds_iff.mpr rfl)

/-- The rules say the same, though one may list what another leaves when it excludes tokens. -/
structure Agrees (rule other : Rule) : Prop where
  left : rule.left.tokens? = other.left.tokens?
  source : rule.source = other.source
  right : rule.right.tokens? = other.right.tokens?
  targets : rule.targets = other.targets

theorem restated_agrees (rule : Rule) : rule.restated.Agrees rule :=
  ⟨rule.left.tokens_restated, rfl, rule.right.tokens_restated, rfl⟩

theorem Agrees.entries {rule other : Rule} (h : rule.Agrees other) :
    rule.entries = other.entries := by
  simp only [Rule.entries, Context.alternatives, Rule.output, h.left, h.source, h.right, h.targets]

end Rule

/-- Only what the rules say gets into the trie. -/
theorem RuleTrie.of_rules_agrees {rules others : List Rule}
    (h : List.Forall₂ Rule.Agrees rules others) :
    RuleTrie.ofRules rules = RuleTrie.ofRules others := by
  have he : rules.flatMap Rule.entries = others.flatMap Rule.entries := by
    induction h with
    | nil => rfl
    | cons first _ ih => rw [List.flatMap_cons, List.flatMap_cons, first.entries, ih]
  rw [ofRules, ofRules, he]

/-- The table of the entries, set one after the other. -/
def Variables.ofEntries (entries : List (Text × List Text)) : Variables :=
  entries.foldl (fun vars entry => vars.set entry.1 entry.2) .empty

theorem Variables.of_entries_concat (entries : List (Text × List Text))
    (entry : Text × List Text) :
    ofEntries (entries ++ [entry]) = (ofEntries entries).set entry.1 entry.2 := by
  simp only [ofEntries, List.foldl_append, List.foldl_cons, List.foldl_nil]

theorem Variables.get_of_entries {entries : List (Text × List Text)}
    (h : entries.Pairwise (·.1 ≠ ·.1)) {name : Text} {values : List Text} :
    (ofEntries entries).get? name = some values ↔ (name, values) ∈ entries := by
  induction entries using List.reverseRecOn with
  | nil => simp [ofEntries, empty, get?]
  | append_singleton entries entry ih =>
    obtain ⟨hb, _, hd⟩ := List.pairwise_append.mp h
    obtain ⟨last, lastValues⟩ := entry
    rw [of_entries_concat, get_set, List.mem_append, List.mem_singleton, Prod.mk.injEq]
    split
    · rename_i hn
      have hm : (name, values) ∉ entries := fun hm => hd _ hm _ List.mem_cons_self hn
      simp only [hm, false_or, Option.some.injEq]
      exact ⟨fun he => ⟨hn, he.symm⟩, fun he => he.2.symm⟩
    · rename_i hn
      simp only [hn, false_and, or_false, ih hb]

/-- A table does not depend on the order in which it is filled. -/
theorem Variables.of_entries_perm {vars : Variables} {entries : List (Text × List Text)}
    (h : entries.Perm vars.entries) : ofEntries entries = vars := by
  have hd : entries.Pairwise (·.1 ≠ ·.1) := by
    refine (h.pairwise_iff fun hne => hne.symm).mpr (vars.inOrder.imp fun {entry other} hl he => ?_)
    exact List.lt_irrefl other.1 (he ▸ hl)
  refine ext_get fun name => Option.ext fun values => ?_
  rw [get_of_entries hd, get_eq_some_iff, h.mem_iff]

namespace RuleBook

theorem foldl_read_line_concat {book middle next : RuleBook} {lines : List Text} {line : Text}
    (h : lines.foldlM readLine book = .ok middle) (hl : middle.Takes line next) :
    (lines ++ [line]).foldlM readLine book = .ok next := by
  rw [List.foldlM_append, bind_ok]
  exact ⟨middle, h, bind_ok.mpr ⟨next, hl.read_line, rfl⟩⟩

theorem read_entries {vars : Variables} (hv : vars.Sound) {entries : List (Text × List Text)}
    (he : entries ⊆ vars.entries) :
    (entries.map Variables.written).foldlM readLine empty = .ok ⟨.ofEntries entries, []⟩ := by
  induction entries using List.reverseRecOn with
  | nil => rfl
  | append_singleton entries entry ih =>
    rw [List.map_append, List.map_singleton, Variables.of_entries_concat]
    have hm : entry ∈ vars.entries := he (List.mem_append_right _ List.mem_cons_self)
    exact foldl_read_line_concat (ih fun _ ho => he (List.mem_append_left _ ho))
      (Variables.takes_written hv hm _)

theorem read_rules {vars : Variables} (hv : vars.Sound) {wildcard : Text}
    (hw : vars.get? wildcard = some [Token.wildcard]) (ht : '\t' ∉ wildcard) {rules : List Rule}
    (hr : ∀ rule ∈ rules, rule.Writable vars) :
    (rules.map (Rule.written wildcard)).foldlM readLine ⟨vars, []⟩ =
      .ok ⟨vars, rules.map Rule.restated⟩ := by
  induction rules using List.reverseRecOn with
  | nil => rfl
  | append_singleton rules rule ih =>
    rw [List.map_append, List.map_append, List.map_singleton, List.map_singleton]
    have hm : rule.Writable vars := hr rule (List.mem_append_right _ List.mem_cons_self)
    exact foldl_read_line_concat (ih fun other ho => hr other (List.mem_append_left _ ho))
      (hm.takes hv hw ht)

theorem written_lines {vars : Variables} (hp : vars.Plain) {wildcard : Text}
    (hw : '\n' ∉ wildcard) {entries : List (Text × List Text)} (he : entries ⊆ vars.entries)
    {rules : List Rule} (hr : ∀ rule ∈ rules, rule.Writable vars) :
    (written wildcard entries rules).lines =
      entries.map Variables.written ++ rules.map (Rule.written wildcard) := by
  refine ended_flat_map fun line hl => ?_
  rcases List.mem_append.mp hl with hl | hl
  · obtain ⟨entry, hm, rfl⟩ := List.mem_map.mp hl
    have hn : '\n' ∉ entry.1 := hp.name entry (he hm)
    have hv := hp.value entry (he hm)
    have hlist : '\n' ∉ listed entry.2 :=
      not_mem_listed (by decide) fun value hi => (hv value hi).free '\n' (by simp)
    simp [Variables.written, hn, hlist]
  · obtain ⟨rule, hm, rfl⟩ := List.mem_map.mp hl
    exact ((hr rule hm).lacks (by simp)).written (by decide) hw

/-- A book that texts have made can be written out as a text and read back. Its wildcard stands for
what is not constrained, and its variables can be written in any order. -/
theorem reads_what_was_written {book : RuleBook} (h : book.FromTexts)
    (no_tabs : ∀ rule ∈ book.rules, rule.left.Lacks '\t' ∧ rule.right.Lacks '\t')
    {wildcard : Text} (any : book.vars.get? wildcard = some [Token.wildcard])
    (no_tab : '\t' ∉ wildcard) {entries : List (Text × List Text)}
    (order : entries.Perm book.vars.entries) :
    ∃ back, empty.read (.file (Text.utf8 (written wildcard entries book.rules))) = ⟨back, none⟩ ∧
      back.vars = book.vars ∧ List.Forall₂ Rule.Agrees back.rules book.rules ∧
      ∀ (mode : Mode) (word : Text), (RuleTrie.ofRules back.rules).transcribe mode word =
        (RuleTrie.ofRules book.rules).transcribe mode word := by
  have hs := h.reached.sound
  have hp := h.plain
  have hr : ∀ rule ∈ book.rules, rule.Writable book.vars := fun rule hm =>
    ⟨hs.rules rule hm, hp.rules rule hm, (no_tabs rule hm).1, (no_tabs rule hm).2⟩
  have hline : '\n' ∉ wildcard := hp.vars.name _ (Variables.mem_entries any)
  have hback : (written wildcard entries book.rules).lines.foldlM readLine empty =
      .ok ⟨book.vars, book.rules.map Rule.restated⟩ := by
    rw [written_lines hp.vars hline order.subset hr, List.foldlM_append, bind_ok]
    refine ⟨_, read_entries hs.vars order.subset, ?_⟩
    rw [Variables.of_entries_perm order]
    exact read_rules hs.vars any no_tab hr
  have ha : List.Forall₂ Rule.Agrees (book.rules.map Rule.restated) book.rules :=
    List.forall₂_map_left_iff.mpr (List.forall₂_same.mpr fun rule _ => rule.restated_agrees)
  refine ⟨⟨book.vars, book.rules.map Rule.restated⟩, ?_, rfl, ha, fun mode word => ?_⟩
  · rw [read_utf8, read_lines_eq_iff]
    exact hback
  · rw [RuleTrie.of_rules_agrees ha]

theorem reads_written_exclusion :
    let text : Text := "ALL = a, b\nE = *\nE\ta\t-(a)\tx, y\nE"
    let book := (empty.read (.file text.utf8)).book
    let entries : List (Text × List Text) := [("E", ["*"]), ("ALL", ["a", "b", "$"])]
    written "E" entries book.rules = "E = *\nALL = a, b, $\nE\ta\t(b, $)\tx, y\n" ∧
      entries.Perm book.vars.entries ∧
      (∀ rule ∈ book.rules, rule.left.Lacks '\t' ∧ rule.right.Lacks '\t') ∧
      book.vars.get? "E" = some [Token.wildcard] ∧
      ∃ back, empty.read (.file (Text.utf8 (written "E" entries book.rules))) = ⟨back, none⟩ ∧
        back.vars = book.vars ∧ List.Forall₂ Rule.Agrees back.rules book.rules ∧
        ∀ (mode : Mode) (word : Text), (RuleTrie.ofRules back.rules).transcribe mode word =
          (RuleTrie.ofRules book.rules).transcribe mode word := by
  intro text book entries
  have hb : book = (empty.readLines 1 (text.lines.map .ok)).book := by
    rw [← read_utf8]
  have hw : written "E" entries book.rules =
      "E = *\nALL = a, b, $\nE\ta\t(b, $)\tx, y\n" := by
    rw [hb]
    decide
  have ho : entries.Perm book.vars.entries := by
    rw [hb]
    decide
  have ht : ∀ rule ∈ book.rules, rule.left.Lacks '\t' ∧ rule.right.Lacks '\t' := by
    rw [hb]
    decide
  have ha : book.vars.get? "E" = some [Token.wildcard] := by
    rw [hb]
    decide
  exact ⟨hw, ho, ht, ha, reads_what_was_written (.read .empty _) ht ha (by decide) ho⟩

end RuleBook

end LetterToSound
