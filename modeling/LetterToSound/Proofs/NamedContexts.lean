import LetterToSound.Proofs.ContextFields

namespace LetterToSound

namespace Context

/-- The context that stands for the values of one variable. -/
def ofValues (values : List Text) : Context :=
  if values = [Token.wildcard] then .any else .only values

section

variable {vars : Variables} {name : Text} {values all : List Text}

/-- A name that is no wildcard's is cut at the plus signs, and what its parts name is admitted. -/
theorem read_parts_iff (h : vars.Sound) (hall : vars.all? = some all)
    (hg : vars.get? name = some values) (hn : values ≠ [Token.wildcard]) {context : Context} :
    read vars name = .ok context ↔
      ∃ lists, List.Forall₂ vars.Names (name.splitOn '+') lists ∧
        context = .only lists.flatten := by
  have hname := h.name _ (Variables.mem_entries hg)
  have hp : vars.get? name ≠ some [Token.wildcard] := by
    rw [hg]
    exact fun he => hn (Option.some.inj he)
  constructor
  · intro hr
    rcases read_cases hr with ⟨hw, _⟩ | ⟨_, _, ht, _⟩
    · exact absurd hw hp
    · rw [read_tokens_plus hname.no_exclusion, read_operand_names hname.no_list] at ht
      cases hm : (name.splitOn '+').mapM vars.find with
      | error error =>
        rw [hm] at ht
        cases ht
      | ok lists =>
        rw [hm] at ht
        exact ⟨lists, forall₂_find_iff.mp (map_m_ok.mp hm), (Except.ok.inj ht).symm⟩
  · rintro ⟨lists, hk, rfl⟩
    obtain ⟨hparts, hfree, hjoin⟩ := split_eq_iff.mp (rfl : name.splitOn '+' = name.splitOn '+')
    have hx := ComesTo.names (parted_of_known h hparts hfree hk) hk
    rw [hjoin] at hx
    refine read_eq_iff.mpr (.tokens hp hall (.only hname.no_exclusion hx) ?_)
    exact fun he => flatten_ne_nil h hparts hk (Option.some.inj he)

theorem read_name (h : vars.Sound) (hall : vars.all? = some all)
    (hg : vars.get? name = some values) (hp : '+' ∉ name ∨ values = [Token.wildcard]) :
    read vars name = .ok (ofValues values) := by
  unfold ofValues
  split
  · rename_i hw
    exact if_pos (hw ▸ hg)
  · rename_i hw
    have hk : List.Forall₂ vars.Names (name.splitOn '+') [values] := by
      rw [List.splitOn_eq_singleton (hp.resolve_right hw)]
      refine .cons ?_ .nil
      rw [Variables.Names, (h.name _ (Variables.mem_entries hg)).trimmed, hg]
    exact (read_parts_iff h hall hg hw).mpr ⟨_, hk, by rw [List.flatten_singleton]⟩

end

end Context

namespace Text

/-- A line with four fields, of which the source and the targets are as a rule's should be. -/
structure RuleFields (line left source right targets : Text) (items : List Text) : Prop where
  no_assignment : '=' ∉ line.trim
  fields : line.trim.pieces '\t' = [left, source, right, targets]
  sourced : source ≠ []
  lists : targets.Lists items

theorem RuleFields.no_remark {line left source right targets : Text} {items : List Text}
    (h : line.RuleFields left source right targets items) (hn : Variables.SoundName left) :
    ¬line.Remark := by
  have hf := h.fields
  simp only [pieces, List.map_eq_cons_iff] at hf
  obtain ⟨first, rest, hs, rfl, _⟩ := hf
  obtain ⟨_, _, hjoin⟩ := split_eq_iff.mp hs
  cases first with
  | nil => exact absurd rfl hn.ne_nil
  | cons c first =>
    have hc : line.trim.head? = some c := by
      rw [← hjoin]
      cases rest <;> rfl
    rintro (hl | hr)
    · rw [hl] at hc
      cases hc
    · obtain rfl : c = '#' := Option.some.inj (hc.symm.trans hr)
      exact hn.no_comment (head_trim_of_head rfl (by decide) hn.ne_nil)

end Text

namespace RuleBook

theorem read_rule_fields {book : RuleBook} {line left source right targets : Text}
    {items : List Text} (h : line.RuleFields left source right targets items)
    (hr : ¬line.Remark) {before after : Context} (hl : Context.read book.vars left = .ok before)
    (ha : Context.read book.vars right = .ok after) :
    book.readLine line =
      .ok { book with rules := book.rules ++ [⟨before, source, after, items⟩] } := by
  have hi : readItems .emptyTarget targets = .ok items := read_items_iff_lists.mpr h.lists
  have hrule : Rule.read book.vars line.trim = .ok ⟨before, source, after, items⟩ := by
    simp only [Rule.read, h.fields, if_neg h.sourced, hl, ha, hi]
    rfl
  exact (if_neg hr).trans ((if_neg h.no_assignment).trans (bind_ok.mpr ⟨_, hrule, rfl⟩))

/-- A line that sets the variable was accepted at some moment of the session. -/
inductive Defines : RuleBook → Text → Prop
  | here {book next : RuleBook} {line name : Text} {values : List Text} (before : Reached book)
      (no_remark : ¬line.Remark) (assigns : line.trim.Assigns name values)
      (accepted : book.readLine line = .ok next) : Defines next name
  | later {book next : RuleBook} {line name : Text} (before : Defines book name)
      (accepted : book.readLine line = .ok next) : Defines next name

/-- A field that is exactly the name stands for the context, on either side of any rule. -/
structure Uses (book : RuleBook) (name : Text) (context : Context) : Prop where
  on_left : ∀ {line source right targets : Text} {items : List Text} {after : Context},
    line.RuleFields name source right targets items → Context.read book.vars right = .ok after →
    book.readLine line =
      .ok { book with rules := book.rules ++ [⟨context, source, after, items⟩] }
  on_right : ∀ {line left source targets : Text} {items : List Text} {before : Context},
    line.RuleFields left source name targets items → ¬line.Remark →
    Context.read book.vars left = .ok before →
    book.readLine line =
      .ok { book with rules := book.rules ++ [⟨before, source, context, items⟩] }

variable {book next : RuleBook} {line name : Text} {values : List Text}

theorem Defines.reached (h : book.Defines name) : book.Reached := by
  induction h with
  | here before _ _ accepted => exact before.line accepted
  | later _ accepted ih => exact ih.line accepted

/-- An assignment leaves the variable with the values that it lists. -/
theorem get_of_assigns (hr : ¬line.Remark) (ha : line.trim.Assigns name values)
    (h : book.readLine line = .ok next) : next.vars.get? name = some values := by
  have he : '=' ∈ line.trim := by
    generalize line.trim = t at ha
    cases ha
    simp
  rcases read_line_cases h with ⟨hb, _⟩ | ⟨_, ⟨_, assignment, hread, rfl⟩ | ⟨hn, _⟩⟩
  · exact absurd hb hr
  · have hn : Assignment.read line.trim = .ok ⟨name, values⟩ := Assignment.read_iff.mpr ha
    rw [hn] at hread
    cases hread
    exact (Variables.get_set _ _ _ _).trans (if_pos rfl)
  · exact absurd he hn

/-- A variable that is set stays set, though not to the same values. -/
theorem stays_known (hk : ∃ values, book.vars.get? name = some values)
    (h : book.readLine line = .ok next) : ∃ values, next.vars.get? name = some values := by
  rcases read_line_cases h with ⟨_, rfl⟩ | ⟨_, ⟨_, assignment, _, rfl⟩ | ⟨_, rule, _, rfl⟩⟩
  · exact hk
  · rw [Variables.get_set]
    split
    · exact ⟨_, rfl⟩
    · exact hk
  · exact hk

theorem Defines.known (h : book.Defines name) : ∃ values, book.vars.get? name = some values := by
  induction h with
  | here _ no_remark assigns accepted => exact ⟨_, get_of_assigns no_remark assigns accepted⟩
  | later _ accepted ih => exact stays_known ih accepted

theorem uses_of_read (h : book.vars.Sound) (hg : book.vars.get? name = some values)
    {context : Context} (hr : Context.read book.vars name = .ok context) :
    book.Uses name context := by
  constructor
  · intro line source right targets items after hf ha
    exact read_rule_fields hf (hf.no_remark (h.name _ (Variables.mem_entries hg))) hr ha
  · intro line left source targets items before hf hn hl
    exact read_rule_fields hf hn hl hr

/-- A name that was set can be used if no plus sign cuts it into parts, and stands for what the
variable holds. A name that is cut stands for what its parts hold, and for nothing if one of them
is not known. -/
theorem uses_defined_names (h : book.Defines name) {all : List Text}
    (hall : book.vars.all? = some all) :
    ∃ values, book.vars.get? name = some values ∧
      ('+' ∉ name ∨ values = [Token.wildcard] → book.Uses name (.ofValues values)) ∧
      (values ≠ [Token.wildcard] → ∀ context, Context.read book.vars name = .ok context ↔
        ∃ lists, List.Forall₂ book.vars.Names (name.splitOn '+') lists ∧
          context = .only lists.flatten) := by
  have hv : book.vars.Sound := h.reached.sound.vars
  obtain ⟨values, hg⟩ := h.known
  refine ⟨values, hg, fun hp => ?_, fun hn _ => Context.read_parts_iff hv hall hg hn⟩
  exact uses_of_read hv hg (Context.read_name hv hall hg hp)

/-- A hyphen does not cut a name that is a whole field. -/
theorem uses_name_with_hyphen :
    let lines : List Text := ["ALL = a, b", "SP-1 = b, a"]
    let book := ofLines lines
    book.Defines "SP-1" ∧ book.vars.all? = some (["a", "b", "$"] : List Text) ∧
      book.Uses "SP-1" (.only ["b", "a"]) := by
  intro lines book
  have hread : Assignment.read (Text.trim "SP-1 = b, a") = .ok ⟨"SP-1", ["b", "a"]⟩ := by decide
  have h : book.Defines "SP-1" :=
    .here (Reached.empty.lines 1 [.ok "ALL = a, b"]) (not_or.mpr ⟨by decide, by decide⟩)
      (Assignment.read_iff.mp hread) rfl
  have hall : book.vars.all? = some (["a", "b", "$"] : List Text) := by decide
  have hvalues : book.vars.get? "SP-1" = some (["b", "a"] : List Text) := by decide
  obtain ⟨values, hg, hown, _⟩ := uses_defined_names h hall
  rw [hvalues] at hg
  cases hg
  exact ⟨h, hall, hown (.inl (by decide))⟩

/-- A plus sign cuts it, and the parts may be no names at all. -/
theorem name_with_plus_is_no_context :
    let lines : List Text := ["ALL = a", "P+Q = a"]
    let book := ofLines lines
    book.Defines "P+Q" ∧ book.vars.all? = some (["a", "$"] : List Text) ∧
      book.vars.get? "P+Q" = some (["a"] : List Text) ∧ ¬book.Uses "P+Q" (.ofValues ["a"]) := by
  intro lines book
  have hread : Assignment.read (Text.trim "P+Q = a") = .ok ⟨"P+Q", ["a"]⟩ := by decide
  have h : book.Defines "P+Q" :=
    .here (Reached.empty.lines 1 [.ok "ALL = a"]) (not_or.mpr ⟨by decide, by decide⟩)
      (Assignment.read_iff.mp hread) rfl
  refine ⟨h, by decide, by decide, fun hu => ?_⟩
  have hf : Text.RuleFields "P+Q\ta\t(a)\tx" "P+Q" "a" "(a)" "x" ["x"] :=
    ⟨by decide, by decide, by decide, ⟨by decide, by decide⟩⟩
  have hright : Context.read book.vars "(a)" = .ok (.only ["a"]) := by decide
  have hok := hu.on_left hf hright
  have herror : book.readLine "P+Q\ta\t(a)\tx" = .error (.unknownVariable "P") := rfl
  rw [herror] at hok
  cases hok

end RuleBook

end LetterToSound
