import LetterToSound.Proofs.WrittenBook

namespace LetterToSound

theorem bind_error {α β ε : Type} {x : Except ε α} {f : α → Except ε β} {error : ε} :
    (x >>= f) = .error error ↔ x = .error error ∨ ∃ a, x = .ok a ∧ f a = .error error := by
  cases x with
  | error e => simp [bind, Except.bind]
  | ok a => simp [bind, Except.bind]

theorem map_m_error {α β ε : Type} {f : α → Except ε β} {xs : List α} {error : ε} :
    xs.mapM f = .error error ↔ ∃ before x after ys, xs = before ++ x :: after ∧
      List.Forall₂ (fun x y => f x = .ok y) before ys ∧ f x = .error error := by
  induction xs with
  | nil =>
    refine ⟨nofun, ?_⟩
    rintro ⟨before, x, after, ys, he, _⟩
    simp at he
  | cons first xs ih =>
    simp only [List.mapM_cons, bind_error, ih]
    constructor
    · rintro (hf | ⟨y, hf, ⟨before, x, after, ys, rfl, hb, hx⟩ | ⟨_, _, hn⟩⟩)
      · exact ⟨[], first, xs, [], rfl, .nil, hf⟩
      · exact ⟨first :: before, x, after, y :: ys, rfl, .cons hf hb, hx⟩
      · cases hn
    · rintro ⟨before, x, after, ys, he, hb, hx⟩
      cases hb with
      | nil =>
        cases he
        exact .inl hx
      | cons hf hb =>
        cases he
        exact .inr ⟨_, hf, .inl ⟨_, x, after, _, rfl, hb, hx⟩⟩

/-- A cut at a sign gives the parts that it stands between. -/
theorem split_eq_iff {α : Type} [DecidableEq α] {sign : α} {xs : List α} {parts : List (List α)} :
    xs.splitOn sign = parts ↔
      parts ≠ [] ∧ (∀ part ∈ parts, sign ∉ part) ∧ [sign].intercalate parts = xs := by
  constructor
  · rintro rfl
    exact ⟨List.splitOn_ne_nil sign xs, fun _ => split_not_mem, List.intercalate_splitOn sign⟩
  · rintro ⟨hn, hf, rfl⟩
    exact List.splitOn_intercalate sign hf hn

/-- The values of the variable that is meant by a name. Blanks around the name do not count. -/
def Variables.Names (vars : Variables) (name : Text) (values : List Text) : Prop :=
  vars.get? name.trim = some values

theorem Variables.find_eq_error_iff {vars : Variables} {name : Text} {error : LineError} :
    vars.find name = .error error ↔
      vars.get? name.trim = none ∧ error = .unknownVariable name.trim := by
  unfold find
  cases vars.get? name.trim with
  | none => simp [eq_comm]
  | some values => simp

theorem read_items_eq_error_iff {blank error : LineError} {t : Text} :
    readItems blank t = .error error ↔
      (∃ piece ∈ t.splitOn ',', Text.trim piece = []) ∧ error = blank := by
  have hm : [] ∈ t.pieces ',' ↔ ∃ piece ∈ t.splitOn ',', Text.trim piece = [] := List.mem_map
  rw [← hm]
  unfold readItems
  split
  · rename_i hb
    simp [hb, eq_comm]
  · rename_i hb
    simp [hb]

theorem read_list_closed (inner : Text) :
    readList ('(' :: inner ++ [')']) = readItems .emptyValue inner := by
  simp [readList]

theorem read_list_unclosed {inner : Text} (h : inner.getLast? ≠ some ')') :
    readList ('(' :: inner) = .error (.unclosedList ('(' :: inner)) := if_neg h

namespace Context

/-- Names with a sign between them, which are not taken for a list. -/
structure Parted (sign : Char) (names : List Text) : Prop where
  some_name : names ≠ []
  free : ∀ name ∈ names, sign ∉ name
  no_list : ([sign].intercalate names).head? ≠ some '('

/-- What an operand comes to: the items of a list, or the values of all variables that are named,
one after the other. -/
inductive ComesTo (vars : Variables) (sign : Char) : Text → Except LineError (List Text) → Prop
  | list {inner : Text} {items : List Text} (lists : inner.Lists items) :
      ComesTo vars sign ('(' :: inner ++ [')']) (.ok items)
  | blank {inner : Text} (blank : ∃ piece ∈ inner.splitOn ',', Text.trim piece = []) :
      ComesTo vars sign ('(' :: inner ++ [')']) (.error .emptyValue)
  | unclosed {inner : Text} (unclosed : inner.getLast? ≠ some ')') :
      ComesTo vars sign ('(' :: inner) (.error (.unclosedList ('(' :: inner)))
  | names {names : List Text} {lists : List (List Text)} (parted : Parted sign names)
      (known : List.Forall₂ vars.Names names lists) :
      ComesTo vars sign ([sign].intercalate names) (.ok lists.flatten)
  | unknown {before after : List Text} {name : Text} {lists : List (List Text)}
      (parted : Parted sign (before ++ name :: after))
      (known : List.Forall₂ vars.Names before lists) (unknown : vars.get? name.trim = none) :
      ComesTo vars sign ([sign].intercalate (before ++ name :: after))
        (.error (.unknownVariable name.trim))

def readOperand (vars : Variables) (sign : Char) (t : Text) : Except LineError (List Text) :=
  match t with
  | '(' :: _ => readList t
  | names => do return (← (names.splitOn sign).mapM vars.find).flatten

section

variable {vars : Variables} {sign : Char} {names : List Text}

theorem read_operand_names {t : Text} (h : t.head? ≠ some '(') :
    readOperand vars sign t = ((t.splitOn sign).mapM vars.find).map List.flatten := by
  unfold readOperand
  split
  · exact absurd rfl h
  · cases (t.splitOn sign).mapM vars.find <;> rfl

theorem Parted.read (h : Parted sign names) :
    readOperand vars sign ([sign].intercalate names) =
      (names.mapM vars.find).map List.flatten := by
  rw [read_operand_names h.no_list, List.splitOn_intercalate sign h.free h.some_name]

theorem forall₂_find_iff {lists : List (List Text)} :
    List.Forall₂ (fun name values => vars.find name = .ok values) names lists ↔
      List.Forall₂ vars.Names names lists := by
  have hf (name : Text) (values : List Text) :
      vars.find name = .ok values ↔ vars.Names name values := Variables.find_eq_ok_iff
  simp only [hf]

theorem ComesTo.read {t : Text} {result : Except LineError (List Text)}
    (h : ComesTo vars sign t result) : readOperand vars sign t = result := by
  cases h with
  | list lists => exact (read_list_closed _).trans (read_items_iff_lists.mpr lists)
  | blank blank => exact (read_list_closed _).trans (read_items_eq_error_iff.mpr ⟨blank, rfl⟩)
  | unclosed unclosed => exact read_list_unclosed unclosed
  | names parted known =>
    rw [parted.read, map_m_ok.mpr (forall₂_find_iff.mpr known)]
    rfl
  | unknown parted known unknown =>
    have hn := Variables.find_eq_error_iff.mpr ⟨unknown, rfl⟩
    rw [parted.read, map_m_error.mpr ⟨_, _, _, _, rfl, forall₂_find_iff.mpr known, hn⟩]
    rfl

theorem comes_to_of_list (vars : Variables) (sign : Char) (inner : Text) :
    ComesTo vars sign ('(' :: inner) (readList ('(' :: inner)) := by
  by_cases hl : inner.getLast? = some ')'
  · obtain ⟨inner, rfl⟩ := List.getLast?_eq_some_iff.mp hl
    rw [← List.cons_append, read_list_closed]
    cases hr : readItems .emptyValue inner with
    | ok items => exact .list (read_items_iff_lists.mp hr)
    | error error =>
      obtain ⟨hb, rfl⟩ := read_items_eq_error_iff.mp hr
      exact .blank hb
  · rw [read_list_unclosed hl]
    exact .unclosed hl

theorem Parted.comes_to (h : Parted sign names) :
    ComesTo vars sign ([sign].intercalate names) ((names.mapM vars.find).map List.flatten) := by
  cases hr : names.mapM vars.find with
  | ok lists => exact .names h (forall₂_find_iff.mp (map_m_ok.mp hr))
  | error error =>
    obtain ⟨before, name, after, lists, rfl, known, hn⟩ := map_m_error.mp hr
    obtain ⟨unknown, rfl⟩ := Variables.find_eq_error_iff.mp hn
    exact .unknown h (forall₂_find_iff.mp known) unknown

theorem read_operand_eq_iff {t : Text} {result : Except LineError (List Text)} :
    readOperand vars sign t = result ↔ ComesTo vars sign t result := by
  refine ⟨?_, ComesTo.read⟩
  rintro rfl
  by_cases hl : t.head? = some '('
  · obtain ⟨inner, rfl⟩ := List.head?_eq_some_iff.mp hl
    exact comes_to_of_list vars sign inner
  · obtain ⟨hn, hf, ht⟩ := split_eq_iff.mp (rfl : t.splitOn sign = t.splitOn sign)
    have hp : Parted sign (t.splitOn sign) := ⟨hn, hf, by rwa [ht]⟩
    rw [read_operand_names hl]
    have hc := @Parted.comes_to vars _ _ hp
    rwa [ht] at hc

end

/-- What a field that is no wildcard's name asks for, given all tokens. -/
inductive AsksFor (vars : Variables) (all : List Text) :
    Text → Except LineError Context → Prop
  | only {field : Text} {result : Except LineError (List Text)} (no_minus : field.head? ≠ some '-')
      (operand : ComesTo vars '+' field result) : AsksFor vars all field (result.map .only)
  | allBut {excluded : Text} {result : Except LineError (List Text)}
      (operand : ComesTo vars '-' excluded result) :
      AsksFor vars all ('-' :: excluded)
        (result.map fun tokens => .allBut (all.filter (· ∉ tokens)))

/-- What a field means. The name of a wildcard is understood before all tokens are known; any other
field asks for some of them, and there must be one that it asks for. -/
inductive Means (vars : Variables) (field : Text) : Except LineError Context → Prop
  | wildcard (found : vars.get? field = some [Token.wildcard]) : Means vars field (.ok .any)
  | unset (proper : vars.get? field ≠ some [Token.wildcard]) (unset : vars.all? = none) :
      Means vars field (.error .allNotSet)
  | tokens {all : List Text} {context : Context} (proper : vars.get? field ≠ some [Token.wildcard])
      (set : vars.all? = some all) (asks : AsksFor vars all field (.ok context))
      (filled : context.tokens? ≠ some []) : Means vars field (.ok context)
  | noTokens {all : List Text} {context : Context}
      (proper : vars.get? field ≠ some [Token.wildcard])
      (set : vars.all? = some all) (asks : AsksFor vars all field (.ok context))
      (empty : context.tokens? = some []) : Means vars field (.error (.emptyContext field))
  | wrong {all : List Text} {error : LineError} (proper : vars.get? field ≠ some [Token.wildcard])
      (set : vars.all? = some all) (asks : AsksFor vars all field (.error error)) :
      Means vars field (.error error)

/-- To take away some lists one after the other is to take away all that is in them. -/
theorem foldl_without_eq (all : List Text) (lists : List (List Text)) :
    lists.foldl without all = without all lists.flatten := by
  induction lists generalizing all with
  | nil => simp [without]
  | cons removed lists ih =>
    rw [List.foldl_cons, ih, List.flatten_cons]
    simp only [without, List.filter_filter]
    apply List.filter_congr
    intro token _
    simp only [List.mem_append, not_or, Bool.decide_and]
    exact Bool.and_comm _ _

section

variable {vars : Variables} {all : List Text}

theorem read_tokens_minus (operand : Text) :
    readTokens vars all ('-' :: operand) =
      (readOperand vars '-' operand).map fun tokens => .allBut (without all tokens) := by
  by_cases hl : operand.head? = some '('
  · obtain ⟨inner, rfl⟩ := List.head?_eq_some_iff.mp hl
    simp only [readTokens, readOperand]
    cases readList ('(' :: inner) <;> rfl
  · rw [read_operand_names hl]
    unfold readTokens
    split
    · rename_i heq
      rw [(List.cons.inj heq).2] at hl
      exact absurd rfl hl
    · rename_i names _ heq
      rw [← (List.cons.inj heq).2]
      cases (operand.splitOn '-').mapM vars.find with
      | error error => rfl
      | ok lists =>
        exact congrArg (fun tokens => Except.ok (allBut tokens)) (foldl_without_eq all lists)
    · rename_i heq
      cases heq
    · rename_i hnot _
      exact absurd rfl (hnot operand)

theorem read_tokens_plus {field : Text} (h : field.head? ≠ some '-') :
    readTokens vars all field = (readOperand vars '+' field).map .only := by
  unfold readTokens
  split
  · exact absurd rfl h
  · exact absurd rfl h
  · simp only [readOperand]
    cases readList _ <;> rfl
  · rename_i hn
    have hl : field.head? ≠ some '(' := by
      intro hl
      obtain ⟨inner, rfl⟩ := List.head?_eq_some_iff.mp hl
      exact hn inner rfl
    rw [read_operand_names hl]
    cases (field.splitOn '+').mapM vars.find <;> rfl

theorem read_tokens_eq_iff {field : Text} {result : Except LineError Context} :
    readTokens vars all field = result ↔ AsksFor vars all field result := by
  constructor
  · rintro rfl
    by_cases hm : field.head? = some '-'
    · obtain ⟨operand, rfl⟩ := List.head?_eq_some_iff.mp hm
      rw [read_tokens_minus]
      exact .allBut (read_operand_eq_iff.mp rfl)
    · rw [read_tokens_plus hm]
      exact .only hm (read_operand_eq_iff.mp rfl)
  · intro h
    cases h with
    | only no_minus operand => rw [read_tokens_plus no_minus, operand.read]
    | allBut operand =>
      rw [read_tokens_minus, operand.read]
      rfl

theorem read_of_ok {field : Text} {context : Context}
    (hp : vars.get? field ≠ some [Token.wildcard]) (hall : vars.all? = some all)
    (ht : readTokens vars all field = .ok context) :
    read vars field =
      if context.tokens? = some [] then .error (.emptyContext field) else .ok context := by
  rw [read, if_neg hp, hall]
  simp only [ht, bind, Except.bind]

theorem read_of_error {field : Text} {error : LineError}
    (hp : vars.get? field ≠ some [Token.wildcard]) (hall : vars.all? = some all)
    (ht : readTokens vars all field = .error error) : read vars field = .error error := by
  rw [read, if_neg hp, hall]
  simp only [ht, bind, Except.bind]

theorem means_of_read (vars : Variables) (field : Text) : Means vars field (read vars field) := by
  by_cases hp : vars.get? field = some [Token.wildcard]
  · rw [read, if_pos hp]
    exact .wildcard hp
  · cases hall : vars.all? with
    | none =>
      rw [read, if_neg hp, hall]
      exact .unset hp hall
    | some all =>
      cases ht : readTokens vars all field with
      | error error =>
        rw [read_of_error hp hall ht]
        exact .wrong hp hall (read_tokens_eq_iff.mp ht)
      | ok context =>
        rw [read_of_ok hp hall ht]
        split
        · rename_i hn
          exact .noTokens hp hall (read_tokens_eq_iff.mp ht) hn
        · rename_i hn
          exact .tokens hp hall (read_tokens_eq_iff.mp ht) hn

theorem Means.read {field : Text} {result : Except LineError Context}
    (h : Means vars field result) : Context.read vars field = result := by
  cases h with
  | wildcard found => exact if_pos found
  | unset proper unset => rw [Context.read, if_neg proper, unset]
  | tokens proper set asks filled =>
    rw [read_of_ok proper set (read_tokens_eq_iff.mpr asks), if_neg filled]
  | noTokens proper set asks empty =>
    rw [read_of_ok proper set (read_tokens_eq_iff.mpr asks), if_pos empty]
  | wrong proper set asks => exact read_of_error proper set (read_tokens_eq_iff.mpr asks)

theorem read_eq_iff {field : Text} {result : Except LineError Context} :
    read vars field = result ↔ Means vars field result :=
  ⟨fun h => h ▸ means_of_read vars field, Means.read⟩

end

/-- The two fields are read alike, though either is quoted where it leaves nothing. -/
def ReadAlike (vars : Variables) (field other : Text) : Prop :=
  read vars field = read vars other ∨
    read vars field = .error (.emptyContext field) ∧ read vars other = .error (.emptyContext other)

section

variable {vars : Variables}

theorem not_wildcard_of_minus (h : vars.Sound) (operand : Text) :
    vars.get? ('-' :: operand) ≠ some [Token.wildcard] :=
  fun hg => (h.name _ (Variables.mem_entries hg)).no_exclusion rfl

theorem read_minus (h : vars.Sound) {all tokens : List Text} (hall : vars.all? = some all)
    {operand : Text} (hx : ComesTo vars '-' operand (.ok tokens)) :
    read vars ('-' :: operand) =
      if all.filter (· ∉ tokens) = [] then .error (.emptyContext ('-' :: operand))
      else .ok (.allBut (all.filter (· ∉ tokens))) := by
  have ht : readTokens vars all ('-' :: operand) = .ok (.allBut (all.filter (· ∉ tokens))) :=
    read_tokens_eq_iff.mpr (.allBut hx)
  rw [read_of_ok (not_wildcard_of_minus h operand) hall ht]
  simp only [tokens?, Option.some.injEq]

/-- Only the set of the excluded tokens counts. -/
theorem read_alike_of_same_tokens (h : vars.Sound) {tokens others : List Text}
    {operand other : Text} (hx : ComesTo vars '-' operand (.ok tokens))
    (ho : ComesTo vars '-' other (.ok others)) (hs : ∀ token, token ∈ tokens ↔ token ∈ others) :
    ReadAlike vars ('-' :: operand) ('-' :: other) := by
  cases hall : vars.all? with
  | none =>
    left
    rw [read, if_neg (not_wildcard_of_minus h _), hall, read, if_neg (not_wildcard_of_minus h _),
      hall]
  | some all =>
    unfold ReadAlike
    rw [read_minus h hall hx, read_minus h hall ho]
    simp only [hs]
    by_cases hn : all.filter (· ∉ others) = []
    · rw [if_pos hn, if_pos hn]
      exact .inr ⟨rfl, rfl⟩
    · rw [if_neg hn, if_neg hn]
      exact .inl rfl

theorem head_of_known (h : vars.Sound) {name : Text} {values : List Text}
    (hk : vars.Names name values) (rest : Text) : (name ++ rest).head? ≠ some '(' := by
  have hn := h.name _ (Variables.mem_entries hk)
  intro hh
  cases name with
  | nil => exact hn.ne_nil rfl
  | cons c name =>
    have hc : (c :: name).head? = some '(' := hh
    exact hn.no_list (Text.head_trim_of_head hc (by decide) hn.ne_nil)

theorem parted_of_known (h : vars.Sound) {sign : Char} {names : List Text}
    {lists : List (List Text)} (hn : names ≠ []) (hf : ∀ name ∈ names, sign ∉ name)
    (hk : List.Forall₂ vars.Names names lists) : Parted sign names := by
  refine ⟨hn, hf, ?_⟩
  cases hk with
  | nil => exact absurd rfl hn
  | @cons name values names lists hv _ =>
    cases names with
    | nil =>
      rw [List.intercalate_singleton, ← List.append_nil name]
      exact head_of_known h hv []
    | cons next names =>
      rw [List.intercalate_cons_cons, List.append_assoc]
      exact head_of_known h hv _

theorem exists_lists {names : List Text} (h : ∀ name ∈ names, ∃ values, vars.Names name values) :
    ∃ lists, List.Forall₂ vars.Names names lists := by
  refine ⟨names.map fun name => (vars.get? name.trim).getD [], ?_⟩
  apply List.forall₂_map_right_iff.mpr
  apply List.forall₂_same.mpr
  intro name hm
  obtain ⟨values, hv⟩ := h name hm
  rw [Variables.Names] at hv ⊢
  rw [hv, Option.getD_some]

theorem known_of_mem {names : List Text} {lists : List (List Text)}
    (hk : List.Forall₂ vars.Names names lists) {name : Text} (hm : name ∈ names) :
    ∃ values, vars.Names name values := by
  have hp := hk.imp (S := fun name values => (∃ values, vars.Names name values) ∧ True)
    fun name values hv => ⟨⟨values, hv⟩, trivial⟩
  exact ((List.forall₂_and_left names lists).mp hp).1 name hm

/-- What the names have together depends on the set of the names only. -/
theorem mem_flatten_iff {names : List Text} {lists : List (List Text)}
    (hk : List.Forall₂ vars.Names names lists) {token : Text} :
    token ∈ lists.flatten ↔
      ∃ name ∈ names.map Text.trim, ∃ values, vars.get? name = some values ∧ token ∈ values := by
  induction hk with
  | nil => simp
  | @cons name values names lists hv _ ih =>
    rw [Variables.Names] at hv
    rw [List.flatten_cons, List.mem_append, ih, List.map_cons]
    simp only [List.exists_mem_cons_iff, hv, Option.some.injEq, exists_eq_left']

theorem clean_flatten (h : vars.Sound) {names : List Text} {lists : List (List Text)}
    (hk : List.Forall₂ vars.Names names lists) :
    ∀ token ∈ lists.flatten, token.Clean [','] := by
  intro token hm
  obtain ⟨_, _, values, hg, ht⟩ := (mem_flatten_iff hk).mp hm
  exact (h.value _ (Variables.mem_entries hg) token ht).mono (by simp)

theorem flatten_ne_nil (h : vars.Sound) {names : List Text} {lists : List (List Text)}
    (hn : names ≠ []) (hk : List.Forall₂ vars.Names names lists) : lists.flatten ≠ [] := by
  cases hk with
  | nil => exact absurd rfl hn
  | @cons name values _ _ hv _ =>
    obtain ⟨value, hm⟩ := List.exists_mem_of_ne_nil _ (h.filled _ (Variables.mem_entries hv))
    exact List.ne_nil_of_mem (List.mem_append_left _ hm)

end

/-- How fields are read, given the variables of a session. -/
structure FieldsMean (vars : Variables) : Prop where
  reads : ∀ field result, read vars field = result ↔ Means vars field result
  /-- Known names are excluded in any order, and no less if they are repeated. -/
  excludes_set : ∀ (names others : List Text) (lists : List (List Text)), names ≠ [] →
    (∀ name ∈ names ++ others, '-' ∉ name) → List.Forall₂ vars.Names names lists →
    (∀ name, name ∈ names.map Text.trim ↔ name ∈ others.map Text.trim) →
    ReadAlike vars ('-' :: ['-'].intercalate names) ('-' :: ['-'].intercalate others)
  /-- Their values can be excluded in a list as well, and there is a list of them. -/
  excludes_listed : ∀ (names : List Text) (lists : List (List Text)), names ≠ [] →
    (∀ name ∈ names, '-' ∉ name) → List.Forall₂ vars.Names names lists →
    (listed lists.flatten).Lists lists.flatten ∧
    ∀ inner items, Text.Lists inner items → (∀ token, token ∈ lists.flatten ↔ token ∈ items) →
      ReadAlike vars ('-' :: ['-'].intercalate names) ('-' :: '(' :: inner ++ [')'])
  filled : ∀ field context, read vars field = .ok context → context.tokens? ≠ some []

theorem reads_what_fields_mean {book : RuleBook} (h : book.Reached) : FieldsMean book.vars := by
  have hv : book.vars.Sound := h.sound.vars
  constructor
  case reads => exact fun field result => read_eq_iff
  case excludes_set =>
    intro names others lists hn hf hk hs
    have ho : others ≠ [] := by
      rintro rfl
      obtain ⟨name, hm⟩ := List.exists_mem_of_ne_nil _ hn
      exact List.not_mem_nil ((hs name.trim).mp (List.mem_map_of_mem hm))
    have hknown : ∀ other ∈ others, ∃ values, book.vars.Names other values := by
      intro other hm
      obtain ⟨name, hname, ht⟩ := List.mem_map.mp ((hs other.trim).mpr (List.mem_map_of_mem hm))
      obtain ⟨values, hvalues⟩ := known_of_mem hk hname
      exact ⟨values, by rwa [Variables.Names, ← ht]⟩
    obtain ⟨otherLists, hok⟩ := exists_lists hknown
    have hp := parted_of_known hv hn (fun name hm => hf name (List.mem_append_left _ hm)) hk
    have hpo := parted_of_known hv ho (fun name hm => hf name (List.mem_append_right _ hm)) hok
    refine read_alike_of_same_tokens hv (.names hp hk) (.names hpo hok) fun token => ?_
    rw [mem_flatten_iff hk, mem_flatten_iff hok]
    simp only [hs]
  case excludes_listed =>
    intro names lists hn hf hk
    have hne : lists.flatten ≠ [] := flatten_ne_nil hv hn hk
    refine ⟨lists_listed hne (clean_flatten hv hk) (List.forall_mem_nil _), ?_⟩
    intro inner items hl hs
    exact read_alike_of_same_tokens hv (.names (parted_of_known hv hn hf hk) hk) (.list hl) hs
  case filled => exact fun field context => read_tokens

/-- Two exclusions of the same names, one of them with a name twice. -/
theorem reads_exclusions_in_two_orders :
    let lines : List Text := ["ALL = a, b, c, a", "V = a", "W = b"]
    let book := RuleBook.ofLines lines
    book.Reached ∧ FieldsMean book.vars ∧
      List.Forall₂ book.vars.Names ["V", " W "] [["a"], ["b"]] ∧
      ReadAlike book.vars "-V- W " "-W-V-W" ∧
      read book.vars "-V- W " = .ok (.allBut ["c", "$"]) := by
  intro lines book
  have h : book.Reached := RuleBook.Reached.empty.lines 1 _
  have hk : List.Forall₂ book.vars.Names ["V", " W "] [["a"], ["b"]] :=
    .cons (show book.vars.get? _ = _ by decide) (.cons (show book.vars.get? _ = _ by decide) .nil)
  have hs : ∀ name : Text, name ∈ (["V", " W "] : List Text).map Text.trim ↔
      name ∈ (["W", "V", "W"] : List Text).map Text.trim := by
    have hl : (["V", " W "] : List Text).map Text.trim = (["V", "W"] : List Text) := by decide
    have hr : (["W", "V", "W"] : List Text).map Text.trim = (["W", "V", "W"] : List Text) := by
      decide
    intro name
    rw [hl, hr]
    simp only [List.mem_cons, List.not_mem_nil, or_false]
    tauto
  exact ⟨h, reads_what_fields_mean h, hk, (reads_what_fields_mean h).excludes_set ["V", " W "]
    ["W", "V", "W"] _ (List.cons_ne_nil _ _) (by decide) hk hs, by decide⟩

end Context

end LetterToSound
