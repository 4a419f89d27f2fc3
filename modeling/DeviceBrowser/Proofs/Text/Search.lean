import DeviceBrowser.Text.Search

/-!
Where a pattern first occurs in a text.

`firstIndex?_eq_some_iff` says what the search finds.  The text may grow behind an
occurrence without moving it, a search may begin at any place before which there is none,
and a pattern that hardly overlaps itself is found exactly where it was put.
-/

namespace DeviceBrowser.Text

variable {Symbol : Type} [DecidableEq Symbol] {pattern text : List Symbol} {index : Nat}

theorem firstIndexFrom?_eq_map (pattern : List Symbol) (position : Nat) (text : List Symbol) :
    firstIndexFrom? pattern position text = (firstIndex? pattern text).map (position + ·) := by
  unfold firstIndex?
  induction text generalizing position with
  | nil => by_cases empty : pattern.isEmpty <;> simp [firstIndexFrom?, empty]
  | cons head tail inductionHypothesis =>
      simp only [firstIndexFrom?]
      split
      · simp
      · rw [inductionHypothesis (position + 1), inductionHypothesis (0 + 1)]
        simp only [Option.map_map]
        congr 1
        funext place
        simp only [Function.comp_apply]
        omega

theorem firstIndex?_cons (pattern : List Symbol) (head : Symbol) (tail : List Symbol) :
    firstIndex? pattern (head :: tail) =
      if pattern.isPrefixOf (head :: tail) then some 0
      else (firstIndex? pattern tail).map (· + 1) := by
  rw [firstIndex?, firstIndexFrom?, firstIndexFrom?_eq_map]
  simp only [Nat.zero_add, Nat.add_comm]

theorem firstIndex?_eq_some_iff :
    firstIndex? pattern text = some index ↔
      index ≤ text.length ∧ pattern <+: text.drop index ∧
        ∀ earlier < index, ¬ pattern <+: text.drop earlier := by
  induction text generalizing index with
  | nil =>
      cases pattern with
      | nil => cases index <;> simp [firstIndex?, firstIndexFrom?]
      | cons head tail => simp [firstIndex?, firstIndexFrom?]
  | cons head tail inductionHypothesis =>
      rw [firstIndex?_cons]
      split
      next begins =>
        have begins := List.isPrefixOf_iff_prefix.mp begins
        constructor
        · rintro ⟨⟩
          exact ⟨by simp, begins, by simp⟩
        · rintro ⟨_, _, first⟩
          cases index with
          | zero => rfl
          | succ index => exact absurd begins (first 0 (by omega))
      next differs =>
        have differs : ¬ pattern <+: head :: tail := fun begins =>
          differs (List.isPrefixOf_iff_prefix.mpr begins)
        cases index with
        | zero => simp [differs]
        | succ index =>
            simp only [Option.map_eq_some_iff, Nat.add_right_cancel_iff, exists_eq_right,
              inductionHypothesis, List.length_cons, Nat.add_le_add_iff_right,
              List.drop_succ_cons]
            refine and_congr_right fun _ => and_congr_right fun _ => ⟨?_, ?_⟩
            · intro first earlier before
              cases earlier with
              | zero => exact differs
              | succ earlier => exact first earlier (by omega)
            · intro first earlier before
              exact first (earlier + 1) (by omega)

theorem firstIndex?_eq_none_iff :
    firstIndex? pattern text = none ↔ ∀ place, ¬ pattern <+: text.drop place := by
  constructor
  · intro missing place begins
    -- The least such place would have been found.
    induction place using Nat.strongRecOn with
    | ind place inductionHypothesis =>
        have within : min place text.length ≤ text.length := Nat.min_le_right _ _
        have begins : pattern <+: text.drop (min place text.length) := by
          rcases Nat.le_total place text.length with short | long
          · rwa [Nat.min_eq_left short]
          · rw [Nat.min_eq_right long]
            rwa [List.drop_of_length_le long, ← List.drop_length (l := text)] at begins
        have found : firstIndex? pattern text = some (min place text.length) :=
          firstIndex?_eq_some_iff.mpr ⟨within, begins, fun earlier before =>
            inductionHypothesis earlier (by omega)⟩
        simp [found] at missing
  · intro absent
    cases found : firstIndex? pattern text with
    | none => rfl
    | some index => exact absurd (firstIndex?_eq_some_iff.mp found).2.1 (absent index)

theorem occursIn_eq_true_iff : occursIn pattern text = true ↔ pattern <:+: text := by
  rw [occursIn, Option.isSome_iff_ne_none, ne_eq, firstIndex?_eq_none_iff]
  constructor
  · intro present
    obtain ⟨place, begins⟩ := Classical.not_forall_not.mp present
    exact begins.isInfix.trans (List.drop_suffix place text).isInfix
  · rintro ⟨before, after, rfl⟩ absent
    exact absent before.length ⟨after, by simp⟩

theorem occursIn_eq_false_iff : occursIn pattern text = false ↔ ¬ pattern <:+: text := by
  rw [← occursIn_eq_true_iff, Bool.not_eq_true]

omit [DecidableEq Symbol] in
theorem prefix_drop_of_append {more : List Symbol} {place : Nat}
    (begins : pattern <+: (text ++ more).drop place)
    (fits : place + pattern.length ≤ text.length) : pattern <+: text.drop place := by
  rw [List.drop_append_of_le_length (by omega)] at begins
  exact List.prefix_of_prefix_length_le begins (List.prefix_append _ _)
    (by rw [List.length_drop]; omega)

omit [DecidableEq Symbol] in
theorem prefix_drop_append {place : Nat} (begins : pattern <+: text.drop place)
    (within : place ≤ text.length) (more : List Symbol) :
    pattern <+: (text ++ more).drop place := by
  rw [List.drop_append_of_le_length within]
  exact begins.trans (List.prefix_append _ _)

theorem eq_append_of_firstIndex? (found : firstIndex? pattern text = some index) :
    text = text.take index ++ (pattern ++ text.drop (index + pattern.length)) := by
  obtain ⟨-, ⟨rest, begins⟩, -⟩ := firstIndex?_eq_some_iff.mp found
  have after : text.drop (index + pattern.length) = rest := by
    rw [← List.drop_drop, ← begins, List.drop_left]
  rw [after, begins, List.take_append_drop]

theorem eq_append_of_splitLast? {before after : List Symbol}
    (split : splitLast? pattern text = some (before, after)) :
    text = before ++ (pattern ++ after) := by
  simp only [splitLast?, splitFirst?, Option.map_map, Option.map_eq_some_iff, Function.comp_apply,
    Prod.mk.injEq] at split
  obtain ⟨index, found, rfl, rfl⟩ := split
  have whole := congrArg List.reverse (eq_append_of_firstIndex? found)
  simpa using whole

theorem firstIndex?_append (found : firstIndex? pattern text = some index)
    (more : List Symbol) : firstIndex? pattern (text ++ more) = some index := by
  obtain ⟨within, begins, first⟩ := firstIndex?_eq_some_iff.mp found
  have room := begins.length_le
  rw [List.length_drop] at room
  refine firstIndex?_eq_some_iff.mpr
    ⟨by simp; omega, prefix_drop_append begins within more, ?_⟩
  intro earlier before sooner
  exact first earlier before (prefix_drop_of_append sooner (by omega))

/-- A symbol in which the pattern does not end does not change where it is found. -/
theorem firstIndex?_concat {last symbol : Symbol} (ends : pattern.getLast? = some last)
    (different : last ≠ symbol) :
    firstIndex? pattern (text ++ [symbol]) = firstIndex? pattern text := by
  cases found : firstIndex? pattern text with
  | some index => exact firstIndex?_append found [symbol]
  | none =>
      rw [firstIndex?_eq_none_iff] at found ⊢
      intro place begins
      by_cases fits : place + pattern.length ≤ text.length
      · exact found place (prefix_drop_of_append begins fits)
      · have room := begins.length_le
        have nonempty : pattern.length ≠ 0 := by
          rintro empty
          simp [List.eq_nil_of_length_eq_zero empty] at ends
        simp only [List.length_drop, List.length_append, List.length_singleton] at room
        have whole := begins.eq_of_length (by simp; omega)
        rw [List.drop_append_of_le_length (by omega)] at whole
        rw [whole, List.getLast?_concat] at ends
        exact different (Option.some.inj ends).symm

/-- A search may begin at a place before which the pattern does not occur. -/
theorem firstIndex?_eq_map_drop {place : Nat} (within : place ≤ text.length)
    (clear : ∀ earlier < place, ¬ pattern <+: text.drop earlier) :
    firstIndex? pattern text = (firstIndex? pattern (text.drop place)).map (place + ·) := by
  cases found : firstIndex? pattern (text.drop place) with
  | none =>
      rw [firstIndex?_eq_none_iff] at found
      rw [Option.map_none, firstIndex?_eq_none_iff]
      intro later begins
      by_cases before : later < place
      · exact clear later before begins
      · apply found (later - place)
        rwa [List.drop_drop, Nat.add_sub_cancel' (by omega)]
  | some index =>
      obtain ⟨short, begins, first⟩ := firstIndex?_eq_some_iff.mp found
      rw [List.length_drop] at short
      rw [List.drop_drop] at begins
      rw [Option.map_some]
      refine firstIndex?_eq_some_iff.mpr ⟨by omega, begins, ?_⟩
      intro earlier before sooner
      by_cases ahead : earlier < place
      · exact clear earlier ahead sooner
      · apply first (earlier - place) (by omega)
        rwa [List.drop_drop, Nat.add_sub_cancel' (by omega)]

omit [DecidableEq Symbol] in
theorem isInfix_append_cons_iff {symbol : Symbol} (clear : symbol ∉ pattern)
    (first second : List Symbol) :
    pattern <:+: first ++ symbol :: second ↔ pattern <:+: first ∨ pattern <:+: second := by
  constructor
  · rintro ⟨before, after, whole⟩
    rw [List.append_assoc, List.append_eq_append_iff] at whole
    rcases whole with ⟨inside, rfl, rest⟩ | ⟨crossed, rfl, rest⟩
    · -- The pattern starts before the symbol, so it has to end there too.
      rw [List.append_eq_append_iff] at rest
      rcases rest with ⟨more, rfl, -⟩ | ⟨reach, reaching, across⟩
      · exact .inl ⟨before, more, List.append_assoc _ _ _⟩
      · cases reach with
        | nil =>
            rw [List.append_nil] at reaching
            exact .inl ⟨before, [], by rw [List.append_nil, reaching]⟩
        | cons head reach =>
            rw [List.cons_append, List.cons.injEq] at across
            rw [reaching, ← across.1] at clear
            exact absurd (List.mem_append_right _ List.mem_cons_self) clear
    · cases crossed with
      | nil =>
          cases pattern with
          | nil => exact .inl List.nil_infix
          | cons head pattern =>
              rw [List.nil_append, List.cons_append, List.cons.injEq] at rest
              rw [rest.1] at clear
              exact absurd List.mem_cons_self clear
      | cons head crossed =>
          rw [List.cons_append, List.cons.injEq] at rest
          exact .inr ⟨crossed, after, by rw [rest.2, List.append_assoc]⟩
  · rintro (inFirst | inSecond)
    · exact inFirst.trans (List.prefix_append _ _).isInfix
    · exact inSecond.trans ((List.suffix_cons _ _).trans (List.suffix_append _ _)).isInfix

/-- A pattern is found where it was put, if it does not occur in the text and its own first
`slack` symbols, and if no more than `slack` of its last symbols are its first ones too. -/
theorem firstIndex?_append_self {slack : Nat} (rest : List Symbol)
    (clear : ¬ pattern <:+: text ++ pattern.take slack)
    (borders : ∀ shift, 0 < shift → shift + slack < pattern.length →
      ¬ pattern.drop shift <+: pattern) :
    firstIndex? pattern (text ++ (pattern ++ rest)) = some text.length := by
  refine firstIndex?_eq_some_iff.mpr ⟨by simp, ⟨rest, by simp⟩, ?_⟩
  intro earlier before begins
  by_cases fits : earlier + pattern.length ≤ text.length + slack
  · have room : earlier + pattern.length ≤ (text ++ pattern.take slack).length := by
      rw [List.length_append, List.length_take]
      omega
    have split : text ++ (pattern ++ rest) =
        (text ++ pattern.take slack) ++ (pattern.drop slack ++ rest) := by
      simp only [List.append_assoc, ← List.append_assoc (pattern.take slack),
        List.take_append_drop]
    rw [split] at begins
    exact clear ((prefix_drop_of_append begins room).isInfix.trans
      (List.drop_suffix _ _).isInfix)
  · apply borders (text.length - earlier) (by omega) (by omega)
    rw [List.drop_append_of_le_length (by omega)] at begins
    obtain ⟨after, whole⟩ := begins
    have cut := congrArg (List.drop (text.length - earlier)) whole
    have left : (text.length - earlier) = (text.drop earlier).length := by simp
    rw [List.drop_append_of_le_length (by omega), left, List.drop_left, ← left] at cut
    exact List.prefix_of_prefix_length_le ⟨after, cut⟩ (List.prefix_append _ _) (by simp)

omit [DecidableEq Symbol] in
/-- A pattern with a symbol that occurs in it once overlaps itself in front of it at most. -/
theorem not_prefix_of_unique {head tail : List Symbol} {symbol : Symbol}
    (unique : symbol ∉ tail) {shift : Nat} (later : 0 < shift)
    (short : shift + head.length < (head ++ symbol :: tail).length) :
    ¬ (head ++ symbol :: tail).drop shift <+: head ++ symbol :: tail := by
  intro border
  have here : ((head ++ symbol :: tail).drop shift)[head.length]? = some symbol := by
    have room : head.length < ((head ++ symbol :: tail).drop shift).length := by
      rw [List.length_drop]
      omega
    rw [List.getElem?_eq_getElem room, border.getElem room]
    simp
  rw [List.getElem?_drop, List.getElem?_append_right (by omega)] at here
  have place : shift + head.length - head.length = (shift - 1) + 1 := by omega
  rw [place, List.getElem?_cons_succ] at here
  exact unique (List.mem_of_getElem? here)

omit [DecidableEq Symbol] in
/-- A text whose last such symbol comes no later than that of a pattern can hold the pattern
only at its start. -/
theorem prefix_of_isInfix {head tail start rest : List Symbol} {symbol : Symbol}
    (unique : symbol ∉ rest) (aligned : start.length ≤ head.length)
    (occurs : head ++ symbol :: tail <:+: start ++ symbol :: rest) :
    head ++ symbol :: tail <+: start ++ symbol :: rest := by
  obtain ⟨before, after, whole⟩ := occurs
  cases before with
  | nil => exact ⟨after, whole⟩
  | cons first before =>
      have here : (start ++ symbol :: rest)[(first :: before ++ head).length]? = some symbol := by
        rw [← whole]
        simp
      rw [List.getElem?_append_right (by simp; omega)] at here
      have place : (first :: before ++ head).length - start.length =
          (before.length + head.length - start.length) + 1 := by
        simp only [List.cons_append, List.length_cons, List.length_append]
        omega
      rw [place, List.getElem?_cons_succ] at here
      exact absurd (List.mem_of_getElem? here) unique

/-- A pattern with a symbol that occurs in it once is found where it was put, unless it
occurs in the text and its own symbols before that one. -/
theorem firstIndex?_append_unique {head tail : List Symbol} {symbol : Symbol}
    (unique : symbol ∉ tail) (rest : List Symbol)
    (clear : ¬ head ++ symbol :: tail <:+: text ++ head) :
    firstIndex? (head ++ symbol :: tail) (text ++ (head ++ symbol :: tail ++ rest)) =
      some text.length := by
  have start : (head ++ symbol :: tail).take head.length = head := List.take_left
  have clear : ¬ head ++ symbol :: tail <:+: text ++ (head ++ symbol :: tail).take head.length := by
    rwa [start]
  apply firstIndex?_append_self rest clear
  intro shift later short
  exact not_prefix_of_unique unique later short

theorem splitFirst?_singleton {symbol : Symbol} (absent : symbol ∉ text) (rest : List Symbol) :
    splitFirst? [symbol] (text ++ symbol :: rest) = some (text, rest) := by
  have clear : ¬ [] ++ symbol :: [] <:+: text ++ [] := by
    rw [List.append_nil]
    exact fun inside => absent (inside.subset List.mem_cons_self)
  have found : firstIndex? [symbol] (text ++ symbol :: rest) = some text.length :=
    firstIndex?_append_unique List.not_mem_nil rest clear
  simp [splitFirst?, found]

theorem splitFirst?_eq_none {symbol : Symbol} (absent : symbol ∉ text) :
    splitFirst? [symbol] text = none := by
  rw [splitFirst?, Option.map_eq_none_iff, firstIndex?_eq_none_iff]
  intro place begins
  exact absent ((begins.isInfix.trans (List.drop_suffix place text).isInfix).subset
    List.mem_cons_self)

theorem not_isInfix_take (found : firstIndex? pattern text = some index)
    (nonempty : pattern ≠ []) : ¬ pattern <:+: text.take index := by
  obtain ⟨within, begins, first⟩ := firstIndex?_eq_some_iff.mp found
  rintro ⟨before, after, whole⟩
  have size := congrArg List.length whole
  have filled := List.length_pos_iff.mpr nonempty
  simp only [List.length_append, List.length_take] at size
  apply first before.length (by omega)
  have here : pattern <+: (text.take index).drop before.length := by
    rw [← whole, List.append_assoc, List.drop_left]
    exact List.prefix_append _ _
  have short : before.length ≤ (text.take index).length := by
    rw [List.length_take]
    omega
  have there := prefix_drop_append here short (text.drop index)
  rwa [List.take_append_drop] at there

end DeviceBrowser.Text
