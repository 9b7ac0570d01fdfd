import InstanceDirectory.Schema.Identifier

/-!
# Reading names in statement text

The store reads names by rules of its own.  A name that is not quoted starts with a letter or
an underscore, goes on with letters, digits, underscores and dollar signs, ends at the first
other character, and is folded to lower case; reserved words are no names.  In a quoted name a
doubled quote stands for one.  A qualified name has parts with dots between them.

Read by these rules, a written name is the name itself, but for names that are written as they
are although they end in a line break.  Written names are told apart in any case.
-/

namespace InstanceDirectory
namespace Identifier

/-! ## How the store reads a name -/

/-- A character that starts a name that is not quoted. -/
def canStart (c : Char) : Bool :=
  c.isAlpha || c == '_' || decide (128 ≤ c.toNat)

/-- A character that continues a name that is not quoted. -/
def canContinue (c : Char) : Bool :=
  canStart c || c.isDigit || c == '$'

/-- The characters up to the closing quote, and what is left after it. -/
def quoted? : List Char -> Option (List Char × List Char)
  | '"' :: '"' :: rest => (quoted? rest).map fun found => ('"' :: found.1, found.2)
  | '"' :: rest => some ([], rest)
  | c :: rest => (quoted? rest).map fun found => (c :: found.1, found.2)
  | [] => none

/-- The part of a name at the start of characters, and what is left after it. -/
def part? : List Char -> Option (String × List Char)
  | '"' :: rest =>
      (quoted? rest).bind fun found =>
        if found.1.isEmpty then none else some (String.ofList found.1, found.2)
  | first :: rest =>
      let word := String.ofList (((first :: rest).takeWhile canContinue).map Char.toLower)
      if canStart first && !reservedWords.contains word then
        some (word, (first :: rest).dropWhile canContinue)
      else none
  | [] => none

/-- The parts of the name at the start of characters, as many as there may be, and the rest. -/
def parts? : Nat -> List Char -> Option (List String × List Char)
  | 0, _ => none
  | most + 1, chars =>
      (part? chars).bind fun first =>
        match first.2 with
        | '.' :: rest => (parts? most rest).map fun others => (first.1 :: others.1, others.2)
        | left => some ([first.1], left)

/-- The qualified name at the start of characters, and what is left after it. -/
def qualified? (chars : List Char) : Option (List String × List Char) :=
  parts? chars.length chars

/-- A name of parts in statement text. -/
def dotted : List String -> List Char
  | [] => []
  | [name] => (write name).toList
  | name :: names => (write name).toList ++ '.' :: dotted names

/-- A name that is written as it is, although it ends in a line break. -/
def LosesBreak (name : String) : Prop :=
  needsQuotes name = false ∧ name.toList.getLast? = some '\n'

instance (name : String) : Decidable (LosesBreak name) :=
  inferInstanceAs (Decidable (_ ∧ _))

/-- Nothing at the start of characters continues a part of a name before them. -/
def Stops (chars : List Char) : Prop :=
  ∀ c, chars.head? = some c -> canContinue c = false ∧ c ≠ '"'

/-- Nothing at the start of characters continues a qualified name before them. -/
def EndsName (chars : List Char) : Prop :=
  Stops chars ∧ chars.head? ≠ some '.'

/-! ## Names that are written as they are -/

theorem write_of_unquoted {name : String} (unquoted : needsQuotes name = false) :
    (write name).toList = name.toList := by
  rw [write, unquoted, if_neg Bool.false_ne_true]

theorem write_of_quoted {name : String} (quoted : needsQuotes name = true) :
    (write name).toList = quote name.toList := by
  rw [write, quoted, if_pos rfl, String.toList_ofList]

/-- A legal character can stand in a name that is not quoted. -/
theorem canContinue_of_isLegal {c : Char} (legal : isLegal c = true) : canContinue c = true := by
  simp only [isLegal, Char.isAlphanum, Bool.or_eq_true, beq_iff_eq] at legal
  simp only [canContinue, canStart, Bool.or_eq_true, beq_iff_eq]
  rcases legal with ((((((isAlpha | isDigit) | rfl) | rfl) | rfl) | rfl) | rfl) | rfl
  · exact .inl (.inl (.inl (.inl isAlpha)))
  · exact .inl (.inr isDigit)
  all_goals decide

/-- A legal character that is neither a digit nor a dollar sign can start such a name. -/
theorem canStart_of_isLegal
    {c : Char}
    (legal : isLegal c = true)
    (legalStart : isIllegalStart c = false) :
    canStart c = true := by
  have continues := canContinue_of_isLegal legal
  rw [isIllegalStart, Bool.or_eq_false_iff] at legalStart
  simpa [canContinue, legalStart.1, legalStart.2] using continues

/-- A character that is no capital letter stays as it is when it is folded. -/
theorem toLower_of_not_isUpper {c : Char} (notUpper : isUpper c = false) : c.toLower = c := by
  simp only [isUpper, Bool.or_eq_false_iff] at notUpper
  exact dif_neg (of_decide_eq_false notUpper.1.1)

/-- All characters are legal when a legal body is followed by a line break at most. -/
theorem exists_body_of_allLegal {chars : List Char} (legal : allLegal chars = true) :
    ∃ body, body ≠ [] ∧ (∀ c ∈ body, isLegal c = true) ∧
      (chars = body ∨ chars = body ++ ['\n']) := by
  simp only [allLegal, Bool.and_eq_true, Bool.not_eq_true', List.isEmpty_eq_false_iff,
    List.all_eq_true] at legal
  refine ⟨withoutFinalBreak chars, legal.1, legal.2, ?_⟩
  unfold withoutFinalBreak
  split
  next breaks =>
    obtain ⟨body, rfl⟩ := List.getLast?_eq_some_iff.mp breaks
    exact .inr (by rw [List.dropLast_concat])
  next => exact .inl rfl

/--
A name that is not quoted is a word of the store in lower case, with a line break after it at
most.
-/
theorem exists_word_of_unquoted
    {name : String}
    (unquoted : needsQuotes name = false) :
    ∃ first rest, canStart first = true ∧ first ≠ '"' ∧
      (∀ c ∈ first :: rest, canContinue c = true ∧ c ≠ '\n' ∧ c.toLower = c) ∧
      (name.toList = first :: rest ∨ name.toList = first :: rest ++ ['\n']) := by
  simp only [needsQuotes, Bool.or_eq_false_iff, Bool.not_eq_false', List.any_eq_false,
    Bool.not_eq_true] at unquoted
  obtain ⟨⟨⟨⟨-, legalStart⟩, legal⟩, noUpper⟩, -⟩ := unquoted
  obtain ⟨body, nonempty, bodyLegal, shape⟩ := exists_body_of_allLegal legal
  obtain ⟨first, rest, rfl⟩ := List.exists_cons_of_ne_nil nonempty
  have inName : ∀ c ∈ first :: rest, c ∈ name.toList := by
    intro c present
    rcases shape with same | broken
    · exact same ▸ present
    · exact broken ▸ List.mem_append_left _ present
  have starts : first ∈ name.toList.take 1 := by
    rcases shape with same | broken
    · simp [same]
    · simp [broken]
  have firstLegal := bodyLegal first List.mem_cons_self
  refine ⟨first, rest, canStart_of_isLegal firstLegal (legalStart first starts), ?_, ?_, shape⟩
  · rintro rfl
    exact absurd firstLegal (by decide)
  · intro c present
    refine ⟨canContinue_of_isLegal (bodyLegal c present), ?_,
      toLower_of_not_isUpper (noUpper c (inName c present))⟩
    rintro rfl
    exact absurd (bodyLegal _ present) (by decide)

/-! ## Reading a part of a name -/

section Words

variable {admits : Char -> Bool} {word rest : List Char}

/-- A word ends where the first character follows that it does not admit. -/
theorem takeWhile_word
    (admitted : ∀ c ∈ word, admits c = true)
    (stops : ∀ c, rest.head? = some c -> admits c = false) :
    (word ++ rest).takeWhile admits = word := by
  rw [List.takeWhile_append_of_pos admitted]
  cases rest with
  | nil => simp
  | cons c rest => simp [stops c rfl]

theorem dropWhile_word
    (admitted : ∀ c ∈ word, admits c = true)
    (stops : ∀ c, rest.head? = some c -> admits c = false) :
    (word ++ rest).dropWhile admits = rest := by
  rw [List.dropWhile_append_of_pos admitted]
  cases rest with
  | nil => rfl
  | cons c rest => simp [stops c rfl]

end Words

/-- A word in lower case is read as it is, unless it is reserved. -/
theorem part?_word
    {first : Char}
    {word rest : List Char}
    (starts : canStart first = true)
    (noQuote : first ≠ '"')
    (continues : ∀ c ∈ first :: word, canContinue c = true ∧ c ≠ '\n' ∧ c.toLower = c)
    (stops : ∀ c, rest.head? = some c -> canContinue c = false) :
    part? (first :: word ++ rest) =
      if reservedWords.contains (String.ofList (first :: word)) then none
      else some (String.ofList (first :: word), rest) := by
  have admitted : ∀ c ∈ first :: word, canContinue c = true := fun c present =>
    (continues c present).1
  have folded : (first :: word).map Char.toLower = first :: word :=
    (List.map_congr_left fun c present => (continues c present).2.2).trans (List.map_id _)
  have unfolded : part? (first :: word ++ rest) =
      let name := String.ofList (((first :: word ++ rest).takeWhile canContinue).map Char.toLower)
      if canStart first && !reservedWords.contains name then
        some (name, (first :: word ++ rest).dropWhile canContinue)
      else none := by
    rw [List.cons_append, part?]
    exact fun same => noQuote same
  rw [unfolded, takeWhile_word admitted stops, dropWhile_word admitted stops, folded]
  simp only [starts, Bool.true_and]
  cases reservedWords.contains (String.ofList (first :: word)) <;> rfl

/-- Up to the closing quote, doubled quotes are read as single ones. -/
theorem quoted?_doubled
    (name : List Char)
    {rest : List Char}
    (stops : rest.head? ≠ some '"') :
    quoted? (name.flatMap (fun c => if c = '"' then ['"', '"'] else [c]) ++ '"' :: rest) =
      some (name, rest) := by
  induction name with
  | nil =>
      cases rest with
      | nil => rfl
      | cons c rest =>
          have noQuote : c ≠ '"' := fun same => stops (congrArg some same)
          simp [quoted?, noQuote]
  | cons c name nameHypothesis =>
      rw [List.flatMap_cons, List.append_assoc]
      by_cases isQuote : c = '"'
      · simp [isQuote, quoted?, nameHypothesis]
      · simp [isQuote, quoted?, nameHypothesis]

/-- A quoted name is read as the name. -/
theorem part?_quote
    {name : String}
    {rest : List Char}
    (nonempty : name ≠ "")
    (stops : rest.head? ≠ some '"') :
    part? (quote name.toList ++ rest) = some (name, rest) := by
  rw [quote, List.cons_append, List.cons_append, List.append_assoc, part?, List.singleton_append,
    quoted?_doubled name.toList stops]
  simp [nonempty]

/-- A written name is read as the name unless it loses a line break. -/
theorem part?_write
    {name : String}
    {rest : List Char}
    (nonempty : name ≠ "")
    (keeps : ¬ LosesBreak name)
    (stops : Stops rest) :
    part? ((write name).toList ++ rest) = some (name, rest) := by
  cases quotes : needsQuotes name with
  | true =>
      rw [write_of_quoted quotes]
      exact part?_quote nonempty fun isQuote => (stops _ isQuote).2 rfl
  | false =>
      obtain ⟨first, word, starts, noQuote, continues, same | broken⟩ :=
        exists_word_of_unquoted quotes
      · have unreserved : reservedWords.contains (String.ofList (first :: word)) = false := by
          rw [← same, String.ofList_toList]
          simp only [needsQuotes, Bool.or_eq_false_iff] at quotes
          exact quotes.2
        rw [write_of_unquoted quotes, same,
          part?_word starts noQuote continues fun c isNext => (stops c isNext).1, unreserved,
          ← same, String.ofList_toList]
        rfl
      · have breaks : name.toList.getLast? = some '\n' := by
          rw [broken, List.getLast?_concat]
        exact absurd ⟨quotes, breaks⟩ keeps

/-- What is read as the name that was written has lost no line break. -/
theorem keeps_of_part?_write
    {name : String}
    {rest left : List Char}
    (reads : part? ((write name).toList ++ rest) = some (name, left)) :
    ¬ LosesBreak name := by
  rintro ⟨unquoted, breaks⟩
  obtain ⟨first, word, starts, noQuote, continues, same | broken⟩ :=
    exists_word_of_unquoted unquoted
  · rw [same] at breaks
    exact (continues _ (List.mem_of_getLast? breaks)).2.1 rfl
  · rw [write_of_unquoted unquoted, broken, List.append_assoc,
      part?_word starts noQuote continues (by rintro c ⟨⟩; decide)] at reads
    split at reads
    · cases reads
    · obtain ⟨lost, -⟩ := Prod.mk.inj (Option.some.inj reads)
      rw [← lost, String.toList_ofList] at broken
      simp at broken

/-! ## Reading qualified names -/

@[simp] theorem dotted_singleton (name : String) : dotted [name] = (write name).toList := rfl

theorem dotted_cons {names : List String} (more : names ≠ []) (name : String) :
    dotted (name :: names) = (write name).toList ++ '.' :: dotted names := by
  cases names with
  | nil => exact absurd rfl more
  | cons next names => rfl

theorem dotted_append_singleton
    {names : List String}
    (isName : names ≠ [])
    (name : String) :
    dotted (names ++ [name]) = dotted names ++ '.' :: (write name).toList := by
  induction names with
  | nil => exact absurd rfl isName
  | cons first names namesHypothesis =>
      by_cases more : names = []
      · subst more
        rfl
      · rw [List.cons_append, dotted_cons (by simp), namesHypothesis more, dotted_cons more,
          List.append_assoc, List.cons_append]

/-- Something is written for every name, the empty one included. -/
theorem write_ne_nil (name : String) : (write name).toList ≠ [] := by
  cases quotes : needsQuotes name with
  | true => simp [write_of_quoted quotes, quote]
  | false =>
      rw [write_of_unquoted quotes]
      obtain ⟨first, word, -, -, -, same | broken⟩ := exists_word_of_unquoted quotes
      · simp [same]
      · simp [broken]

/-- A name has at least as many characters as parts. -/
theorem length_le_length_dotted (names : List String) : names.length ≤ (dotted names).length := by
  induction names with
  | nil => exact Nat.zero_le _
  | cons name names namesHypothesis =>
      have written := List.length_pos_iff.mpr (write_ne_nil name)
      cases names with
      | nil => exact written
      | cons next names =>
          rw [dotted_cons (List.cons_ne_nil _ _)]
          simp only [List.length_append, List.length_cons] at *
          omega

theorem stops_dot (rest : List Char) : Stops ('.' :: rest) := by
  rintro c ⟨⟩
  decide

/-- The parts of a written name are read one after the other. -/
theorem parts?_dotted
    {names : List String}
    {rest : List Char}
    {most : Nat}
    (isName : names ≠ [])
    (nonempty : ∀ name ∈ names, name ≠ "")
    (keeps : ∀ name ∈ names, ¬ LosesBreak name)
    (ends : EndsName rest)
    (enough : names.length ≤ most) :
    parts? most (dotted names ++ rest) = some (names, rest) := by
  induction names generalizing most with
  | nil => exact absurd rfl isName
  | cons name names namesHypothesis =>
      obtain ⟨most, rfl⟩ := Nat.exists_eq_add_one_of_ne_zero (Nat.ne_of_gt
        (Nat.lt_of_lt_of_le (Nat.succ_pos _) enough))
      rw [List.forall_mem_cons] at nonempty keeps
      by_cases more : names = []
      · subst more
        rw [dotted_singleton, parts?, part?_write nonempty.1 keeps.1 ends.1, Option.bind_some]
        cases rest with
        | nil => rfl
        | cons c rest =>
            have noDot : c ≠ '.' := fun same => ends.2 (congrArg some same)
            simp [noDot]
      · have later := namesHypothesis more nonempty.2 keeps.2 (Nat.le_of_succ_le_succ enough)
        rw [dotted_cons more, List.append_assoc, List.cons_append, parts?,
          part?_write nonempty.1 keeps.1 (stops_dot _), Option.bind_some]
        simp [later]

/-- A name whose parts are read as they were written has lost no line break. -/
theorem keeps_of_parts?_dotted
    {names : List String}
    {rest left : List Char}
    {most : Nat}
    (nonempty : ∀ name ∈ names, name ≠ "")
    (reads : parts? most (dotted names ++ rest) = some (names, left)) :
    ∀ name ∈ names, ¬ LosesBreak name := by
  induction names generalizing most with
  | nil => nofun
  | cons name names namesHypothesis =>
      cases most with
      | zero => cases reads
      | succ most =>
          obtain ⟨⟨first, after⟩, firstReads, going⟩ := Option.bind_eq_some_iff.mp reads
          obtain rfl : first = name := by
            dsimp only at going
            split at going
            · obtain ⟨others, -, same⟩ := Option.map_eq_some_iff.mp going
              exact (List.cons.inj (Prod.mk.inj same).1).1
            · exact (List.cons.inj (Prod.mk.inj (Option.some.inj going)).1).1
          rw [List.forall_mem_cons] at nonempty ⊢
          by_cases more : names = []
          · subst more
            exact ⟨keeps_of_part?_write firstReads, nofun⟩
          · rw [dotted_cons more, List.append_assoc, List.cons_append] at firstReads
            have firstKeeps := keeps_of_part?_write firstReads
            rw [part?_write nonempty.1 firstKeeps (stops_dot _)] at firstReads
            cases firstReads
            obtain ⟨others, laterReads, same⟩ := Option.map_eq_some_iff.mp going
            cases same
            exact ⟨firstKeeps, namesHypothesis nonempty.2 laterReads⟩

/-- A written name is read part by part as what it is, and nothing more of the text. -/
theorem qualified?_dotted
    {names : List String}
    {rest : List Char}
    (isName : names ≠ [])
    (nonempty : ∀ name ∈ names, name ≠ "")
    (keeps : ∀ name ∈ names, ¬ LosesBreak name)
    (ends : EndsName rest) :
    qualified? (dotted names ++ rest) = some (names, rest) := by
  refine parts?_dotted isName nonempty keeps ends ?_
  have enough := length_le_length_dotted names
  rw [List.length_append]
  omega

/-! ## Telling written names apart -/

/-- Nothing at the start of characters continues a written name, not even a line break. -/
def Delimits (chars : List Char) : Prop :=
  ∀ c, chars.head? = some c -> canContinue c = false ∧ c ≠ '"' ∧ c ≠ '\n'

/-- A character of a name that is not quoted; it may be a line break. -/
def inUnquoted (c : Char) : Bool :=
  canContinue c || c == '\n'

theorem inUnquoted_of_unquoted
    {name : String}
    (unquoted : needsQuotes name = false) :
    name.toList.head? ≠ some '"' ∧ ∀ c ∈ name.toList, inUnquoted c = true := by
  obtain ⟨first, word, -, noQuote, continues, shape⟩ := exists_word_of_unquoted unquoted
  have inWord : ∀ c ∈ first :: word, inUnquoted c = true := fun c present => by
    simp [inUnquoted, (continues c present).1]
  rcases shape with same | broken
  · rw [same]
    exact ⟨by simpa using noQuote, inWord⟩
  · rw [broken]
    exact ⟨by simpa using noQuote, List.forall_mem_append.mpr ⟨inWord, by simp [inUnquoted]⟩⟩

/-- A quoted name never starts like one that is not quoted. -/
theorem quote_append_ne
    {name : String}
    (unquoted : needsQuotes name = false)
    (quoted quotedRest rest : List Char) :
    quote quoted ++ quotedRest ≠ name.toList ++ rest := by
  intro same
  obtain ⟨first, others, split⟩ := List.exists_cons_of_ne_nil
    (write_of_unquoted unquoted ▸ write_ne_nil name)
  have noQuote := (inUnquoted_of_unquoted unquoted).1
  rw [split] at same noQuote
  exact noQuote (congrArg some (List.cons.inj same).1.symm)

/-- What is written tells the name, whatever delimits it. -/
theorem write_append_inj
    {first second : String}
    {firstRest secondRest : List Char}
    (firstDelimits : Delimits firstRest)
    (secondDelimits : Delimits secondRest)
    (same : (write first).toList ++ firstRest = (write second).toList ++ secondRest) :
    first = second ∧ firstRest = secondRest := by
  cases firstQuotes : needsQuotes first with
  | true =>
      rw [write_of_quoted firstQuotes] at same
      cases secondQuotes : needsQuotes second with
      | true =>
          have ends {rest : List Char} (delimits : Delimits rest) : rest.head? ≠ some '"' :=
            fun isQuote => (delimits _ isQuote).2.1 rfl
          rw [write_of_quoted secondQuotes] at same
          simp only [quote, List.cons_append, List.append_assoc, List.nil_append,
            List.cons.injEq, true_and] at same
          have reads := congrArg quoted? same
          rw [quoted?_doubled first.toList (ends firstDelimits),
            quoted?_doubled second.toList (ends secondDelimits)] at reads
          obtain ⟨sameName, sameRest⟩ := Prod.mk.inj (Option.some.inj reads)
          exact ⟨String.toList_inj.mp sameName, sameRest⟩
      | false =>
          rw [write_of_unquoted secondQuotes] at same
          exact absurd same (quote_append_ne secondQuotes _ _ _)
  | false =>
      rw [write_of_unquoted firstQuotes] at same
      cases secondQuotes : needsQuotes second with
      | true =>
          rw [write_of_quoted secondQuotes] at same
          exact absurd same.symm (quote_append_ne firstQuotes _ _ _)
      | false =>
          have stops {rest : List Char} (delimits : Delimits rest) :
              ∀ c, rest.head? = some c -> inUnquoted c = false := by
            intro c isNext
            obtain ⟨ends, -, noBreak⟩ := delimits c isNext
            simp [inUnquoted, ends, noBreak]
          rw [write_of_unquoted secondQuotes] at same
          have taken := congrArg (List.takeWhile inUnquoted) same
          rw [takeWhile_word (inUnquoted_of_unquoted firstQuotes).2 (stops firstDelimits),
            takeWhile_word (inUnquoted_of_unquoted secondQuotes).2 (stops secondDelimits)] at taken
          rw [taken, List.append_cancel_left_eq] at same
          exact ⟨String.toList_inj.mp taken, same⟩

/-- The text of a name of parts tells the parts, whatever delimits it but a dot. -/
theorem dotted_append_inj
    {first second : List String}
    {firstRest secondRest : List Char}
    (firstIsName : first ≠ [])
    (secondIsName : second ≠ [])
    (firstDelimits : Delimits firstRest)
    (secondDelimits : Delimits secondRest)
    (firstEnds : firstRest.head? ≠ some '.')
    (secondEnds : secondRest.head? ≠ some '.')
    (same : dotted first ++ firstRest = dotted second ++ secondRest) :
    first = second ∧ firstRest = secondRest := by
  have dotDelimits (rest : List Char) : Delimits ('.' :: rest) := by
    rintro c ⟨⟩
    decide
  induction first generalizing second with
  | nil => exact absurd rfl firstIsName
  | cons name names namesHypothesis =>
      obtain ⟨other, others, rfl⟩ := List.exists_cons_of_ne_nil secondIsName
      by_cases more : names = []
      · subst more
        by_cases moreOthers : others = []
        · subst moreOthers
          obtain ⟨rfl, rfl⟩ := write_append_inj firstDelimits secondDelimits same
          exact ⟨rfl, rfl⟩
        · rw [dotted_singleton, dotted_cons moreOthers, List.append_assoc, List.cons_append] at same
          obtain ⟨-, rfl⟩ := write_append_inj firstDelimits (dotDelimits _) same
          exact absurd rfl firstEnds
      · rw [dotted_cons more, List.append_assoc, List.cons_append] at same
        by_cases moreOthers : others = []
        · subst moreOthers
          rw [dotted_singleton] at same
          obtain ⟨-, rfl⟩ := write_append_inj (dotDelimits _) secondDelimits same
          exact absurd rfl secondEnds
        · rw [dotted_cons moreOthers, List.append_assoc, List.cons_append] at same
          obtain ⟨rfl, sameRest⟩ := write_append_inj (dotDelimits _) (dotDelimits _) same
          obtain ⟨rfl, rfl⟩ := namesHypothesis more moreOthers (List.cons.inj sameRest).2
          exact ⟨rfl, rfl⟩

end Identifier
end InstanceDirectory
