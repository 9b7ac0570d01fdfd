import InstanceDirectory.Proofs.Reading
import Mathlib.Data.List.Infix

/-!
# Patterns of texts

A pattern of SQL has two wildcards, and a character that makes the next one literal.  A text
predicate sends its text with every special character escaped, and the statement adds wildcards
around it.  So a stored text matches exactly when the text that is sought starts it, or occurs
in it, whatever characters it is made of.
-/

namespace InstanceDirectory

/-- An element of a pattern. -/
inductive Wildcard where
  | literal (char : Char)
  | anyOne
  | anyRun
deriving DecidableEq

namespace Wildcard

/-- The meaning of a character that is not escaped. -/
def ofChar (char : Char) : Wildcard :=
  if char = '%' then anyRun else if char = '_' then anyOne else literal char

/-- The elements of a pattern, unless it ends where an escaped character should follow. -/
def read? (escape : Char) : List Char -> Option (List Wildcard)
  | [] => some []
  | char :: rest =>
      if char = escape then
        match rest with
        | [] => none
        | escaped :: rest => (read? escape rest).map (literal escaped :: ·)
      else (read? escape rest).map (ofChar char :: ·)

/-- Every escape character is followed by a character that needs it. -/
def isWellEscaped (escape : Char) : List Char -> Bool
  | [] => true
  | char :: rest =>
      if char = escape then
        match rest with
        | [] => false
        | escaped :: rest => [escape, '%', '_'].contains escaped && isWellEscaped escape rest
      else isWellEscaped escape rest

section Reading

variable {escape char : Char} (rest : List Char)

theorem read?_escaped (escaped : Char) :
    read? escape (escape :: escaped :: rest) =
      (read? escape rest).map (literal escaped :: ·) := by
  simp [read?]

theorem read?_of_ne (plain : char ≠ escape) :
    read? escape (char :: rest) = (read? escape rest).map (ofChar char :: ·) := by
  cases rest <;> simp [read?, plain]

theorem isWellEscaped_escaped (escaped : Char) :
    isWellEscaped escape (escape :: escaped :: rest) =
      ([escape, '%', '_'].contains escaped && isWellEscaped escape rest) := by
  simp [isWellEscaped]

theorem isWellEscaped_of_ne (plain : char ≠ escape) :
    isWellEscaped escape (char :: rest) = isWellEscaped escape rest := by
  cases rest <;> simp [isWellEscaped, plain]

end Reading

/-- A text matches the elements of a pattern, one after another. -/
inductive Matches : List Wildcard -> List Char -> Prop where
  | nil : Matches [] []
  | literal (char : Char) {wildcards : List Wildcard} {text : List Char} :
      Matches wildcards text -> Matches (.literal char :: wildcards) (char :: text)
  | anyOne (char : Char) {wildcards : List Wildcard} {text : List Char} :
      Matches wildcards text -> Matches (.anyOne :: wildcards) (char :: text)
  | anyRun (run : List Char) {wildcards : List Wildcard} {text : List Char} :
      Matches wildcards text -> Matches (.anyRun :: wildcards) (run ++ text)

/-- Decide whether a text matches, trying every run that a wildcard may stand for. -/
def accepts : List Wildcard -> List Char -> Bool
  | [], text => text.isEmpty
  | .literal _ :: _, [] => false
  | .literal char :: wildcards, first :: text => char == first && accepts wildcards text
  | .anyOne :: _, [] => false
  | .anyOne :: wildcards, _ :: text => accepts wildcards text
  | .anyRun :: wildcards, text => text.tails.any (accepts wildcards)

variable {wildcards : List Wildcard} {text : List Char}

theorem matches_nil_iff : Matches [] text ↔ text = [] := by
  constructor
  · rintro ⟨⟩
    rfl
  · rintro rfl
    exact .nil

theorem matches_literal_iff {char : Char} :
    Matches (.literal char :: wildcards) text ↔
      ∃ rest, text = char :: rest ∧ Matches wildcards rest := by
  constructor
  · rintro (_ | ⟨_, rest⟩)
    exact ⟨_, rfl, rest⟩
  · rintro ⟨rest, rfl, later⟩
    exact .literal char later

theorem matches_anyOne_iff :
    Matches (.anyOne :: wildcards) text ↔
      ∃ first rest, text = first :: rest ∧ Matches wildcards rest := by
  constructor
  · rintro (_ | _ | ⟨first, rest⟩)
    exact ⟨first, _, rfl, rest⟩
  · rintro ⟨first, rest, rfl, later⟩
    exact .anyOne first later

theorem matches_anyRun_iff :
    Matches (.anyRun :: wildcards) text ↔
      ∃ run rest, text = run ++ rest ∧ Matches wildcards rest := by
  constructor
  · rintro (_ | _ | _ | ⟨run, rest⟩)
    exact ⟨run, _, rfl, rest⟩
  · rintro ⟨run, rest, rfl, later⟩
    exact .anyRun run later

/-- The matcher decides whether a text matches. -/
theorem accepts_iff : accepts wildcards text = true ↔ Matches wildcards text := by
  induction wildcards generalizing text with
  | nil => rw [accepts, List.isEmpty_iff, matches_nil_iff]
  | cons wildcard wildcards wildcardsHypothesis =>
      cases wildcard with
      | literal char =>
          rw [matches_literal_iff]
          cases text with
          | nil => simp [accepts]
          | cons first text =>
              simp only [accepts, Bool.and_eq_true, beq_iff_eq, wildcardsHypothesis,
                List.cons.injEq]
              constructor
              · rintro ⟨rfl, later⟩
                exact ⟨text, ⟨rfl, rfl⟩, later⟩
              · rintro ⟨rest, ⟨rfl, rfl⟩, later⟩
                exact ⟨rfl, later⟩
      | anyOne =>
          rw [matches_anyOne_iff]
          cases text with
          | nil => simp [accepts]
          | cons first text => simp [accepts, wildcardsHypothesis]
      | anyRun =>
          rw [matches_anyRun_iff, accepts, List.any_eq_true]
          simp only [List.mem_tails, wildcardsHypothesis]
          constructor
          · rintro ⟨rest, ⟨run, rfl⟩, later⟩
            exact ⟨run, rest, rfl, later⟩
          · rintro ⟨run, rest, rfl, later⟩
            exact ⟨rest, List.suffix_append run rest, later⟩

instance : DecidableRel Matches := fun _ _ => decidable_of_iff _ accepts_iff

/-- Literal characters match themselves, and what follows them matches the rest. -/
theorem matches_map_literal_append_iff {chars : List Char} :
    Matches (chars.map .literal ++ wildcards) text ↔
      ∃ rest, text = chars ++ rest ∧ Matches wildcards rest := by
  induction chars generalizing text with
  | nil => simp
  | cons char chars charsHypothesis =>
      rw [List.map_cons, List.cons_append, matches_literal_iff]
      simp only [charsHypothesis]
      constructor
      · rintro ⟨_, rfl, rest, rfl, later⟩
        exact ⟨rest, rfl, later⟩
      · rintro ⟨rest, rfl, later⟩
        exact ⟨chars ++ rest, rfl, rest, rfl, later⟩

/-- Every text matches a single run. -/
theorem matches_anyRun : Matches [.anyRun] text := by
  have whole := Matches.anyRun text .nil
  rwa [List.append_nil] at whole

/-- Literal characters before a run match exactly what they start. -/
theorem matches_start_iff {chars : List Char} :
    Matches (chars.map .literal ++ [.anyRun]) text ↔ chars <+: text := by
  rw [matches_map_literal_append_iff]
  constructor
  · rintro ⟨rest, rfl, -⟩
    exact List.prefix_append chars rest
  · rintro ⟨rest, rfl⟩
    exact ⟨rest, rfl, matches_anyRun⟩

/-- Literal characters between two runs match exactly where they occur. -/
theorem matches_occurrence_iff {chars : List Char} :
    Matches (.anyRun :: (chars.map .literal ++ [.anyRun])) text ↔ chars <:+: text := by
  rw [matches_anyRun_iff]
  simp only [matches_start_iff]
  constructor
  · rintro ⟨run, _, rfl, rest, rfl⟩
    exact ⟨run, rest, List.append_assoc _ _ _⟩
  · rintro ⟨run, rest, rfl⟩
    exact ⟨run, chars ++ rest, List.append_assoc _ _ _, rest, rfl⟩

/-! ## Escaped characters -/

theorem ofChar_of_not_isSpecial {char : Char} (plain : Clause.isSpecial char = false) :
    char ≠ Clause.escapeChar ∧ ofChar char = .literal char := by
  simp only [Clause.isSpecial, Bool.or_eq_false_iff, beq_eq_false_iff_ne] at plain
  rw [ofChar, if_neg plain.1.2, if_neg plain.2]
  exact ⟨plain.1.1, rfl⟩

theorem escape_cons_of_isSpecial
    {char : Char}
    (special : Clause.isSpecial char = true)
    (chars : List Char) :
    Clause.escape (char :: chars) = Clause.escapeChar :: char :: Clause.escape chars := by
  rw [Clause.escape_cons, if_pos special]
  rfl

theorem escape_cons_of_not_isSpecial
    {char : Char}
    (plain : Clause.isSpecial char = false)
    (chars : List Char) :
    Clause.escape (char :: chars) = char :: Clause.escape chars := by
  rw [Clause.escape_cons, if_neg (Bool.eq_false_iff.mp plain)]
  rfl

/-- Escaped characters are read as themselves. -/
theorem read?_escape_append (chars rest : List Char) :
    read? Clause.escapeChar (Clause.escape chars ++ rest) =
      (read? Clause.escapeChar rest).map (chars.map .literal ++ ·) := by
  induction chars with
  | nil => simp
  | cons char chars charsHypothesis =>
      cases special : Clause.isSpecial char with
      | true =>
          rw [escape_cons_of_isSpecial special, List.cons_append, List.cons_append, read?_escaped,
            charsHypothesis, Option.map_map]
          rfl
      | false =>
          obtain ⟨noEscape, isLiteral⟩ := ofChar_of_not_isSpecial special
          rw [escape_cons_of_not_isSpecial special, List.cons_append, read?_of_ne _ noEscape,
            isLiteral, charsHypothesis, Option.map_map]
          rfl

/-- Escaping puts the escape character before special characters only. -/
theorem isWellEscaped_escape_append (chars rest : List Char) :
    isWellEscaped Clause.escapeChar (Clause.escape chars ++ rest) =
      isWellEscaped Clause.escapeChar rest := by
  induction chars with
  | nil => rfl
  | cons char chars charsHypothesis =>
      cases special : Clause.isSpecial char with
      | true =>
          have isListed : [Clause.escapeChar, '%', '_'].contains char = true := by
            simpa [Clause.isSpecial, or_assoc] using special
          rw [escape_cons_of_isSpecial special, List.cons_append, List.cons_append,
            isWellEscaped_escaped, isListed, charsHypothesis, Bool.true_and]
      | false =>
          obtain ⟨noEscape, -⟩ := ofChar_of_not_isSpecial special
          rw [escape_cons_of_not_isSpecial special, List.cons_append,
            isWellEscaped_of_ne _ noEscape, charsHypothesis]

end Wildcard

/-- A text is like a pattern when it matches the elements of the pattern. -/
def IsLike (escape : Char) (pattern text : String) : Prop :=
  ∃ wildcards, Wildcard.read? escape pattern.toList = some wildcards ∧
    Wildcard.Matches wildcards text.toList

instance (escape : Char) (pattern text : String) : Decidable (IsLike escape pattern text) :=
  match readsAs : Wildcard.read? escape pattern.toList with
  | none => .isFalse fun ⟨_, same, _⟩ => by
      rw [readsAs] at same
      cases same
  | some wildcards =>
      decidable_of_iff (Wildcard.Matches wildcards text.toList)
        (by simp only [IsLike, readsAs, Option.some.injEq, exists_eq_left'])

/-- A text is like an escaped text and a run when the text starts it. -/
theorem isLike_start_iff (sought stored : String) :
    IsLike Clause.escapeChar (String.ofList (Clause.escape sought.toList) ++ "%") stored ↔
      sought.toList <+: stored.toList := by
  have readsAs : Wildcard.read? Clause.escapeChar
      (String.ofList (Clause.escape sought.toList) ++ "%").toList =
        some (sought.toList.map .literal ++ [.anyRun]) := by
    rw [String.toList_append, String.toList_ofList, Wildcard.read?_escape_append]
    rfl
  simp only [IsLike, readsAs, Option.some.injEq, exists_eq_left', Wildcard.matches_start_iff]

theorem toList_occurrence (chars : List Char) :
    ("%" ++ String.ofList chars ++ "%").toList = '%' :: (chars ++ ['%']) := by
  simp

/-- A text is like an escaped text between two runs when the text occurs in it. -/
theorem isLike_occurrence_iff (sought stored : String) :
    IsLike Clause.escapeChar ("%" ++ String.ofList (Clause.escape sought.toList) ++ "%") stored ↔
      sought.toList <:+: stored.toList := by
  have readsAs : Wildcard.read? Clause.escapeChar
      ("%" ++ String.ofList (Clause.escape sought.toList) ++ "%").toList =
        some (.anyRun :: (sought.toList.map .literal ++ [.anyRun])) := by
    rw [toList_occurrence, Wildcard.read?_of_ne _ (by decide), Wildcard.read?_escape_append]
    rfl
  simp only [IsLike, readsAs, Option.some.injEq, exists_eq_left', Wildcard.matches_occurrence_iff]

/-! ## Text predicates -/

/-- A comparison of a column with a pattern. -/
structure PatternMatch where
  /-- The column as it is written. -/
  column : String
  /-- The pattern, joined from the bound value and the fixed runs. -/
  pattern : String
  /-- The escape character that the comparison declares. -/
  escape : Char

/-- The comparison with a pattern that a condition makes. -/
def Fragment.patternMatch? : List (Fragment Value) -> Option PatternMatch
  | [.verbatim "(", .verbatim column, .verbatim " LIKE ", .bound (.text content) _,
      .verbatim " || '%' ESCAPE '/'", .verbatim ")"] =>
      some { column, pattern := content ++ "%", escape := '/' }
  | [.verbatim "(", .verbatim column, .verbatim " LIKE '%' || ", .bound (.text content) _,
      .verbatim " || '%' ESCAPE '/'", .verbatim ")"] =>
      some { column, pattern := "%" ++ content ++ "%", escape := '/' }
  | _ => none

namespace Predicate

/-- The predicate that a column starts with a text. -/
abbrev startsWith (column : Column) (sought : String) : Predicate :=
  .text column (.text sought) .startsWith

/-- The predicate that a column contains a text. -/
abbrev contains (column : Column) (sought : String) : Predicate :=
  .text column (.text sought) .contains

/--
A predicate seeks texts by a pattern.  It binds one value, and its condition forms the pattern
from this value and the fixed runs; in the pattern the escape character stands only before
characters that need it.  The texts that are like the pattern are those that are wanted.  Every
statement of a search with the predicate shows this condition, and the value is an argument.
-/
structure SeeksBy
    (predicate : Predicate) (schema : Schema) (column : Column) (bound pattern : String)
    (wanted : String -> Prop) : Prop where
  binds : predicate.bound? = some (column.name, .text bound)
  condition : ∀ labels, Fragment.patternMatch? (predicate.condition schema labels) = some {
    column := Piece.nameText labels (schema.columnText column), pattern, escape := '/' }
  wellEscaped : Wildcard.isWellEscaped '/' pattern.toList
  matched : ∀ stored, IsLike '/' pattern stored ↔ wanted stored
  shown : ∀ (search : Search) (selection : Selection) (statement : Statement),
    predicate ∈ search.predicates -> search.chain.compile schema selection = .ok statement ->
    statement.Reads (search.sections schema selection) ∧
    predicate.condition schema search.chain.labels ∈
      (search.sections schema selection).conjuncts ∧
    .text bound ∈ statement.arguments

/-- A predicate that binds a value is shown, with its value, in every statement that it is in. -/
theorem shown_of_bound?
    {predicate : Predicate}
    {schema : Schema}
    {stem : String}
    {value : Value}
    (isBound : predicate.bound? = some (stem, value))
    (search : Search)
    (selection : Selection)
    (statement : Statement)
    (listed : predicate ∈ search.predicates)
    (isStatement : search.chain.compile schema selection = .ok statement) :
    statement.Reads (search.sections schema selection) ∧
    predicate.condition schema search.chain.labels ∈
      (search.sections schema selection).conjuncts ∧
    value ∈ statement.arguments := by
  refine ⟨Search.reads_of_compile isStatement, List.mem_map_of_mem listed, ?_⟩
  obtain ⟨pieces, layout, -, -, -, sameArguments⟩ := Chain.exists_layout isStatement
  have bound : statement.arguments = search.chain.bound.map Prod.snd :=
    sameArguments.trans layout.arguments
  rw [bound, search.bound_chain, List.map_append]
  exact List.mem_append_left _ (List.mem_map.mpr
    ⟨(stem, value), List.mem_filterMap.mpr ⟨predicate, listed, isBound⟩, rfl⟩)

/--
Text predicates match literally, whatever characters their text is made of: one of them finds
exactly the stored texts that start with its text, and the other one exactly those in which its
text occurs.
-/
theorem textPredicates_matchLiterally
    (schema : Schema)
    (column : Column)
    (sought : String) :
    ∃ bound : String,
      (startsWith column sought).SeeksBy schema column bound (bound ++ "%")
        (fun stored => sought.toList <+: stored.toList) ∧
      (contains column sought).SeeksBy schema column bound ("%" ++ bound ++ "%")
        (fun stored => sought.toList <:+: stored.toList) := by
  refine ⟨String.ofList (Clause.escape sought.toList), ?starts, ?occurs⟩
  case starts =>
    have isBound : (startsWith column sought).bound? =
        some (column.name, .text (String.ofList (Clause.escape sought.toList))) := rfl
    refine ⟨isBound, fun _ => rfl, ?_, isLike_start_iff sought, shown_of_bound? isBound⟩
    rw [String.toList_append, String.toList_ofList]
    exact (Wildcard.isWellEscaped_escape_append sought.toList ['%']).trans (by decide)
  case occurs =>
    have isBound : (contains column sought).bound? =
        some (column.name, .text (String.ofList (Clause.escape sought.toList))) := rfl
    refine ⟨isBound, fun _ => rfl, ?_, isLike_occurrence_iff sought, shown_of_bound? isBound⟩
    rw [toList_occurrence, Wildcard.isWellEscaped_of_ne _ (by decide)]
    exact (Wildcard.isWellEscaped_escape_append sought.toList ['%']).trans (by decide)

/-- A percent sign that is sought matches itself only. -/
example : IsLike '/' "/%%" "%2" ∧ ¬ IsLike '/' "/%%" "52" := by decide

end Predicate

end InstanceDirectory
