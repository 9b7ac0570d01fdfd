import InstanceDirectory.Proofs.Tagging

/-!
# Words between hyphens

The words of a tag are joined by hyphens and found again by splitting there, as no word
holds one.  The normal form of a text is the row of the normal forms of its words, and a
word is the normal form of itself and of every way to capitalise it.
-/

namespace InstanceDirectory
namespace Language

/-! ## Characters -/

/-- The normal form of one character of a text. -/
def normalChar (c : Char) : Char :=
  if c = '_' then '-' else if c = '\u212A' then 'k' else c.toLower

theorem normalize_eq (text : String) :
    normalize text = String.ofList (text.toList.map normalChar) := rfl

/-- What holds of the first 128 characters holds of every character of ASCII. -/
theorem forall_ascii
    {property : Char -> Prop}
    (holds : ∀ code < 128, property (Char.ofNat code))
    {c : Char}
    (ascii : c.toNat < 128) :
    property c := by
  rw [← Char.ofNat_toNat c]
  exact holds c.toNat ascii

theorem isAscii_of_isAlphanum {c : Char} (alphanum : c.isAlphanum) : c.toNat < 128 := by
  simp only [Char.isAlphanum, Char.isAlpha, Char.isUpper, Char.isLower, Char.isDigit,
    Bool.or_eq_true, Bool.and_eq_true, decide_eq_true_eq, ge_iff_le,
    UInt32.le_iff_toNat_le] at alphanum
  have large : 'Z'.val.toNat = 90 ∧ 'z'.val.toNat = 122 ∧ '9'.val.toNat = 57 := by decide
  rw [← Char.toNat_val]
  omega

theorem isAlphanum_of_isWordChar {c : Char} (wordChar : isWordChar c) : c.isAlphanum := by
  simp only [isWordChar, Bool.or_eq_true] at wordChar
  simp only [Char.isAlphanum, Char.isAlpha, Bool.or_eq_true]
  exact wordChar.imp_left .inr

theorem isAscii_of_isWordChar {c : Char} (wordChar : isWordChar c) : c.toNat < 128 :=
  isAscii_of_isAlphanum (isAlphanum_of_isWordChar wordChar)

theorem ne_hyphen_of_isAlphanum {c : Char} (alphanum : c.isAlphanum) : c ≠ '-' := by
  rintro rfl
  exact absurd alphanum (by decide)

/-- Capital letters and small ones have the same normal form. -/
theorem normalChar_of_isWordChar {c : Char} (wordChar : isWordChar c) :
    normalChar c = c ∧ normalChar c.toUpper = c ∧ normalChar c.toLower = c :=
  @forall_ascii
    (fun c => isWordChar c -> normalChar c = c ∧ normalChar c.toUpper = c ∧ normalChar c.toLower = c)
    (by decide) c (isAscii_of_isWordChar wordChar) wordChar

theorem isAlphanum_toUpper {c : Char} (wordChar : isWordChar c) :
    c.toUpper.isAlphanum ∧ c.toLower.isAlphanum :=
  @forall_ascii (fun c => isWordChar c -> c.toUpper.isAlphanum ∧ c.toLower.isAlphanum)
    (by decide) c (isAscii_of_isWordChar wordChar) wordChar

theorem isWordChar_normalChar
    {c : Char}
    (ascii : c.toNat < 128)
    (alphanum : (normalChar c).isAlphanum) :
    isWordChar (normalChar c) :=
  @forall_ascii (fun c => (normalChar c).isAlphanum -> isWordChar (normalChar c))
    (by decide) c ascii alphanum

/-! ## Words -/

theorem isWordChar_of_mem
    {word : String}
    {c : Char}
    (words : isWord word)
    (present : c ∈ word.toList) :
    isWordChar c := by
  simp only [isWord, allChars, Bool.and_eq_true, List.all_eq_true] at words
  exact words.2 c present

/-- Characters that a change of capitals leaves as they are in normal form. -/
theorem map_normalChar
    {chars : List Char}
    (change : Char -> Char)
    (same : ∀ c ∈ chars, normalChar (change c) = c) :
    (chars.map change).map normalChar = chars := by
  rw [List.map_map]
  exact (List.map_congr_left same).trans (List.map_id chars)

@[simp] theorem normalize_word {word : String} (words : isWord word) : normalize word = word := by
  have same : word.toList.map normalChar = word.toList := by
    have unchanged := map_normalChar id fun c present =>
      (normalChar_of_isWordChar (isWordChar_of_mem words present)).1
    rwa [List.map_id] at unchanged
  rw [normalize_eq, same, String.ofList_toList]

theorem map_normalize {words : List String} (areWords : ∀ word ∈ words, isWord word) :
    words.map normalize = words :=
  (List.map_congr_left fun word present => normalize_word (areWords word present)).trans
    (List.map_id words)

theorem normalize_upperCase {word : String} (words : isWord word) :
    normalize (upperCase word) = word := by
  rw [normalize_eq, upperCase, String.toList_ofList, map_normalChar Char.toUpper, String.ofList_toList]
  exact fun c present => (normalChar_of_isWordChar (isWordChar_of_mem words present)).2.1

theorem normalize_titleCase {word : String} (words : isWord word) :
    normalize (titleCase word) = word := by
  have wordChars := fun c => @isWordChar_of_mem word c words
  unfold titleCase
  split
  · rename_i noChars
    rw [← String.ofList_toList (s := word), noChars]
    rfl
  · rename_i first rest chars
    rw [chars] at wordChars
    have sameFirst := (normalChar_of_isWordChar (wordChars first List.mem_cons_self)).2.1
    have sameRest := map_normalChar Char.toLower fun c (present : c ∈ rest) =>
      (normalChar_of_isWordChar (wordChars c (List.mem_cons_of_mem _ present))).2.2
    rw [normalize_eq, String.toList_ofList, List.map_cons, sameFirst, sameRest, ← chars,
      String.ofList_toList]

theorem isSubtag_of_map
    {word : String}
    {chars : List Char}
    (words : isWord word)
    (sameLength : chars.length = word.length)
    (alphanum : ∀ c ∈ chars, c.isAlphanum) :
    isSubtag (String.ofList chars) := by
  simp only [isWord, Bool.and_eq_true] at words
  simp only [isSubtag, allChars, Bool.and_eq_true, List.all_eq_true, String.toList_ofList,
    ← String.length_toList, sameLength] at words ⊢
  exact ⟨words.1, alphanum⟩

theorem isSubtag_of_isWord {word : String} (words : isWord word) : isSubtag word := by
  rw [← String.ofList_toList (s := word)]
  exact isSubtag_of_map words String.length_toList fun c present =>
    isAlphanum_of_isWordChar (isWordChar_of_mem words present)

theorem isSubtag_upperCase {word : String} (words : isWord word) : isSubtag (upperCase word) := by
  have sameLength : (word.toList.map Char.toUpper).length = word.length := by
    rw [List.length_map, String.length_toList]
  refine isSubtag_of_map words sameLength fun c present => ?_
  obtain ⟨small, isSmall, rfl⟩ := List.mem_map.mp present
  exact (isAlphanum_toUpper (isWordChar_of_mem words isSmall)).1

theorem isSubtag_titleCase {word : String} (words : isWord word) : isSubtag (titleCase word) := by
  have wordChars := fun c => @isWordChar_of_mem word c words
  unfold titleCase
  split
  · rename_i noChars
    rw [← String.ofList_toList (s := word), noChars] at words
    exact absurd words (by decide)
  · rename_i first rest chars
    have sameLength : (first :: rest).length = word.length := by
      rw [← chars, String.length_toList]
    rw [chars] at wordChars
    refine isSubtag_of_map words (by simpa using sameLength) fun c present => ?_
    rcases List.mem_cons.mp present with rfl | present
    · exact (isAlphanum_toUpper (wordChars first List.mem_cons_self)).1
    · obtain ⟨small, isSmall, rfl⟩ := List.mem_map.mp present
      exact (isAlphanum_toUpper (wordChars small (List.mem_cons_of_mem _ isSmall))).2

/-! ## Rows of words -/

theorem splitHyphens_eq_splitOn (text : List Char) : splitHyphens text = text.splitOn '-' := by
  induction text with
  | nil => rfl
  | cons c rest restHypothesis =>
      rw [splitHyphens, restHypothesis, List.splitOn_cons_eq_if_modifyHead]
      simp only [beq_iff_eq]
      split
      · rfl
      · cases splits : List.splitOn '-' rest with
        | nil => exact absurd splits (List.splitOn_ne_nil '-' rest)
        | cons first others => rfl

/-- The words of a row are found again by splitting it. -/
theorem splitHyphens_joinSubtags
    {words : List String}
    (nonempty : words ≠ [])
    (areSubtags : ∀ word ∈ words, isSubtag word) :
    (splitHyphens (joinSubtags words).toList).map String.ofList = words := by
  have noHyphen : ∀ chars ∈ words.map String.toList, '-' ∉ chars := by
    intro chars present isHyphen
    obtain ⟨word, isWord, rfl⟩ := List.mem_map.mp present
    have alphanum := areSubtags word isWord
    simp only [isSubtag, allChars, Bool.and_eq_true, List.all_eq_true] at alphanum
    exact ne_hyphen_of_isAlphanum (alphanum.2 _ isHyphen) rfl
  rw [splitHyphens_eq_splitOn, joinSubtags, String.toList_intercalate,
    show "-".toList = ['-'] from rfl,
    List.splitOn_intercalate '-' noHyphen (by simpa using nonempty), List.map_map]
  exact List.map_id'' (fun _ => String.ofList_toList) words

/-- The row of the words that a text is split into is the text. -/
theorem joinSubtags_splitHyphens (text : String) :
    joinSubtags ((splitHyphens text.toList).map String.ofList) = text := by
  apply String.ext
  rw [joinSubtags, String.toList_intercalate, List.map_map, splitHyphens_eq_splitOn,
    show "-".toList = ['-'] from rfl]
  refine Eq.trans (congrArg _ (List.map_id'' (fun _ => String.toList_ofList) _)) ?_
  exact List.intercalate_splitOn '-'

theorem joinSubtags_inj
    {words others : List String}
    (nonempty : words ≠ [])
    (nonemptyToo : others ≠ [])
    (areSubtags : ∀ word ∈ words, isSubtag word)
    (areSubtagsToo : ∀ word ∈ others, isSubtag word)
    (same : joinSubtags words = joinSubtags others) :
    words = others := by
  rw [← splitHyphens_joinSubtags nonempty areSubtags, same,
    splitHyphens_joinSubtags nonemptyToo areSubtagsToo]

theorem joinSubtags_cons
    {words : List String}
    (word : String)
    (nonempty : words ≠ []) :
    joinSubtags (word :: words) = word ++ "-" ++ joinSubtags words :=
  String.intercalate_cons_of_ne_nil nonempty

theorem normalize_append (first second : String) :
    normalize (first ++ second) = normalize first ++ normalize second := by
  rw [normalize_eq, normalize_eq, normalize_eq, String.toList_append, List.map_append,
    String.ofList_append]

/-- The normal form of a row is the row of the normal forms. -/
theorem normalize_joinSubtags (words : List String) :
    normalize (joinSubtags words) = joinSubtags (words.map normalize) := by
  induction words with
  | nil => rfl
  | cons word words wordsHypothesis =>
      cases words with
      | nil => rfl
      | cons next words =>
          rw [joinSubtags_cons word (List.cons_ne_nil _ _), normalize_append, normalize_append,
            wordsHypothesis]
          exact (joinSubtags_cons (normalize word) (List.cons_ne_nil _ _)).symm

/-- A row of rows is the row of all their words. -/
theorem joinSubtags_flatten
    {groups : List (List String)}
    (nonempty : ∀ words ∈ groups, words ≠ []) :
    joinSubtags (groups.map joinSubtags) = joinSubtags groups.flatten := by
  induction groups with
  | nil => rfl
  | cons words groups groupsHypothesis =>
      obtain ⟨nonemptyFirst, nonemptyRest⟩ := List.forall_mem_cons.mp nonempty
      cases groups with
      | nil => simp [joinSubtags]
      | cons next groups =>
          have remains : (next :: groups).flatten ≠ [] := by
            simp [nonemptyRest next List.mem_cons_self]
          rw [List.map_cons, joinSubtags_cons _ (by simp), groupsHypothesis nonemptyRest,
            List.flatten_cons]
          exact (String.intercalate_append_of_ne_nil nonemptyFirst remains).symm

theorem isAscii_joinSubtags
    {words : List String}
    (areSubtags : ∀ word ∈ words, isSubtag word) :
    allChars (·.toNat < 0x80) (joinSubtags words) := by
  have isAscii : ∀ word ∈ words, allChars (·.toNat < 0x80) word := by
    intro word present
    have alphanum := areSubtags word present
    simp only [isSubtag, allChars, Bool.and_eq_true, List.all_eq_true] at alphanum
    simp only [allChars, List.all_eq_true, decide_eq_true_eq]
    exact fun c isChar => isAscii_of_isAlphanum (alphanum.2 c isChar)
  clear areSubtags
  induction words with
  | nil => rfl
  | cons word words wordsHypothesis =>
      obtain ⟨isAsciiFirst, isAsciiRest⟩ := List.forall_mem_cons.mp isAscii
      cases words with
      | nil => exact isAsciiFirst
      | cons next words =>
          have rest := wordsHypothesis isAsciiRest
          rw [joinSubtags_cons word (List.cons_ne_nil _ _)]
          simp only [allChars, String.toList_append, List.all_append, Bool.and_eq_true] at *
          exact ⟨⟨isAsciiFirst, by decide⟩, rest⟩

/-! ## Tags -/

/-- The word for a language of its own. -/
def isCode (word : String) : Bool :=
  isWord word && 2 ≤ word.length && word.length ≤ 4

theorem isWord_of_isCode {word : String} (code : isCode word) : isWord word := by
  simp only [isCode, Bool.and_eq_true] at code
  exact code.1.1

theorem length_of_isCode {word : String} (code : isCode word) :
    2 ≤ word.length ∧ word.length ≤ 4 := by
  simp only [isCode, Bool.and_eq_true, decide_eq_true_eq] at code
  exact ⟨code.1.2, code.2⟩

/-- What the grammar makes of a text in normal form. -/
inductive Spells (text : String) : List Subtag -> Prop where
  /-- Some tags are known as a whole. -/
  | whole (known : text ∈ grandfathered) : Spells text [.language text]
  /-- So are those that are for private use altogether. -/
  | privateUse (words : List String) (isPrivate : IsPrivateUse words)
      (isRow : text = joinSubtags words) : Spells text [.language text]
  /-- All others have a language and a tail. -/
  | ordinary (first : String) (tail : Tail) (code : isCode first) (formed : tail.IsFormed)
      (fits : tail.FitsAt .extlang) (isRow : text = joinSubtags (first :: tail.words))
      (unknown : text ∉ grandfathered) : Spells text (.language first :: tail.subtags)

/-- A tag is a text of ASCII characters of which the grammar makes something. -/
def IsTag (text : String) : Prop :=
  allChars (·.toNat < 0x80) text ∧ ∃ subtags, Spells (normalize text) subtags

theorem mem_of_mem_splitHyphens
    {text part : List Char}
    {c : Char}
    (isPart : part ∈ splitHyphens text)
    (present : c ∈ part) :
    c ∈ text := by
  induction text generalizing part with
  | nil =>
      rw [splitHyphens, List.mem_singleton] at isPart
      exact isPart ▸ present
  | cons head rest restHypothesis =>
      rw [splitHyphens] at isPart
      split at isPart
      · rcases List.mem_cons.mp isPart with rfl | isPart
        · cases present
        · exact List.mem_cons_of_mem _ (restHypothesis isPart present)
      · split at isPart
        · rw [List.mem_singleton] at isPart
          rw [isPart, List.mem_singleton] at present
          exact present ▸ List.mem_cons_self
        · rename_i first others splits
          rw [splits] at restHypothesis
          rcases List.mem_cons.mp isPart with rfl | isPart
          · rcases List.mem_cons.mp present with rfl | present
            · exact List.mem_cons_self
            · exact List.mem_cons_of_mem _ (restHypothesis List.mem_cons_self present)
          · exact List.mem_cons_of_mem _
              (restHypothesis (List.mem_cons_of_mem _ isPart) present)

/-- The parts of an ASCII text are in normal form. -/
theorem isWord_of_isSubtag
    {text : String}
    {part : List Char}
    (isAscii : allChars (·.toNat < 0x80) text)
    (isPart : part ∈ splitHyphens (normalize text).toList)
    (subtag : isSubtag (String.ofList part)) :
    isWord (String.ofList part) := by
  simp only [isSubtag, allChars, Bool.and_eq_true, List.all_eq_true, String.toList_ofList] at subtag
  simp only [isWord, allChars, Bool.and_eq_true, List.all_eq_true, String.toList_ofList]
  refine ⟨subtag.1, fun c present => ?_⟩
  have isChar := mem_of_mem_splitHyphens isPart present
  rw [normalize_eq, String.toList_ofList] at isChar
  obtain ⟨original, isOriginal, rfl⟩ := List.mem_map.mp isChar
  simp only [allChars, List.all_eq_true, decide_eq_true_eq] at isAscii
  exact isWordChar_normalChar (isAscii original isOriginal) (subtag.2 _ present)

/-- A row of words is split into its words. -/
theorem parts_row
    {text : String}
    {words : List String}
    (nonempty : words ≠ [])
    (areWords : ∀ word ∈ words, isWord word)
    (isRow : text = joinSubtags words) :
    (splitHyphens text.toList).map String.ofList = words ∧ words.all isSubtag := by
  have areSubtags : ∀ word ∈ words, isSubtag word := fun word present =>
    isSubtag_of_isWord (areWords word present)
  rw [isRow]
  exact ⟨splitHyphens_joinSubtags nonempty areSubtags, List.all_eq_true.mpr areSubtags⟩

section Rows

variable {text : String} {words : List String} (isAscii : allChars (·.toNat < 0x80) text)

include isAscii

/-- A row of words is read by its first word and the words behind it. -/
theorem subtags?_row
    {first : String}
    (unknown : normalize text ∉ grandfathered)
    (code : isCode first)
    (areWords : ∀ word ∈ words, isWord word)
    (isRow : normalize text = joinSubtags (first :: words)) :
    subtags? text = (readSubtags .extlang words).map (.language first :: ·) := by
  obtain ⟨parts, areSubtags⟩ := parts_row (List.cons_ne_nil _ _)
    (List.forall_mem_cons.mpr ⟨isWord_of_isCode code, areWords⟩) isRow
  have notX : first ≠ "x" := by
    rintro rfl
    exact absurd code (by decide)
  unfold subtags?
  simp only [isAscii, Bool.not_true, Bool.false_eq_true, if_false, parts, areSubtags,
    List.contains_eq_mem, unknown, decide_false, notX, length_of_isCode code, and_self, if_true]

/-- A row of words for private use is known as a whole. -/
theorem subtags?_privateUse
    (isPrivate : IsPrivateUse words)
    (isRow : normalize text = joinSubtags words) :
    subtags? text = some [.language (normalize text)] := by
  obtain ⟨rest, rfl, nonempty, areWords⟩ := isPrivate
  obtain ⟨parts, areSubtags⟩ := parts_row (List.cons_ne_nil _ _) areWords isRow
  unfold subtags?
  simp only [isAscii, Bool.not_true, Bool.false_eq_true, if_false, parts, areSubtags, if_true,
    List.isEmpty_iff, nonempty, ite_self]

end Rows

/-- A text has the parts that the grammar makes of it. -/
theorem subtags?_eq_some_iff (text : String) (subtags : List Subtag) :
    subtags? text = some subtags ↔
      allChars (·.toNat < 0x80) text ∧ Spells (normalize text) subtags := by
  constructor
  · intro read
    have row := joinSubtags_splitHyphens (normalize text)
    have areWords : allChars (·.toNat < 0x80) text ->
        ∀ word ∈ (splitHyphens (normalize text).toList).map String.ofList,
          isSubtag word -> isWord word := by
      intro isAscii word present subtag
      obtain ⟨part, isPart, rfl⟩ := List.mem_map.mp present
      exact isWord_of_isSubtag isAscii isPart subtag
    unfold subtags? at read
    dsimp only at read
    generalize (splitHyphens (normalize text).toList).map String.ofList = parts at *
    obtain ⟨isAscii, read⟩ := Option.ite_none_left_eq_some.mp read
    simp only [Bool.not_eq_true', Bool.not_eq_false] at isAscii
    refine ⟨isAscii, ?_⟩
    split at read
    · rename_i known
      cases read
      exact .whole (List.contains_iff_mem.mp known)
    rename_i unknown
    obtain ⟨areSubtags, read⟩ := Option.ite_none_left_eq_some.mp read
    simp only [Bool.not_eq_true', Bool.not_eq_false, List.all_eq_true] at areSubtags
    have areWords : ∀ word ∈ parts, isWord word := fun word present =>
      areWords isAscii word present (areSubtags word present)
    rcases parts with _ | ⟨first, rest⟩
    · cases read
    simp only at read
    split at read
    · rename_i isX
      obtain ⟨nonempty, read⟩ := Option.ite_none_left_eq_some.mp read
      cases read
      exact .privateUse _ ⟨rest, by rw [isX], by simpa using nonempty, areWords⟩ row.symm
    · obtain ⟨lengths, read⟩ := Option.ite_none_right_eq_some.mp read
      obtain ⟨found, readRest, rfl⟩ := Option.map_eq_some_iff.mp read
      obtain ⟨isWordFirst, areWordsRest⟩ := List.forall_mem_cons.mp areWords
      obtain ⟨tail, formed, fits, rfl, rfl⟩ := Tail.exists_of_readSubtags areWordsRest readRest
      have code : isCode first := by simp [isCode, isWordFirst, lengths]
      exact .ordinary first tail code formed fits row.symm (by simpa using unknown)
  · rintro ⟨isAscii, known | ⟨words, isPrivate, isRow⟩ |
      ⟨first, tail, code, formed, fits, isRow, unknown⟩⟩
    · simp [subtags?, isAscii, known]
    · exact subtags?_privateUse isAscii isPrivate isRow
    · rw [subtags?_row isAscii unknown code (fun _ => Tail.isWord_of_mem_words formed) isRow,
        Tail.readSubtags_words formed fits]
      rfl

theorem isSome_subtags?_iff (text : String) : (subtags? text).isSome ↔ IsTag text := by
  simp only [Option.isSome_iff_exists, subtags?_eq_some_iff, exists_and_left, IsTag]

end Language
end InstanceDirectory
