import InstanceDirectory.Proofs.Settling

/-!
# Reading a language again

The text of a settled language holds the words of its parts in a fixed order, so reading it
again finds the same parts unless the text as a whole is a key of a preferred form, or its
sorted extended languages are not read as such where they stand.  Whether they are can be told
from the parts alone.
-/

namespace InstanceDirectory
namespace Language

/-! ## Words in place -/

/--
A language can be read back as it is written.  If it has extended languages, the first one in
order consists of letters, and no territory of three digits stands where still more of them
might; or there is just one, which consists of digits and can be read as a territory of that
name instead.
-/
def ReadsBack (language : Language) : Prop :=
  match sortSubtags language.extlangs with
  | [] => True
  | first :: others =>
      (allChars isLetter first ∧
        (others.length < 2 -> language.script = none ->
          ∀ territory ∈ language.territory, territory.length ≠ 3)) ∨
      (allChars Char.isDigit first ∧ others = [] ∧ language.script = none ∧
        language.territory = none ∧ lookup territoryReplacements first = none)

theorem length_upperCase (word : String) : (upperCase word).length = word.length := by
  rw [upperCase, ← String.length_toList, String.toList_ofList, List.length_map,
    String.length_toList]

theorem isTerritory_of_digits
    {word : String}
    (isExtlang : isExtlang word)
    (digits : allChars Char.isDigit word) :
    isTerritory word := by
  simp [isTerritory, isWord_of_isExtlang isExtlang, length_of_isExtlang isExtlang, digits]

theorem isExtlang_of_isTerritory
    {word : String}
    (territory : isTerritory word)
    (long : word.length = 3) :
    isExtlang word ∧ allChars Char.isDigit word := by
  have areWords := isWord_of_isTerritory territory
  simp only [isTerritory, areWords, long, Bool.true_and, Bool.or_eq_true, Bool.and_eq_true,
    decide_eq_true_eq] at territory
  exact ⟨by simp [isExtlang, areWords, long], by simpa using territory⟩

theorem lt_of_isDigit_of_isLetter {digit letter : Char} (isDigit : digit.isDigit)
    (isLetter : isLetter letter) : digit < letter := by
  simp only [Language.isLetter, Char.isAlpha, Char.isUpper, Char.isLower, Char.isDigit,
    Bool.or_eq_true, Bool.and_eq_true, decide_eq_true_eq, ge_iff_le,
    UInt32.le_iff_toNat_le] at isDigit isLetter
  have large : 'A'.val.toNat = 65 ∧ 'a'.val.toNat = 97 ∧ '9'.val.toNat = 57 := by decide
  rw [Char.lt_def, UInt32.lt_iff_toNat_lt]
  omega

/-- A word of digits comes before one that begins with a letter. -/
theorem digits_lt_letters
    {digits letters : String}
    (isDigits : allChars Char.isDigit digits)
    (isLetters : allChars isLetter letters)
    (nonempty : digits.length ≠ 0)
    (nonemptyToo : letters.length ≠ 0) :
    digits < letters := by
  rw [← String.length_toList] at nonempty nonemptyToo
  simp only [allChars, List.all_eq_true] at isDigits isLetters
  rw [String.lt_iff_toList_lt]
  cases chars : digits.toList with
  | nil => rw [chars] at nonempty; contradiction
  | cons digit rest =>
      cases charsToo : letters.toList with
      | nil => rw [charsToo] at nonemptyToo; contradiction
      | cons letter restToo =>
          rw [chars] at isDigits
          rw [charsToo] at isLetters
          rw [List.cons_lt_cons_iff]
          exact .inl (lt_of_isDigit_of_isLetter (isDigits digit List.mem_cons_self)
            (isLetters letter List.mem_cons_self))

/-- What a tail has before its variants begins with a word that is no variant. -/
theorem Tail.exists_words_eq
    {tail : Tail}
    (formed : tail.IsFormed)
    (before : ¬ (tail.extlangs = [] ∧ tail.script = none ∧ tail.territory = none)) :
    ∃ word rest, tail.words = word :: rest ∧ isWord word ∧ word.length ≠ 1 ∧ ¬ isVariant word := by
  rcases tail with ⟨ending, extlangs, script, territory, variants⟩
  cases extlangs with
  | cons word extlangs =>
      have isExtlang := formed.extlangs word List.mem_cons_self
      have length := length_of_isExtlang isExtlang
      exact ⟨word, _, rfl, isWord_of_isExtlang isExtlang, by omega,
        fun variant => absurd (length_of_isVariant variant) (by omega)⟩
  | nil =>
      cases script with
      | some word =>
          have isScript := formed.script word rfl
          have length := length_of_isScript isScript
          exact ⟨word, _, rfl, isWord_of_isScript isScript, by omega,
            not_isVariant_of_isScript isScript⟩
      | none =>
          cases territory with
          | none => exact absurd ⟨rfl, rfl, rfl⟩ before
          | some word =>
              have isTerritory := formed.territory word rfl
              have length := length_of_isTerritory isTerritory
              exact ⟨word, _, rfl, isWord_of_isTerritory isTerritory, by omega,
                fun variant => absurd (length_of_isVariant variant) (by omega)⟩

/-- Where only variants may come, a tail with anything before its variants may not. -/
theorem readSubtags_variant
    {tail : Tail}
    (formed : tail.IsFormed)
    (before : ¬ (tail.extlangs = [] ∧ tail.script = none ∧ tail.territory = none)) :
    readSubtags .variant tail.words = none := by
  obtain ⟨word, rest, words, isWord, long, notVariant⟩ := Tail.exists_words_eq formed before
  rw [words, Tail.readSubtags_cons rest long (Tail.standsApart_variant word)]
  cases classified : classify word with
  | none => rfl
  | some found =>
      obtain ⟨place, part⟩ := found
      rcases (classify_eq_some_iff isWord).mp classified with ⟨-, -, rfl, -⟩ | ⟨-, rfl, -⟩ |
        ⟨-, rfl, -⟩ | ⟨variant, -⟩
      · rfl
      · rfl
      · rfl
      · exact absurd variant notVariant

/-! ## Reading a sorted run -/

section Run

variable {code : Option String} {tail : Tail} {first : String} {others : List String}
  (settles : Settles code tail)
  (apart : lookup languageReplacements (normalize (ofTail code tail).tag) = none)
  (run : sortSubtags tail.extlangs = first :: others)

include run in
theorem words_sorted :
    tail.sorted.words = first :: Tail.words { tail.sorted with extlangs := others } := by
  simp [Tail.words, Tail.sorted, run]

include settles

include run in
theorem isExtlang_of_run : isExtlang first ∧ ∀ word ∈ others, isExtlang word := by
  have isRun : ∀ word ∈ first :: others, isExtlang word := fun word present =>
    settles.formed.extlangs word (mem_sortSubtags.mp (run ▸ present))
  exact List.forall_mem_cons.mp isRun

theorem isFormed_noRun : Tail.IsFormed { tail.sorted with extlangs := [] } :=
  { Tail.isFormed_sorted settles.formed with extlangs := nofun }

include apart

/-- A tail whose sorted words the grammar rejects is not read back. -/
theorem tag_ne_of_malformed
    (depth : Nat)
    (nonempty : tail.sorted.words ≠ [])
    (malformed : readSubtags .extlang tail.sorted.words = none) :
    ((readTag depth (ofTail code tail).tag).getD undefined).tag ≠ (ofTail code tail).tag := by
  rw [readTag, subtags?_tag settles.codes settles.formed (not_mem_grandfathered apart), malformed]
  intro same
  have noCode : ∀ word ∈ (none : Option String), isCode word := by simp
  obtain ⟨-, sameWords⟩ :=
    words_eq_of_tag_eq settles.codes settles.formed noCode prefers_und.formed same
  exact nonempty (sameWords.symm.trans (by simp [Tail.sorted, Tail.words, Ending.words]))

include run

/-- A single extended language of digits is read as a territory. -/
theorem readTag_of_digits
    (depth : Nat)
    (digits : allChars Char.isDigit first)
    (single : others = [])
    (noScript : tail.script = none)
    (noTerritory : tail.territory = none) :
    readTag depth (ofTail code tail).tag = some (ofTail code
      { tail.sorted with extlangs := [], territory := some (Tail.keptTerritory first) }) := by
  have territory := isTerritory_of_digits (isExtlang_of_run settles run).1 digits
  have formed := Tail.isFormed_territory (isFormed_noRun settles) territory
  have sameWords : Tail.words { tail.sorted with extlangs := [], territory := some first } =
      tail.sorted.words := by
    simp [Tail.words, Tail.sorted, run, single, noScript, noTerritory]
  exact readTag_row settles apart depth formed (.inl rfl) sameWords
    fun _ _ _ present => absurd present List.not_mem_nil

omit apart in
theorem isFormed_longer {extlang : String} (isExtlang : isExtlang extlang) :
    Tail.IsFormed
      { tail.sorted with extlangs := first :: others ++ [extlang], territory := none } :=
  { Tail.isFormed_sorted settles.formed with
    extlangs := by simpa [or_imp, forall_and, isExtlang] using isExtlang_of_run settles run
    territory := nofun }

/-- A territory of three digits is read as one more extended language. -/
theorem readTag_of_longer
    {digits : String}
    (depth : Nat)
    (letters : allChars isLetter first)
    (few : others.length < 2)
    (noScript : tail.script = none)
    (isTerritory : tail.territory = some digits)
    (long : digits.length = 3) :
    readTag depth (ofTail code tail).tag = some (ofTail code
      { tail.sorted with extlangs := first :: others ++ [digits], territory := none }) := by
  have territory := settles.formed.territory digits isTerritory
  obtain ⟨isExtlang, isDigits⟩ := isExtlang_of_isTerritory territory long
  have formed := isFormed_longer settles run isExtlang
  have fits : Tail.FitsAt
      { tail.sorted with extlangs := first :: others ++ [digits], territory := none } .extlang := by
    refine .inr ⟨⟨?_, by simp⟩, ?_⟩
    · simp only [List.cons_append, List.length_cons, List.length_append, List.length_nil]
      omega
    · rintro _ ⟨⟩
      exact letters
  have sameWords : Tail.words
      { tail.sorted with extlangs := first :: others ++ [digits], territory := none } =
      tail.sorted.words := by
    simp [Tail.words, Tail.sorted, run, noScript, isTerritory]
  refine readTag_row settles apart depth formed fits sameWords fun word isCode extlang present => ?_
  rcases List.mem_append.mp present with kept | added
  · exact settles.kept word isCode extlang (mem_sortSubtags.mp (run ▸ kept))
  · rw [List.mem_singleton.mp added]
    exact lookup_extlang_of_digits (settles.codes word isCode) isExtlang isDigits

end Run

/-! ## What is read back -/

section Again

variable {code : Option String} {tail : Tail} (settles : Settles code tail)
  (apart : lookup languageReplacements (normalize (ofTail code tail).tag) = none)

include settles apart

/-- What can be read back is read back. -/
theorem exists_readTag_of_readsBack
    (depth : Nat)
    (readsBack : (ofTail code tail).ReadsBack) :
    ∃ language, readTag depth (ofTail code tail).tag = some language ∧
      language.tag = (ofTail code tail).tag := by
  have fitting (fits : tail.sorted.FitsAt .extlang) :
      ∃ language, readTag depth (ofTail code tail).tag = some language ∧
        language.tag = (ofTail code tail).tag :=
    ⟨_, readTag_of_fits settles apart depth fits, tag_sorted settles⟩
  unfold ReadsBack at readsBack
  cases run : sortSubtags tail.extlangs with
  | nil => exact fitting (.inl run)
  | cons first others =>
      simp only [ofTail, run] at readsBack
      rcases readsBack with ⟨letters, follow⟩ | ⟨digits, single, noScript, noTerritory, unreplaced⟩
      · have few : (first :: others).length ≤ 3 := by
          rw [← run, length_sortSubtags]
          exact settles.few
        refine fitting (.inr ⟨⟨?_, fun less noScript word isTerritory => ?_⟩, ?_⟩)
        · rwa [Tail.sorted, run]
        · have fewer : others.length < 2 := by
            rw [Tail.sorted, run, List.length_cons] at less
            omega
          have short := follow fewer (Option.map_eq_none_iff.mpr noScript) (upperCase word)
            (Option.mem_map_of_mem _ isTerritory)
          rwa [length_upperCase] at short
        · rw [Tail.sorted, run]
          rintro _ ⟨⟩
          exact letters
      · refine ⟨_, readTag_of_digits settles apart run depth digits single
          (Option.map_eq_none_iff.mp noScript) (Option.map_eq_none_iff.mp noTerritory), ?_⟩
        have territory := isTerritory_of_digits (isExtlang_of_run settles run).1 digits
        rw [Tail.keptTerritory_of_lookup territory unreplaced,
          tag_ofTail code (Tail.isFormed_territory (isFormed_noRun settles) territory),
          tag_ofTail code settles.formed]
        simp [Tail.spelled, Tail.sorted, run, single, upperCase_of_digits digits,
          Option.map_eq_none_iff.mp noScript, Option.map_eq_none_iff.mp noTerritory]

section NotBack

variable {first : String} {others : List String} (run : sortSubtags tail.extlangs = first :: others)

include run

/-- What is read with a longer run of extended languages is written in another order. -/
theorem tag_ne_of_longer
    {digits : String}
    (depth : Nat)
    (letters : allChars isLetter first)
    (few : others.length < 2)
    (noScript : tail.script = none)
    (isTerritory : tail.territory = some digits)
    (long : digits.length = 3) :
    ((readTag depth (ofTail code tail).tag).getD undefined).tag ≠ (ofTail code tail).tag := by
  have territory := settles.formed.territory digits isTerritory
  obtain ⟨isExtlang, isDigits⟩ := isExtlang_of_isTerritory territory long
  rw [readTag_of_longer settles apart run depth letters few noScript isTerritory long]
  intro same
  have sameWords := (words_eq_of_tag_eq settles.codes settles.formed settles.codes
    (isFormed_longer settles run isExtlang) same).2
  have rows : sortSubtags (first :: others ++ [digits]) ++
        (sortSubtags tail.variants ++ tail.toEnding.words) =
      (first :: others ++ [digits]) ++ (sortSubtags tail.variants ++ tail.toEnding.words) := by
    simpa [Tail.words, Tail.sorted, run, noScript, isTerritory] using sameWords
  have sameRun := (List.append_inj rows (length_sortSubtags _)).1
  -- A sorted run has its digits before its letters, and this one has them behind.
  have sorted := pairwise_sortSubtags (first :: others ++ [digits])
  rw [sameRun] at sorted
  have inOrder := (List.pairwise_cons.mp sorted).1 digits (by simp)
  have before := digits_lt_letters isDigits letters (by omega)
    (by rw [length_of_isExtlang (isExtlang_of_run settles run).1]; decide)
  exact absurd before (not_lt.mpr (of_decide_eq_true inOrder))

omit apart in
/-- Behind a language, only variants may follow a territory. -/
theorem readSubtags_of_digits
    (digits : allChars Char.isDigit first)
    (notAlone : ¬ (others = [] ∧ tail.script = none ∧ tail.territory = none)) :
    readSubtags .extlang tail.sorted.words = none := by
  obtain ⟨isExtlang, isRun⟩ := isExtlang_of_run settles run
  have length := length_of_isExtlang isExtlang
  have classified := (classify_eq_some_iff (isWord_of_isExtlang isExtlang)).mpr
    (.inr (.inr (.inl ⟨isTerritory_of_digits isExtlang digits, rfl, rfl⟩)))
  have formed : Tail.IsFormed { tail.sorted with extlangs := others } :=
    { Tail.isFormed_sorted settles.formed with extlangs := isRun }
  have blocked := readSubtags_variant formed notAlone
  rw [words_sorted run, Tail.readSubtags_cons _ (by omega) (Tail.standsApart_extlang first), classified]
  exact congrArg (Option.map _) blocked

/-- A first extended language of digits is read back alone, and if no territory replaces it. -/
theorem tag_ne_of_digits
    (depth : Nat)
    (digits : allChars Char.isDigit first)
    (notAlone : ¬ (others = [] ∧ tail.script = none ∧ tail.territory = none ∧
      lookup territoryReplacements first = none)) :
    ((readTag depth (ofTail code tail).tag).getD undefined).tag ≠ (ofTail code tail).tag := by
  by_cases alone : others = [] ∧ tail.script = none ∧ tail.territory = none
  · obtain ⟨single, noScript, noTerritory⟩ := alone
    have territory := isTerritory_of_digits (isExtlang_of_run settles run).1 digits
    obtain ⟨isKept, -, unreplaced⟩ := Tail.keptTerritory_spec territory
    rw [readTag_of_digits settles apart run depth digits single noScript noTerritory]
    intro same
    have sameWords := (words_eq_of_tag_eq settles.codes settles.formed settles.codes
      (Tail.isFormed_territory (isFormed_noRun settles) isKept) same).2
    have kept : Tail.keptTerritory first = first := by
      simpa [Tail.words, Tail.sorted, run, single, noScript, noTerritory] using sameWords
    rw [kept] at unreplaced
    exact notAlone ⟨single, noScript, noTerritory, unreplaced⟩
  · exact tag_ne_of_malformed settles apart depth (by simp [words_sorted run])
      (readSubtags_of_digits settles run digits alone)

/-- A first extended language of letters and digits is nothing that may come behind a code. -/
theorem tag_ne_of_mixed
    (depth : Nat)
    (notLetters : ¬ allChars isLetter first)
    (notDigits : ¬ allChars Char.isDigit first) :
    ((readTag depth (ofTail code tail).tag).getD undefined).tag ≠ (ofTail code tail).tag := by
  have isExtlang := (isExtlang_of_run settles run).1
  have length := length_of_isExtlang isExtlang
  have unclassified : classify first = none := by
    cases classified : classify first with
    | none => rfl
    | some found =>
        obtain ⟨place, part⟩ := found
        rcases (classify_eq_some_iff (isWord_of_isExtlang isExtlang)).mp classified with
          ⟨-, letters, -⟩ | ⟨script, -⟩ | ⟨territory, -⟩ | ⟨variant, -⟩
        · exact absurd letters notLetters
        · exact absurd (length_of_isScript script) (by omega)
        · simp [isTerritory, length, notDigits] at territory
        · exact absurd (length_of_isVariant variant) (by omega)
  refine tag_ne_of_malformed settles apart depth (by simp [words_sorted run]) ?_
  rw [words_sorted run, Tail.readSubtags_cons _ (by omega) (Tail.standsApart_extlang first), unclassified]

end NotBack

/-- What cannot be read back is read as something else. -/
theorem tag_ne_of_not_readsBack (depth : Nat) (notReadsBack : ¬ (ofTail code tail).ReadsBack) :
    ((readTag depth (ofTail code tail).tag).getD undefined).tag ≠ (ofTail code tail).tag := by
  unfold ReadsBack at notReadsBack
  cases run : sortSubtags tail.extlangs with
  | nil =>
      simp only [ofTail, run, not_true_eq_false] at notReadsBack
  | cons first others =>
      simp only [ofTail, run, not_or, Option.map_eq_none_iff] at notReadsBack
      obtain ⟨notLetters, notDigits⟩ := notReadsBack
      by_cases letters : allChars isLetter first
      · have blocked := not_and.mp notLetters letters
        simp only [not_forall, not_not] at blocked
        obtain ⟨few, noScript, territory, present, long⟩ := blocked
        obtain ⟨digits, isTerritory, rfl⟩ := Option.map_eq_some_iff.mp present
        rw [length_upperCase] at long
        exact tag_ne_of_longer settles apart run depth letters few noScript isTerritory long
      · by_cases digits : allChars Char.isDigit first
        · exact tag_ne_of_digits settles apart run depth digits (not_and.mp notDigits digits)
        · exact tag_ne_of_mixed settles apart run depth letters digits

end Again

/-! ## Reading the text of a language -/

/-- The empty text is not read either, so reading needs no case of its own for it. -/
theorem parse_some (text : String) :
    parse (some text) =
      (readTag 3 ((lookup languageReplacements (normalize text)).getD text)).getD undefined := by
  cases empty : text.isEmpty with
  | false => rw [parse, empty]; rfl
  | true =>
      rw [String.isEmpty_iff] at empty
      have normal : normalize "" = "" := rfl
      rw [empty, normal, tableFacts.empty]
      rfl

theorem tag_undefined : undefined.tag = "und" :=
  prefers_und.isTag

theorem isSettled_undefined : undefined.IsSettled :=
  ⟨none, {}, prefers_und.toSettles, rfl⟩

/-- Whatever is stored, its language is settled or known as a whole. -/
theorem settled_of_parse (stored : Option String) :
    (parse stored).IsSettled ∨ (parse stored).IsPrivate := by
  cases stored with
  | none => exact .inl isSettled_undefined
  | some text =>
      rw [parse_some]
      cases read : readTag 3 ((lookup languageReplacements (normalize text)).getD text) with
      | none => exact .inl isSettled_undefined
      | some language => exact settled_of_readTag read

/-- A text that is no tag, even once it is replaced as a whole, is read as nothing known. -/
theorem parse_of_not_isTag
    {text : String}
    (malformed : ¬ IsTag ((lookup languageReplacements (normalize text)).getD text)) :
    parse (some text) = undefined := by
  have unread : subtags? ((lookup languageReplacements (normalize text)).getD text) = none := by
    rwa [← isSome_subtags?_iff, Option.not_isSome_iff_eq_none] at malformed
  rw [parse_some, readTag, unread, Option.map_none, Option.getD_none]

/-- A preferred form is read as a language whose text has no preferred form. -/
theorem readTag_of_lookup
    {key value : String}
    (found : lookup languageReplacements key = some value)
    (depth : Nat) :
    ∃ form code tail, Prefers form code tail ∧
      readTag (depth + 1) value = some (ofTail code tail) := by
  rcases exists_prefers found with rfl | ⟨code, tail, prefers⟩
  · obtain ⟨replaced, prefers⟩ := prefers_ro
    have read : subtags? "mo" = some [.language "mo"] :=
      subtags?_row (by decide) (by decide) (by decide) (List.forall_mem_nil _) rfl
    refine ⟨"ro", some "ro", {}, prefers, ?_⟩
    rw [readTag, read, Option.map_some, List.foldl_cons, List.foldl_nil, addSubtag,
      if_neg (by decide), preferred, replaced, Option.bind_some, resolve?_of_prefers prefers]
    exact congrArg some (merge_nil _ _)
  · exact ⟨value, code, tail, prefers, readTag_of_prefers prefers (depth + 1)⟩

/-- A text that is itself a key of a preferred form is never read back. -/
theorem tag_ne_of_lookup
    {text value : String}
    (found : lookup languageReplacements (normalize text) = some value) :
    (parse (some text)).tag ≠ text := by
  obtain ⟨form, code, tail, prefers, read⟩ := readTag_of_lookup found 2
  rw [parse_some, found, Option.getD_some, read, Option.getD_some, prefers.isTag]
  rintro rfl
  rw [prefers.apart] at found
  cases found

/-- A language that is known as a whole is read back as it is. -/
theorem parse_of_isPrivate {language : Language} (isPrivate : language.IsPrivate) :
    parse (some language.tag) = language := by
  obtain ⟨words, isPrivate, rfl, apart⟩ := isPrivate
  have areWords : ∀ word ∈ words, isWord word := isPrivate.elim fun _ holds => holds.2.2
  have isAscii : allChars (·.toNat < 0x80) (joinSubtags words) :=
    isAscii_joinSubtags fun word present => isSubtag_of_isWord (areWords word present)
  have isTag : tag { language := some (joinSubtags words) } = joinSubtags words := by
    simp [tag, joinSubtags]
  have normal : normalize (joinSubtags words) = joinSubtags words := by
    rw [normalize_joinSubtags, map_normalize areWords]
  rw [isTag, parse_some, normal, apart, Option.getD_none, readTag,
    subtags?_privateUse isAscii isPrivate normal, normal, Option.map_some, List.foldl_cons,
    List.foldl_nil, addSubtag, if_neg (joinSubtags_ne_und isPrivate), preferred_of_lookup apart]
  rfl

/--
A stored text that is absent, empty or, once it is replaced as a whole, rejected by the grammar
gives the undefined language.  The text of any language that is read is read as a language of
the same text exactly when it is no key of a preferred form and the language can be read back
as it is written.
-/
theorem parse_tag_iff_readsBack (stored : Option String) :
    ((∀ text ∈ stored,
        text = "" ∨ ¬ IsTag ((lookup languageReplacements (normalize text)).getD text)) ->
      parse stored = undefined ∧ (parse stored).tag = "und") ∧
    ((parse (some (parse stored).tag)).tag = (parse stored).tag ↔
      lookup languageReplacements (normalize (parse stored).tag) = none ∧
        (parse stored).ReadsBack) := by
  constructor
  · intro malformed
    have isUndefined : parse stored = undefined := by
      cases stored with
      | none => rfl
      | some text => exact (malformed text rfl).elim (fun empty => by rw [empty]; rfl) parse_of_not_isTag
    rw [isUndefined]
    exact ⟨rfl, tag_undefined⟩
  · cases found : lookup languageReplacements (normalize (parse stored).tag) with
    | some value => simp [tag_ne_of_lookup found]
    | none =>
        rcases settled_of_parse stored with ⟨code, tail, settles, shape⟩ | isPrivate
        · rw [shape] at found ⊢
          rw [parse_some, found, Option.getD_none]
          refine ⟨fun same => ⟨rfl, ?_⟩, fun ⟨_, readsBack⟩ => ?_⟩
          · by_contra notReadsBack
            exact tag_ne_of_not_readsBack settles found 3 notReadsBack same
          · obtain ⟨language, read, same⟩ := exists_readTag_of_readsBack settles found 3 readsBack
            rw [read, Option.getD_some, same]
        · rw [parse_of_isPrivate isPrivate]
          obtain ⟨words, -, shape, -⟩ := isPrivate
          rw [shape]
          simp [ReadsBack]

/--
A replaced territory can make up a key of a preferred form, and sorted extended languages can be
in an order that the grammar rejects.  A text that is no tag itself can be a key, too.
-/
theorem tag_changes_again :
    (parse (some "sgn-840")).tag = "sgn-US" ∧
      (parse (some (parse (some "sgn-840")).tag)).tag = "ase" ∧
      (parse (some "en-abc-123")).tag = "en-123-abc" ∧
      (parse (some (parse (some "en-abc-123")).tag)).tag = "und" ∧
      ¬ IsTag "\u212Aat" ∧ (parse (some "\u212Aat")).tag = "ka" := by
  have replaced : parse (some "sgn-840") = { language := some "sgn", territory := some "US" } ∧
      parse (some "sgn-US") = { language := some "ase" } := by
    decide +kernel
  have sorted : parse (some "en-abc-123") =
        { language := some "en", extlangs := ["abc", "123"] } ∧
      parse (some "en-123-abc") = undefined := by
    decide +kernel
  have known : subtags? "\u212Aat" = none ∧ parse (some "\u212Aat") = { language := some "ka" } := by
    decide +kernel
  have tags : tag { language := some "sgn", territory := some "US" } = "sgn-US" ∧
      tag { language := some "ase" } = "ase" ∧
      tag { language := some "en", extlangs := ["abc", "123"] } = "en-123-abc" ∧
      tag { language := some "ka" } = "ka" := by
    refine ⟨?_, ?_, ?_, ?_⟩ <;> cbv
  simp [← isSome_subtags?_iff, replaced, sorted, known, tags, tag_undefined]

end Language
end InstanceDirectory
