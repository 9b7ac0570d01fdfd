import InstanceDirectory.Language
import Mathlib

/-!
# The grammar of language tags

A tag is a row of words between hyphens: a language, and a tail of extended languages, a
script, a territory, variants, extensions and a part for private use, in this order and
each of them optional.  Reading the words one after another finds exactly the tails that
this order admits, with the words of three characters after a first extended language
taken for extended languages as long as there may be more of them.
-/

namespace InstanceDirectory
namespace Language

/-! ## Words -/

/-- A character of a word in normal form. -/
def isWordChar (c : Char) : Bool :=
  c.isLower || c.isDigit

/-- One to eight lower-case letters and digits. -/
def isWord (word : String) : Bool :=
  1 ≤ word.length && word.length ≤ 8 && allChars isWordChar word

/-- The word for a script. -/
def isScript (word : String) : Bool :=
  isWord word && word.length = 4 && allChars isLetter word

/-- The word for a territory. -/
def isTerritory (word : String) : Bool :=
  isWord word && (word.length = 2 && allChars isLetter word
    || word.length = 3 && allChars Char.isDigit word)

/-- The word for a variant. -/
def isVariant (word : String) : Bool :=
  isWord word && (5 ≤ word.length
    || word.length = 4 && !allChars isLetter word && (word.toList.take 1).all Char.isDigit)

/-- The word for a language of its own, one of a run of extended ones. -/
def isExtlang (word : String) : Bool :=
  isWord word && word.length = 3

theorem isWord_of_isScript {word : String} (script : isScript word) : isWord word := by
  simp only [isScript, Bool.and_eq_true] at script
  exact script.1.1

theorem isWord_of_isTerritory {word : String} (territory : isTerritory word) : isWord word := by
  simp only [isTerritory, Bool.and_eq_true] at territory
  exact territory.1

theorem isWord_of_isVariant {word : String} (variant : isVariant word) : isWord word := by
  simp only [isVariant, Bool.and_eq_true] at variant
  exact variant.1

theorem isWord_of_isExtlang {word : String} (extlang : isExtlang word) : isWord word := by
  simp only [isExtlang, Bool.and_eq_true] at extlang
  exact extlang.1

theorem length_of_isScript {word : String} (script : isScript word) : word.length = 4 := by
  simp only [isScript, Bool.and_eq_true, decide_eq_true_eq] at script
  exact script.1.2

theorem length_of_isTerritory {word : String} (territory : isTerritory word) :
    word.length = 2 ∨ word.length = 3 := by
  simp only [isTerritory, Bool.and_eq_true, Bool.or_eq_true, decide_eq_true_eq] at territory
  exact territory.2.imp And.left And.left

theorem length_of_isVariant {word : String} (variant : isVariant word) : 4 ≤ word.length := by
  simp only [isVariant, Bool.and_eq_true, Bool.or_eq_true, decide_eq_true_eq] at variant
  omega

theorem not_isVariant_of_isScript {word : String} (script : isScript word) : ¬ isVariant word := by
  simp only [isScript, Bool.and_eq_true, decide_eq_true_eq] at script
  simp [isVariant, script.1.2, script.2]

theorem length_of_isExtlang {word : String} (extlang : isExtlang word) : word.length = 3 := by
  simp only [isExtlang, Bool.and_eq_true, decide_eq_true_eq] at extlang
  exact extlang.2

theorem length_le_of_isWord {word : String} (words : isWord word) : word.length ≤ 8 := by
  simp only [isWord, Bool.and_eq_true, decide_eq_true_eq] at words
  exact words.1.2

theorem toUpper_of_isDigit {c : Char} (digit : c.isDigit) : c.toUpper = c := by
  unfold Char.toUpper
  simp only [Char.isDigit, Bool.and_eq_true, decide_eq_true_eq] at digit
  rw [dif_neg]
  intro lower
  exact absurd (UInt32.le_trans lower.1 digit.2) (by decide)

theorem upperCase_of_digits {word : String} (digits : allChars Char.isDigit word) :
    upperCase word = word := by
  rw [allChars, List.all_eq_true] at digits
  rw [upperCase, List.map_congr_left fun c present => toUpper_of_isDigit (digits c present),
    List.map_id'', String.ofList_toList]
  exact fun _ => rfl

theorem not_isDigit_of_isLetter {c : Char} (letter : isLetter c) : c.isDigit = false := by
  simp only [isLetter, Char.isAlpha, Char.isUpper, Char.isLower, Bool.or_eq_true,
    Bool.and_eq_true, decide_eq_true_eq, ge_iff_le, UInt32.le_iff_toNat_le] at letter
  rw [← Bool.not_eq_true]
  intro digit
  simp only [Char.isDigit, Bool.and_eq_true, decide_eq_true_eq, ge_iff_le,
    UInt32.le_iff_toNat_le] at digit
  have large : 'A'.val.toNat = 65 ∧ 'a'.val.toNat = 97 ∧ '9'.val.toNat = 57 := by decide
  omega

/-- No word consists of letters and of digits. -/
theorem not_digits_of_letters
    {word : String}
    (nonempty : word.length ≠ 0)
    (letters : allChars isLetter word) :
    allChars Char.isDigit word = false := by
  rw [← String.length_toList] at nonempty
  unfold allChars at letters ⊢
  cases chars : word.toList with
  | nil => rw [chars] at nonempty; contradiction
  | cons first rest =>
      rw [chars, List.all_cons, Bool.and_eq_true] at letters
      rw [List.all_cons, not_isDigit_of_isLetter letters.1, Bool.false_and]

/-- A word is read by its length and letters, and by nothing else. -/
theorem classify_eq_some_iff
    {word : String}
    {place : Position}
    {part : Subtag}
    (words : isWord word) :
    classify word = some (place, part) ↔
      (isExtlang word ∧ allChars isLetter word ∧ place = .extlang ∧ part = .extlang word) ∨
      (isScript word ∧ place = .script ∧ part = .script (titleCase word)) ∨
      (isTerritory word ∧ place = .territory ∧ part = .territory (upperCase word)) ∨
      (isVariant word ∧ place = .variant ∧ part = .variant word) := by
  have short := length_le_of_isWord words
  have upper : allChars Char.isDigit word = true -> upperCase word = word := upperCase_of_digits
  have apart : word.length ≠ 0 -> allChars isLetter word = true ->
      allChars Char.isDigit word = false := not_digits_of_letters
  unfold classify isExtlang isScript isTerritory isVariant
  simp only [words, Bool.true_and, Bool.and_eq_true, Bool.or_eq_true, decide_eq_true_eq]
  split
  all_goals grind

/-! ## The end of a tag -/

/-- What stands behind the variants: extensions and a part for private use. -/
structure Ending where
  /-- The words of each extension, its singleton first. -/
  extensions : List (List String) := []
  /-- The words for private use, behind an `x`. -/
  privateUse : Option (List String) := none
deriving DecidableEq

/-- Decide whether a word goes on with the extension that it stands in. -/
def continuesExtension (word : String) : Bool :=
  word.length ≠ 1

/-- The words of an extension: a singleton, and at least one word that goes on with it. -/
def IsExtension (words : List String) : Prop :=
  ∃ singleton rest, words = singleton :: rest ∧ singleton.length = 1 ∧ singleton ≠ "x" ∧
    rest ≠ [] ∧ (∀ word ∈ rest, continuesExtension word) ∧ ∀ word ∈ words, isWord word

/-- The words for private use: an `x`, and at least one word. -/
def IsPrivateUse (words : List String) : Prop :=
  ∃ rest, words = "x" :: rest ∧ rest ≠ [] ∧ ∀ word ∈ words, isWord word

instance decidableIsExtension : DecidablePred IsExtension
  | [] => isFalse fun ⟨_, _, isEmpty, _⟩ => List.cons_ne_nil _ _ isEmpty.symm
  | singleton :: rest =>
      decidable_of_iff
        (singleton.length = 1 ∧ singleton ≠ "x" ∧ rest ≠ [] ∧
          (∀ word ∈ rest, continuesExtension word) ∧ ∀ word ∈ singleton :: rest, isWord word)
        ⟨fun holds => ⟨singleton, rest, rfl, holds⟩,
          fun ⟨_, _, same, holds⟩ => by cases same; exact holds⟩

instance decidableIsPrivateUse : DecidablePred IsPrivateUse
  | [] => isFalse fun ⟨_, isEmpty, _⟩ => List.cons_ne_nil _ _ isEmpty.symm
  | first :: rest =>
      decidable_of_iff (first = "x" ∧ rest ≠ [] ∧ ∀ word ∈ first :: rest, isWord word)
        ⟨fun ⟨isX, holds⟩ => ⟨rest, by rw [isX], holds⟩,
          fun ⟨_, same, holds⟩ => by cases same; exact ⟨rfl, holds⟩⟩

namespace Ending

/-- The words of an ending, one after another. -/
def words (ending : Ending) : List String :=
  ending.extensions.flatten ++ ending.privateUse.getD []

/-- The parts that an ending is read as. -/
def subtags (ending : Ending) : List Subtag :=
  ending.extensions.map (.extension ∘ joinSubtags) ++
    (ending.privateUse.map (.privateUse ∘ joinSubtags)).toList

/-- Every group of words is what it stands for. -/
structure IsFormed (ending : Ending) : Prop where
  /-- The extensions are. -/
  extensions : ∀ words ∈ ending.extensions, IsExtension words
  /-- The part for private use is. -/
  privateUse : ∀ words ∈ ending.privateUse, IsPrivateUse words

instance decidableIsFormed : DecidablePred IsFormed := fun ending =>
  decidable_of_iff
    ((∀ words ∈ ending.extensions, IsExtension words) ∧
      ∀ words ∈ ending.privateUse, IsPrivateUse words)
    ⟨fun ⟨extensions, privateUse⟩ => ⟨extensions, privateUse⟩,
      fun ⟨extensions, privateUse⟩ => ⟨extensions, privateUse⟩⟩

theorem isFormed_nil : IsFormed {} :=
  ⟨nofun, nofun⟩

/-- The first word of an ending goes on with no extension. -/
theorem takeWhile_append_words
    {ending : Ending}
    (formed : ending.IsFormed)
    (own : List String)
    (continues : ∀ word ∈ own, continuesExtension word) :
    (own ++ ending.words).takeWhile continuesExtension = own ∧
      (own ++ ending.words).dropWhile continuesExtension = ending.words := by
  have apart : ending.words.takeWhile continuesExtension = [] ∧
      ending.words.dropWhile continuesExtension = ending.words := by
    rcases ending with ⟨_ | ⟨words, extensions⟩, privateUse⟩
    · cases privateUse with
      | none => exact ⟨rfl, rfl⟩
      | some words =>
          obtain ⟨rest, rfl, -⟩ := formed.privateUse words rfl
          exact ⟨rfl, rfl⟩
    · obtain ⟨singleton, rest, rfl, single, -⟩ := formed.extensions words List.mem_cons_self
      simp [Ending.words, continuesExtension, single]
  rw [List.takeWhile_append_of_pos continues, List.dropWhile_append_of_pos continues, apart.1,
    apart.2, List.append_nil]
  exact ⟨rfl, rfl⟩

/-- Read the rest of a tag when nothing but an ending may come. -/
def read : List String -> Option (List Subtag)
  | [] => some []
  | singleton :: rest => readSingleton singleton rest

/-- Inside an extension, the words that go on with it come first, and then an ending. -/
theorem readExtensions_eq (current words : List String) :
    readExtensions current words =
      if current.length + (words.takeWhile continuesExtension).length < 2 then none
      else (read (words.dropWhile continuesExtension)).map
        (.extension (joinSubtags (current.reverse ++ words.takeWhile continuesExtension)) :: ·) := by
  induction words generalizing current with
  | nil => simp [readExtensions, read]
  | cons word rest restHypothesis =>
      rw [readExtensions]
      by_cases single : word.length = 1
      · have stops : continuesExtension word = false := by simp [continuesExtension, single]
        rw [if_neg (not_not_intro single), List.takeWhile_cons_of_neg (by simp [stops]),
          List.dropWhile_cons_of_neg (by simp [stops])]
        by_cases isX : word = "x"
        · cases rest <;> simp [isX, read, readSingleton]
        · cases rest <;> simp [isX, read, readSingleton, readExtensions]
      · have continues : continuesExtension word := by simp [continuesExtension, single]
        rw [if_pos single, restHypothesis, List.takeWhile_cons_of_pos continues,
          List.dropWhile_cons_of_pos continues]
        simp [Nat.add_assoc, Nat.add_comm 1]

/-- An ending is read from its words. -/
theorem read_words {ending : Ending} (formed : ending.IsFormed) :
    read ending.words = some ending.subtags := by
  rcases ending with ⟨extensions, privateUse⟩
  induction extensions with
  | nil =>
      cases privateUse with
      | none => rfl
      | some words =>
          obtain ⟨rest, rfl, nonempty, -⟩ := formed.privateUse words rfl
          have notEmpty : rest.isEmpty = false := by simpa using nonempty
          simp [words, subtags, read, readSingleton, notEmpty]
  | cons words extensions extensionsHypothesis =>
      obtain ⟨singleton, own, rfl, single, notX, nonempty, continues, -⟩ :=
        formed.extensions words List.mem_cons_self
      have formedOthers : IsFormed ⟨extensions, privateUse⟩ :=
        ⟨fun found present => formed.extensions found (List.mem_cons_of_mem _ present),
          formed.privateUse⟩
      have begins : words ⟨(singleton :: own) :: extensions, privateUse⟩ =
          singleton :: (own ++ words ⟨extensions, privateUse⟩) := by
        simp [Ending.words]
      have split := takeWhile_append_words formedOthers _ continues
      have notEmpty : (own ++ words ⟨extensions, privateUse⟩).isEmpty = false := by
        simp [nonempty]
      have long : ¬ [singleton].length + own.length < 2 := by
        have positive := List.length_pos_iff.mpr nonempty
        rw [List.length_singleton]
        omega
      rw [begins, read, readSingleton, notEmpty, if_neg Bool.false_ne_true, if_neg notX,
        readExtensions_eq, split.1, split.2, if_neg long, extensionsHypothesis formedOthers]
      rfl

/-- The words of an extension, and an ending behind them, are an ending. -/
theorem isFormed_cons
    {words : List String}
    {ending : Ending}
    (extension : IsExtension words)
    (formed : ending.IsFormed) :
    IsFormed { ending with extensions := words :: ending.extensions } := by
  refine ⟨fun found present => ?_, formed.privateUse⟩
  rcases List.mem_cons.mp present with rfl | present
  · exact extension
  · exact formed.extensions found present

/-- Whatever is read at the end of a tag, from a singleton on, is an ending. -/
theorem exists_of_read
    {words : List String}
    {subtags : List Subtag}
    (areWords : ∀ word ∈ words, isWord word)
    (begins : ∀ word ∈ words.head?, continuesExtension word = false)
    (isRead : read words = some subtags) :
    ∃ ending : Ending, ending.IsFormed ∧ ending.words = words ∧ ending.subtags = subtags := by
  induction size : words.length using Nat.strongRecOn generalizing words subtags with
  | ind size sizeHypothesis =>
      subst size
      rcases words with _ | ⟨singleton, _ | ⟨word, rest⟩⟩
      · cases isRead
        exact ⟨{}, isFormed_nil, rfl, rfl⟩
      · cases isRead
      rw [read, readSingleton, List.isEmpty_cons, if_neg Bool.false_ne_true] at isRead
      by_cases isX : singleton = "x"
      · rw [if_pos isX] at isRead
        cases isRead
        refine ⟨{ privateUse := some (singleton :: word :: rest) },
          ⟨nofun, fun words isPrivate => ?_⟩, rfl, rfl⟩
        cases isPrivate
        exact ⟨word :: rest, by rw [isX], List.cons_ne_nil _ _, areWords⟩
      · rw [if_neg isX, readExtensions_eq] at isRead
        obtain ⟨long, readRest⟩ := Option.ite_none_left_eq_some.mp isRead
        obtain ⟨found, readOthers, rfl⟩ := Option.map_eq_some_iff.mp readRest
        clear isRead readRest
        have split := List.takeWhile_append_dropWhile (p := continuesExtension) (l := word :: rest)
        have continues : ∀ own ∈ (word :: rest).takeWhile continuesExtension,
            continuesExtension own := fun own present => List.mem_takeWhile_imp present
        have stops : ∀ other ∈ ((word :: rest).dropWhile continuesExtension).head?,
            continuesExtension other = false := by
          intro other isHead
          have dropped := List.head?_dropWhile_not continuesExtension (word :: rest)
          rw [isHead] at dropped
          exact dropped
        generalize (word :: rest).takeWhile continuesExtension = own at long split continues
        generalize (word :: rest).dropWhile continuesExtension = others at readOthers split stops
        have areAll : ∀ found ∈ own ++ others, isWord found := fun found present =>
          areWords found (List.mem_cons_of_mem _ (split ▸ present))
        have smaller : others.length < (singleton :: word :: rest).length := by
          rw [List.length_cons, ← split, List.length_append]
          omega
        obtain ⟨ending, formed, rfl, rfl⟩ := sizeHypothesis _ smaller
          (fun found present => areAll found (List.mem_append_right _ present)) stops readOthers rfl
        have extension : IsExtension (singleton :: own) := by
          refine ⟨singleton, own, rfl, ?_, isX, ?_, continues, fun found present => ?_⟩
          · simpa [continuesExtension] using begins singleton rfl
          · rintro rfl
            simp at long
          · rcases List.mem_cons.mp present with rfl | present
            · exact areWords found List.mem_cons_self
            · exact areAll found (List.mem_append_left _ present)
        refine ⟨_, isFormed_cons extension formed, ?_, rfl⟩
        rw [← split]
        simp [Ending.words]

end Ending

/-! ## Behind the language -/

/-- What stands behind the language of a tag, in the order of a tag. -/
structure Tail extends Ending where
  /-- Extended languages. -/
  extlangs : List String := []
  /-- The script. -/
  script : Option String := none
  /-- The territory. -/
  territory : Option String := none
  /-- Variants. -/
  variants : List String := []
deriving DecidableEq

namespace Tail

variable {tail : Tail} {position : Position}

/-- The words of a tail, one after another. -/
def words (tail : Tail) : List String :=
  tail.extlangs ++ (tail.script.toList ++ (tail.territory.toList ++
    (tail.variants ++ tail.toEnding.words)))

/-- The parts that a tail is read as. -/
def subtags (tail : Tail) : List Subtag :=
  tail.extlangs.map .extlang ++
    ((tail.script.map (.script ∘ titleCase)).toList ++
      ((tail.territory.map (.territory ∘ upperCase)).toList ++
        (tail.variants.map .variant ++ tail.toEnding.subtags)))

/-- Every word is what it stands for. -/
structure IsFormed (tail : Tail) : Prop extends Ending.IsFormed tail.toEnding where
  /-- The extended languages are. -/
  extlangs : ∀ word ∈ tail.extlangs, isExtlang word
  /-- The script is. -/
  script : ∀ word ∈ tail.script, isScript word
  /-- The territory is. -/
  territory : ∀ word ∈ tail.territory, isTerritory word
  /-- The variants are. -/
  variants : ∀ word ∈ tail.variants, isVariant word

instance decidableIsFormed : DecidablePred IsFormed := fun tail =>
  decidable_of_iff
    (tail.toEnding.IsFormed ∧ (∀ word ∈ tail.extlangs, isExtlang word) ∧
      (∀ word ∈ tail.script, isScript word) ∧ (∀ word ∈ tail.territory, isTerritory word) ∧
      ∀ word ∈ tail.variants, isVariant word)
    ⟨fun ⟨ending, extlangs, script, territory, variants⟩ =>
        ⟨ending, extlangs, script, territory, variants⟩,
      fun ⟨ending, extlangs, script, territory, variants⟩ =>
        ⟨ending, extlangs, script, territory, variants⟩⟩

/--
So many more extended languages may come.  If still more might, no other word of three
characters stands right behind them.
-/
def RunFits (tail : Tail) (left : Nat) : Prop :=
  tail.extlangs.length ≤ left ∧
    (tail.extlangs.length < left -> tail.script = none ->
      ∀ word ∈ tail.territory, word.length ≠ 3)

/-- What a tail holds may come at a position. -/
def FitsAt (tail : Tail) : Position -> Prop
  | .extlang =>
      tail.extlangs = [] ∨
        tail.RunFits 3 ∧ ∀ first ∈ tail.extlangs.head?, allChars isLetter first
  | .extlangRun left => tail.RunFits left
  | .script => tail.extlangs = []
  | .territory => tail.extlangs = [] ∧ tail.script = none
  | .variant => tail.extlangs = [] ∧ tail.script = none ∧ tail.territory = none

/-- A word is not taken for an extended language because of its length alone. -/
def StandsApart (word : String) (position : Position) : Prop :=
  ∀ left, position = .extlangRun (left + 1) -> word.length ≠ 3

theorem standsApart_extlang (word : String) : StandsApart word .extlang :=
  nofun

theorem standsApart_variant (word : String) : StandsApart word .variant :=
  nofun

/-- Outside of a run, a word is what it is classified as, and may come if that may. -/
theorem readSubtags_cons
    {word : String}
    (rest : List String)
    (long : word.length ≠ 1)
    (apart : StandsApart word position) :
    readSubtags position (word :: rest) =
      match classify word with
      | none => none
      | some (place, part) =>
          if place.rank < position.rank then none
          else (readSubtags place.after rest).map (part :: ·) := by
  rewrite [readSubtags, if_neg long]
  · rfl
  · exact apart

/-- In a run, a word of three characters is an extended language. -/
theorem readSubtags_run
    {word : String}
    (left : Nat)
    (rest : List String)
    (ofRun : word.length = 3) :
    readSubtags (.extlangRun (left + 1)) (word :: rest) =
      (readSubtags (.extlangRun left) rest).map (.extlang word :: ·) := by
  rw [readSubtags, if_neg (by omega)]
  exact ofRun

theorem readSubtags_ending {ending : Ending} (formed : ending.IsFormed) (position : Position) :
    readSubtags position ending.words = some ending.subtags := by
  rw [← Ending.read_words formed]
  have split := Ending.takeWhile_append_words formed [] nofun
  cases begins : ending.words with
  | nil => rw [readSubtags, Ending.read]
  | cons word rest =>
      have single : word.length = 1 := by
        by_contra long
        simp [begins, continuesExtension, long] at split
      rw [readSubtags, if_pos single, Ending.read]
      exact fun _ _ ofRun => by omega

section Complete

variable (formed : tail.IsFormed)

include formed

/-- Variants may come anywhere. -/
theorem readSubtags_variants (position : Position) :
    readSubtags position (tail.variants ++ tail.toEnding.words) =
      some (tail.variants.map .variant ++ tail.toEnding.subtags) := by
  have variants := formed.variants
  generalize tail.variants = words at variants
  induction words generalizing position with
  | nil => exact readSubtags_ending formed.toIsFormed position
  | cons word words wordsHypothesis =>
      have variant := variants word List.mem_cons_self
      have long := length_of_isVariant variant
      have classified := (classify_eq_some_iff (isWord_of_isVariant variant)).mpr
        (.inr (.inr (.inr ⟨variant, rfl, rfl⟩)))
      have inOrder : ¬ Position.variant.rank < position.rank := by
        cases position <;> simp [Position.rank]
      rw [List.cons_append, readSubtags_cons _ (by omega) (fun _ _ => by omega), classified]
      simp only [if_neg inOrder, Position.after,
        wordsHypothesis _ fun word present => variants word (List.mem_cons_of_mem _ present)]
      rfl

theorem readSubtags_territory
    (inOrder : ∀ word ∈ tail.territory, position.rank ≤ 2 ∧ StandsApart word position) :
    readSubtags position (tail.territory.toList ++ (tail.variants ++ tail.toEnding.words)) =
      some ((tail.territory.map (.territory ∘ upperCase)).toList ++
        (tail.variants.map .variant ++ tail.toEnding.subtags)) := by
  have isFormed := formed.territory
  cases territory : tail.territory with
  | none => exact readSubtags_variants formed position
  | some word =>
      rw [territory] at inOrder isFormed
      have isTerritory := isFormed word rfl
      have long := length_of_isTerritory isTerritory
      have classified := (classify_eq_some_iff (isWord_of_isTerritory isTerritory)).mpr
        (.inr (.inr (.inl ⟨isTerritory, rfl, rfl⟩)))
      rw [Option.toList_some, List.singleton_append,
        readSubtags_cons _ (by omega) (inOrder word rfl).2, classified]
      have inOrder : ¬ Position.territory.rank < position.rank :=
        Nat.not_lt.mpr (inOrder word rfl).1
      simp only [if_neg inOrder, Position.after, readSubtags_variants formed]
      rfl

theorem readSubtags_script
    (scriptInOrder : tail.script ≠ none -> position.rank ≤ 1)
    (territoryInOrder : tail.script = none ->
      ∀ word ∈ tail.territory, position.rank ≤ 2 ∧ StandsApart word position) :
    readSubtags position (tail.script.toList ++ (tail.territory.toList ++
        (tail.variants ++ tail.toEnding.words))) =
      some ((tail.script.map (.script ∘ titleCase)).toList ++
        ((tail.territory.map (.territory ∘ upperCase)).toList ++
          (tail.variants.map .variant ++ tail.toEnding.subtags))) := by
  have isFormed := formed.script
  cases script : tail.script with
  | none => exact readSubtags_territory formed (territoryInOrder script)
  | some word =>
      rw [script] at scriptInOrder isFormed
      have isScript := isFormed word rfl
      have long := length_of_isScript isScript
      have classified := (classify_eq_some_iff (isWord_of_isScript isScript)).mpr
        (.inr (.inl ⟨isScript, rfl, rfl⟩))
      rw [Option.toList_some, List.singleton_append,
        readSubtags_cons _ (by omega) (fun _ _ => by omega), classified]
      have inOrder : ¬ Position.script.rank < position.rank :=
        Nat.not_lt.mpr (scriptInOrder nofun)
      simp only [if_neg inOrder, Position.after]
      rw [@readSubtags_territory tail .territory formed fun _ _ => ⟨Nat.le_refl _, nofun⟩]
      rfl

/-- As many extended languages as may still come are read one after another. -/
theorem readSubtags_extlangs
    (left : Nat)
    (inOrder : tail.RunFits left) :
    readSubtags (.extlangRun left) tail.words = some tail.subtags := by
  obtain ⟨few, apart⟩ := inOrder
  have extlangs := formed.extlangs
  unfold words subtags
  generalize tail.extlangs = run at few apart extlangs
  induction run generalizing left with
  | nil =>
      refine readSubtags_script formed (fun _ => Nat.le_refl _) fun script word present =>
        ⟨Nat.le_succ _, fun more isRun => apart ?_ script word present⟩
      cases isRun
      exact Nat.succ_pos _
  | cons word run runHypothesis =>
      cases left with
      | zero => exact absurd few (Nat.not_succ_le_zero _)
      | succ left =>
          have ofRun := length_of_isExtlang (extlangs word List.mem_cons_self)
          rw [List.cons_append, readSubtags_run left _ ofRun,
            runHypothesis left (Nat.le_of_succ_le_succ few)
              (fun less => apart (Nat.succ_lt_succ less))
              fun word present => extlangs word (List.mem_cons_of_mem _ present)]
          rfl

/-- A tail that fits at a position is read there from its words. -/
theorem readSubtags_words (fits : tail.FitsAt position) :
    readSubtags position tail.words = some tail.subtags := by
  cases position with
  | extlangRun left => exact readSubtags_extlangs formed left fits
  | script =>
      rw [words, subtags, show tail.extlangs = [] from fits]
      exact readSubtags_script formed (fun _ => Nat.le_refl _)
        fun _ _ _ => ⟨Nat.le_succ _, nofun⟩
  | territory =>
      rw [words, subtags, fits.1, fits.2]
      exact readSubtags_territory formed fun _ _ => ⟨Nat.le_refl _, nofun⟩
  | variant =>
      rw [words, subtags, fits.1, fits.2.1, fits.2.2]
      exact readSubtags_variants formed .variant
  | extlang =>
      have extlangs := formed.extlangs
      cases run : tail.extlangs with
      | nil =>
          rw [words, subtags, run]
          exact readSubtags_script formed (fun _ => Nat.zero_le _)
            fun _ _ _ => ⟨Nat.zero_le _, nofun⟩
      | cons first others =>
          rw [run] at extlangs
          obtain none | ⟨⟨few, apart⟩, letters⟩ := fits
          · rw [run] at none
            cases none
          rw [run] at few apart letters
          have extlang := extlangs first List.mem_cons_self
          have ofRun := length_of_isExtlang extlang
          have classified := (classify_eq_some_iff (isWord_of_isExtlang extlang)).mpr
            (.inl ⟨extlang, letters first rfl, rfl, rfl⟩)
          have formedOthers : IsFormed { tail with extlangs := others } :=
            { formed with extlangs := (extlangs · <| List.mem_cons_of_mem _ ·) }
          have readOthers := readSubtags_extlangs formedOthers 2
            ⟨Nat.le_of_succ_le_succ few, fun less => apart (Nat.succ_lt_succ less)⟩
          rw [words, subtags, run, List.cons_append,
            readSubtags_cons _ (by omega) (standsApart_extlang first), classified]
          exact congrArg (Option.map (.extlang first :: ·)) readOthers

end Complete

theorem isWord_of_mem_words {word : String} (formed : tail.IsFormed) (present : word ∈ tail.words) :
    isWord word := by
  simp only [words, Ending.words, List.mem_append, Option.mem_toList, List.mem_flatten] at present
  rcases present with extlang | script | territory | variant | ⟨words, isExtension, ofWords⟩ |
    privateUse
  · exact isWord_of_isExtlang (formed.extlangs word extlang)
  · exact isWord_of_isScript (formed.script word script)
  · exact isWord_of_isTerritory (formed.territory word territory)
  · exact isWord_of_isVariant (formed.variants word variant)
  · obtain ⟨_, _, _, _, _, _, _, areWords⟩ := formed.extensions words isExtension
    exact areWords word ofWords
  · cases isPrivate : tail.privateUse with
    | none => rw [isPrivate] at privateUse; cases privateUse
    | some words =>
        rw [isPrivate] at privateUse
        obtain ⟨_, _, _, areWords⟩ := formed.privateUse words isPrivate
        exact areWords word privateUse

/-- A tail without extended languages, script and territory fits anywhere. -/
theorem fitsAt_of_variant (fits : tail.FitsAt .variant) : tail.FitsAt position := by
  obtain ⟨noRun, noScript, noTerritory⟩ := fits
  have runFits (left : Nat) : tail.RunFits left := by
    rw [RunFits, noRun, noTerritory]
    exact ⟨Nat.zero_le _, fun _ _ => nofun⟩
  cases position with
  | extlang => exact .inl noRun
  | extlangRun left => exact runFits left
  | script => exact noRun
  | territory => exact ⟨noRun, noScript⟩
  | variant => exact ⟨noRun, noScript, noTerritory⟩

section Sound

variable {word : String} (formed : tail.IsFormed)

include formed

theorem isFormed_extlang (extlang : isExtlang word) :
    IsFormed { tail with extlangs := word :: tail.extlangs } :=
  { formed with extlangs := List.forall_mem_cons.mpr ⟨extlang, formed.extlangs⟩ }

theorem isFormed_variant (variant : isVariant word) :
    IsFormed { tail with variants := word :: tail.variants } :=
  { formed with variants := List.forall_mem_cons.mpr ⟨variant, formed.variants⟩ }

theorem isFormed_script (script : isScript word) :
    IsFormed { tail with script := some word } :=
  { formed with script := by rintro _ ⟨⟩; exact script }

theorem isFormed_territory (territory : isTerritory word) :
    IsFormed { tail with territory := some word } :=
  { formed with territory := by rintro _ ⟨⟩; exact territory }

/-- A classified word that may come at a position, and what may come after it, fit there. -/
theorem exists_of_classify
    {place : Position}
    {part : Subtag}
    (isWord : isWord word)
    (classified : classify word = some (place, part))
    (inOrder : ¬ place.rank < position.rank)
    (apart : StandsApart word position)
    (fits : tail.FitsAt place.after) :
    ∃ longer : Tail, longer.IsFormed ∧ longer.FitsAt position ∧
      longer.words = word :: tail.words ∧ longer.subtags = part :: tail.subtags := by
  rcases (classify_eq_some_iff isWord).mp classified with ⟨extlang, letters, rfl, rfl⟩ |
    ⟨script, rfl, rfl⟩ | ⟨territory, rfl, rfl⟩ | ⟨variant, rfl, rfl⟩
  · refine ⟨_, isFormed_extlang formed extlang, ?_, rfl, rfl⟩
    obtain ⟨few, follow⟩ := fits
    cases position with
    | extlang =>
        refine .inr ⟨⟨Nat.succ_le_succ few, fun less => follow (Nat.lt_of_succ_lt_succ less)⟩, ?_⟩
        rintro _ ⟨⟩
        exact letters
    | _ => exact absurd (by simp [Position.rank]) inOrder
  · obtain ⟨noRun, noScript⟩ := fits
    refine ⟨_, isFormed_script formed script, ?_, ?_, ?_⟩
    · cases position with
      | extlang => exact .inl noRun
      | extlangRun left =>
          refine ⟨?_, fun _ => nofun⟩
          rw [noRun]
          exact Nat.zero_le left
      | script => exact noRun
      | _ => exact absurd (by decide) inOrder
    · simp [words, noRun, noScript]
    · simp [subtags, noRun, noScript]
  · obtain ⟨noRun, noScript, noTerritory⟩ := fits
    refine ⟨_, isFormed_territory formed territory, ?_, ?_, ?_⟩
    · cases position with
      | extlang => exact .inl noRun
      | extlangRun left =>
          rw [FitsAt, RunFits, noRun]
          refine ⟨Nat.zero_le left, fun less _ => ?_⟩
          obtain ⟨left, rfl⟩ := Nat.exists_eq_succ_of_ne_zero (Nat.ne_of_gt less)
          rintro _ ⟨⟩
          exact apart left rfl
      | script => exact noRun
      | territory => exact ⟨noRun, noScript⟩
      | variant => exact absurd (by decide) inOrder
    · simp [words, noRun, noScript, noTerritory]
    · simp [subtags, noRun, noScript, noTerritory]
  · obtain ⟨noRun, noScript, noTerritory⟩ := fits
    refine ⟨_, isFormed_variant formed variant,
      fitsAt_of_variant ⟨noRun, noScript, noTerritory⟩, ?_, ?_⟩
    · simp [words, noRun, noScript, noTerritory]
    · simp [subtags, noRun, noScript, noTerritory]

end Sound

/-- Whatever is read behind the language is a tail that fits there. -/
theorem exists_of_readSubtags
    {words : List String}
    {subtags : List Subtag}
    (areWords : ∀ word ∈ words, isWord word)
    (isRead : readSubtags position words = some subtags) :
    ∃ tail : Tail, tail.IsFormed ∧ tail.FitsAt position ∧ tail.words = words ∧
      tail.subtags = subtags := by
  induction words generalizing position subtags with
  | nil =>
      cases isRead
      exact ⟨{}, ⟨Ending.isFormed_nil, nofun, nofun, nofun, nofun⟩,
        fitsAt_of_variant ⟨rfl, rfl, rfl⟩, rfl, rfl⟩
  | cons word rest restHypothesis =>
      obtain ⟨isWord, areRest⟩ := List.forall_mem_cons.mp areWords
      by_cases single : word.length = 1
      · rw [readSubtags, if_pos single] at isRead
        · have begins : ∀ first ∈ (word :: rest).head?, continuesExtension first = false := by
            simp [continuesExtension, single]
          obtain ⟨ending, formed, sameWords, sameSubtags⟩ :=
            Ending.exists_of_read areWords begins isRead
          exact ⟨{ ending with }, ⟨formed, nofun, nofun, nofun, nofun⟩,
            fitsAt_of_variant ⟨rfl, rfl, rfl⟩, sameWords, sameSubtags⟩
        · exact fun _ _ ofRun => by omega
      by_cases apart : StandsApart word position
      · rw [readSubtags_cons rest single apart] at isRead
        cases classified : classify word with
        | none => rw [classified] at isRead; cases isRead
        | some found =>
            obtain ⟨place, part⟩ := found
            rw [classified] at isRead
            obtain ⟨inOrder, readRest⟩ := Option.ite_none_left_eq_some.mp isRead
            obtain ⟨others, readOthers, rfl⟩ := Option.map_eq_some_iff.mp readRest
            obtain ⟨tail, formed, fits, rfl, rfl⟩ := restHypothesis areRest readOthers
            exact exists_of_classify formed isWord classified inOrder apart fits
      · -- The word is one of a run because of its length, whatever its characters are.
        simp only [StandsApart, not_forall, not_not] at apart
        obtain ⟨left, rfl, ofRun⟩ := apart
        rw [readSubtags_run left rest ofRun] at isRead
        obtain ⟨others, readOthers, rfl⟩ := Option.map_eq_some_iff.mp isRead
        obtain ⟨tail, formed, ⟨few, follow⟩, rfl, rfl⟩ := restHypothesis areRest readOthers
        have extlang : isExtlang word := by simp [isExtlang, isWord, ofRun]
        exact ⟨_, isFormed_extlang formed extlang,
          ⟨Nat.succ_le_succ few, fun less => follow (Nat.lt_of_succ_lt_succ less)⟩, rfl, rfl⟩

end Tail

end Language
end InstanceDirectory
