import InstanceDirectory.Proofs.Rendering

/-!
# Settled languages

The preferred form of a code is no key of the table of replacements, but for one language.
So what a code is replaced by is not replaced again: the preferred forms of languages are
the texts of languages whose parts have no other preferred form, and the same is true of
territories.
-/

namespace InstanceDirectory
namespace Language

/-! ## Looking up -/

theorem mem_of_lookup
    {table : List (String × String)}
    {key value : String}
    (found : lookup table key = some value) :
    (key, value) ∈ table := by
  obtain ⟨entry, isEntry, rfl⟩ := Option.map_eq_some_iff.mp found
  have same : entry.1 = key := by simpa using List.find?_some isEntry
  exact same ▸ List.mem_of_find?_eq_some isEntry

/--
A number for a text.  The tables are long, and to compare numbers takes less than to compare
texts.  With this modulus no preferred form that is no key has the number of a key.
-/
def spot (text : String) : Nat :=
  text.toByteArray.data.toList.foldl (fun spot byte => (spot * 37 + byte.toNat) % 15558) 0

/-- The numbers of some texts, as the bits of one number. -/
def spots (texts : List String) : Nat :=
  texts.foldr (fun text bits => bits ||| 1 <<< spot text) 0

theorem testBit_spots {text : String} {texts : List String} (present : text ∈ texts) :
    (spots texts).testBit (spot text) := by
  induction texts with
  | nil => cases present
  | cons first texts textsHypothesis =>
      rw [spots, List.foldr_cons, Nat.testBit_or, Bool.or_eq_true]
      rcases List.mem_cons.mp present with rfl | present
      · exact .inr (by simp)
      · exact .inl (textsHypothesis present)

/-- Decide whether the number of a text is that of no key; then the text is no key. -/
def isClear (table : List (String × String)) (text : String) : Bool :=
  !(spots (table.map Prod.fst)).testBit (spot text)

theorem lookup_of_isClear
    {table : List (String × String)}
    {text : String}
    (clear : isClear table text) :
    lookup table text = none := by
  cases found : lookup table text with
  | none => rfl
  | some value =>
      have isKey := testBit_spots (List.mem_map_of_mem (mem_of_lookup found) (f := Prod.fst))
      simp [isClear, isKey] at clear

/-! ## What the tables hold -/

/-- The preferred forms that are more than a language, with their codes and tails. -/
def compounds : List (String × Option String × Tail) := [
    ("en-GB-oxendict", some "en", { territory := some "gb", variants := ["oxendict"] }),
    ("en-x-i-default", some "en", { privateUse := some ["x", "i", "default"] }),
    ("fa-AF", some "fa", { territory := some "af" }),
    ("nan-x-zh-min", some "nan", { privateUse := some ["x", "zh", "min"] }),
    ("see-x-i-mingo", some "see", { privateUse := some ["x", "i", "mingo"] }),
    ("sr-Latn", some "sr", { script := some "latn" }),
    ("sr-ME", some "sr", { territory := some "me" }),
    ("sw-CD", some "sw", { territory := some "cd" }),
    ("und-AX", none, { territory := some "ax" }),
    ("und-alalc97", none, { variants := ["alalc97"] }),
    ("und-x-i-enochian", none, { privateUse := some ["x", "i", "enochian"] }),
    ("zh-Hans", some "zh", { script := some "hans" }),
    ("zh-Hant", some "zh", { script := some "hant" })
  ]

/-- The extended languages with a preferred form of their own, behind which languages. -/
def replacedExtlangs : List (String × String × String) := [
    ("no", "bok", "nb"), ("no", "nyn", "nn"), ("zh", "cmn", "zh"), ("zh", "gan", "gan"),
    ("zh", "min", "nan-x-zh-min"), ("zh", "wuu", "wuu"), ("zh", "yue", "yue")
  ]

/-- Decide whether an entry replaces an extended language only if it is one of those. -/
def replacesListed (entry : String × String) : Bool :=
  match (splitHyphens entry.1.toList).map String.ofList with
  | [code, extlang] =>
      code.length < 2 || extlang.length ≠ 3 || replacedExtlangs.contains (code, extlang, entry.2)
  | _ => true

/-- What is found out about the tables by going through their entries. -/
structure TableFacts : Prop where
  /-- Tags that are known as a whole have a preferred form. -/
  grandfathered : ∀ text ∈ grandfathered, (lookup languageReplacements text).isSome
  /-- The empty text has none. -/
  empty : lookup languageReplacements "" = none
  /-- Neither has the word for an undefined language. -/
  undefined : isClear languageReplacements "und"
  /-- Moldavian is Romanian. -/
  moldavian : lookup languageReplacements "mo" = some "ro" ∧ isClear languageReplacements "ro"
  /-- Any other preferred form is a code or a compound form, and a code is no key. -/
  values : ∀ entry ∈ languageReplacements,
    entry.2 = "mo" ∨ (isCode entry.2 ∧ isClear languageReplacements entry.2) ∨
      entry.2 ∈ compounds.map Prod.fst
  /-- A compound form is the text of parts that have no preferred form, and has none itself. -/
  compounds : ∀ entry ∈ compounds,
    (∀ word ∈ entry.2.1, isCode word ∧ word ≠ "und" ∧ isClear languageReplacements word) ∧
    (∀ word ∈ entry.2.2.territory, isClear territoryReplacements word) ∧
    entry.2.2.extlangs = [] ∧ entry.2.2.IsFormed ∧ entry.2.2.sorted = entry.2.2 ∧
    (ofTail entry.2.1 entry.2.2).tag = entry.1 ∧
    isClear languageReplacements (normalize entry.1)
  /-- Only listed extended languages are replaced. -/
  extlangs : ∀ entry ∈ languageReplacements, replacesListed entry
  /-- They are replaced by the language before them, or by one behind which none is replaced. -/
  extlangValues : ∀ entry ∈ replacedExtlangs,
    (isCode entry.2.2 ∧ isClear languageReplacements entry.2.2 ∧ entry.2.2 ≠ "und" ∧
      (entry.2.2 = entry.1 ∨ entry.2.2 ∉ replacedExtlangs.map Prod.fst)) ∨
    entry.2.2 = "nan-x-zh-min"
  /-- A territory is replaced by a territory that is no key. -/
  territories : ∀ entry ∈ territoryReplacements, isTerritory entry.1 ->
    isTerritory (normalize entry.2) ∧ upperCase (normalize entry.2) = entry.2 ∧
      isClear territoryReplacements (normalize entry.2)

theorem tableFacts : TableFacts where
  grandfathered := by decide +kernel
  empty := by decide +kernel
  undefined := by decide +kernel
  moldavian := by decide +kernel
  values := by decide +kernel
  compounds := by decide +kernel
  extlangs := by decide +kernel
  extlangValues := by decide +kernel
  territories := by decide +kernel

/-- The tags that are known as a whole are all replaced. -/
theorem not_mem_grandfathered
    {text : String}
    (apart : lookup languageReplacements text = none) :
    text ∉ grandfathered := by
  intro known
  have replaced := tableFacts.grandfathered text known
  rw [apart] at replaced
  cases replaced

/-! ## Settled parts -/

/-- A code and a tail that no replacement applies to. -/
structure Settles (code : Option String) (tail : Tail) : Prop where
  /-- Every word of the tail is what it stands for. -/
  formed : tail.IsFormed
  /-- The code is the word for a language. -/
  codes : ∀ word ∈ code, isCode word
  /-- It is not the one for an undefined language. -/
  known : ∀ word ∈ code, word ≠ "und"
  /-- It has no preferred form. -/
  unreplaced : ∀ word ∈ code, lookup languageReplacements word = none
  /-- There are not too many extended languages. -/
  few : tail.extlangs.length ≤ 3
  /-- None of them has a preferred form. -/
  kept : ∀ word ∈ code, ∀ extlang ∈ tail.extlangs,
    lookup languageReplacements (word ++ "-" ++ extlang) = none
  /-- Neither has the territory. -/
  territory : ∀ word ∈ tail.territory, lookup territoryReplacements word = none

/-- A preferred form is the text of a settled language without extended languages. -/
structure Prefers (value : String) (code : Option String) (tail : Tail) : Prop
    extends Settles code tail where
  /-- The form is its text. -/
  isTag : (ofTail code tail).tag = value
  /-- The form itself is not replaced. -/
  apart : lookup languageReplacements (normalize value) = none
  /-- There are no extended languages. -/
  noRun : tail.extlangs = []
  /-- Variants come in order. -/
  sorted : tail.sorted = tail

theorem prefers_compound
    {value : String}
    {code : Option String}
    {tail : Tail}
    (compound : (value, code, tail) ∈ compounds) :
    Prefers value code tail := by
  obtain ⟨codes, territory, noRun, formed, sorted, isTag, clear⟩ := tableFacts.compounds _ compound
  exact {
    formed, noRun, sorted, isTag
    codes := fun word isCode => (codes word isCode).1
    known := fun word isCode => (codes word isCode).2.1
    unreplaced := fun word isCode => lookup_of_isClear (codes word isCode).2.2
    few := by rw [noRun]; exact Nat.zero_le 3
    kept := fun _ _ extlang present => by rw [noRun] at present; cases present
    territory := fun word isTerritory => lookup_of_isClear (territory word isTerritory)
    apart := lookup_of_isClear clear }

/-- Every preferred form is a code or a compound form, and but for one of them no key. -/
theorem value_cases
    {key value : String}
    (found : lookup languageReplacements key = some value) :
    value = "mo" ∨ (isCode value ∧ isClear languageReplacements value) ∨
      ∃ code tail, (value, code, tail) ∈ compounds := by
  refine (tableFacts.values _ (mem_of_lookup found)).imp_right (Or.imp_right fun isCompound => ?_)
  obtain ⟨⟨_, code, tail⟩, present, rfl⟩ := List.mem_map.mp isCompound
  exact ⟨code, tail, present⟩

/-- A code that is no key is its own preferred form. -/
theorem prefers_code
    {value : String}
    (code : isCode value)
    (known : value ≠ "und")
    (unreplaced : lookup languageReplacements value = none) :
    Prefers value (some value) {} where
  formed := ⟨Ending.isFormed_nil, nofun, nofun, nofun, nofun⟩
  codes := by rintro _ ⟨⟩; exact code
  known := by rintro _ ⟨⟩; exact known
  unreplaced := by rintro _ ⟨⟩; exact unreplaced
  few := Nat.zero_le 3
  kept := fun _ _ _ => nofun
  territory := nofun
  isTag := by simp [tag, ofTail, joinSubtags]
  apart := by rw [normalize_word (isWord_of_isCode code)]; exact unreplaced
  noRun := rfl
  sorted := by simp [Tail.sorted]

theorem prefers_und : Prefers "und" none {} where
  formed := ⟨Ending.isFormed_nil, nofun, nofun, nofun, nofun⟩
  codes := nofun
  known := nofun
  unreplaced := nofun
  few := Nat.zero_le 3
  kept := nofun
  territory := nofun
  isTag := by simp [tag, ofTail, joinSubtags]
  apart := lookup_of_isClear tableFacts.undefined
  noRun := rfl
  sorted := by simp [Tail.sorted]

theorem exists_prefers
    {key value : String}
    (found : lookup languageReplacements key = some value) :
    value = "mo" ∨ ∃ code tail, Prefers value code tail := by
  refine (value_cases found).imp_right ?_
  rintro (⟨code, clear⟩ | ⟨code, tail, compound⟩)
  · by_cases known : value = "und"
    · exact ⟨none, {}, known ▸ prefers_und⟩
    · exact ⟨some value, {}, prefers_code code known (lookup_of_isClear clear)⟩
  · exact ⟨code, tail, prefers_compound compound⟩

/-! ## Extended languages and territories -/

/-- Only for those an extended language behind a language is looked up successfully. -/
theorem mem_replacedExtlangs
    {code extlang value : String}
    (isCode : isCode code)
    (isExtlang : isExtlang extlang)
    (found : lookup languageReplacements (code ++ "-" ++ extlang) = some value) :
    (code, extlang, value) ∈ replacedExtlangs := by
  have listed := tableFacts.extlangs _ (mem_of_lookup found)
  have areSubtags : ∀ word ∈ [code, extlang], isSubtag word := by
    simp [isSubtag_of_isWord (isWord_of_isCode isCode),
      isSubtag_of_isWord (isWord_of_isExtlang isExtlang)]
  have row : code ++ "-" ++ extlang = joinSubtags [code, extlang] := by
    rw [joinSubtags_cons _ (List.cons_ne_nil _ _), joinSubtags, String.intercalate_singleton]
  have long : ¬ code.length < 2 := Nat.not_lt.mpr (length_of_isCode isCode).1
  simpa [replacesListed, row, splitHyphens_joinSubtags (List.cons_ne_nil _ _) areSubtags, long,
    length_of_isExtlang isExtlang] using listed

/-- An extended language that consists of digits is not replaced. -/
theorem lookup_extlang_of_digits
    {code extlang : String}
    (isCode : isCode code)
    (isExtlang : isExtlang extlang)
    (digits : allChars Char.isDigit extlang) :
    lookup languageReplacements (code ++ "-" ++ extlang) = none := by
  have checked : ∀ entry ∈ replacedExtlangs, ¬ allChars Char.isDigit entry.2.1 := by decide
  cases found : lookup languageReplacements (code ++ "-" ++ extlang) with
  | none => rfl
  | some value => exact absurd digits (checked _ (mem_replacedExtlangs isCode isExtlang found))

/-- Behind any other language no extended language is replaced. -/
theorem lookup_extlang
    {code extlang : String}
    (isCode : isCode code)
    (isExtlang : isExtlang extlang)
    (other : code ∉ replacedExtlangs.map Prod.fst) :
    lookup languageReplacements (code ++ "-" ++ extlang) = none := by
  cases found : lookup languageReplacements (code ++ "-" ++ extlang) with
  | none => rfl
  | some value =>
      exact absurd (List.mem_map_of_mem (mem_replacedExtlangs isCode isExtlang found)) other

/--
What an extended language is replaced by begins with the language before it, or with one
behind which none is replaced.
-/
theorem exists_prefers_of_extlang
    {code extlang value : String}
    (isCode : isCode code)
    (isExtlang : isExtlang extlang)
    (found : lookup languageReplacements (code ++ "-" ++ extlang) = some value) :
    ∃ other tail, Prefers value (some other) tail ∧
      (other = code ∨ other ∉ replacedExtlangs.map Prod.fst) := by
  rcases tableFacts.extlangValues _ (mem_replacedExtlangs isCode isExtlang found) with
    ⟨isOther, clear, known, apart⟩ | rfl
  · exact ⟨value, {}, prefers_code isOther known (lookup_of_isClear clear), apart⟩
  · exact ⟨"nan", { privateUse := some ["x", "zh", "min"] }, prefers_compound (by decide),
      .inr (by decide)⟩

/-- The preferred form of a territory is a territory, and has no other preferred form. -/
theorem exists_territory
    {word value : String}
    (isTerritory : isTerritory word)
    (found : lookup territoryReplacements word = some value) :
    ∃ other, Language.isTerritory other ∧ upperCase other = value ∧
      lookup territoryReplacements other = none := by
  obtain ⟨isOther, same, clear⟩ := tableFacts.territories _ (mem_of_lookup found) isTerritory
  exact ⟨_, isOther, same, lookup_of_isClear clear⟩

end Language
end InstanceDirectory
