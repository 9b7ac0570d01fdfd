import InstanceDirectory.Proofs.Casing

/-!
# The text of a language

A language that was put together from a code and a tail is written as a row of words: the
code, and the words of the tail with its extended languages and its variants sorted.  The
normal form of the row is the row of the same words in normal form.
-/

namespace InstanceDirectory
namespace Language

/-! ## Sorted words -/

theorem perm_sortSubtags (words : List String) : (sortSubtags words).Perm words :=
  List.mergeSort_perm words _

@[simp] theorem mem_sortSubtags {word : String} {words : List String} :
    word ∈ sortSubtags words ↔ word ∈ words :=
  (perm_sortSubtags words).mem_iff

@[simp] theorem length_sortSubtags (words : List String) :
    (sortSubtags words).length = words.length :=
  (perm_sortSubtags words).length_eq

theorem pairwise_sortSubtags (words : List String) :
    (sortSubtags words).Pairwise fun first second => decide (first ≤ second) := by
  refine List.pairwise_mergeSort (fun first second third before after => ?_)
    (fun first second => ?_) words
  · rw [decide_eq_true_eq] at before after ⊢
    exact le_trans before after
  · rw [Bool.or_eq_true, decide_eq_true_eq, decide_eq_true_eq]
    exact le_total first second

theorem sortSubtags_of_pairwise
    {words : List String}
    (sorted : words.Pairwise fun first second => decide (first ≤ second)) :
    sortSubtags words = words :=
  List.mergeSort_of_pairwise sorted

@[simp] theorem sortSubtags_sortSubtags (words : List String) :
    sortSubtags (sortSubtags words) = sortSubtags words :=
  sortSubtags_of_pairwise (pairwise_sortSubtags words)

@[simp] theorem sortSubtags_nil : sortSubtags [] = [] :=
  sortSubtags_of_pairwise .nil

/-! ## Languages from tails -/

/-- The language of a code and a tail. -/
def ofTail (code : Option String) (tail : Tail) : Language where
  language := code
  extlangs := tail.extlangs
  script := tail.script.map titleCase
  territory := tail.territory.map upperCase
  variants := tail.variants
  extensions := tail.extensions.map joinSubtags
  privateUse := tail.privateUse.map joinSubtags

namespace Tail

variable {tail : Tail}

/-- A tail with its extended languages and its variants in increasing order. -/
def sorted (tail : Tail) : Tail :=
  { tail with extlangs := sortSubtags tail.extlangs, variants := sortSubtags tail.variants }

/-- The words of a tail with the capitals of a language. -/
def spelled (tail : Tail) : List String :=
  tail.extlangs ++ ((tail.script.map titleCase).toList ++ ((tail.territory.map upperCase).toList ++
    (tail.variants ++ tail.toEnding.words)))

theorem isFormed_sorted (formed : tail.IsFormed) : tail.sorted.IsFormed :=
  { formed with
    extlangs := fun word present => formed.extlangs word (mem_sortSubtags.mp present)
    variants := fun word present => formed.variants word (mem_sortSubtags.mp present) }

@[simp] theorem sorted_sorted (tail : Tail) : tail.sorted.sorted = tail.sorted := by
  simp [sorted]

/-- Capitals aside, the words stay the same. -/
theorem map_normalize_spelled (formed : tail.IsFormed) :
    tail.spelled.map normalize = tail.words := by
  have plain (words : List String) (present : words ⊆ tail.words) : words.map normalize = words :=
    map_normalize fun _ isWord => isWord_of_mem_words formed (present isWord)
  have extlangs := plain tail.extlangs fun word => by simp +contextual [words]
  have variants := plain tail.variants fun word => by simp +contextual [words]
  have ending := plain tail.toEnding.words fun word => by simp +contextual [words]
  have script : (tail.script.map titleCase).map normalize = tail.script := by
    cases script : tail.script with
    | none => rfl
    | some word =>
        exact congrArg some (normalize_titleCase (isWord_of_isScript (formed.script word script)))
  have territory : (tail.territory.map upperCase).map normalize = tail.territory := by
    cases territory : tail.territory with
    | none => rfl
    | some word =>
        exact congrArg some
          (normalize_upperCase (isWord_of_isTerritory (formed.territory word territory)))
  simp only [spelled, words, List.map_append, extlangs, variants, ending, ← Option.toList_map,
    script, territory]

theorem isSubtag_of_mem_spelled
    {word : String}
    (formed : tail.IsFormed)
    (present : word ∈ tail.spelled) :
    isSubtag word := by
  have plain (word : String) (present : word ∈ tail.words) : isSubtag word :=
    isSubtag_of_isWord (isWord_of_mem_words formed present)
  simp only [spelled, List.mem_append, Option.mem_toList, Option.map_eq_some_iff] at present
  rcases present with extlang | ⟨script, isScript, rfl⟩ | ⟨territory, isTerritory, rfl⟩ |
    variant | ending
  · exact plain word (by simp [words, extlang])
  · exact isSubtag_titleCase (isWord_of_isScript (formed.script script isScript))
  · exact isSubtag_upperCase (isWord_of_isTerritory (formed.territory territory isTerritory))
  · exact plain word (by simp [words, variant])
  · exact plain word (by simp [words, ending])

end Tail

/-- Single words and rows of words make one row. -/
theorem joinSubtags_append_map
    (words : List String)
    {groups : List (List String)}
    (nonempty : ∀ group ∈ groups, group ≠ []) :
    joinSubtags (words ++ groups.map joinSubtags) = joinSubtags (words ++ groups.flatten) := by
  have single : (words.map fun word => [word]).map joinSubtags = words := by
    simp [joinSubtags, Function.comp_def]
  have flat : (words.map fun word => [word]).flatten = words := by
    rw [← List.flatMap_def, List.flatMap_singleton']
  have allNonempty : ∀ group ∈ (words.map fun word => [word]) ++ groups, group ≠ [] := by
    intro group present
    rcases List.mem_append.mp present with isSingle | isGroup
    · obtain ⟨word, -, rfl⟩ := List.mem_map.mp isSingle
      exact List.cons_ne_nil _ _
    · exact nonempty group isGroup
  have row := joinSubtags_flatten allNonempty
  rwa [List.map_append, single, List.flatten_append, flat] at row

/-- A language is written as a row of its code and the words of its tail. -/
theorem tag_ofTail (code : Option String) {tail : Tail} (formed : tail.IsFormed) :
    (ofTail code tail).tag = joinSubtags (code.getD "und" :: tail.sorted.spelled) := by
  have nonempty : ∀ group ∈ tail.extensions ++ tail.privateUse.toList, group ≠ [] := by
    intro group present
    rcases List.mem_append.mp present with isExtension | isPrivate
    · obtain ⟨singleton, rest, rfl, -⟩ := formed.extensions group isExtension
      exact List.cons_ne_nil _ _
    · obtain ⟨rest, rfl, -⟩ := formed.privateUse group (Option.mem_toList.mp isPrivate)
      exact List.cons_ne_nil _ _
  have ending : (tail.extensions ++ tail.privateUse.toList).flatten = tail.toEnding.words := by
    rw [List.flatten_append, Ending.words]
    cases tail.privateUse <;> simp
  have row := joinSubtags_append_map (code.getD "und" :: (sortSubtags tail.extlangs ++
    ((tail.script.map titleCase).toList ++ ((tail.territory.map upperCase).toList ++
      sortSubtags tail.variants)))) nonempty
  rw [ending] at row
  simpa [tag, ofTail, Tail.sorted, Tail.spelled, Option.toList_map] using row

section Tags

variable {code : Option String} {tail : Tail} (codes : ∀ word ∈ code, isCode word)
  (formed : tail.IsFormed)

include codes formed

omit formed in
theorem isCode_getD : isCode (code.getD "und") := by
  cases code with
  | none => decide
  | some word => exact codes word rfl

/-- The normal form of the text is the row of the words themselves. -/
theorem normalize_tag :
    normalize (ofTail code tail).tag = joinSubtags (code.getD "und" :: tail.sorted.words) := by
  have isFirst := isWord_of_isCode (isCode_getD codes)
  rw [tag_ofTail code formed, normalize_joinSubtags, List.map_cons, normalize_word isFirst,
    Tail.map_normalize_spelled (Tail.isFormed_sorted formed)]

/-- The text is read by its code and the words of the tail. -/
theorem subtags?_tag (unknown : normalize (ofTail code tail).tag ∉ grandfathered) :
    subtags? (ofTail code tail).tag =
      (readSubtags .extlang tail.sorted.words).map (.language (code.getD "und") :: ·) := by
  have isFirst := isCode_getD codes
  have isAscii : allChars (·.toNat < 0x80) (ofTail code tail).tag := by
    rw [tag_ofTail code formed]
    exact isAscii_joinSubtags (List.forall_mem_cons.mpr
      ⟨isSubtag_of_isWord (isWord_of_isCode isFirst),
        fun _ => Tail.isSubtag_of_mem_spelled (Tail.isFormed_sorted formed)⟩)
  exact subtags?_row isAscii unknown isFirst
    (fun _ => Tail.isWord_of_mem_words (Tail.isFormed_sorted formed)) (normalize_tag codes formed)

/-- Texts with the same normal form are rows of the same words. -/
theorem words_eq_of_tag_eq
    {other : Option String}
    {others : Tail}
    (otherCodes : ∀ word ∈ other, isCode word)
    (otherFormed : others.IsFormed)
    (same : (ofTail other others).tag = (ofTail code tail).tag) :
    other.getD "und" = code.getD "und" ∧ others.sorted.words = tail.sorted.words := by
  have areSubtags {code : Option String} {tail : Tail} (codes : ∀ word ∈ code, isCode word)
      (formed : tail.IsFormed) : ∀ word ∈ code.getD "und" :: tail.sorted.words, isSubtag word :=
    List.forall_mem_cons.mpr ⟨isSubtag_of_isWord (isWord_of_isCode (isCode_getD codes)),
      fun _ present => isSubtag_of_isWord
        (Tail.isWord_of_mem_words (Tail.isFormed_sorted formed) present)⟩
  have sameRow := congrArg normalize same
  rw [normalize_tag otherCodes otherFormed, normalize_tag codes formed] at sameRow
  exact List.cons.inj (joinSubtags_inj (List.cons_ne_nil _ _) (List.cons_ne_nil _ _)
    (areSubtags otherCodes otherFormed) (areSubtags codes formed) sameRow)

end Tags

end Language
end InstanceDirectory
