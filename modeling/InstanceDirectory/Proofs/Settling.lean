import InstanceDirectory.Proofs.Replacing

/-!
# Reading into settled parts

A text is first replaced as a whole if it is a key of a preferred form; then its parts are
added one by one, and an extended language or a territory may be replaced in turn.  No such
step leads to a part that still has a preferred form: whatever is read is settled, unless it is
for private use and known as a whole.
-/

namespace InstanceDirectory
namespace Language

/-! ## Adding parts -/

/-- The language that a key stands for, if it has a preferred form. -/
def preferred (depth : Nat) (key : String) : Option Language :=
  (lookup languageReplacements key).bind (resolve? depth)

/-- The language of a text that is not replaced as a whole. -/
def readTag (depth : Nat) (text : String) : Option Language :=
  (subtags? text).map fun subtags => subtags.foldl (addSubtag (preferred depth)) {}

theorem resolve?_succ (depth : Nat) (text : String) :
    resolve? (depth + 1) text =
      readTag depth ((lookup languageReplacements (normalize text)).getD text) := rfl

theorem preferred_of_lookup {key : String} (apart : lookup languageReplacements key = none)
    (depth : Nat) : preferred depth key = none := by
  rw [preferred, apart, Option.bind_none]

namespace Tail

/-- The word that a territory is kept as. -/
def keptTerritory (word : String) : String :=
  normalize ((lookup territoryReplacements word).getD (upperCase word))

/-- A kept territory is a territory that has no preferred form. -/
theorem keptTerritory_spec {word : String} (territory : isTerritory word) :
    isTerritory (keptTerritory word) ∧
      upperCase (keptTerritory word) =
        (lookup territoryReplacements word).getD (upperCase word) ∧
      lookup territoryReplacements (keptTerritory word) = none := by
  unfold keptTerritory
  cases found : lookup territoryReplacements word with
  | none =>
      rw [Option.getD_none, normalize_upperCase (isWord_of_isTerritory territory)]
      exact ⟨territory, rfl, found⟩
  | some value =>
      obtain ⟨other, isOther, rfl, apart⟩ := exists_territory territory found
      rw [Option.getD_some, normalize_upperCase (isWord_of_isTerritory isOther)]
      exact ⟨isOther, rfl, apart⟩

theorem keptTerritory_of_lookup
    {word : String}
    (territory : isTerritory word)
    (apart : lookup territoryReplacements word = none) :
    keptTerritory word = word := by
  rw [keptTerritory, apart, Option.getD_none, normalize_upperCase (isWord_of_isTerritory territory)]

/-- A tail with the parts of another one, but for its extended languages, behind its own. -/
def extend (tail other : Tail) : Tail where
  extlangs := tail.extlangs
  script := other.script <|> tail.script
  territory := other.territory.map keptTerritory <|> tail.territory
  variants := tail.variants ++ other.variants
  extensions := tail.extensions ++ other.extensions
  privateUse := other.privateUse <|> tail.privateUse

end Tail

/-- The key of an extended language is in normal form. -/
theorem normalize_extlang
    {code extlang : String}
    (isCode : isCode code)
    (isExtlang : isExtlang extlang) :
    normalize (code ++ "-" ++ extlang) = code ++ "-" ++ extlang := by
  rw [normalize_append, normalize_append, normalize_word (isWord_of_isCode isCode),
    normalize_word (isWord_of_isExtlang isExtlang)]
  rfl

section Adding

variable (find : String -> Option Language) (code : Option String)

theorem foldl_variants (tail : Tail) (words : List String) :
    (words.map .variant).foldl (addSubtag find) (ofTail code tail) =
      ofTail code { tail with variants := tail.variants ++ words } := by
  induction words generalizing tail with
  | nil => simp
  | cons word words wordsHypothesis =>
      have added : addSubtag find (ofTail code tail) (.variant word) =
          ofTail code { tail with variants := tail.variants ++ [word] } := rfl
      rw [List.map_cons, List.foldl_cons, added, wordsHypothesis]
      simp

theorem foldl_extensions (tail : Tail) (groups : List (List String)) :
    (groups.map (.extension ∘ joinSubtags)).foldl (addSubtag find) (ofTail code tail) =
      ofTail code { tail with extensions := tail.extensions ++ groups } := by
  induction groups generalizing tail with
  | nil => simp
  | cons words groups groupsHypothesis =>
      have added : addSubtag find (ofTail code tail) (.extension (joinSubtags words)) =
          ofTail code { tail with extensions := tail.extensions ++ [words] } := by
        simp [addSubtag, ofTail]
      rw [List.map_cons, List.foldl_cons, Function.comp_apply, added, groupsHypothesis]
      simp

/-- Parts behind the extended languages are added without regard to preferred languages. -/
theorem foldl_subtags
    (tail : Tail)
    {other : Tail}
    (formed : other.IsFormed)
    (noRun : other.extlangs = []) :
    other.subtags.foldl (addSubtag find) (ofTail code tail) = ofTail code (tail.extend other) := by
  have script (tail : Tail) :
      (other.script.map (.script ∘ titleCase)).toList.foldl (addSubtag find) (ofTail code tail) =
        ofTail code { tail with script := other.script <|> tail.script } := by
    cases other.script <;> rfl
  have territory (tail : Tail) :
      (other.territory.map (.territory ∘ upperCase)).toList.foldl (addSubtag find)
          (ofTail code tail) =
        ofTail code
          { tail with territory := other.territory.map Tail.keptTerritory <|> tail.territory } := by
    cases territory : other.territory with
    | none => rfl
    | some word =>
        have isTerritory := formed.territory word territory
        have kept := (Tail.keptTerritory_spec isTerritory).2.1
        simp [addSubtag, ofTail, kept, normalize_upperCase (isWord_of_isTerritory isTerritory)]
  have privateUse (tail : Tail) :
      (other.privateUse.map (.privateUse ∘ joinSubtags)).toList.foldl (addSubtag find)
          (ofTail code tail) =
        ofTail code { tail with privateUse := other.privateUse <|> tail.privateUse } := by
    cases other.privateUse <;> rfl
  simp only [Tail.subtags, Ending.subtags, noRun, List.map_nil, List.nil_append, List.foldl_append,
    script, territory, privateUse, foldl_variants, foldl_extensions]
  rfl

/-- Extended languages that have no preferred form are kept. -/
theorem foldl_extlangs
    (tail : Tail)
    {run : List String}
    (isRun : ∀ word ∈ run, isExtlang word)
    (codes : ∀ word ∈ code, isCode word)
    (kept : ∀ word ∈ code, ∀ extlang ∈ run, find (word ++ "-" ++ extlang) = none) :
    (run.map .extlang).foldl (addSubtag find) (ofTail code tail) =
      ofTail code { tail with extlangs := tail.extlangs ++ run } := by
  induction run generalizing tail with
  | nil => simp
  | cons extlang run runHypothesis =>
      obtain ⟨isExtlang, isRun⟩ := List.forall_mem_cons.mp isRun
      have added : addSubtag find (ofTail code tail) (.extlang extlang) =
          ofTail code { tail with extlangs := tail.extlangs ++ [extlang] } := by
        have apart : code.bind (fun word => find (normalize (word ++ "-" ++ extlang))) = none := by
          cases isCode : code with
          | none => rfl
          | some word =>
              have normal := normalize_extlang (codes word isCode) isExtlang
              rw [Option.bind_some, normal]
              exact kept word isCode extlang List.mem_cons_self
        simp only [addSubtag, ofTail, apart]
      rw [List.map_cons, List.foldl_cons, added, runHypothesis _ isRun fun word isCode other present =>
        kept word isCode other (List.mem_cons_of_mem _ present)]
      simp

end Adding

/-! ## Reading a row again -/

section Again

variable {code : Option String} {tail : Tail} (settles : Settles code tail)
  (apart : lookup languageReplacements (normalize (ofTail code tail).tag) = none)

include settles

theorem tag_sorted : (ofTail code tail.sorted).tag = (ofTail code tail).tag := by
  rw [tag_ofTail code (Tail.isFormed_sorted settles.formed), tag_ofTail code settles.formed,
    Tail.sorted_sorted]

theorem addSubtag_code (depth : Nat) :
    addSubtag (preferred depth) {} (.language (code.getD "und")) = ofTail code {} := by
  cases isCode : code with
  | none => rfl
  | some word =>
      have known := settles.known word isCode
      have unreplaced := preferred_of_lookup (settles.unreplaced word isCode) depth
      simp [addSubtag, ofTail, known, unreplaced]

include apart

/-- The text of a settled language is read as its code and whatever tail has the words of its own. -/
theorem readTag_row
    {other : Tail}
    (depth : Nat)
    (formed : other.IsFormed)
    (fits : other.FitsAt .extlang)
    (sameWords : other.words = tail.sorted.words)
    (kept : ∀ word ∈ code, ∀ extlang ∈ other.extlangs,
      lookup languageReplacements (word ++ "-" ++ extlang) = none) :
    readTag depth (ofTail code tail).tag =
      some (ofTail code { other with territory := other.territory.map Tail.keptTerritory }) := by
  have rest : Tail.IsFormed { other with extlangs := [] } :=
    { formed with extlangs := nofun }
  have split : other.subtags =
      other.extlangs.map .extlang ++ Tail.subtags { other with extlangs := [] } := rfl
  have extended : Tail.extend { extlangs := other.extlangs } { other with extlangs := [] } =
      { other with territory := other.territory.map Tail.keptTerritory } := by
    simp [Tail.extend]
  have run := foldl_extlangs (preferred depth) code {} formed.extlangs settles.codes
    fun word isCode extlang present => preferred_of_lookup (kept word isCode extlang present) depth
  rw [readTag, subtags?_tag settles.codes settles.formed (not_mem_grandfathered apart), ← sameWords,
    Tail.readSubtags_words formed fits, Option.map_some, Option.map_some, List.foldl_cons,
    addSubtag_code settles, split, List.foldl_append, run, List.nil_append,
    foldl_subtags _ _ _ rest rfl, extended]

/-- A tail that fits behind its code is read as it is written. -/
theorem readTag_of_fits (depth : Nat) (fits : tail.sorted.FitsAt .extlang) :
    readTag depth (ofTail code tail).tag = some (ofTail code tail.sorted) := by
  have kept : ∀ word ∈ code, ∀ extlang ∈ tail.sorted.extlangs,
      lookup languageReplacements (word ++ "-" ++ extlang) = none :=
    fun word isCode extlang present => settles.kept word isCode extlang (mem_sortSubtags.mp present)
  have territory : tail.territory.map Tail.keptTerritory = tail.territory := by
    cases territory : tail.territory with
    | none => rfl
    | some word =>
        exact congrArg some (Tail.keptTerritory_of_lookup (settles.formed.territory word territory)
          (settles.territory word territory))
  rw [readTag_row settles apart depth (Tail.isFormed_sorted settles.formed) fits rfl kept]
  exact congrArg (fun territory => some (ofTail code { tail.sorted with territory })) territory

end Again

/-! ## Reading a text -/

/-- A preferred form is read as what it is the text of. -/
theorem readTag_of_prefers
    {value : String}
    {code : Option String}
    {tail : Tail}
    (prefers : Prefers value code tail)
    (depth : Nat) :
    readTag depth value = some (ofTail code tail) := by
  have apart : lookup languageReplacements (normalize (ofTail code tail).tag) = none := by
    rw [prefers.isTag]
    exact prefers.apart
  have fits : tail.sorted.FitsAt .extlang := by
    rw [prefers.sorted]
    exact .inl prefers.noRun
  have read := readTag_of_fits prefers.toSettles apart depth fits
  rwa [prefers.isTag, prefers.sorted] at read

theorem resolve?_of_prefers
    {value : String}
    {code : Option String}
    {tail : Tail}
    (prefers : Prefers value code tail)
    (depth : Nat) :
    resolve? (depth + 1) value = some (ofTail code tail) := by
  rw [resolve?_succ, prefers.apart]
  exact readTag_of_prefers prefers depth

/-- Moldavian is Romanian, and the only preferred form that has another one. -/
theorem prefers_ro : lookup languageReplacements "mo" = some "ro" ∧ Prefers "ro" (some "ro") {} :=
  ⟨tableFacts.moldavian.1,
    prefers_code (by decide) (by decide) (lookup_of_isClear tableFacts.moldavian.2)⟩

/-- A key that has a preferred form stands for a settled language without extended ones. -/
theorem exists_resolve?
    {key value : String}
    (found : lookup languageReplacements key = some value)
    (depth : Nat) :
    ∃ form code tail, Prefers form code tail ∧
      resolve? (depth + 1) value = some (ofTail code tail) := by
  rcases exists_prefers found with rfl | ⟨code, tail, prefers⟩
  · obtain ⟨replaced, prefers⟩ := prefers_ro
    refine ⟨"ro", some "ro", {}, prefers, ?_⟩
    rw [resolve?_succ, normalize_word (by decide), replaced]
    exact readTag_of_prefers prefers depth
  · exact ⟨value, code, tail, prefers, resolve?_of_prefers prefers depth⟩

/-- A key either has no preferred form or stands for a settled language. -/
theorem preferred_cases (depth : Nat) (key : String) :
    (lookup languageReplacements key = none ∧ preferred (depth + 1) key = none) ∨
      ∃ form code tail, Prefers form code tail ∧
        preferred (depth + 1) key = some (ofTail code tail) := by
  cases found : lookup languageReplacements key with
  | none => exact .inl ⟨rfl, preferred_of_lookup found _⟩
  | some value =>
      obtain ⟨form, code, tail, prefers, resolved⟩ := exists_resolve? found depth
      exact .inr ⟨form, code, tail, prefers, by rw [preferred, found, Option.bind_some, resolved]⟩

namespace Tail

/-- The parts of another tail take the place of those of a tail. -/
def merge (tail other : Tail) : Tail where
  extlangs := if other.extlangs.isEmpty then tail.extlangs else other.extlangs
  script := other.script <|> tail.script
  territory := other.territory <|> tail.territory
  variants := if other.variants.isEmpty then tail.variants else other.variants
  extensions := if other.extensions.isEmpty then tail.extensions else other.extensions
  privateUse := other.privateUse <|> tail.privateUse

theorem merge_nil (tail : Tail) : Tail.merge {} tail = tail := by
  rcases tail with ⟨⟨extensions, privateUse⟩, extlangs, script, territory, variants⟩
  cases extlangs <;> cases variants <;> cases extensions <;> simp [merge]

section Formed

variable {tail other : Tail} (formed : tail.IsFormed) (otherFormed : other.IsFormed)

theorem forall_mem_or
    {property : α -> Prop}
    {first second : Option α}
    (ofFirst : ∀ value ∈ first, property value)
    (ofSecond : ∀ value ∈ second, property value) :
    ∀ value ∈ first <|> second, property value := by
  cases first with
  | none => exact ofSecond
  | some value => exact ofFirst

theorem forall_mem_ite
    {property : α -> Prop}
    {first second : List α}
    (ofFirst : ∀ value ∈ first, property value)
    (ofSecond : ∀ value ∈ second, property value) :
    ∀ value ∈ if first.isEmpty then second else first, property value := by
  split
  · exact ofSecond
  · exact ofFirst

include formed otherFormed

theorem isFormed_merge : (tail.merge other).IsFormed where
  extlangs := forall_mem_ite otherFormed.extlangs formed.extlangs
  script := forall_mem_or otherFormed.script formed.script
  territory := forall_mem_or otherFormed.territory formed.territory
  variants := forall_mem_ite otherFormed.variants formed.variants
  extensions := forall_mem_ite otherFormed.extensions formed.extensions
  privateUse := forall_mem_or otherFormed.privateUse formed.privateUse

theorem isFormed_extend : (tail.extend other).IsFormed where
  extlangs := formed.extlangs
  script := forall_mem_or otherFormed.script formed.script
  territory := by
    refine forall_mem_or (fun word present => ?_) formed.territory
    obtain ⟨original, isOriginal, rfl⟩ := Option.map_eq_some_iff.mp present
    exact (keptTerritory_spec (otherFormed.territory original isOriginal)).1
  variants := List.forall_mem_append.mpr ⟨formed.variants, otherFormed.variants⟩
  extensions := List.forall_mem_append.mpr ⟨formed.extensions, otherFormed.extensions⟩
  privateUse := forall_mem_or otherFormed.privateUse formed.privateUse

end Formed

end Tail

theorem merge_ofTail (code other : Option String) (tail others : Tail) :
    (ofTail code tail).merge (ofTail other others) =
      ofTail (other <|> code) (tail.merge others) := by
  rcases others with ⟨⟨extensions, _ | privateUse⟩, extlangs, _ | script, _ | territory, variants⟩ <;>
    cases extensions <;> simp [merge, ofTail, Tail.merge]

/-- A language that takes the place of nothing is kept as it is. -/
theorem merge_nil (code : Option String) (tail : Tail) :
    merge {} (ofTail code tail) = ofTail code tail := by
  have merged := merge_ofTail none code {} tail
  rw [Tail.merge_nil] at merged
  cases code <;> exact merged

section Steps

variable {code : Option String} {tail : Tail} (settles : Settles code tail)

include settles

/-- Parts behind the extended languages leave a language settled. -/
theorem settles_extend {other : Tail} (formed : other.IsFormed) :
    Settles code (tail.extend other) where
  formed := Tail.isFormed_extend settles.formed formed
  codes := settles.codes
  known := settles.known
  unreplaced := settles.unreplaced
  few := settles.few
  kept := settles.kept
  territory := by
    refine Tail.forall_mem_or (fun word present => ?_) settles.territory
    obtain ⟨original, isOriginal, rfl⟩ := Option.map_eq_some_iff.mp present
    exact (Tail.keptTerritory_spec (formed.territory original isOriginal)).2.2

/-- So does an extended language that is kept. -/
theorem settles_keep
    {extlang : String}
    (isExtlang : isExtlang extlang)
    (few : tail.extlangs.length < 3)
    (apart : ∀ word ∈ code, lookup languageReplacements (word ++ "-" ++ extlang) = none) :
    Settles code { tail with extlangs := tail.extlangs ++ [extlang] } :=
  { settles with
    formed := { settles.formed with
      extlangs := List.forall_mem_append.mpr
        ⟨settles.formed.extlangs, List.forall_mem_singleton.mpr isExtlang⟩ }
    few := by rw [List.length_append]; exact few
    kept := fun word isCode => List.forall_mem_append.mpr
      ⟨settles.kept word isCode, List.forall_mem_singleton.mpr (apart word isCode)⟩ }

omit settles in
/-- And so does what an extended language is replaced by. -/
theorem settles_merge
    {word other value : String}
    {others : Tail}
    (settles : Settles (some word) tail)
    (prefers : Prefers value (some other) others)
    (apart : other = word ∨ other ∉ replacedExtlangs.map Prod.fst) :
    Settles (some other) (tail.merge others) where
  formed := Tail.isFormed_merge settles.formed prefers.formed
  codes := prefers.codes
  known := prefers.known
  unreplaced := prefers.unreplaced
  few := by rw [Tail.merge, prefers.noRun]; exact settles.few
  kept := by
    rintro _ ⟨⟩ extlang present
    rw [Tail.merge, prefers.noRun] at present
    rcases apart with rfl | apart
    · exact settles.kept other rfl extlang present
    · exact lookup_extlang (prefers.codes other rfl) (settles.formed.extlangs extlang present) apart
  territory := Tail.forall_mem_or prefers.territory settles.territory

/-- An extended language that may come leaves a language settled. -/
theorem addSubtag_extlang
    {extlang : String}
    (isExtlang : isExtlang extlang)
    (few : tail.extlangs.length < 3)
    (depth : Nat) :
    ∃ other others, Settles other others ∧
      others.extlangs.length ≤ tail.extlangs.length + 1 ∧
      addSubtag (preferred (depth + 1)) (ofTail code tail) (.extlang extlang) =
        ofTail other others := by
  have longer : (tail.extlangs ++ [extlang]).length ≤ tail.extlangs.length + 1 :=
    Nat.le_of_eq List.length_append
  cases code with
  | none => exact ⟨none, _, settles_keep settles isExtlang few nofun, longer, rfl⟩
  | some word =>
      have isCode := settles.codes word rfl
      have key : normalize (word ++ "-" ++ extlang) = word ++ "-" ++ extlang :=
        normalize_extlang isCode isExtlang
      cases found : lookup languageReplacements (word ++ "-" ++ extlang) with
      | none =>
          have apart : ∀ code ∈ some word,
              lookup languageReplacements (code ++ "-" ++ extlang) = none := by
            rintro _ ⟨⟩
            exact found
          refine ⟨some word, _, settles_keep settles isExtlang few apart, longer, ?_⟩
          simp only [addSubtag, ofTail, Option.bind_some, key, preferred_of_lookup found]
      | some value =>
          obtain ⟨other, others, prefers, apart⟩ := exists_prefers_of_extlang isCode isExtlang found
          refine ⟨some other, _, settles_merge settles prefers apart, ?_, ?_⟩
          · rw [Tail.merge, prefers.noRun]
            exact Nat.le_succ _
          · have replaced : preferred (depth + 1) (word ++ "-" ++ extlang) =
                some (ofTail (some other) others) := by
              rw [preferred, found, Option.bind_some, resolve?_of_prefers prefers]
            simp only [addSubtag, ofTail, Option.bind_some, key, replaced]
            exact merge_ofTail (some word) (some other) tail others

omit settles in
/-- A run of extended languages that may come leaves a language settled. -/
theorem foldl_run
    {run : List String}
    (settles : Settles code tail)
    (isRun : ∀ word ∈ run, isExtlang word)
    (few : tail.extlangs.length + run.length ≤ 3)
    (depth : Nat) :
    ∃ other others, Settles other others ∧
      (run.map .extlang).foldl (addSubtag (preferred (depth + 1))) (ofTail code tail) =
        ofTail other others := by
  induction run generalizing code tail with
  | nil => exact ⟨code, tail, settles, rfl⟩
  | cons extlang run runHypothesis =>
      obtain ⟨isExtlang, isRun⟩ := List.forall_mem_cons.mp isRun
      rw [List.length_cons] at few
      obtain ⟨other, others, settled, atMost, added⟩ :=
        addSubtag_extlang settles isExtlang (by omega) depth
      rw [List.map_cons, List.foldl_cons, added]
      exact runHypothesis settled isRun (by omega)

end Steps

/-- The code that a tag begins with is settled, or what it is replaced by is. -/
theorem addSubtag_first
    {first : String}
    (isCode : isCode first)
    (depth : Nat) :
    ∃ code tail, Settles code tail ∧ tail.extlangs = [] ∧
      addSubtag (preferred (depth + 1)) {} (.language first) = ofTail code tail := by
  by_cases known : first = "und"
  · exact ⟨none, {}, prefers_und.toSettles, rfl, by rw [addSubtag, if_pos known]; rfl⟩
  · rw [addSubtag, if_neg known]
    rcases preferred_cases depth first with ⟨apart, unreplaced⟩ |
      ⟨form, code, tail, prefers, replaced⟩
    · exact ⟨some first, {}, (prefers_code isCode known apart).toSettles, rfl, by rw [unreplaced]; rfl⟩
    · exact ⟨code, tail, prefers.toSettles, prefers.noRun, by rw [replaced]; exact merge_nil code tail⟩

/-- A language that is known as a whole because it is for private use. -/
def IsPrivate (language : Language) : Prop :=
  ∃ words, IsPrivateUse words ∧ language = { language := some (joinSubtags words) } ∧
    lookup languageReplacements (joinSubtags words) = none

/-- A language whose parts have no preferred form. -/
def IsSettled (language : Language) : Prop :=
  ∃ code tail, Settles code tail ∧ language = ofTail code tail

/-- A tag that is known as a whole is settled, or it has no preferred form. -/
theorem addSubtag_whole
    {text : String}
    (known : text ≠ "und")
    (depth : Nat) :
    (addSubtag (preferred (depth + 1)) {} (.language text)).IsSettled ∨
      (lookup languageReplacements text = none ∧
        addSubtag (preferred (depth + 1)) {} (.language text) = { language := some text }) := by
  rw [addSubtag, if_neg known]
  rcases preferred_cases depth text with ⟨apart, unreplaced⟩ | ⟨form, code, tail, prefers, replaced⟩
  · rw [unreplaced]
    exact .inr ⟨apart, rfl⟩
  · rw [replaced]
    exact .inl ⟨code, tail, prefers.toSettles, merge_nil code tail⟩

theorem joinSubtags_ne_und {words : List String} (isPrivate : IsPrivateUse words) :
    joinSubtags words ≠ "und" := by
  obtain ⟨rest, rfl, -, areWords⟩ := isPrivate
  intro same
  have single : joinSubtags ["und"] = "und" := String.intercalate_singleton
  have sameWords := joinSubtags_inj (List.cons_ne_nil _ _) (List.cons_ne_nil _ _)
    (fun word present => isSubtag_of_isWord (areWords word present))
    (by decide) (same.trans single.symm)
  exact absurd (List.cons.inj sameWords).1 (by decide)

/-- Whatever is read from a text is settled or known as a whole. -/
theorem settled_of_readTag
    {depth : Nat}
    {text : String}
    {language : Language}
    (read : readTag (depth + 1) text = some language) :
    language.IsSettled ∨ language.IsPrivate := by
  obtain ⟨subtags, isRead, rfl⟩ := Option.map_eq_some_iff.mp read
  obtain ⟨-, known | ⟨words, isPrivate, isRow⟩ | ⟨first, tail, isCode, formed, fits, -⟩⟩ :=
    (subtags?_eq_some_iff text subtags).mp isRead
  · have known' : normalize text ≠ "und" := by
      intro isUnd
      rw [isUnd] at known
      exact absurd known (by decide)
    rcases addSubtag_whole known' depth with settled | ⟨apart, -⟩
    · exact .inl settled
    · exact absurd known (not_mem_grandfathered apart)
  · rw [isRow]
    rcases addSubtag_whole (joinSubtags_ne_und isPrivate) depth with settled | ⟨apart, whole⟩
    · exact .inl settled
    · exact .inr ⟨words, isPrivate, whole, apart⟩
  · obtain ⟨code, base, settles, noRun, added⟩ := addSubtag_first isCode depth
    have few : base.extlangs.length + tail.extlangs.length ≤ 3 := by
      rw [noRun, List.length_nil, Nat.zero_add]
      rcases fits with none | ⟨⟨few, -⟩, -⟩
      · rw [none]
        exact Nat.zero_le 3
      · exact few
    obtain ⟨other, others, settled, run⟩ := foldl_run settles formed.extlangs few depth
    have rest : Tail.IsFormed { tail with extlangs := [] } := { formed with extlangs := nofun }
    have split : tail.subtags =
        tail.extlangs.map .extlang ++ Tail.subtags { tail with extlangs := [] } := rfl
    refine .inl ⟨other, _, settles_extend settled rest, ?_⟩
    rw [List.foldl_cons, added, split, List.foldl_append, run, foldl_subtags _ _ _ rest rfl]

end Language
end InstanceDirectory
