import InstanceDirectory.Language.Replacements

/-!
# Language tags

A stored language tag is read into its parts.  Reading ignores case, takes an underscore
for a hyphen and replaces deprecated codes by their preferred forms.  A tag that the
grammar rejects, like an absent or empty one, is the undefined language.
-/

namespace InstanceDirectory

/-- A language by its parts; with no part at all it is the undefined language. -/
structure Language where
  /-- The primary language, or a tag that is only known as a whole. -/
  language : Option String := none
  /-- Extended languages without a language of their own, in the order given. -/
  extlangs : List String := []
  /-- The script, in title case. -/
  script : Option String := none
  /-- The territory, in upper case. -/
  territory : Option String := none
  /-- Variants in the order given. -/
  variants : List String := []
  /-- Extensions with their singletons, in the order given. -/
  extensions : List String := []
  /-- The private-use part with its leading `x`. -/
  privateUse : Option String := none
deriving DecidableEq, Inhabited

namespace Language

/-- The language of which nothing is known. -/
def undefined : Language := {}

/-- Join subtags with hyphens. -/
def joinSubtags (subtags : List String) : String :=
  String.intercalate "-" subtags

/-- Subtags in increasing order. -/
def sortSubtags (subtags : List String) : List String :=
  subtags.mergeSort fun first second => decide (first ≤ second)

/-- The text of a language: extended languages and variants are sorted. -/
def tag (language : Language) : String :=
  joinSubtags <|
    language.language.getD "und"
      :: sortSubtags language.extlangs
      ++ language.script.toList
      ++ language.territory.toList
      ++ sortSubtags language.variants
      ++ language.extensions
      ++ language.privateUse.toList

/-- One classified part of a tag. -/
inductive Subtag where
  | language (code : String)
  | extlang (code : String)
  | script (code : String)
  | territory (code : String)
  | variant (code : String)
  | extension (code : String)
  | privateUse (code : String)
deriving DecidableEq

/-- What may come next in a tag; everything later in the order may come as well. -/
inductive Position where
  | extlang
  | extlangRun (left : Nat)
  | script
  | territory
  | variant
deriving DecidableEq

/-- A position's place in the order of a tag. -/
def Position.rank : Position -> Nat
  | extlang => 0
  | extlangRun _ => 1
  | script => 1
  | territory => 2
  | variant => 3

/-- A letter that a tag may hold. -/
def isLetter (c : Char) : Bool :=
  c.isAlpha

/-- All characters of a text satisfy a test. -/
def allChars (test : Char -> Bool) (text : String) : Bool :=
  text.toList.all test

/-- First letter in upper case, the others in lower case. -/
def titleCase (text : String) : String :=
  match text.toList with
  | [] => ""
  | first :: rest => String.ofList (first.toUpper :: rest.map Char.toLower)

/-- All letters in upper case. -/
def upperCase (text : String) : String :=
  String.ofList (text.toList.map Char.toUpper)

/--
Lower case and hyphens for underscores, as keys of the replacement tables have it.  The
Kelvin sign is the only character outside ASCII whose lower case is inside it.
-/
def normalize (text : String) : String :=
  String.ofList <| text.toList.map fun c =>
    if c = '_' then '-' else if c = '\u212A' then 'k' else c.toLower

/-- The part that a subtag of more than one character is, judged by its length and letters. -/
def classify (subtag : String) : Option (Position × Subtag) :=
  match subtag.length with
  | 2 => if allChars isLetter subtag then some (.territory, .territory (upperCase subtag)) else none
  | 3 =>
      if allChars isLetter subtag then some (.extlang, .extlang subtag)
      else if allChars Char.isDigit subtag then some (.territory, .territory subtag)
      else none
  | 4 =>
      if allChars isLetter subtag then some (.script, .script (titleCase subtag))
      else if (subtag.toList.take 1).all Char.isDigit then some (.variant, .variant subtag)
      else none
  | 5 | 6 | 7 | 8 => some (.variant, .variant subtag)
  | _ => none

/-- What is expected after a part. -/
def Position.after : Position -> Position
  | extlang => .extlangRun 2
  | extlangRun left => .extlangRun (left - 1)
  | script => .territory
  | territory => .variant
  | variant => .variant

/--
Read the rest of a tag inside an extension whose subtags so far are `current`, the last
one first.  An extension needs a subtag after its singleton.
-/
def readExtensions (current : List String) : List String -> Option (List Subtag)
  | [] =>
      if current.length < 2 then none
      else some [.extension (joinSubtags current.reverse)]
  | subtag :: rest =>
      if subtag.length ≠ 1 then readExtensions (subtag :: current) rest
      else if current.length < 2 then none
      else if subtag = "x" then
        if rest.isEmpty then none
        else some [.extension (joinSubtags current.reverse),
          .privateUse (joinSubtags (subtag :: rest))]
      else
        (readExtensions [subtag] rest).map (.extension (joinSubtags current.reverse) :: ·)

/-- Read the rest of a tag from a singleton on. -/
def readSingleton (singleton : String) (rest : List String) : Option (List Subtag) :=
  if rest.isEmpty then none
  else if singleton = "x" then some [.privateUse (joinSubtags (singleton :: rest))]
  else readExtensions [singleton] rest

/--
Read the subtags after the language.  A run of extended languages holds up to three
subtags of three characters, of whatever kind.
-/
def readSubtags (position : Position) : List String -> Option (List Subtag)
  | [] => some []
  | subtag :: rest =>
      if subtag.length = 1 then readSingleton subtag rest
      else
        match position, subtag.length with
        | .extlangRun (left + 1), 3 =>
            (readSubtags (.extlangRun left) rest).map (.extlang subtag :: ·)
        | _, _ =>
            match classify subtag with
            | none => none
            | some (place, part) =>
                if place.rank < position.rank then none
                else (readSubtags place.after rest).map (part :: ·)

/-- Tags with a meaning of their own that do not follow the grammar. -/
def grandfathered : List String := [
    "en-gb-oed", "i-ami", "i-bnn", "i-default", "i-enochian", "i-hak", "i-klingon", "i-lux",
    "i-mingo", "i-navajo", "i-pwn", "i-tao", "i-tay", "i-tsu", "sgn-be-fr", "sgn-be-nl",
    "sgn-ch-de", "art-lojban", "cel-gaulish", "no-bok", "no-nyn", "zh-guoyu", "zh-hakka",
    "zh-min", "zh-min-nan", "zh-xiang"
  ]

/-- The runs of characters between hyphens. -/
def splitHyphens : List Char -> List (List Char)
  | [] => [[]]
  | c :: rest =>
      if c = '-' then [] :: splitHyphens rest
      else
        match splitHyphens rest with
        | [] => [[c]]
        | first :: others => (c :: first) :: others

/-- One to eight letters and digits. -/
def isSubtag (text : String) : Bool :=
  1 ≤ text.length && text.length ≤ 8 && allChars Char.isAlphanum text

/-- The parts of a tag by the grammar alone; a malformed tag has none. -/
def subtags? (text : String) : Option (List Subtag) :=
  let isAscii := allChars (·.toNat < 0x80) text
  let text := normalize text
  if !isAscii then none
  else if grandfathered.contains text then some [.language text]
  else
    let parts := (splitHyphens text.toList).map String.ofList
    if !parts.all isSubtag then none
    else
      match parts with
      | [] => none
      | first :: rest =>
          if first = "x" then if rest.isEmpty then none else some [.language text]
          else if 2 ≤ first.length ∧ first.length ≤ 4 then
            (readSubtags .extlang rest).map (.language first :: ·)
          else none

/-- Parts that `other` has take the place of those of `language`. -/
def merge (language other : Language) : Language where
  language := other.language <|> language.language
  extlangs := if other.extlangs.isEmpty then language.extlangs else other.extlangs
  script := other.script <|> language.script
  territory := other.territory <|> language.territory
  variants := if other.variants.isEmpty then language.variants else other.variants
  extensions := if other.extensions.isEmpty then language.extensions else other.extensions
  privateUse := other.privateUse <|> language.privateUse

/--
Add one part.  `preferred` gives the language that a language key stands for, if it has a
preferred form.
-/
def addSubtag
    (preferred : String -> Option Language)
    (language : Language) : Subtag -> Language
  | .language code =>
      if code = "und" then language
      else
        match preferred code with
        | some replacement => language.merge replacement
        | none => { language with language := some code }
  | .extlang code =>
      match language.language.bind fun primary => preferred (normalize (primary ++ "-" ++ code)) with
      | some replacement => language.merge replacement
      | none => { language with extlangs := language.extlangs ++ [code] }
  | .script code => { language with script := some code }
  | .territory code =>
      { language with
        territory := some ((lookup territoryReplacements (normalize code)).getD code) }
  | .variant code => { language with variants := language.variants ++ [code] }
  | .extension code => { language with extensions := language.extensions ++ [code] }
  | .privateUse code => { language with privateUse := some code }

/--
The language of a well-formed tag.  The first argument bounds how often a preferred form
has a preferred form in turn.
-/
def resolve? : Nat -> String -> Option Language
  | 0, _ => none
  | depth + 1, text =>
      let text := (lookup languageReplacements (normalize text)).getD text
      let preferred (key : String) : Option Language :=
        (lookup languageReplacements key).bind (resolve? depth)
      (subtags? text).map fun subtags => subtags.foldl (addSubtag preferred) {}

/-- Preferred forms never lead to a preferred form more often than this. -/
def replacementDepth : Nat := 4

/-- The language of a stored tag: absent, empty and malformed ones are undefined. -/
def parse (stored : Option String) : Language :=
  match stored with
  | none => undefined
  | some text => if text.isEmpty then undefined else (resolve? replacementDepth text).getD undefined

end Language
end InstanceDirectory
