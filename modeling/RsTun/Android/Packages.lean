/-
**Reading `packages.xml` by a search for words.**

`parse_packages_xml` looks at each line for the word of a tag, and for the first place where an
attribute's name stands in front of `="`.

* `Document` — a text with one element per line, as it is written.
* `extractTagAttrStr_body` — what the search reads from the line of an element.
* **`parsePackagesXml_exact_iff`** — each line contributes what it should, and only then, exactly
  when every element is read as if its attributes were looked up by their names.
-/

import Mathlib.Logic.Function.Basic
import RsTun.Config.Standard
import RsTun.Library.Search

namespace RsTun.Android

open Library.Search

/-- The characters of a text. -/
abbrev Text := List Char

/-! ### The parser -/

/-- `str::split_inclusive('\n')`. -/
def splitInclusive : Text → List Text
  | [] => []
  | char :: rest =>
      if char = '\n' then [char] :: splitInclusive rest
      else match splitInclusive rest with
        | [] => [[char]]
        | line :: others => (char :: line) :: others

/-- A line without the end of line that it has. -/
def stripNewline (line : Text) : Text :=
  if line.getLast? = some '\n' then
    if line.dropLast.getLast? = some '\r' then line.dropLast.dropLast else line.dropLast
  else line

/-- `str::lines`. -/
def lines (text : Text) : List Text := (splitInclusive text).map stripNewline

/-- `str::trim`. -/
def trimText (text : Text) : Text := (trim (.ofList text)).toList

/-- `extract_tag_attr_str`. -/
def extractTagAttrStr (line tag attr : Text) : Option Text :=
  if line.head? ≠ some '<' ∨ ¬ tag <:+: line then none
  else do
    let needle := attr ++ ['=', '"']
    let start ← find needle line
    let valueStart := start + needle.length
    let valueEnd ← find ['"'] (line.drop valueStart)
    return (line.drop valueStart).take valueEnd

/-- `extract_tag_attr_u32`. -/
def extractTagAttrU32 (std : StdText) (line tag attr : Text) : Option UInt32 :=
  (extractTagAttrStr line tag attr).bind fun value => std.parseU32 (.ofList value)

/-- The maps that a `packages.xml` is read into. -/
structure PackageMaps where
  idByPackage : String → Option UInt32
  sharedByPackage : String → Option UInt32
  packageById : UInt32 → Option String
  sharedById : UInt32 → Option String

/-- `HashMap::insert`. -/
def insert {Key Value : Type} [DecidableEq Key] (map : Key → Option Value) (key : Key)
    (value : Value) : Key → Option Value :=
  Function.update map key (some value)

/-- `HashMap::entry(key).or_insert(value)`. -/
def orInsert {Key Value : Type} [DecidableEq Key] (map : Key → Option Value) (key : Key)
    (value : Value) : Key → Option Value :=
  if (map key).isSome then map else insert map key value

def packageTag : Text := "package".toList
def sharedUserTag : Text := "shared-user".toList
def nameAttr : Text := "name".toList
def userIdAttr : Text := "userId".toList

variable (std : StdText)

/-- The first test of the loop. -/
def insertPackage (maps : PackageMaps) (line : Text) : PackageMaps :=
  match extractTagAttrU32 std line packageTag userIdAttr with
  | some uid => match extractTagAttrStr line packageTag nameAttr with
    | some name => { maps with
        idByPackage := insert maps.idByPackage (.ofList name) uid
        packageById := orInsert maps.packageById uid (.ofList name) }
    | none => maps
  | none => maps

/-- The second test of the loop. -/
def insertSharedUser (maps : PackageMaps) (line : Text) : PackageMaps :=
  match extractTagAttrU32 std line sharedUserTag userIdAttr with
  | some uid => match extractTagAttrStr line sharedUserTag nameAttr with
    | some name => { maps with
        sharedByPackage := insert maps.sharedByPackage (.ofList name) uid
        sharedById := orInsert maps.sharedById uid (.ofList name) }
    | none => maps
  | none => maps

/-- What the loop does with a line. -/
def parseLine (maps : PackageMaps) (line : Text) : PackageMaps :=
  insertSharedUser std (insertPackage std maps (trimText line)) (trimText line)

/-- `parse_packages_xml`. -/
def parsePackagesXml (text : Text) (maps : PackageMaps) : PackageMaps :=
  (lines text).foldl (parseLine std) maps

/-! ### Texts with one element per line -/

/-- White space within a line. -/
def Blank (text : Text) : Prop := ∀ char ∈ text, isWhitespace char = true ∧ char ≠ '\n'

instance decidableBlank (text : Text) : Decidable (Blank text) := List.decidableBAll _ text

/-- A word: no white space and no quotes. -/
def Word (text : Text) : Prop := ∀ char ∈ text, isWhitespace char = false ∧ char ≠ '"'

instance decidableWord (text : Text) : Decidable (Word text) := List.decidableBAll _ text

/-- What may stand between quotes. -/
def Clean (text : Text) : Prop := ∀ char ∈ text, char ≠ '"' ∧ char ≠ '\n'

instance decidableClean (text : Text) : Decidable (Clean text) := List.decidableBAll _ text

/-- An attribute, with the white space in front of it. -/
structure Attribute where
  space : Text
  name : Text
  value : Text
  apart : space ≠ []
  blank : Blank space
  word : Word name
  clean : Clean value

/-- An attribute as it is written. -/
def Attribute.text (item : Attribute) : Text :=
  item.space ++ (item.name ++ '=' :: '"' :: (item.value ++ ['"']))

/-- How an element ends: as the start of its content, without content, as an instruction, or with
its own end tag. -/
inductive Ending where
  | start
  | empty
  | instruction
  | closed
  deriving DecidableEq

def Ending.text (tag : Text) : Ending → Text
  | .start => ['>']
  | .empty => ['/', '>']
  | .instruction => ['?', '>']
  | .closed => '>' :: '<' :: '/' :: (tag ++ ['>'])

/-- An element with the white space around it. -/
structure Element where
  indent : Text
  tag : Text
  attributes : List Attribute
  gap : Text
  ending : Ending
  trail : Text
  indent_blank : Blank indent
  tag_word : Word tag
  gap_blank : Blank gap
  trail_blank : Blank trail

namespace Element

/-- What an element has in front of its end. -/
def attributesText (attributes : List Attribute) (rest : Text) : Text :=
  attributes.foldr (fun item rest => item.text ++ rest) rest

/-- An element as it is written, without the white space around it. -/
def body (element : Element) : Text :=
  '<' :: (element.tag ++ attributesText element.attributes
    (element.gap ++ element.ending.text element.tag))

/-- The line of an element. -/
def text (element : Element) : Text := element.indent ++ (element.body ++ element.trail)

/-- The value of the attribute with exactly this name. -/
def value (element : Element) (attr : Text) : Option Text :=
  (element.attributes.find? (·.name = attr)).map (·.value)

end Element

/-- A line: an element, or a text without elements, such as an end tag, an instruction or white
space, without double quotes. -/
inductive Line where
  | element (written : Element)
  | plain (text : Text) (clean : Clean text)
    (bare : ∀ before char behind, text = before ++ '<' :: char :: behind →
      char = '/' ∨ char = '?' ∨ char = '!')

def Line.text : Line → Text
  | .element written => written.text
  | .plain text _ _ => text

/-- **The text has these lines**; the last one may go without its end. -/
inductive Document : List Line → Text → Prop
  | nil : Document [] []
  | last (line : Line) : line.text ≠ [] → Document [line] line.text
  | cons (line : Line) {lines : List Line} {text : Text} : Document lines text →
      Document (line :: lines) (line.text ++ '\n' :: text)

/-! ### Lines and white space -/

theorem trimText_eq (text : Text) : trimText text
    = ((text.dropWhile isWhitespace).reverse.dropWhile isWhitespace).reverse := by
  rw [trimText, trim, String.toList_ofList, String.toList_ofList]

/-- White space at the end is trimmed. -/
theorem trimText_concat (text : Text) {char : Char} (blank : isWhitespace char = true) :
    trimText (text ++ [char]) = trimText text := by
  rw [trimText_eq, trimText_eq, List.dropWhile_append]
  split
  case isTrue empty =>
    rw [List.isEmpty_iff.mp empty, List.dropWhile_cons_of_pos blank]
    rfl
  case isFalse =>
    rw [List.reverse_append, List.reverse_singleton, List.singleton_append,
      List.dropWhile_cons_of_pos blank]

/-- White space around a text is trimmed. -/
theorem trimText_around {indent trail middle : Text} {first last : Char}
    (blank : Blank indent) (blank' : Blank trail) (solid : isWhitespace first = false)
    (solid' : isWhitespace last = false) :
    trimText (indent ++ (first :: (middle ++ [last]) ++ trail)) = first :: (middle ++ [last]) := by
  rw [trimText_eq, List.dropWhile_append_of_pos fun char mem => (blank char mem).1,
    List.cons_append, List.dropWhile_cons_of_neg (by rw [solid]; exact Bool.false_ne_true),
    ← List.cons_append, List.reverse_append, List.dropWhile_append_of_pos]
  · rw [← List.cons_append, List.reverse_append, List.reverse_singleton, List.singleton_append,
      List.dropWhile_cons_of_neg (by rw [solid']; exact Bool.false_ne_true), List.reverse_cons,
      List.reverse_reverse]
  · exact fun char mem => (blank' char (List.mem_reverse.mp mem)).1

theorem mem_of_mem_trimText {text : Text} {char : Char} (mem : char ∈ trimText text) :
    char ∈ text := by
  rw [trimText_eq, List.mem_reverse] at mem
  exact List.dropWhile_subset _ (List.mem_reverse.mp (List.dropWhile_subset _ mem))

/-- Without its end of line, a line is the same up to white space. -/
theorem trimText_stripNewline (text : Text) :
    trimText (stripNewline (text ++ ['\n'])) = trimText text := by
  rw [stripNewline, if_pos List.getLast?_concat, List.dropLast_concat]
  split
  case isTrue carriage =>
    obtain ⟨front, rfl⟩ := List.getLast?_eq_some_iff.mp carriage
    rw [List.dropLast_concat, trimText_concat front (by decide)]
  case isFalse => rfl

theorem stripNewline_of_not_mem {text : Text} (single : '\n' ∉ text) : stripNewline text = text :=
  if_neg fun ends => single (List.mem_of_getLast? ends)

/-- The first line of a text. -/
theorem splitInclusive_line {line : Text} (single : '\n' ∉ line) (rest : Text) :
    splitInclusive (line ++ '\n' :: rest) = (line ++ ['\n']) :: splitInclusive rest := by
  induction line with
  | nil => exact if_pos rfl
  | cons char line ih =>
      obtain ⟨other, single⟩ := not_or.mp (mt List.mem_cons.mpr single)
      rw [List.cons_append, splitInclusive, if_neg (Ne.symm other), ih single]
      rfl

/-- A last line without its end. -/
theorem splitInclusive_last {line : Text} (single : '\n' ∉ line) (nonempty : line ≠ []) :
    splitInclusive line = [line] := by
  induction line with
  | nil => exact absurd rfl nonempty
  | cons char line ih =>
      obtain ⟨other, single⟩ := not_or.mp (mt List.mem_cons.mpr single)
      rw [splitInclusive, if_neg (Ne.symm other)]
      cases line with
      | nil => rfl
      | cons next line => rw [ih single (List.cons_ne_nil _ _)]

/-! ### What is read from the line of an element -/

/-- The search for the attribute, without the tests of the line. -/
def readAttr (attr line : Text) : Option Text :=
  (after (attr ++ ['='] ++ ['"']) line).bind (upTo '"')

theorem extractTagAttrStr_eq (line tag attr : Text) : extractTagAttrStr line tag attr
    = if line.head? = some '<' ∧ tag <:+: line then readAttr attr line else none := by
  have needle : attr ++ ['=', '"'] = attr ++ ['='] ++ ['"'] := by
    rw [List.append_assoc, List.singleton_append]
  unfold extractTagAttrStr
  by_cases applies : line.head? = some '<' ∧ tag <:+: line
  · have tests : ¬ (line.head? ≠ some '<' ∨ ¬ tag <:+: line) := by
      rw [not_or, not_not, not_not]
      exact applies
    rw [if_pos applies, if_neg tests, readAttr, after, Option.bind_map, ← needle]
    refine congrArg (Option.bind _) (funext fun start => ?_)
    rw [Function.comp_apply, upTo, Option.map_eq_bind]
    rfl
  · have tests : line.head? ≠ some '<' ∨ ¬ tag <:+: line := not_and_or.mp applies
    rw [if_neg applies, if_pos tests]

/-- The text in front of the next opening quote. -/
def upToNext : List Attribute → Option Text
  | [] => none
  | next :: _ => some (next.space ++ (next.name ++ ['=']))

/-- **What the search reads** for an attribute: the value of the first attribute whose name ends
with the searched one; or, if an attribute whose value ends with that name and `=` comes first,
what stands in front of the next quote. -/
def readFirst (attr : Text) : List Attribute → Option Text
  | [] => none
  | item :: rest =>
      if attr <:+ item.name then some item.value
      else if attr ++ ['='] <:+ item.value then upToNext rest
      else readFirst attr rest

/-- An attribute as it is written, at the end of a line. -/
theorem attributesText_cons (front rest : Text) (item : Attribute) (others : List Attribute) :
    front ++ Element.attributesText (item :: others) rest
      = front ++ (item.space ++ (item.name ++ ['=']))
        ++ '"' :: (item.value ++ '"' :: Element.attributesText others rest) := by
  simp only [Element.attributesText, List.foldr_cons, Attribute.text, List.append_assoc,
    List.cons_append, List.nil_append]

/-- The text in front of the value of an attribute has no quotes. -/
theorem quote_not_mem_name {front : Text} (clean : '"' ∉ front) (item : Attribute) :
    '"' ∉ front ++ (item.space ++ (item.name ++ ['='])) := by
  simp only [List.mem_append, not_or]
  exact ⟨clean, fun mem => absurd (item.blank _ mem).1 (by decide),
    fun mem => (item.word _ mem).2 rfl, by decide⟩

/-- The name in front of `=` is that of the attribute, as white space is in front of it. -/
theorem suffix_name_iff {attr : Text} (word : Word attr) (front : Text) (item : Attribute) :
    attr ++ ['='] <:+ front ++ (item.space ++ (item.name ++ ['='])) ↔ attr <:+ item.name := by
  obtain ⟨start, char, last⟩ : ∃ start char, item.space = start ++ [char] :=
    (List.eq_nil_or_concat' item.space).resolve_left item.apart
  have blank : isWhitespace char = true :=
    (item.blank char (last ▸ List.mem_append_right _ (List.mem_singleton_self _))).1
  have absent : char ∉ attr := fun mem => by
    rw [(word char mem).1] at blank
    cases blank
  have split : front ++ (item.space ++ (item.name ++ ['=']))
      = (front ++ start) ++ char :: item.name ++ ['='] := by
    simp only [last, List.append_assoc, List.cons_append, List.nil_append]
  rw [split, suffix_concat_iff, suffix_behind_iff absent]

/-- **The search over the attributes.** -/
theorem readAttr_attributes {attr : Text} (word : Word attr) {rest : Text} (clean : '"' ∉ rest)
    (attributes : List Attribute) {front : Text} (clean' : '"' ∉ front) :
    readAttr attr (front ++ Element.attributesText attributes rest)
      = readFirst attr attributes := by
  have stem : '"' ∉ attr ++ ['='] := by
    rw [List.mem_append, not_or]
    exact ⟨fun mem => (word _ mem).2 rfl, by decide⟩
  induction attributes generalizing front with
  | nil =>
      have none : '"' ∉ front ++ rest := by
        rw [List.mem_append, not_or]
        exact ⟨clean', clean⟩
      rw [readAttr, readFirst]
      show (after _ (front ++ rest)).bind _ = _
      rw [after_eq_none (List.mem_append_right _ (List.mem_singleton_self _)) none,
        Option.bind_none]
  | cons item others ih =>
      have value : '"' ∉ item.value := fun mem => (item.clean _ mem).1 rfl
      rw [readAttr, attributesText_cons, after_quoted stem (quote_not_mem_name clean' item),
        readFirst]
      simp only [suffix_name_iff word]
      by_cases named : attr <:+ item.name
      · rw [if_pos named, if_pos named, Option.bind_some, upTo_quote value]
      rw [if_neg named, if_neg named, after_quoted stem value]
      by_cases within : attr ++ ['='] <:+ item.value
      · rw [if_pos within, if_pos within, Option.bind_some]
        cases others with
        | nil => exact upTo_eq_none clean
        | cons next others =>
            have split := attributesText_cons [] rest next others
            rw [List.nil_append, List.nil_append] at split
            have clean'' := quote_not_mem_name List.not_mem_nil next
            rw [List.nil_append] at clean''
            rw [split, upTo_quote clean'', upToNext]
      · rw [if_neg within, if_neg within]
        exact ih List.not_mem_nil

/-! ### Where a tag's word occurs -/

/-- A word that may stand within a name or a value only. -/
def TagWord (tag : Text) : Prop :=
  tag ≠ [] ∧ ∀ char ∈ tag, isWhitespace char = false ∧ char ∉ ['<', '>', '/', '?', '=', '"']

instance decidableTagWord (tag : Text) : Decidable (TagWord tag) :=
  @instDecidableAnd _ _ _ (List.decidableBAll _ tag)

/-- The word occurs in the name or the value of an attribute. -/
def Attribute.Mentions (item : Attribute) (tag : Text) : Prop :=
  tag <:+: item.name ∨ tag <:+: item.value

/-- The word occurs in the element. -/
def Element.Mentions (element : Element) (tag : Text) : Prop :=
  tag <:+: element.tag ∨ ∃ item ∈ element.attributes, item.Mentions tag

theorem TagWord.not_mem_marks {tag marks : Text} (word : TagWord tag)
    (listed : marks ⊆ ['<', '>', '/', '?', '=', '"']) : ∀ char ∈ marks, char ∉ tag :=
  fun char mem inside => (word.2 char inside).2 (listed mem)

theorem TagWord.not_mem_blank {tag space : Text} (word : TagWord tag) (blank : Blank space) :
    ∀ char ∈ space, char ∉ tag := by
  intro char mem inside
  have white := (blank char mem).1
  rw [(word.2 char inside).1] at white
  cases white

/-- A word in the end of an element is one in its end tag. -/
theorem infix_ending_iff {tag : Text} (word : TagWord tag) {gap : Text} (blank : Blank gap)
    (front own : Text) (ending : Ending) :
    tag <:+: front ++ (gap ++ ending.text own)
      ↔ tag <:+: front ∨ ending = .closed ∧ tag <:+: own := by
  have behind : ∀ marks rest, marks ≠ [] → marks ⊆ ['<', '>', '/', '?', '=', '"'] →
      (tag <:+: front ++ (gap ++ (marks ++ rest)) ↔ tag <:+: front ∨ tag <:+: rest) := by
    intro marks rest some listed
    rw [← List.append_assoc gap,
      infix_between_iff word.1 (List.append_ne_nil_of_right_ne_nil _ some)]
    intro char mem
    exact (List.mem_append.mp mem).elim (word.not_mem_blank blank char)
      (word.not_mem_marks listed char)
  have plain : ∀ marks, marks ≠ [] → marks ⊆ ['<', '>', '/', '?', '=', '"'] →
      (tag <:+: front ++ (gap ++ marks) ↔ tag <:+: front) := by
    intro marks some listed
    have split := behind marks [] some listed
    rwa [List.append_nil, List.infix_nil, or_iff_left word.1] at split
  cases ending with
  | start => rw [Ending.text, plain _ (by decide) (by decide), or_iff_left (by simp)]
  | empty => rw [Ending.text, plain _ (by decide) (by decide), or_iff_left (by simp)]
  | instruction => rw [Ending.text, plain _ (by decide) (by decide), or_iff_left (by simp)]
  | closed =>
      have inner := @infix_sep_iff _ tag own [] '>'
        (@TagWord.not_mem_marks tag ['>'] word (by decide) '>' (List.mem_singleton_self _))
      rw [List.infix_nil, or_iff_left word.1] at inner
      rw [and_iff_right rfl, ← inner]
      exact behind ['>', '<', '/'] (own ++ ['>']) (by decide) (by decide)

/-- A word in the attributes and what follows them. -/
theorem infix_attributes_iff {tag : Text} (word : TagWord tag) {rest : Text} {held : Prop}
    (apart : ∀ front, tag <:+: front ++ rest ↔ tag <:+: front ∨ held)
    (attributes : List Attribute) (front : Text) :
    tag <:+: front ++ Element.attributesText attributes rest
      ↔ tag <:+: front ∨ (∃ item ∈ attributes, item.Mentions tag) ∨ held := by
  induction attributes generalizing front with
  | nil => simpa [Element.attributesText] using apart front
  | cons item others ih =>
      have own := ih []
      rw [List.infix_nil, or_iff_right word.1, List.nil_append] at own
      have value : tag <:+: item.value ++ '"' :: Element.attributesText others rest
          ↔ tag <:+: item.value ∨ tag <:+: Element.attributesText others rest :=
        infix_sep_iff
          (@TagWord.not_mem_marks tag ['"'] word (by decide) '"' (List.mem_singleton_self _))
      have name : tag <:+: item.name
            ++ (['=', '"'] ++ (item.value ++ '"' :: Element.attributesText others rest))
          ↔ tag <:+: item.name
            ∨ tag <:+: item.value ++ '"' :: Element.attributesText others rest :=
        infix_between_iff word.1 (by decide) (word.not_mem_marks (by decide))
      have split := attributesText_cons front rest item others
      have whole : front ++ Element.attributesText (item :: others) rest
          = front ++ (item.space ++ (item.name
            ++ (['=', '"'] ++ (item.value ++ '"' :: Element.attributesText others rest)))) := by
        rw [split]
        simp only [List.append_assoc, List.cons_append, List.nil_append]
      rw [whole, infix_between_iff word.1 item.apart (word.not_mem_blank item.blank), name, value,
        own, List.exists_mem_cons_iff, Attribute.Mentions]
      simp only [or_assoc]

/-- **Where the word occurs** in the line of an element. -/
theorem infix_body_iff {tag : Text} (word : TagWord tag) (element : Element) :
    tag <:+: element.body ↔ element.Mentions tag := by
  have opening := @infix_behind_iff _ tag (element.tag ++ Element.attributesText element.attributes
    (element.gap ++ element.ending.text element.tag)) ['<'] word.1 (word.not_mem_marks (by decide))
  rw [List.singleton_append] at opening
  rw [Element.body, opening, infix_attributes_iff word fun front =>
    infix_ending_iff word element.gap_blank front element.tag element.ending, Element.Mentions]
  constructor
  · rintro (own | items | ⟨-, own⟩)
    · exact Or.inl own
    · exact Or.inr items
    · exact Or.inl own
  · exact Or.imp_right Or.inl

/-! ### What a line contributes -/

/-- A pair of the values of two attributes, the first of which is a number. -/
def pairOf (userId name : Option Text) : Option (String × UInt32) := do
  let uid ← userId.bind fun value => std.parseU32 (.ofList value)
  let name ← name
  return (.ofList name, uid)

/-- What a line contributes to the map of a tag. -/
def contribution (tag line : Text) : Option (String × UInt32) :=
  pairOf std (extractTagAttrStr (trimText line) tag userIdAttr)
    (extractTagAttrStr (trimText line) tag nameAttr)

theorem word_nameAttr : Word nameAttr := by decide

theorem word_userIdAttr : Word userIdAttr := by decide

namespace Element

variable (element : Element)

/-- The name and the user ID of an element, by the exact names of the attributes. -/
def own : Option (String × UInt32) :=
  pairOf std (element.value userIdAttr) (element.value nameAttr)

/-- The name and the user ID that the search reads from an element. -/
def read : Option (String × UInt32) :=
  pairOf std (readFirst userIdAttr element.attributes) (readFirst nameAttr element.attributes)

/-- What an element should contribute to the map of a tag. -/
def due (tag : Text) : Option (String × UInt32) :=
  if element.tag = tag then element.own std else none

/-- **The search reads no other than the element's own pair** for the map of the tag: from an
element of this tag the pair that its exact attributes give, and from another element which has the
tag's word in its own tag, in a name or in a value, nothing. -/
structure ReadsOwn (tag : Text) : Prop where
  same : element.tag = tag → element.read std = element.own std
  other : element.tag ≠ tag → element.Mentions tag → element.read std = none

theorem clean_ending : '"' ∉ element.gap ++ element.ending.text element.tag := by
  have own : '"' ∉ element.tag := fun mem => (element.tag_word _ mem).2 rfl
  rw [List.mem_append, not_or]
  refine ⟨fun mem => absurd (element.gap_blank _ mem).1 (by decide), ?_⟩
  cases element.ending with
  | start => simp [Ending.text]
  | empty => simp [Ending.text]
  | instruction => simp [Ending.text]
  | closed => simp [Ending.text, own]

/-- **What the search reads from the line of an element.** -/
theorem extractTagAttrStr_body {tag attr : Text} (word : TagWord tag) (word' : Word attr) :
    (element.Mentions tag →
        extractTagAttrStr element.body tag attr = readFirst attr element.attributes)
      ∧ (¬ element.Mentions tag → extractTagAttrStr element.body tag attr = none) := by
  have opens : element.body.head? = some '<' := rfl
  have front : '"' ∉ '<' :: element.tag := by
    rw [List.mem_cons, not_or]
    exact ⟨by decide, fun mem => (element.tag_word _ mem).2 rfl⟩
  have found := readAttr_attributes word' element.clean_ending element.attributes front
  have occurs := infix_body_iff word element
  rw [extractTagAttrStr_eq]
  refine ⟨fun mentions => ?_, fun never => if_neg fun tests => never (occurs.mp tests.2)⟩
  rw [if_pos ⟨opens, occurs.mpr mentions⟩]
  exact found

theorem exists_ending (tag : Text) (ending : Ending) :
    ∃ front, ending.text tag = front ++ ['>'] := by
  cases ending with
  | start => exact ⟨[], rfl⟩
  | empty => exact ⟨['/'], rfl⟩
  | instruction => exact ⟨['?'], rfl⟩
  | closed => exact ⟨'>' :: '<' :: '/' :: tag, rfl⟩

/-- The white space around an element is trimmed. -/
theorem trimText_text : trimText element.text = element.body := by
  obtain ⟨front, ends⟩ := exists_ending element.tag element.ending
  have closes : ∀ attributes : List Attribute,
      ∃ middle, attributesText attributes (element.gap ++ element.ending.text element.tag)
        = middle ++ ['>'] := by
    intro attributes
    induction attributes with
    | nil => exact ⟨element.gap ++ front, by rw [List.append_assoc, ← ends]; rfl⟩
    | cons item others ih =>
        obtain ⟨middle, same⟩ := ih
        refine ⟨item.text ++ middle, ?_⟩
        rw [List.append_assoc, ← same]
        rfl
  obtain ⟨middle, same⟩ := closes element.attributes
  have body : element.body = '<' :: (element.tag ++ middle ++ ['>']) := by
    rw [Element.body, same, List.append_assoc]
  rw [text, body, trimText_around element.indent_blank element.trail_blank (by decide) (by decide)]

/-- **An element contributes its due** exactly when the search reads no other than its own pair. -/
theorem contribution_eq_due_iff {tag : Text} (word : TagWord tag) :
    contribution std tag element.text = element.due std tag ↔ element.ReadsOwn std tag := by
  obtain ⟨userId, userIdNever⟩ := element.extractTagAttrStr_body word word_userIdAttr
  obtain ⟨name, -⟩ := element.extractTagAttrStr_body word word_nameAttr
  rw [contribution, trimText_text, due]
  by_cases own : element.tag = tag
  · have mentions : element.Mentions tag := Or.inl (own ▸ List.infix_rfl)
    rw [if_pos own, userId mentions, name mentions]
    exact ⟨fun same => ⟨fun _ => same, fun other => absurd own other⟩, fun reads => reads.same own⟩
  · rw [if_neg own]
    by_cases mentions : element.Mentions tag
    · rw [userId mentions, name mentions]
      exact ⟨fun none => ⟨fun same => absurd same own, fun _ _ => none⟩,
        fun reads => reads.other own mentions⟩
    · rw [userIdNever mentions]
      exact iff_of_true rfl ⟨fun same => absurd same own, fun _ there => absurd there mentions⟩

end Element

/-- Without quotes nothing is read. -/
theorem contribution_of_clean {text : Text} (clean : '"' ∉ text) (tag : Text) :
    contribution std tag text = none := by
  have none : ∀ attr, extractTagAttrStr (trimText text) tag attr = none := by
    intro attr
    rw [extractTagAttrStr_eq, readAttr,
      after_eq_none (List.mem_append_right _ (List.mem_singleton_self _)) fun mem =>
        clean (mem_of_mem_trimText mem), Option.bind_none, ite_self]
  rw [contribution, none]
  rfl

/-- What a line should contribute. -/
def Line.due (tag : Text) : Line → Option (String × UInt32)
  | .element written => written.due std tag
  | .plain _ _ _ => none

/-! ### The maps -/

/-- Inserting pairs, one after the other. -/
def insertAll (pairs : List (String × UInt32)) (map : String → Option UInt32) :
    String → Option UInt32 :=
  pairs.foldl (fun map pair => insert map pair.1 pair.2) map

theorem contribution_eq (tag line : Text) : contribution std tag line
    = (extractTagAttrU32 std (trimText line) tag userIdAttr).bind fun uid =>
      (extractTagAttrStr (trimText line) tag nameAttr).map fun name => (.ofList name, uid) := by
  rw [contribution, pairOf, extractTagAttrU32]
  simp only [Option.map_eq_bind]
  rfl

theorem insertPackage_maps (maps : PackageMaps) (line : Text) :
    (insertPackage std maps (trimText line)).idByPackage
        = insertAll (contribution std packageTag line).toList maps.idByPackage
      ∧ (insertPackage std maps (trimText line)).sharedByPackage = maps.sharedByPackage := by
  rw [contribution_eq, insertPackage]
  cases extractTagAttrU32 std (trimText line) packageTag userIdAttr with
  | none => exact ⟨rfl, rfl⟩
  | some uid => cases extractTagAttrStr (trimText line) packageTag nameAttr <;> exact ⟨rfl, rfl⟩

theorem insertSharedUser_maps (maps : PackageMaps) (line : Text) :
    (insertSharedUser std maps (trimText line)).idByPackage = maps.idByPackage
      ∧ (insertSharedUser std maps (trimText line)).sharedByPackage
        = insertAll (contribution std sharedUserTag line).toList maps.sharedByPackage := by
  rw [contribution_eq, insertSharedUser]
  cases extractTagAttrU32 std (trimText line) sharedUserTag userIdAttr with
  | none => exact ⟨rfl, rfl⟩
  | some uid => cases extractTagAttrStr (trimText line) sharedUserTag nameAttr <;> exact ⟨rfl, rfl⟩

/-- **What a line does** to the two maps by name. -/
theorem parseLine_maps (maps : PackageMaps) (line : Text) :
    (parseLine std maps line).idByPackage
        = insertAll (contribution std packageTag line).toList maps.idByPackage
      ∧ (parseLine std maps line).sharedByPackage
        = insertAll (contribution std sharedUserTag line).toList maps.sharedByPackage := by
  obtain ⟨ids, shared⟩ := insertPackage_maps std maps line
  obtain ⟨ids', shared'⟩ := insertSharedUser_maps std (insertPackage std maps (trimText line)) line
  rw [parseLine, ids', shared', ids, shared]
  exact ⟨rfl, rfl⟩

theorem insertAll_append (first second : List (String × UInt32)) (map : String → Option UInt32) :
    insertAll (first ++ second) map = insertAll second (insertAll first map) :=
  List.foldl_append

/-- **What all lines do** to the two maps by name. -/
theorem foldl_parseLine_maps (lines : List Text) (maps : PackageMaps) :
    (lines.foldl (parseLine std) maps).idByPackage
        = insertAll (lines.filterMap (contribution std packageTag)) maps.idByPackage
      ∧ (lines.foldl (parseLine std) maps).sharedByPackage
        = insertAll (lines.filterMap (contribution std sharedUserTag)) maps.sharedByPackage := by
  induction lines generalizing maps with
  | nil => exact ⟨rfl, rfl⟩
  | cons line lines ih =>
      obtain ⟨ids, shared⟩ := ih (parseLine std maps line)
      obtain ⟨ids', shared'⟩ := parseLine_maps std maps line
      have split : ∀ tag, (line :: lines).filterMap (contribution std tag)
          = (contribution std tag line).toList ++ lines.filterMap (contribution std tag) := by
        intro tag
        cases contributed : contribution std tag line with
        | none => rw [List.filterMap_cons_none contributed, Option.toList_none, List.nil_append]
        | some pair =>
            rw [List.filterMap_cons_some contributed, Option.toList_some, List.singleton_append]
      rw [List.foldl_cons, ids, shared, ids', shared', split, split, insertAll_append,
        insertAll_append]
      exact ⟨rfl, rfl⟩

theorem Blank.newline_not_mem {space : Text} (blank : Blank space) : '\n' ∉ space :=
  fun mem => (blank _ mem).2 rfl

theorem Word.newline_not_mem {word : Text} (solid : Word word) : '\n' ∉ word :=
  fun mem => absurd (solid _ mem).1 (by decide)

theorem Attribute.newline_not_mem (item : Attribute) : '\n' ∉ item.text := by
  have value : '\n' ∉ item.value := fun mem => (item.clean _ mem).2 rfl
  simp [Attribute.text, item.blank.newline_not_mem, item.word.newline_not_mem, value]

theorem Element.newline_not_mem (element : Element) : '\n' ∉ element.text := by
  have own := element.tag_word.newline_not_mem
  have ending : '\n' ∉ element.ending.text element.tag := by
    cases element.ending <;> simp [Ending.text, own]
  have attributes : '\n' ∉ attributesText element.attributes
      (element.gap ++ element.ending.text element.tag) := by
    induction element.attributes with
    | nil => simp [attributesText, element.gap_blank.newline_not_mem, ending]
    | cons item others ih =>
        show '\n' ∉ item.text ++ attributesText others _
        rw [List.mem_append, not_or]
        exact ⟨item.newline_not_mem, ih⟩
  simp [Element.text, Element.body, element.indent_blank.newline_not_mem,
    element.trail_blank.newline_not_mem, own, attributes]

/-- A line of a document is one line. -/
theorem Line.newline_not_mem (line : Line) : '\n' ∉ line.text := by
  cases line with
  | element written => exact written.newline_not_mem
  | plain text clean _ => exact fun mem => (clean _ mem).2 rfl

/-- **The lines of a document**, up to the white space around them. -/
theorem Document.lines_eq {doc : List Line} {text : Text} (document : Document doc text) :
    (lines text).map trimText = doc.map fun line => trimText line.text := by
  induction document with
  | nil => rfl
  | last line nonempty =>
      have single := line.newline_not_mem
      rw [lines, splitInclusive_last single nonempty, List.map_singleton, List.map_singleton,
        List.map_singleton, stripNewline_of_not_mem single]
  | @cons line doc text _ ih =>
      rw [lines, splitInclusive_line line.newline_not_mem, List.map_cons, List.map_cons,
        List.map_cons, trimText_stripNewline]
      exact congrArg _ ih

/-- **The text was read exactly**: each line contributes its due to the map of each tag, and so the
maps by name hold the pairs of the elements of their tags, with later lines winning. -/
structure ParsedExactly (doc : List Line) (maps after : PackageMaps) : Prop where
  contributes : ∀ line ∈ doc, ∀ tag ∈ [packageTag, sharedUserTag],
    contribution std tag line.text = line.due std tag
  idByPackage : after.idByPackage
    = insertAll (doc.filterMap (Line.due std packageTag)) maps.idByPackage
  sharedByPackage : after.sharedByPackage
    = insertAll (doc.filterMap (Line.due std sharedUserTag)) maps.sharedByPackage

theorem tagWord_of_mem {tag : Text} (mem : tag ∈ [packageTag, sharedUserTag]) : TagWord tag := by
  have all : ∀ tag ∈ [packageTag, sharedUserTag], TagWord tag := by decide
  exact all tag mem

/-- What the lines of a text contribute is what the lines of the document do. -/
theorem filterMap_contribution {doc : List Line} {text : Text} (document : Document doc text)
    (tag : Text) : (lines text).filterMap (contribution std tag)
      = doc.filterMap fun line => contribution std tag line.text := by
  have same := congrArg (List.filterMap fun line =>
    pairOf std (extractTagAttrStr line tag userIdAttr) (extractTagAttrStr line tag nameAttr))
    document.lines_eq
  rwa [List.filterMap_map, List.filterMap_map] at same

/-- A line contributes its due exactly when, if it is an element, the search reads its own pair. -/
theorem contribution_line_iff {tag : Text} (word : TagWord tag) (line : Line) :
    contribution std tag line.text = line.due std tag
      ↔ ∀ element, line = .element element → element.ReadsOwn std tag := by
  cases line with
  | element written =>
      rw [Line.text, Line.due, written.contribution_eq_due_iff std word]
      exact ⟨fun reads element same => Line.element.inj same ▸ reads, fun all => all written rfl⟩
  | plain text clean _ =>
      have quote : '"' ∉ text := fun mem => (clean _ mem).1 rfl
      exact iff_of_true (contribution_of_clean std quote tag) fun _ same => nomatch same

/-- **`parse_packages_xml` reads a text with one element per line exactly** if and only if the
search reads from each element no other than its own pair. -/
theorem parsePackagesXml_exact_iff {doc : List Line} {text : Text} (document : Document doc text)
    (maps : PackageMaps) :
    ParsedExactly std doc maps (parsePackagesXml std text maps)
      ↔ ∀ element, .element element ∈ doc → ∀ tag ∈ [packageTag, sharedUserTag],
        element.ReadsOwn std tag := by
  have each : (∀ line ∈ doc, ∀ tag ∈ [packageTag, sharedUserTag],
        contribution std tag line.text = line.due std tag)
      ↔ ∀ element, .element element ∈ doc → ∀ tag ∈ [packageTag, sharedUserTag],
        element.ReadsOwn std tag := by
    constructor
    · intro contributes element mem tag listed
      have word := tagWord_of_mem listed
      exact (contribution_line_iff std word _).mp (contributes _ mem tag listed) element rfl
    · intro reads line mem tag listed
      refine (contribution_line_iff std (tagWord_of_mem listed) line).mpr ?_
      exact fun element same => reads element (same ▸ mem) tag listed
  rw [← each]
  refine ⟨ParsedExactly.contributes, fun contributes => ⟨contributes, ?_, ?_⟩⟩
  · rw [parsePackagesXml, (foldl_parseLine_maps std _ _).1, filterMap_contribution std document]
    refine congrArg (insertAll · _) (List.filterMap_congr fun line mem => ?_)
    exact contributes line mem packageTag (by simp)
  · rw [parsePackagesXml, (foldl_parseLine_maps std _ _).2, filterMap_contribution std document]
    refine congrArg (insertAll · _) (List.filterMap_congr fun line mem => ?_)
    exact contributes line mem sharedUserTag (by simp)

/-- The attribute `name="com.example.app"`. -/
def appName : Attribute where
  space := [' ']
  name := "name".toList
  value := "com.example.app".toList
  apart := by decide
  blank := by decide
  word := by decide
  clean := by decide

/-- The attribute `userId="10123"`. -/
def appUserId : Attribute where
  space := [' ']
  name := "userId".toList
  value := "10123".toList
  apart := by decide
  blank := by decide
  word := by decide
  clean := by decide

/-- The attribute `userId="10124"`. -/
def laterUserId : Attribute where
  space := ['\t']
  name := "userId".toList
  value := "10124".toList
  apart := by decide
  blank := by decide
  word := by decide
  clean := by decide

/-- An element of the application with a user id. -/
def appElement (tag : Text) (word : Word tag) (userId : Attribute) : Element where
  indent := []
  tag := tag
  attributes := [appName, userId]
  gap := [' ']
  ending := .empty
  trail := []
  indent_blank := by decide
  tag_word := word
  gap_blank := by decide
  trail_blank := by decide

/-- A `package` element. -/
def packageElement : Element := appElement packageTag (by decide) appUserId

/-- A `shared-user` element. -/
def sharedUserElement : Element := appElement sharedUserTag (by decide) appUserId

/-- A later `package` element of the same name. -/
def laterElement : Element := appElement packageTag (by decide) laterUserId

/-- An `updated-package` element, which the file has for an updated system application. -/
def updatedElement : Element := appElement "updated-package".toList (by decide) appUserId

/-- Empty maps. -/
def noPackages : PackageMaps := ⟨fun _ => none, fun _ => none, fun _ => none, fun _ => none⟩

/-- A document of three lines. -/
def sampleLines : List Line :=
  [.element packageElement, .element sharedUserElement, .element laterElement]

/-- Its text, without an end of the last line. -/
def sampleText : Text :=
  packageElement.text ++ '\n' :: (sharedUserElement.text ++ '\n' :: laterElement.text)

theorem parsePackagesXml_exact_iff_sample :
    ParsedExactly Standard.fromStr sampleLines noPackages
        (parsePackagesXml Standard.fromStr sampleText noPackages)
      ∧ (parsePackagesXml Standard.fromStr sampleText noPackages).idByPackage "com.example.app"
        = some 10124
      ∧ (parsePackagesXml Standard.fromStr sampleText noPackages).sharedByPackage "com.example.app"
        = some 10123 := by
  have document : Document sampleLines sampleText :=
    .cons _ (.cons _ (.last (.element laterElement) (by decide)))
  suffices exact : ParsedExactly Standard.fromStr sampleLines noPackages
      (parsePackagesXml Standard.fromStr sampleText noPackages) by
    refine ⟨exact, ?_, ?_⟩
    · rw [exact.idByPackage]
      decide
    · rw [exact.sharedByPackage]
      decide
  refine (parsePackagesXml_exact_iff Standard.fromStr document noPackages).mpr ?_
  have own : ∀ element ∈ [packageElement, sharedUserElement, laterElement],
      element.read Standard.fromStr = element.own Standard.fromStr := by decide
  have apart : ∀ element ∈ [packageElement, sharedUserElement, laterElement],
      ∀ tag ∈ [packageTag, sharedUserTag], element.tag ≠ tag → ¬ tag <:+: element.body := by decide
  intro element mem tag listed
  have among : element ∈ [packageElement, sharedUserElement, laterElement] := by
    simpa [sampleLines] using mem
  exact ⟨fun _ => own element among, fun different mentions =>
    absurd ((infix_body_iff (tagWord_of_mem listed) element).mpr mentions)
      (apart element among tag listed different)⟩

/-- **An element of another tag is read as a package**: a text with an `updated-package` element and
no `package` element gives an entry of the packages. -/
theorem updated_package_read :
    Document [.element updatedElement] updatedElement.text
      ∧ updatedElement.text
        = "<updated-package name=\"com.example.app\" userId=\"10123\" />".toList
      ∧ [Line.element updatedElement].filterMap (Line.due Standard.fromStr packageTag) = []
      ∧ (parsePackagesXml Standard.fromStr updatedElement.text noPackages).idByPackage
        "com.example.app" = some 10123 :=
  ⟨.last (.element updatedElement) (by decide), by decide, by decide, by decide⟩

end RsTun.Android
