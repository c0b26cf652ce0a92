/-
This file says which tags the parser of gloox gives back as they were written, and proves
what it reads of a name, an attribute and a text.

The names must be names, and what the parser takes from the attributes must be what they
say. A text must not begin with a blank or with a character that is written as a reference
where it stands behind a child: the parser loses the blank, and does not read the reference.
-/

import JnTapi.Gloox.Pieces

namespace JnTapi.Gloox

open Library

/-! ### Tags that are written exactly -/

/-- A character of a name -/
def isNameChar (char : Char) : Bool :=
  validXmlChar char && !Parser.isWhitespace char && !"<>/?!&:=".toList.contains char

structure IsName (name : TString) : Prop where
  nonempty : name ≠ []
  chars : ∀ char ∈ name, isNameChar char = true

theorem isName_of_all {name : TString} (nonempty : name ≠ [])
    (chars : name.all isNameChar = true) : IsName name :=
  ⟨nonempty, List.all_eq_true.mp chars⟩

/-- A name with an optional prefix -/
structure IsQualified (namePrefix name : TString) : Prop where
  name : IsName name
  namePrefix : namePrefix = [] ∨ IsName namePrefix

/-- The default namespace, with that of an attribute -/
def Attribute.declareXmlns (declared : TString) (attr : Attribute) : TString :=
  if attr.name = xmlns then attr.value else declared

/-- The namespaces with prefixes, with that of an attribute -/
def Attribute.declareXmlnss (declared : List (TString × TString)) (attr : Attribute) :
    List (TString × TString) :=
  if attr.attributePrefix = xmlns then
    (attr.name, attr.value) :: declared.filter (·.1 ≠ attr.name)
  else declared

/-- An attribute of a tag with the default namespace -/
structure Attribute.Exact (defaultXmlns : TString) (attr : Attribute) : Prop where
  qualified : IsQualified attr.attributePrefix attr.name
  value : checkValidXmlChars attr.value = true
  declares : attr.name = xmlns → attr.attributePrefix = [] ∧ attr.value = defaultXmlns

/-- The tag is what its name and its attributes say. -/
structure TagHead.Exact (head : TagHead) : Prop where
  qualified : IsQualified head.tagPrefix head.name
  attribs : ∀ attr ∈ head.attribs, attr.Exact head.defaultXmlns
  defaultXmlns : head.attribs.foldl Attribute.declareXmlns [] = head.defaultXmlns
  xmlnss : head.attribs.foldl Attribute.declareXmlnss [] = head.xmlnss

/-- What stands before a node -/
inductive Place
  | opening
  | text
  | child
deriving DecidableEq, Repr

/-- The text begins with a character that is neither a blank nor written as a reference. -/
def startsPlainly (str : TString) : Prop :=
  ∀ char ∈ str.head?, Parser.isWhitespace char = false ∧ escapeChar char = [char]

namespace Node

/-- The node as what stands before the next one -/
def place : Node → Place
  | .tag _ _ => .child
  | .string _ => .text

/-- Two texts are not neighbours, and a text behind a child starts plainly. -/
def Fits (place : Place) : Node → Prop
  | .tag _ _ => True
  | .string str => place = .opening ∨ place = .child ∧ startsPlainly str

end Node

mutual

/-- The parser gives the node back as it was written. -/
def Node.Exact : Node → Prop
  | .tag head nodes =>
    head.Exact ∧ head.name ≠ "stream".toList ∧ NodesExact .opening nodes
  | .string str => str ≠ [] ∧ checkValidXmlChars str = true

/-- The same of the nodes that follow -/
def NodesExact : Place → List Node → Prop
  | _, [] => True
  | place, node :: nodes => Node.Exact node ∧ node.Fits place ∧ NodesExact node.place nodes

end

/-- The same of a tag of the stream -/
structure Tag.Exact (tag : Tag) : Prop where
  node : tag.node.Exact
  notStream : tag.head.tagPrefix ≠ "stream".toList

/-! ### Characters -/

theorem not_isWhitespace_of_isNameChar {char : Char} (name : isNameChar char = true) :
    Parser.isWhitespace char = false := by
  simp only [isNameChar, Bool.and_eq_true, Bool.not_eq_true'] at name
  exact name.1.2

theorem ne_of_isNameChar {char other : Char} (name : isNameChar char = true)
    (special : isNameChar other = false) : char ≠ other := by
  rintro rfl
  cases name.symm.trans special

theorem apart_of_isNameChar {char : Char} (name : isNameChar char = true) :
    Parser.isWhitespace char = false ∧ char ≠ '<' ∧ char ≠ '>' ∧ char ≠ '/' ∧ char ≠ '?' ∧
      char ≠ '!' ∧ char ≠ '&' ∧ char ≠ ':' ∧ char ≠ '=' := by
  refine ⟨not_isWhitespace_of_isNameChar name, ?_, ?_, ?_, ?_, ?_, ?_, ?_, ?_⟩
  all_goals exact ne_of_isNameChar name (by decide)

theorem IsName.valid {name : TString} (isName : IsName name) :
    checkValidXmlChars name = true := by
  rw [checkValidXmlChars, List.all_eq_true]
  intro char member
  have named := isName.chars char member
  simp only [isNameChar, Bool.and_eq_true] at named
  exact named.1.1

/-- A character is written as itself, or as a reference that stands for it. -/
theorem escapeChar_cases (char : Char) :
    (escapeChar char = [char] ∧ char ≠ '&' ∧ char ≠ '<' ∧ char ≠ '\'' ∧ char ≠ '"') ∨
      ∃ name, escapeChar char = '&' :: name ∧ decode name = .valid [char] name.length := by
  unfold escapeChar
  split
  · exact Or.inr ⟨"amp;".toList, rfl, by decide⟩
  · exact Or.inr ⟨"lt;".toList, rfl, by decide⟩
  · exact Or.inr ⟨"gt;".toList, rfl, by decide⟩
  · exact Or.inr ⟨"apos;".toList, rfl, by decide⟩
  · exact Or.inr ⟨"quot;".toList, rfl, by decide⟩
  · exact Or.inl ⟨rfl, by assumption, by assumption, by assumption, by assumption⟩

namespace Parser

variable {char : Char}

/-- A reference that `escape` has written -/
theorem reference_of_decode (parser : Parser) (append : TString → Parser) {name : TString}
    (decoded : decode name = .valid [char] name.length) (more : TString) :
    parser.reference append (name ++ more) = .next (append [char]) name.length := by
  have enough : decode name ≠ .insufficient := by
    rw [decoded]
    simp
  rw [reference, decode_append enough, decoded]

/-! ### Names -/

theorem look_tagOpening (parser : Parser) (named : isNameChar char = true) (more : TString) :
    look { parser with state := .tagOpening } char more =
      .next { parser with state := .tagNameCollect, tag := parser.tag ++ [char] } 0 := by
  obtain ⟨blank, lt, gt, slash, question, bang, amp, -, -⟩ := apart_of_isNameChar named
  simp [look, enter, blank, lt, gt, slash, question, bang, amp]

theorem look_tagNameCollect (parser : Parser) (named : isNameChar char = true) (more : TString) :
    look { parser with state := .tagNameCollect } char more =
      .next { parser with state := .tagNameCollect, tag := parser.tag ++ [char] } 0 := by
  obtain ⟨blank, lt, gt, slash, question, bang, amp, colon, -⟩ := apart_of_isNameChar named
  simp [look, blank, lt, gt, slash, question, bang, amp, colon]

theorem look_tagClosingSlash (parser : Parser) (named : isNameChar char = true) (more : TString) :
    look { parser with state := .tagClosingSlash } char more =
      .next { parser with state := .tagClosing, tag := parser.tag ++ [char] } 0 := by
  obtain ⟨blank, lt, gt, slash, -, -, -, -, -⟩ := apart_of_isNameChar named
  simp [look, enter, blank, lt, gt, slash]

theorem look_tagClosing (parser : Parser) (named : isNameChar char = true) (more : TString) :
    look { parser with state := .tagClosing } char more =
      .next { parser with state := .tagClosing, tag := parser.tag ++ [char] } 0 := by
  obtain ⟨-, lt, gt, slash, question, bang, amp, colon, -⟩ := apart_of_isNameChar named
  simp [look, lt, gt, slash, question, bang, amp, colon]

theorem look_tagNameComplete (parser : Parser) (named : isNameChar char = true) (more : TString) :
    look { parser with state := .tagNameComplete } char more =
      .next { parser with state := .tagAttribute, attrib := parser.attrib ++ [char] } 0 := by
  obtain ⟨blank, lt, gt, slash, question, bang, amp, -, -⟩ := apart_of_isNameChar named
  simp [look, enter, endOfTag, blank, lt, gt, slash, question, bang, amp]

theorem look_tagAttribute (parser : Parser) (named : isNameChar char = true) (more : TString) :
    look { parser with state := .tagAttribute } char more =
      .next { parser with state := .tagAttribute, attrib := parser.attrib ++ [char] } 0 := by
  obtain ⟨blank, lt, gt, slash, question, bang, amp, colon, equals⟩ := apart_of_isNameChar named
  simp [look, blank, lt, gt, slash, question, bang, amp, colon, equals]

/-- The parser behind the name of a tag -/
def named (state : ParserInternalState) (namePrefix name : TString) (parser : Parser) : Parser :=
  { parser with
    state := state
    tag := name
    tagPrefix := if namePrefix = [] then parser.tagPrefix else namePrefix
    haveTagPrefix := decide (namePrefix ≠ []) }

/-- The name of a tag, in a start tag or in an end tag -/
theorem reads_qualified {start collects : ParserInternalState}
    (first : ∀ (parser : Parser) (char : Char), isNameChar char = true → ∀ more,
      look { parser with state := start } char more =
        .next { parser with state := collects, tag := parser.tag ++ [char] } 0)
    (each : ∀ (parser : Parser) (char : Char), isNameChar char = true → ∀ more,
      look { parser with state := collects } char more =
        .next { parser with state := collects, tag := parser.tag ++ [char] } 0)
    (colon : ∀ (parser : Parser) (more : TString), look { parser with state := collects } ':' more =
      { parser with state := collects }.splitTagPrefix)
    (parser : Parser) (free : parser.haveTagPrefix = false) {namePrefix name : TString}
    (isQualified : IsQualified namePrefix name) :
    Reads look { parser with state := start, tag := [] } (qualified namePrefix name)
      (parser.named collects namePrefix name) := by
  have word : ∀ (others : Parser) {text : TString}, IsName text →
      Reads look { others with state := collects, tag := [] } text
        { others with state := collects, tag := text } := fun others text isName =>
    @Reads.word _ _ look (fun word => { others with state := collects, tag := word }) text
      (fun word char member => each { others with tag := word } char (isName.chars char member)) []
  have wordFrom : ∀ {text : TString}, IsName text →
      Reads look { parser with state := start, tag := [] } text
        { parser with state := collects, tag := text } := fun {text} isName =>
    @Reads.wordFrom _ _ look _ (fun word => { parser with state := collects, tag := word }) text
      isName.nonempty
      (fun char member => first { parser with tag := [] } char (isName.chars char member))
      fun word char member => each { parser with tag := word } char (isName.chars char member)
  unfold named qualified
  split_ifs with none
  · subst none
    have same : { parser with state := collects, tag := name, haveTagPrefix := false } =
        { parser with state := collects, tag := name } := by rw [← free]
    simpa [same] using wordFrom isQualified.name
  · have isPrefix := isQualified.namePrefix.resolve_left none
    have splits : ∀ more, look { parser with state := collects, tag := namePrefix } ':' more =
        .next { parser with
          state := collects, tag := [], tagPrefix := namePrefix, haveTagPrefix := true } 0 := by
      intro more
      rw [colon { parser with tag := namePrefix }, splitTagPrefix]
      simp [free]
    rw [decide_eq_true none]
    exact (wordFrom isPrefix).append (.cons splits
      (word { parser with tagPrefix := namePrefix, haveTagPrefix := true } isQualified.name))

/-! ### Attributes -/

/-- Nothing of an attribute has been read. -/
structure Clean (parser : Parser) : Prop where
  attrib : parser.attrib = []
  value : parser.value = []
  attribPrefix : parser.attribPrefix = []
  haveAttribPrefix : parser.haveAttribPrefix = false
  attribIsXmlns : parser.attribIsXmlns = false
  quote : parser.quote = false

/-- The parser in an attribute, of which it has read the name and a part of the value -/
def inAttribute (attr : Attribute) (state : ParserInternalState) (value : TString)
    (parser : Parser) : Parser :=
  { parser with
    state := state
    attrib := attr.name
    value := value
    attribPrefix :=
      if attr.attributePrefix = [] ∨ attr.attributePrefix = xmlns then [] else attr.attributePrefix
    haveAttribPrefix := decide (attr.attributePrefix ≠ [] ∧ attr.attributePrefix ≠ xmlns)
    attribIsXmlns := decide (attr.attributePrefix = xmlns) }

/-- The parser behind an attribute -/
def declared (attr : Attribute) (parser : Parser) : Parser :=
  { parser with
    state := .tagNameAlmostComplete
    attribs := parser.attribs ++ [attr]
    xmlnss := attr.declareXmlnss parser.xmlnss
    defaultXmlns := attr.declareXmlns parser.defaultXmlns }

variable {parser : Parser} {attr : Attribute} {defaultXmlns : TString}

theorem reads_attributeName (clean : parser.Clean) (exact : attr.Exact defaultXmlns) :
    Reads look { parser with state := .tagNameComplete }
      (qualified attr.attributePrefix attr.name) (parser.inAttribute attr .tagAttribute []) := by
  have word : ∀ (others : Parser) {text : TString}, IsName text →
      Reads look { others with state := .tagAttribute, attrib := [] } text
        { others with state := .tagAttribute, attrib := text } := fun others text isName =>
    @Reads.word _ _ look (fun word => { others with state := .tagAttribute, attrib := word }) text
      (fun word char member => look_tagAttribute { others with attrib := word }
        (isName.chars char member)) []
  have wordFrom : ∀ {text : TString}, IsName text →
      Reads look { parser with state := .tagNameComplete } text
        { parser with state := .tagAttribute, attrib := text } := by
    intro text isName
    refine @Reads.wordFrom _ _ look _
      (fun word => { parser with state := .tagAttribute, attrib := word }) text isName.nonempty
      (fun char member more => ?_)
      fun word char member => look_tagAttribute { parser with attrib := word }
        (isName.chars char member)
    rw [look_tagNameComplete parser (isName.chars char member), clean.attrib]
    rfl
  unfold qualified inAttribute
  by_cases none : attr.attributePrefix = []
  · have reads := wordFrom exact.qualified.name
    simp only [if_pos none]
    simpa [none, xmlns, clean.value, clean.attribPrefix, clean.haveAttribPrefix,
      clean.attribIsXmlns] using reads
  · have isPrefix := exact.qualified.namePrefix.resolve_left none
    rw [if_neg none]
    by_cases declares : attr.attributePrefix = xmlns
    · have splits : ∀ more,
          look { parser with state := .tagAttribute, attrib := attr.attributePrefix } ':' more =
            .next { parser with
              state := .tagAttribute, attrib := [], attribIsXmlns := true } 0 := by
        intro more
        simp [look, isWhitespace, declares]
      have reads := (wordFrom isPrefix).append (.cons splits
        (word { parser with attribIsXmlns := true } exact.qualified.name))
      simpa [declares, clean.value, clean.attribPrefix, clean.haveAttribPrefix] using reads
    · have splits : ∀ more,
          look { parser with state := .tagAttribute, attrib := attr.attributePrefix } ':' more =
            .next { parser with
              state := .tagAttribute, attrib := [], attribPrefix := attr.attributePrefix,
              haveAttribPrefix := true } 0 := by
        intro more
        simp [look, isWhitespace, declares, clean.haveAttribPrefix]
      have reads := (wordFrom isPrefix).append (.cons splits
        (word { parser with attribPrefix := attr.attributePrefix, haveAttribPrefix := true }
          exact.qualified.name))
      simpa [none, declares, clean.value, clean.attribIsXmlns] using reads

theorem reads_attributeValue (value : TString) :
    Reads look (parser.inAttribute attr .tagAttributeValue []) (escape value)
      (parser.inAttribute attr .tagAttributeValue value) := by
  refine @Reads.collect _ _ look (parser.inAttribute attr .tagAttributeValue) escapeChar value
    (fun word char _ => ?_) []
  rcases escapeChar_cases char with ⟨itself, amp, lt, apos, quot⟩ | ⟨name, written, decoded⟩
  · rw [itself]
    refine Reads.char fun more => ?_
    simp [look, inAttribute, amp, lt, apos, quot]
  · rw [written]
    refine Reads.passing fun more => ?_
    have reads := reference_of_decode (parser.inAttribute attr .tagAttributeValue word)
      (fun rep => parser.inAttribute attr .tagAttributeValue (word ++ rep)) decoded more
    simpa [look, inAttribute] using reads

theorem addAttribute_inAttribute (clean : parser.Clean) (exact : attr.Exact defaultXmlns) :
    { (parser.inAttribute attr .tagAttributeValue attr.value).addAttribute with
      quote := false, state := .tagNameAlmostComplete } = parser.declared attr := by
  have new : Attribute.new attr.name attr.value = ⟨attr.name, attr.value, []⟩ := by
    simp [Attribute.new, exact.value, exact.qualified.name.valid]
  unfold addAttribute inAttribute declared Attribute.declareXmlnss Attribute.declareXmlns
  by_cases none : attr.attributePrefix = []
  · have written : (⟨attr.name, attr.value, []⟩ : Attribute) = attr := by rw [← none]
    simp [new, written, none, xmlns, clean.attrib, clean.value, clean.attribPrefix,
      clean.haveAttribPrefix, clean.attribIsXmlns, clean.quote]
  · have isPrefix := exact.qualified.namePrefix.resolve_left none
    have written : Attribute.setPrefix attr.attributePrefix ⟨attr.name, attr.value, []⟩ = attr := by
      rw [Attribute.setPrefix, if_pos isPrefix.valid]
    have apart : attr.name ≠ xmlns := fun same => none (exact.declares same).1
    by_cases declares : attr.attributePrefix = xmlns
    · rw [declares] at written
      simp [new, written, apart, declares, clean.attrib, clean.value, clean.attribPrefix,
        clean.haveAttribPrefix, clean.attribIsXmlns, clean.quote]
    · simp [new, written, none, apart, declares, clean.attrib, clean.value, clean.attribPrefix,
        clean.haveAttribPrefix, clean.attribIsXmlns, clean.quote]

theorem reads_attribute {state : ParserInternalState} (clean : parser.Clean)
    (exact : attr.Exact defaultXmlns)
    (behind : state = .tagNameCollect ∨ state = .tagNameAlmostComplete) :
    Reads look { parser with state := state } attr.xml (parser.declared attr) := by
  have blank : ∀ more, look { parser with state := state } ' ' more =
      .next { parser with state := .tagNameComplete } 0 := by
    rintro more
    rcases behind with rfl | rfl <;> rfl
  have equals : ∀ more, look (parser.inAttribute attr .tagAttribute []) '=' more =
      .next (parser.inAttribute attr .tagAttributeEqual []) 0 := fun _ => rfl
  have opens : ∀ more, look (parser.inAttribute attr .tagAttributeEqual []) '\'' more =
      .next (parser.inAttribute attr .tagAttributeValue []) 0 := fun _ => rfl
  have closes : ∀ more, look (parser.inAttribute attr .tagAttributeValue attr.value) '\'' more =
      .next (parser.declared attr) 0 := by
    intro more
    rw [← addAttribute_inAttribute clean exact]
    simp [look, inAttribute, enter, clean.quote]
  rw [Attribute.xml, if_neg exact.qualified.name.nonempty]
  have value := (reads_attributeValue attr.value).append (.char closes)
  have quoted := Reads.cons equals (.cons opens value)
  have reads := Reads.cons blank ((reads_attributeName clean exact).append quoted)
  simpa using reads

/-- The parser behind the attributes of a tag -/
def attributed (attribs : List Attribute) (state : ParserInternalState) (parser : Parser) :
    Parser :=
  { parser with
    state := if attribs = [] then state else .tagNameAlmostComplete
    attribs := parser.attribs ++ attribs
    xmlnss := attribs.foldl Attribute.declareXmlnss parser.xmlnss
    defaultXmlns := attribs.foldl Attribute.declareXmlns parser.defaultXmlns }

theorem Clean.declared (attr : Attribute) (clean : parser.Clean) : (parser.declared attr).Clean :=
  ⟨clean.attrib, clean.value, clean.attribPrefix, clean.haveAttribPrefix, clean.attribIsXmlns,
    clean.quote⟩

theorem reads_attributes {attribs : List Attribute} {state : ParserInternalState}
    (clean : parser.Clean) (exact : ∀ attr ∈ attribs, attr.Exact defaultXmlns)
    (behind : state = .tagNameCollect ∨ state = .tagNameAlmostComplete) :
    Reads look { parser with state := state } (attribs.flatMap Attribute.xml)
      (parser.attributed attribs state) := by
  induction attribs generalizing parser state with
  | nil =>
    have same : parser.attributed [] state = { parser with state := state } := by
      simp [attributed]
    rw [same, List.flatMap_nil]
    exact .nil _
  | cons attr attribs inductionHypothesis =>
    have first := reads_attribute clean (exact attr List.mem_cons_self) behind
    have others := inductionHypothesis (clean.declared attr)
      (fun other member => exact other (List.mem_cons_of_mem attr member)) (Or.inr rfl)
    have same : (parser.declared attr).attributed attribs .tagNameAlmostComplete =
        parser.attributed (attr :: attribs) state := by
      simp [attributed, declared]
    rw [same] at others
    exact first.append others

end Parser

end JnTapi.Gloox
