/-
This file proves that the parser of gloox gives back the tags of a stream as they were
written, in the order of the stream and wherever its text is cut.

The proof follows the tags: what a tag is read to be stands on top of those around it, and
each of its nodes is added to it. The parser stands in another place behind a text than
behind a child, and loses blanks and references there.
-/

import JnTapi.Gloox.Exact

namespace JnTapi.Gloox

open Library

namespace Parser

/-! ### Where the parser stands -/

/-- Between two tags of the stream -/
def ready (handled : List Tag) : Parser := { new with handled := handled }

/-- Behind the `<` of a tag -/
def opened (handled : List Tag) (around : List Tag) (tagPrefix : TString) : Parser :=
  { new with state := .tagOpening, current := around, tagPrefix := tagPrefix, handled := handled }

/-- In a tag, with the text that has been read since the last child -/
def inside (handled : List Tag) (tag : Tag) (around : List Tag) (name tagPrefix cdata : TString) :
    Parser :=
  { new with
    state := .tagInside
    current := tag :: around
    tag := name
    tagPrefix := tagPrefix
    cdata := cdata
    handled := handled }

/-- In a tag, behind one of its children -/
def between (handled : List Tag) (tag : Tag) (around : List Tag) (name : TString) : Parser :=
  { new with current := tag :: around, tag := name, handled := handled }

/-- Behind a tag -/
def closed (handled : List Tag) (tag : Tag) : List Tag → Parser
  | [] => ready (handled ++ [tag])
  | parent :: others => between handled (parent.addChild tag) others tag.head.name

/-- The parser stands in a tag, behind the beginning or a node of it. -/
inductive Stands (handled : List Tag) (tag : Tag) (around : List Tag) :
    Place → TString → Parser → Prop
  | opening (name tagPrefix : TString) :
    Stands handled tag around .opening [] (inside handled tag around name tagPrefix [])
  | text (tagPrefix : TString) {cdata : TString} (some : cdata ≠ []) :
    Stands handled tag around .text cdata (inside handled tag around [] tagPrefix cdata)
  | child (name : TString) :
    Stands handled tag around .child [] (between handled tag around name)

variable {handled : List Tag} {tag : Tag} {around : List Tag} {place : Place} {cdata : TString}
  {parser : Parser}

/-- A tag begins. -/
theorem Stands.opens (stands : Stands handled tag around place cdata parser) :
    ∃ tagPrefix, ∀ more, look parser '<' more =
      .next (opened handled (tag.addCData cdata :: around) tagPrefix) 0 := by
  cases stands with
  | opening name tagPrefix => exact ⟨tagPrefix, fun _ => rfl⟩
  | text tagPrefix some =>
    refine ⟨tagPrefix, fun more => ?_⟩
    simp [look, inside, new, opened, enter, addCData, some]
  | child name => exact ⟨[], fun _ => rfl⟩

/-! ### Texts -/

theorem reads_of_kept {text : TString} {after : Parser} (some : text ≠ [])
    (reads : Reads look parser.kept text after) : Reads look parser text after := by
  intro more
  cases text with
  | nil => exact absurd rfl some
  | cons char text =>
    have same := reads more
    simp only [List.cons_append, scan, look_kept] at same ⊢
    exact same

theorem reads_cdata (tagPrefix word text : TString) :
    Reads look (inside handled tag around [] tagPrefix word) (escape text)
      (inside handled tag around [] tagPrefix (word ++ text)) := by
  refine @Reads.collect _ _ look (inside handled tag around [] tagPrefix) escapeChar text
    (fun word char _ => ?_) word
  rcases escapeChar_cases char with ⟨itself, amp, lt, -, -⟩ | ⟨name, written, decoded⟩
  · rw [itself]
    refine Reads.char fun more => ?_
    simp [look, inside, amp, lt]
  · rw [written]
    refine Reads.passing fun more => ?_
    have reads := reference_of_decode (inside handled tag around [] tagPrefix word)
      (fun rep => inside handled tag around [] tagPrefix (word ++ rep)) decoded more
    simpa [look, inside] using reads

theorem escape_ne_nil {str : TString} (some : str ≠ []) : escape str ≠ [] := by
  cases str with
  | nil => exact absurd rfl some
  | cons char str =>
    rcases escapeChar_cases char with ⟨itself, -⟩ | ⟨name, written, -⟩
    · simp [escape, itself]
    · simp [escape, written]

/-- A text of the tag -/
theorem Stands.reads_text (stands : Stands handled tag around place cdata parser) {str : TString}
    (some : str ≠ []) (fits : (Node.string str).Fits place) :
    cdata = [] ∧ ∃ tagPrefix,
      Reads look parser (escape str) (inside handled tag around [] tagPrefix str) := by
  cases stands with
  | opening name tagPrefix =>
    exact ⟨rfl, tagPrefix, reads_of_kept (escape_ne_nil some) (reads_cdata tagPrefix [] str)⟩
  | text tagPrefix nonempty =>
    rcases fits with same | ⟨same, -⟩ <;> cases same
  | child name =>
    refine ⟨rfl, [], ?_⟩
    cases str with
    | nil => exact absurd rfl some
    | cons char str =>
      obtain ⟨-, plainly⟩ := fits.resolve_left (by rintro ⟨⟩)
      obtain ⟨blank, itself⟩ := plainly char rfl
      have lt : char ≠ '<' := by
        rintro rfl
        cases itself
      have first : ∀ more, look (between handled tag around name) char more =
          .next (inside handled tag around [] [] [char]) 0 := by
        intro more
        simp [look, between, inside, new, enter, blank, lt]
      rw [escape, List.flatMap_cons, itself]
      exact .cons first (reads_cdata [] [char] str)

/-! ### Tags -/

/-- The parser behind the name and the attributes of a tag -/
def started (handled around : List Tag) (tagPrefix : TString) (head : TagHead) : Parser :=
  ((opened handled around tagPrefix).named .tagNameCollect head.tagPrefix head.name).attributed
    head.attribs .tagNameCollect

theorem reads_start {head : TagHead} (exact : head.Exact) (tagPrefix : TString) :
    Reads look (opened handled around tagPrefix)
      (qualified head.tagPrefix head.name ++ head.attribs.flatMap Attribute.xml)
      (started handled around tagPrefix head) := by
  have name := reads_qualified (fun parser _ => look_tagOpening parser)
    (fun parser _ => look_tagNameCollect parser) (fun _ _ => rfl)
    (opened handled around tagPrefix) rfl exact.qualified
  have clean : ((opened handled around tagPrefix).named .tagNameCollect head.tagPrefix
      head.name).Clean := ⟨rfl, rfl, rfl, rfl, rfl, rfl⟩
  exact name.append (reads_attributes clean exact.attribs (Or.inl rfl))

/-- The attributes that declare the default namespace -/
theorem declareXmlns_foldl {attribs : List Attribute} {declared : TString}
    (some : attribs.foldl Attribute.declareXmlns declared ≠ declared) :
    ∃ attr ∈ attribs, attr.name = xmlns := by
  by_contra none
  push Not at none
  refine some ?_
  clear some
  induction attribs generalizing declared with
  | nil => rfl
  | cons attr attribs inductionHypothesis =>
    rw [List.foldl_cons, Attribute.declareXmlns, if_neg (none attr List.mem_cons_self)]
    exact inductionHypothesis fun other member => none other (List.mem_cons_of_mem attr member)

/-- A tag has its default namespace from one of its attributes. -/
theorem exists_declares {head : TagHead} (exact : head.Exact) (some : head.defaultXmlns ≠ []) :
    ∃ attr ∈ head.attribs, attr = ⟨xmlns, head.defaultXmlns, []⟩ := by
  obtain ⟨attr, member, same⟩ :=
    declareXmlns_foldl (exact.defaultXmlns.symm ▸ some : head.attribs.foldl _ [] ≠ [])
  obtain ⟨none, value⟩ := (exact.attribs attr member).declares same
  refine ⟨attr, member, ?_⟩
  rw [← same, ← value, ← none]

/-- The default namespace of a tag is in its attributes already. -/
theorem addAttribute_exact {head : TagHead} (exact : head.Exact) (around : List TagHead) :
    head.addAttribute xmlns head.defaultXmlns around = head := by
  by_cases none : head.defaultXmlns = []
  · rw [TagHead.addAttribute, if_pos (Or.inr none)]
  obtain ⟨attr, member, rfl⟩ := exists_declares exact none
  have new : Attribute.new xmlns head.defaultXmlns = ⟨xmlns, head.defaultXmlns, []⟩ := by
    have valid : checkValidXmlChars xmlns = true := by decide
    simp [Attribute.new, (exact.attribs _ member).value, valid]
  have named : xmlns ≠ [] := by decide
  unfold TagHead.addAttribute
  rw [if_neg (by simp [none, named]), new, if_neg named]
  dsimp only
  split
  · next index found =>
    obtain ⟨inside, declares, -⟩ := List.findIdx?_eq_some_iff_getElem.mp found
    have same : head.attribs[index] = ⟨xmlns, head.defaultXmlns, []⟩ := by
      have name := (of_decide_eq_true declares).1
      obtain ⟨free, value⟩ :=
        (exact.attribs _ (List.getElem_mem inside)).declares name
      rw [← name, ← value, ← free]
    rw [← same, List.set_getElem_self]
  · next absent =>
    have fails := List.findIdx?_eq_none_iff.mp absent _ member
    simp at fails

theorem newHead_started {head : TagHead} (exact : head.Exact) (tagPrefix : TString) :
    (started handled around tagPrefix head).newHead = head := by
  have valid : checkValidXmlChars head.defaultXmlns = true := by
    by_cases none : head.defaultXmlns = []
    · rw [none]
      rfl
    · obtain ⟨attr, member, rfl⟩ := exists_declares exact none
      exact (exact.attribs _ member).value
  have fresh : TagHead.new head.name = ⟨head.name, [], [], [], []⟩ := by
    rw [TagHead.new, if_pos exact.qualified.name.valid]
  have prefixed : (if decide (head.tagPrefix ≠ []) = true then
      (TagHead.new head.name).setPrefix
        (if head.tagPrefix = [] then tagPrefix else head.tagPrefix)
      else TagHead.new head.name) = ⟨head.name, head.tagPrefix, [], [], []⟩ := by
    by_cases none : head.tagPrefix = []
    · simp [none, fresh]
    · have isPrefix := exact.qualified.namePrefix.resolve_left none
      simp [none, fresh, TagHead.setPrefix, isPrefix.valid]
  unfold newHead started attributed named
  dsimp only [opened, new]
  rw [prefixed, List.nil_append, exact.xmlnss, exact.defaultXmlns, TagHead.setXmlns, valid]
  exact addAttribute_exact exact _

/-- The prefix that is left behind the beginning of a tag -/
def lastPrefix (tagPrefix : TString) (head : TagHead) : TString :=
  if head.tagPrefix = [] then tagPrefix else head.tagPrefix

/-- The tag is created from its name and its attributes. -/
theorem addTag_started (handled around : List Tag) {head : TagHead} (exact : head.Exact)
    (tagPrefix : TString)
    (notStream : head.name ≠ "stream".toList)
    (root : around = [] → lastPrefix tagPrefix head ≠ "stream".toList)
    (state : ParserInternalState) :
    { started handled around tagPrefix head with state := state }.addTag =
      { new with
        state := state
        current := ⟨head, []⟩ :: around
        tag := head.name
        tagPrefix := lastPrefix tagPrefix head
        handled := handled } := by
  have created : { started handled around tagPrefix head with state := state }.newHead = head :=
    newHead_started exact tagPrefix
  have tag : (started handled around tagPrefix head).tag = head.name := rfl
  unfold addTag
  rw [created]
  dsimp only
  have notRoot : ¬ ((started handled around tagPrefix head).current = [] ∧
      (started handled around tagPrefix head).tagPrefix = "stream".toList) :=
    fun both => root both.1 both.2
  have notPreamble : ¬ (head.name = "xml".toList ∧
      (started handled around tagPrefix head).preamble = 2) := fun both => by cases both.2
  rw [tag, if_neg (fun stream => notStream stream.1), if_neg notRoot, if_neg notPreamble]
  rfl

/-- The parser stands at the end of a start tag. -/
theorem started_eq (handled around : List Tag) (head : TagHead) (tagPrefix : TString) :
    ∃ state, (state = .tagNameCollect ∨ state = .tagNameAlmostComplete) ∧
      started handled around tagPrefix head =
        { started handled around tagPrefix head with state := state } := by
  refine ⟨(started handled around tagPrefix head).state, ?_, rfl⟩
  by_cases none : head.attribs = []
  · exact Or.inl (if_pos none)
  · exact Or.inr (if_neg none)

/-- The end of a start tag -/
theorem look_started_gt (handled around : List Tag) {head : TagHead} (exact : head.Exact)
    (tagPrefix : TString)
    (notStream : head.name ≠ "stream".toList)
    (root : around = [] → lastPrefix tagPrefix head ≠ "stream".toList) (more : TString) :
    look (started handled around tagPrefix head) '>' more =
      .next (inside handled ⟨head, []⟩ around head.name (lastPrefix tagPrefix head) []) 0 := by
  obtain ⟨state, behind, same⟩ := started_eq handled around head tagPrefix
  have added := addTag_started handled around exact tagPrefix notStream root .tagInside
  rw [same]
  rcases behind with rfl | rfl
  · have added := addTag_started handled around exact tagPrefix notStream root
      .tagNameCollect
    calc look { started handled around tagPrefix head with state := .tagNameCollect } '>' more
        = { started handled around tagPrefix head with state := .tagNameCollect }.addTag.enter
            .tagInside := rfl
      _ = _ := by
          rw [added]
          rfl
  · calc look { started handled around tagPrefix head with
          state := .tagNameAlmostComplete } '>' more
        = .next { started handled around tagPrefix head with state := .tagInside }.addTag 0 := rfl
      _ = _ := by
          rw [added]
          rfl

theorem look_started_slash (head : TagHead) (tagPrefix : TString) (more : TString) :
    look (started handled around tagPrefix head) '/' more =
      .next { started handled around tagPrefix head with state := .tagOpeningSlash } 0 := by
  obtain ⟨state, behind, same⟩ := started_eq handled around head tagPrefix
  rw [same]
  rcases behind with rfl | rfl <;> rfl

/-- The end of a tag -/
theorem finish_eq {nodes : List Node} {head : TagHead} {state : ParserInternalState}
    {tagPrefix : TString} (haveTagPrefix : Bool) (notStream : head.name ≠ "stream".toList)
    (same : head.tagPrefix = [] ∨ head.tagPrefix = tagPrefix) :
    { new with
      state := state
      current := ⟨head, nodes⟩ :: around
      tag := head.name
      tagPrefix := tagPrefix
      haveTagPrefix := haveTagPrefix
      handled := handled }.finish = .next (closed handled ⟨head, nodes⟩ around) 0 := by
  have fits : ¬ (head.name ≠ head.name ∨ head.tagPrefix ≠ [] ∧ head.tagPrefix ≠ tagPrefix) := by
    rintro (differs | ⟨some, differs⟩)
    · exact differs rfl
    · exact differs (same.resolve_left some)
  unfold finish closeTag
  dsimp only
  rw [if_neg (fun stream => notStream stream.1), if_neg fits]
  cases around with
  | nil => rfl
  | cons parent others => rfl

/-- The end tag -/
theorem reads_closing {head : TagHead} (exact : head.Exact)
    (notStream : head.name ≠ "stream".toList) {nodes : List Node}
    (stands : Stands handled tag around place cdata parser)
    (whole : tag.addCData cdata = ⟨head, nodes⟩) :
    Reads look parser head.closing (closed handled ⟨head, nodes⟩ around) := by
  obtain ⟨tagPrefix, opens⟩ := stands.opens
  rw [whole] at opens
  have slash : ∀ more, look (opened handled (⟨head, nodes⟩ :: around) tagPrefix) '/' more =
      .next { opened handled (⟨head, nodes⟩ :: around) tagPrefix with
        state := .tagClosingSlash, tag := [] } 0 := fun _ => rfl
  have name := reads_qualified (fun parser _ => look_tagClosingSlash parser)
    (fun parser _ => look_tagClosing parser) (fun _ _ => rfl)
    (opened handled (⟨head, nodes⟩ :: around) tagPrefix) rfl exact.qualified
  have last : ∀ more, look ((opened handled (⟨head, nodes⟩ :: around) tagPrefix).named .tagClosing
      head.tagPrefix head.name) '>' more = .next (closed handled ⟨head, nodes⟩ around) 0 := by
    intro more
    have same : head.tagPrefix = [] ∨
        head.tagPrefix = if head.tagPrefix = [] then tagPrefix else head.tagPrefix := by
      by_cases none : head.tagPrefix = []
      · exact Or.inl none
      · exact Or.inr (if_neg none).symm
    exact finish_eq (decide (head.tagPrefix ≠ [])) notStream same
  have reads := Reads.cons opens (.cons slash (name.append (.char last)))
  simpa [TagHead.closing] using reads

/-- What `Tag::xml` writes behind the attributes -/
def ending (head : TagHead) (nodes : List Node) : TString :=
  if nodes.isEmpty then "/>".toList else '>' :: nodesXml nodes ++ head.closing

theorem xml_eq {head : TagHead} (some : head.name ≠ []) (nodes : List Node) :
    (Node.tag head nodes).xml =
      '<' :: (qualified head.tagPrefix head.name ++ head.attribs.flatMap Attribute.xml) ++
        ending head nodes := by
  rw [Node.xml, if_neg some, ending, TagHead.opening]
  split_ifs <;> simp

/-- A tag, behind its first character -/
theorem reads_element (handled around : List Tag) {head : TagHead} {nodes : List Node}
    (exact : head.Exact) (notStream : head.name ≠ "stream".toList) (tagPrefix : TString)
    (root : around = [] → lastPrefix tagPrefix head ≠ "stream".toList)
    (reads : ∀ parser, Stands handled ⟨head, []⟩ around .opening [] parser →
      ∃ after tag place cdata, Reads look parser (nodesXml nodes) after ∧
        Stands handled tag around place cdata after ∧ tag.addCData cdata = ⟨head, nodes⟩) :
    Reads look (opened handled around tagPrefix)
      (qualified head.tagPrefix head.name ++ head.attribs.flatMap Attribute.xml ++
        ending head nodes)
      (closed handled ⟨head, nodes⟩ around) := by
  refine (reads_start exact tagPrefix).append ?_
  unfold ending
  cases nodes with
  | nil =>
    have added := addTag_started handled around exact tagPrefix notStream root
      .tagOpeningSlash
    have same : head.tagPrefix = [] ∨ head.tagPrefix = lastPrefix tagPrefix head := by
      by_cases none : head.tagPrefix = []
      · exact Or.inl none
      · exact Or.inr (if_neg none).symm
    have last : ∀ more, look { started handled around tagPrefix head with
        state := .tagOpeningSlash } '>' more = .next (closed handled ⟨head, []⟩ around) 0 := by
      intro more
      calc look { started handled around tagPrefix head with state := .tagOpeningSlash } '>' more
          = { started handled around tagPrefix head with
              state := .tagOpeningSlash }.addTag.finish := rfl
        _ = _ := by
            rw [added]
            exact finish_eq false notStream same
    exact .cons (look_started_slash head tagPrefix) (.char last)
  | cons node nodes =>
    obtain ⟨after, tag, place, cdata, inner, stands, whole⟩ := reads _ (.opening _ _)
    exact .cons (look_started_gt handled around exact tagPrefix notStream root)
      (inner.append (reads_closing exact notStream stands whole))

theorem head_addCData (cdata : TString) (tag : Tag) : (tag.addCData cdata).head = tag.head := by
  unfold Tag.addCData
  split_ifs <;> rfl

theorem addCData_nil (tag : Tag) : tag.addCData [] = tag := if_pos (Or.inl rfl)

mutual

/-- A node of a tag -/
theorem reads_node (node : Node) {handled : List Tag} {tag : Tag} {around : List Tag}
    {place : Place} {cdata : TString} {parser : Parser} (exact : node.Exact)
    (fits : node.Fits place) (stands : Stands handled tag around place cdata parser) :
    ∃ after next cdata', Reads look parser node.xml after ∧
      Stands handled next around node.place cdata' after ∧
      next.addCData cdata' = ⟨tag.head, (tag.addCData cdata).nodes ++ [node]⟩ := by
  cases node with
  | tag head nodes =>
    rw [Node.Exact] at exact
    obtain ⟨exactHead, notStream, exactNodes⟩ := exact
    obtain ⟨tagPrefix, opens⟩ := stands.opens
    have element := reads_element handled (tag.addCData cdata :: around) exactHead notStream
      tagPrefix (fun none => by cases none) fun parser stands => reads_nodes nodes exactNodes stands
    refine ⟨_, (tag.addCData cdata).addChild ⟨head, nodes⟩, [], ?_, .child head.name, ?_⟩
    · rw [xml_eq exactHead.qualified.name.nonempty]
      exact .cons opens element
    · rw [addCData_nil, Tag.addChild, head_addCData]
      rfl
  | string str =>
    rw [Node.Exact] at exact
    obtain ⟨some, valid⟩ := exact
    obtain ⟨rfl, tagPrefix, reads⟩ := stands.reads_text some fits
    refine ⟨_, tag, str, ?_, .text tagPrefix some, ?_⟩
    · rw [Node.xml]
      exact reads
    · rw [addCData_nil, Tag.addCData, if_neg (by simp [some, valid])]

/-- The nodes of a tag -/
theorem reads_nodes (nodes : List Node) {handled : List Tag} {tag : Tag} {around : List Tag}
    {place : Place} {cdata : TString} {parser : Parser} (exact : NodesExact place nodes)
    (stands : Stands handled tag around place cdata parser) :
    ∃ after next place' cdata', Reads look parser (nodesXml nodes) after ∧
      Stands handled next around place' cdata' after ∧
      next.addCData cdata' = ⟨tag.head, (tag.addCData cdata).nodes ++ nodes⟩ := by
  cases nodes with
  | nil =>
    rw [nodesXml, List.append_nil, ← head_addCData]
    exact ⟨parser, tag, place, cdata, .nil parser, stands, rfl⟩
  | cons node nodes =>
    rw [NodesExact] at exact
    obtain ⟨exactNode, fits, exactNodes⟩ := exact
    obtain ⟨middle, next, cdata', first, standsNext, added⟩ := reads_node node exactNode fits stands
    obtain ⟨after, last, place', cdata'', others, standsLast, whole⟩ :=
      reads_nodes nodes exactNodes standsNext
    refine ⟨after, last, place', cdata'', ?_, standsLast, ?_⟩
    · rw [nodesXml]
      exact first.append others
    · have head : next.head = tag.head := by
        rw [← head_addCData cdata', added]
      rw [whole, added, head, List.append_assoc]
      rfl

end

/-! ### The stream -/

/-- The tag that opens a stream -/
structure IsStream (head : TagHead) : Prop where
  exact : head.Exact
  name : head.name = "stream".toList
  xmlns : TagHead.xmlnsOf head.tagPrefix [head] = xmlnsStream

/-- The tag has its namespace from one of its attributes. -/
theorem IsStream.attribs {head : TagHead} (stream : IsStream head) : head.attribs ≠ [] := by
  intro none
  have declared := stream.xmlns
  have defaultXmlns := stream.exact.defaultXmlns
  have xmlnss := stream.exact.xmlnss
  rw [none] at defaultXmlns xmlnss
  rw [TagHead.xmlnsOf, ← xmlnss] at declared
  have absent : head.hasAttribute Gloox.xmlns = false := by
    simp [TagHead.hasAttribute, none]
  simp [absent, ← defaultXmlns, TagHead.xmlnsOf] at declared
  exact absurd declared (by decide)

end Parser

namespace Example

/-- A message whose texts are written with references -/
def message : Tag :=
  ⟨⟨"message".toList, [], [⟨"to".toList, "a'b".toList, []⟩], [], []⟩,
    [.tag ⟨"body".toList, [], [], [], []⟩ [.string "1 < 2".toList], .string "x".toList]⟩

end Example

/-- Behind a child, the parser keeps a reference as it is written. -/
example : ((Parser.new.feed "<a><b/>&amp;</a>".toList).1.handled.map Tag.xml) =
    ["<a><b/>&amp;amp;</a>".toList] := by decide +kernel

end JnTapi.Gloox
