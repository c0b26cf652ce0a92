/-
This file models the tags of gloox: their names, attributes and nodes, and the text
that they are written as.

A character stands for a byte, with its value as the code. The pointers of a tag to its
parent are not modelled; what reads them gets the tags around it.
-/

import JnTapi.Text

namespace JnTapi.Gloox

/-- `util::escape` of a character: the position in `escape_chars` selects from `escape_seqs`. -/
def escapeChar : Char → TString
  | '&' => "&amp;".toList
  | '<' => "&lt;".toList
  | '>' => "&gt;".toList
  | '\'' => "&apos;".toList
  | '"' => "&quot;".toList
  | char => [char]

/-- `util::escape` -/
def escape (what : TString) : TString := what.flatMap escapeChar

/-- A byte that `util::checkValidXMLChars` accepts -/
def validXmlChar (char : Char) : Bool :=
  char.toNat = 0x09 || char.toNat = 0x0a || char.toNat = 0x0d ||
    (0x20 ≤ char.toNat && char.toNat ≠ 0xc0 && char.toNat ≠ 0xc1 && char.toNat < 0xf5)

/-- `util::checkValidXMLChars` -/
def checkValidXmlChars (data : TString) : Bool := data.all validXmlChar

/-- `XMLNS` -/
def xmlns : TString := "xmlns".toList

/-- `XMLNS_STREAM` -/
def xmlnsStream : TString := "http://etherx.jabber.org/streams".toList

/-! ### Attributes -/

/-- `Tag::Attribute`; its own namespace is always empty here. -/
structure Attribute where
  name : TString
  value : TString
  attributePrefix : TString
deriving DecidableEq, Repr

namespace Attribute

/-- `Tag::Attribute::init`: what is not valid, and what comes after it, stays empty. -/
def new (name value : TString) : Attribute :=
  if !checkValidXmlChars value then ⟨[], [], []⟩
  else if !checkValidXmlChars name then ⟨[], value, []⟩
  else ⟨name, value, []⟩

/-- `Tag::Attribute::setPrefix` -/
def setPrefix (attributePrefix : TString) (attr : Attribute) : Attribute :=
  if checkValidXmlChars attributePrefix then { attr with attributePrefix := attributePrefix }
  else attr

end Attribute

/-- A name with its prefix, if it has one -/
def qualified (namePrefix name : TString) : TString :=
  if namePrefix = [] then name else namePrefix ++ ':' :: name

/-- `Tag::Attribute::xml` -/
def Attribute.xml (attr : Attribute) : TString :=
  if attr.name = [] then []
  else ' ' :: qualified attr.attributePrefix attr.name ++ "='".toList ++
    escape attr.value ++ ['\'']

/-! ### Tags -/

/-- `Tag`, without its nodes -/
structure TagHead where
  name : TString
  tagPrefix : TString
  attribs : List Attribute
  /-- `m_xmlns` -/
  defaultXmlns : TString
  /-- `m_xmlnss` -/
  xmlnss : List (TString × TString)
deriving DecidableEq, Repr

/-- `Tag::Node` -/
inductive Node
  | tag (head : TagHead) (nodes : List Node)
  | string (str : TString)
deriving Repr

/-- `Tag` -/
structure Tag where
  head : TagHead
  nodes : List Node
deriving Repr

/-- The tag as a node of its parent -/
def Tag.node (tag : Tag) : Node := .tag tag.head tag.nodes

namespace TagHead

/-- The constructor of `Tag`: a name that is not valid stays empty. -/
def new (name : TString) : TagHead := ⟨if checkValidXmlChars name then name else [], [], [], [], []⟩

/-- `Tag::findAttribute` -/
def findAttribute (name : TString) (head : TagHead) : TString :=
  match head.attribs.find? fun attr => attr.name = name with
  | some attr => attr.value
  | none => []

/-- `Tag::hasAttribute` without a value -/
def hasAttribute (name : TString) (head : TagHead) : Bool :=
  name ≠ [] && head.attribs.any fun attr => attr.name = name

/-- `Tag::xmlns` with a prefix, for a tag and those around it -/
def xmlnsOf (namePrefix : TString) : List TagHead → TString
  | [] => []
  | head :: around =>
    if namePrefix = [] then
      if head.hasAttribute xmlns then head.findAttribute xmlns else head.defaultXmlns
    else
      match head.xmlnss.lookup namePrefix with
      | some value => value
      | none => xmlnsOf namePrefix around

/-- `Tag::setPrefix` -/
def setPrefix (tagPrefix : TString) (head : TagHead) : TagHead :=
  if checkValidXmlChars tagPrefix then { head with tagPrefix := tagPrefix } else head

/-- `Tag::addAttribute`: an attribute of the tag with the same name, and without a prefix or a
namespace, is replaced. -/
def addAttribute (name value : TString) (around : List TagHead) (head : TagHead) : TagHead :=
  if name = [] ∨ value = [] then head
  else if (Attribute.new name value).name = [] then head
  else
    match head.attribs.findIdx? fun attr =>
        decide (attr.name = (Attribute.new name value).name ∧
          (xmlnsOf attr.attributePrefix (head :: around) = [] ∨
            attr.attributePrefix = [])) with
    | some index => { head with attribs := head.attribs.set index (Attribute.new name value) }
    | none => { head with attribs := head.attribs ++ [Attribute.new name value] }

/-- `Tag::setXmlns` -/
def setXmlns (value namePrefix : TString) (around : List TagHead) (head : TagHead) : TagHead :=
  if !checkValidXmlChars value || !checkValidXmlChars namePrefix then head
  else if namePrefix = [] then
    { head with defaultXmlns := value }.addAttribute xmlns value around
  else
    { head with
      xmlnss := (namePrefix, value) :: head.xmlnss.filter (·.1 ≠ namePrefix) }.addAttribute
        (xmlns ++ ':' :: namePrefix) value around

/-- The beginning of `Tag::xml`: the name and the attributes -/
def opening (head : TagHead) : TString :=
  '<' :: qualified head.tagPrefix head.name ++ head.attribs.flatMap Attribute.xml

/-- The end of `Tag::xml` -/
def closing (head : TagHead) : TString := "</".toList ++ qualified head.tagPrefix head.name ++ ['>']

end TagHead

mutual

/-- `Tag::xml` of a node -/
def Node.xml : Node → TString
  | .tag head nodes =>
    if head.name = [] then []
    else if nodes.isEmpty then head.opening ++ "/>".toList
    else head.opening ++ '>' :: nodesXml nodes ++ head.closing
  | .string str => escape str

/-- What `Tag::xml` appends for the nodes -/
def nodesXml : List Node → TString
  | [] => []
  | node :: nodes => Node.xml node ++ nodesXml nodes

end

/-- `Tag::xml` -/
def Tag.xml (tag : Tag) : TString := tag.node.xml

/-- `Tag::addCData` -/
def Tag.addCData (cdata : TString) (tag : Tag) : Tag :=
  if cdata = [] ∨ !checkValidXmlChars cdata then tag
  else { tag with nodes := tag.nodes ++ [.string cdata] }

/-- `Tag::addChild` -/
def Tag.addChild (tag child : Tag) : Tag := { tag with nodes := tag.nodes ++ [child.node] }

end JnTapi.Gloox
