/-
This file models the parser of gloox, which gets the text of an XMPP stream in pieces and
passes the tags on to its handler.

It reads one character after the other. A reference such as `&amp;` and the marks of a
CDATA section are looked at as a whole; when they are not there yet, they stay in the
back buffer. A piece that is refused ends there, and what was read before it is lost.
-/

import JnTapi.Clock
import JnTapi.Gloox.Tag
import JnTapi.Library.Scanning

namespace JnTapi.Gloox

open Library

/-! ### References -/

/-- What `isspace` accepts -/
def isSpace (char : Char) : Bool := char = ' ' || (9 ≤ char.toNat && char.toNat ≤ 13)

/-- The value of a digit in the bases up to 16 -/
def digitValue (base : Nat) (char : Char) : Option Nat :=
  let value :=
    if '0' ≤ char ∧ char ≤ '9' then char.toNat - '0'.toNat
    else if 'a' ≤ char ∧ char ≤ 'f' then char.toNat - 'a'.toNat + 10
    else if 'A' ≤ char ∧ char ≤ 'F' then char.toNat - 'A'.toNat + 10
    else base
  if value < base then some value else none

/-- The digits at the front, added to a value, and what follows them -/
def strtolDigits (base : Nat) : Nat → TString → Nat × TString
  | value, [] => (value, [])
  | value, char :: rest =>
    match digitValue base char with
    | some digit => strtolDigits base (value * base + digit) rest
    | none => (value, char :: rest)

/-- `std::strtol` of a number that is in its range, and what follows the number. Where there is no
number, that is the whole text. -/
def strtol (base : Nat) (text : TString) : Int × TString :=
  let unspaced := text.dropWhile isSpace
  let (negative, unsigned) :=
    match unspaced with
    | '-' :: rest => (true, rest)
    | '+' :: rest => (false, rest)
    | _ => (false, unspaced)
  let digits :=
    match unsigned with
    | '0' :: x :: digit :: rest =>
      if base = 16 ∧ (x = 'x' ∨ x = 'X') ∧ (digitValue base digit).isSome then digit :: rest
      else unsigned
    | _ => unsigned
  match digits with
  | [] => (0, text)
  | first :: _ =>
    if (digitValue base first).isSome then
      let (value, rest) := strtolDigits base 0 digits
      (if negative then -value else value, rest)
    else (0, text)

/-- The bytes of the character that a number stands for, where `Parser::decode` takes it -/
def encodeNumber (val : Int) : Option TString :=
  let byte := fun value : Int => Char.ofNat value.toNat
  if val = 0x9 ∨ val = 0xA ∨ val = 0xD ∨ (val ≥ 0x20 ∧ val ≤ 0x7F) then some [byte val]
  else if val ≥ 0x80 ∧ val ≤ 0x7FF then some [byte (192 + val / 64), byte (128 + val % 64)]
  else if (val ≥ 0x800 ∧ val ≤ 0xD7FF) ∨ (val ≥ 0xE000 ∧ val ≤ 0xFFFD) then
    some [byte (224 + val / 4096), byte (128 + val / 64 % 64), byte (128 + val % 64)]
  else if val ≥ 0x100000 ∧ val < 0x10FFFF then
    some [byte (240 + val / 262144), byte (128 + val / 4096 % 64), byte (128 + val / 64 % 64),
      byte (128 + val % 64)]
  else none

/-- What a reference stands for, from what is between `&` and `;` -/
def decodeReference : TString → Option TString
  | '#' :: number =>
    let (val, rest) :=
      match number with
      | 'x' :: digits => strtol 16 digits
      | 'X' :: digits => strtol 16 digits
      | _ => strtol 10 number
    if rest ≠ [] ∨ val < 0 then none else encodeNumber val
  | name =>
    if name = "lt".toList then some ['<']
    else if name = "gt".toList then some ['>']
    else if name = "apos".toList then some ['\'']
    else if name = "amp".toList then some ['&']
    else if name = "quot".toList then some ['"']
    else none

/-- `Parser::DecodeState` -/
inductive DecodeState
  /-- What the reference stands for, and how many characters it has after the `&` -/
  | valid (rep : TString) (length : Nat)
  | invalid
  | insufficient
deriving DecidableEq, Repr

/-- `Parser::decode` of what follows the `&` -/
def decode (rest : TString) : DecodeState :=
  let body := rest.takeWhile (· ≠ ';')
  if body.length = rest.length then .insufficient
  else if body.length + 1 < 3 ∨ body.length + 1 > 9 then .invalid
  else
    match decodeReference body with
    | some rep => .valid rep (body.length + 1)
    | none => .invalid

/-- `Parser::ForwardScanState` -/
inductive ForwardScanState
  | found
  | notFound
  | insufficientSize
deriving DecidableEq, Repr

/-- `Parser::forwardScan` -/
def forwardScan (data needle : TString) : ForwardScanState :=
  if needle.length ≤ data.length then
    if data.take needle.length = needle then .found else .notFound
  else .insufficientSize

/-! ### The parser -/

/-- The values of `Parser::ParserInternalState` that the parser takes -/
inductive ParserInternalState
  | initial
  | tagOpening
  | tagOpeningSlash
  | tagInside
  | tagNameCollect
  | tagNameComplete
  | tagNameAlmostComplete
  | tagAttribute
  | tagAttributeComplete
  | tagAttributeEqual
  | tagClosing
  | tagClosingSlash
  | tagAttributeValue
  | tagCDATASection
deriving DecidableEq, Repr

/-- `Parser` -/
structure Parser where
  state : ParserInternalState
  /-- `m_current` and the tags around it; the last one is `m_root`. -/
  current : List Tag
  xmlnss : List (TString × TString)
  attribs : List Attribute
  tag : TString
  cdata : TString
  attrib : TString
  value : TString
  defaultXmlns : TString
  tagPrefix : TString
  attribPrefix : TString
  backBuffer : TString
  preamble : Nat
  quote : Bool
  haveTagPrefix : Bool
  haveAttribPrefix : Bool
  attribIsXmlns : Bool
  /-- The tags that `m_tagHandler` has got -/
  handled : List Tag
deriving Repr

namespace Parser

/-- The constructor of `Parser` -/
def new : Parser :=
  ⟨.initial, [], [], [], [], [], [], [], [], [], [], [], 0, false, false, false, false, []⟩

/-- `Parser::isWhitespace` -/
def isWhitespace (char : Char) : Bool :=
  char.toNat = 0x09 || char.toNat = 0x0a || char.toNat = 0x0d || char.toNat = 0x20

/-- `Parser::cleanup` -/
def cleanup (parser : Parser) : Parser :=
  { new with
    backBuffer := parser.backBuffer
    quote := parser.quote
    attribIsXmlns := parser.attribIsXmlns
    handled := parser.handled }

/-- The tag with those around it, each in its parent -/
def rootOf : Tag → List Tag → Tag
  | tag, [] => tag
  | tag, parent :: around => rootOf (parent.addChild tag) around

/-- `Parser::streamEvent` -/
def streamEvent (tag : Tag) (parser : Parser) : Parser :=
  { parser with handled := parser.handled ++ [tag] }

/-- The tag that `Parser::addTag` creates, with the declared namespaces of its text -/
def newHead (parser : Parser) : TagHead :=
  let around := parser.current.map Tag.head
  let head := TagHead.new parser.tag
  let head := if parser.haveTagPrefix then head.setPrefix parser.tagPrefix else head
  { head with attribs := parser.attribs, xmlnss := parser.xmlnss }.setXmlns parser.defaultXmlns []
    around

/-- `Parser::addTag` -/
def addTag (parser : Parser) : Parser :=
  let head := parser.newHead
  let added := { parser with
    current := ⟨head, []⟩ :: parser.current
    haveTagPrefix := false
    attribs := []
    xmlnss := []
    defaultXmlns := [] }
  let root := rootOf ⟨head, []⟩ parser.current
  if parser.tag = "stream".toList ∧
      TagHead.xmlnsOf root.head.tagPrefix [root.head] = xmlnsStream then
    (added.streamEvent root).cleanup
  else
    let added :=
      if parser.current = [] ∧ parser.tagPrefix = "stream".toList then
        { added with current := [⟨head.setXmlns xmlnsStream parser.tagPrefix [], []⟩] }
      else added
    if parser.tag = "xml".toList ∧ parser.preamble = 2 then added.cleanup else added

/-- `Parser::addAttribute` -/
def addAttribute (parser : Parser) : Parser :=
  let attr := Attribute.new parser.attrib parser.value
  let parser :=
    if parser.attribIsXmlns then
      { parser with
        xmlnss := (parser.attrib, parser.value) ::
          parser.xmlnss.filter (·.1 ≠ parser.attrib)
        attribs := parser.attribs ++ [attr.setPrefix xmlns] }
    else
      { parser with
        attribs := parser.attribs ++
          [if parser.attribPrefix = [] then attr else attr.setPrefix parser.attribPrefix]
        defaultXmlns := if parser.attrib = xmlns then parser.value else parser.defaultXmlns }
  { parser with
    attrib := []
    value := []
    attribPrefix := []
    haveAttribPrefix := false
    attribIsXmlns := false }

/-- `Parser::addCData` -/
def addCData (parser : Parser) : Parser :=
  match parser.current with
  | [] => parser
  | tag :: around =>
    if parser.cdata = [] then parser
    else { parser with current := tag.addCData parser.cdata :: around, cdata := [] }

/-- `Parser::closeTag`; `none` when it returns false -/
def closeTag (parser : Parser) : Option Parser :=
  if parser.tag = "stream".toList ∧ parser.tagPrefix = "stream".toList then some parser
  else
    match parser.current with
    | [] => none
    | tag :: around =>
      if tag.head.name ≠ parser.tag ∨
          (tag.head.tagPrefix ≠ [] ∧ tag.head.tagPrefix ≠ parser.tagPrefix) then none
      else
        let parser := { parser with tagPrefix := [], haveTagPrefix := false }
        match around with
        | parent :: others => some { parser with current := parent.addChild tag :: others }
        | [] => some (parser.streamEvent tag).cleanup

/-- Refuses the text. -/
def refuse (parser : Parser) : Verdict Parser := .fail parser.cleanup

/-- Goes on to a state. -/
def enter (state : ParserInternalState) (parser : Parser) : Verdict Parser :=
  .next { parser with state := state } 0

/-- The part of `Parser::feed` that looks for a prefix of the name of a tag -/
def splitTagPrefix (parser : Parser) : Verdict Parser :=
  if parser.haveTagPrefix then parser.refuse
  else .next { parser with haveTagPrefix := true, tagPrefix := parser.tag, tag := [] } 0

/-- The end of a start tag, behind its name and its attributes -/
def endOfTag (char : Char) (otherwise : Verdict Parser) (parser : Parser) : Verdict Parser :=
  if char = '/' then parser.enter .tagOpeningSlash
  else if char = '>' then
    if parser.preamble = 1 then parser.refuse
    else .next { parser with state := .tagInside }.addTag 0
  else if char = '?' then
    if parser.preamble = 1 then .next { parser with preamble := 2 } 0 else parser.refuse
  else otherwise

/-- The end of a tag -/
def finish (parser : Parser) : Verdict Parser :=
  match parser.closeTag with
  | some closed => closed.enter .initial
  | none => parser.refuse

/-- What `Parser::feed` does with a reference: `append` puts what it stands for where it belongs. -/
def reference (parser : Parser) (append : TString → Parser) (rest : TString) : Verdict Parser :=
  match decode rest with
  | .valid rep length => .next (append rep) length
  | .invalid => parser.refuse
  | .insufficient => .wait parser

/-- What `Parser::feed` does where a mark may begin: `needle` is what has to follow. -/
def mark (parser : Parser) (needle : TString) (found : Parser) (notFound : Verdict Parser)
    (rest : TString) : Verdict Parser :=
  match forwardScan rest needle with
  | .found => .next found needle.length
  | .notFound => notFound
  | .insufficientSize => .wait parser

/-- The loop body of `Parser::feed`: a character, with what follows it. `Parser::isValid` accepts
every character. -/
def look (parser : Parser) (char : Char) (rest : TString) : Verdict Parser :=
  match parser.state with
  | .initial =>
    let parser := { parser with tag := [] }
    if isWhitespace char then .next parser 0
    else if char = '<' then parser.enter .tagOpening
    else if parser.current = [] then .next parser 0
    else { parser with cdata := parser.cdata ++ [char] }.enter .tagInside
  | .tagOpening =>
    if isWhitespace char then .next parser 0
    else if char = '<' ∨ char = '>' ∨ char = '&' then parser.refuse
    else if char = '/' then parser.enter .tagClosingSlash
    else if char = '?' then { parser with preamble := 1 }.enter .tagNameCollect
    else if char = '!' then
      parser.mark "[CDATA[".toList { parser with state := .tagCDATASection } parser.refuse rest
    else { parser with tag := parser.tag ++ [char] }.enter .tagNameCollect
  | .tagCDATASection =>
    if char = ']' then
      parser.mark "]>".toList { parser with state := .tagInside }
        (.next { parser with cdata := parser.cdata ++ [char] } 0) rest
    else .next { parser with cdata := parser.cdata ++ [char] } 0
  | .tagNameCollect =>
    if isWhitespace char then parser.enter .tagNameComplete
    else if char = '<' ∨ char = '?' ∨ char = '!' ∨ char = '&' then parser.refuse
    else if char = '/' then parser.enter .tagOpeningSlash
    else if char = '>' then parser.addTag.enter .tagInside
    else if char = ':' then parser.splitTagPrefix
    else .next { parser with tag := parser.tag ++ [char] } 0
  | .tagInside =>
    let parser := { parser with tag := [] }
    if char = '<' then parser.addCData.enter .tagOpening
    else if char = '&' then
      parser.reference (fun rep => { parser with cdata := parser.cdata ++ rep }) rest
    else .next { parser with cdata := parser.cdata ++ [char] } 0
  | .tagOpeningSlash =>
    if isWhitespace char then .next parser 0
    else if char = '>' then parser.addTag.finish
    else parser.refuse
  | .tagClosingSlash =>
    if isWhitespace char then .next parser 0
    else if char = '>' ∨ char = '<' ∨ char = '/' then parser.refuse
    else { parser with tag := parser.tag ++ [char] }.enter .tagClosing
  | .tagClosing =>
    if char = '<' ∨ char = '/' ∨ char = '!' ∨ char = '?' ∨ char = '&' then parser.refuse
    else if char = ':' then parser.splitTagPrefix
    else if char = '>' then parser.finish
    else .next { parser with tag := parser.tag ++ [char] } 0
  | .tagNameComplete =>
    if isWhitespace char then .next parser 0
    else if char = '<' ∨ char = '!' ∨ char = '&' then parser.refuse
    else
      parser.endOfTag char ({ parser with attrib := parser.attrib ++ [char] }.enter .tagAttribute)
  | .tagAttribute =>
    if isWhitespace char then parser.enter .tagAttributeComplete
    else if char = '<' ∨ char = '/' ∨ char = '>' ∨ char = '?' ∨ char = '!' ∨ char = '&' then
      parser.refuse
    else if char = '=' then parser.enter .tagAttributeEqual
    else if char = ':' then
      if !parser.haveAttribPrefix ∧ parser.attrib ≠ xmlns then
        .next { parser with
          haveAttribPrefix := true, attribPrefix := parser.attrib, attrib := [] } 0
      else if parser.attrib = xmlns then .next { parser with attribIsXmlns := true, attrib := [] } 0
      else parser.refuse
    else .next { parser with attrib := parser.attrib ++ [char] } 0
  | .tagAttributeComplete =>
    if isWhitespace char then .next parser 0
    else if char = '=' then parser.enter .tagAttributeEqual
    else parser.refuse
  | .tagAttributeEqual =>
    if isWhitespace char then .next parser 0
    else if char = '"' then { parser with quote := true }.enter .tagAttributeValue
    else if char = '\'' then parser.enter .tagAttributeValue
    else parser.refuse
  | .tagAttributeValue =>
    if char = '<' then parser.refuse
    else if char = '\'' ∧ parser.quote then .next { parser with value := parser.value ++ [char] } 0
    else if char = '\'' ∨ char = '"' then
      { parser.addAttribute with quote := false }.enter .tagNameAlmostComplete
    else if char = '&' then
      parser.reference (fun rep => { parser with value := parser.value ++ rep }) rest
    else .next { parser with value := parser.value ++ [char] } 0
  | .tagNameAlmostComplete =>
    if isWhitespace char then parser.enter .tagNameComplete
    else parser.endOfTag char parser.refuse

/-- `Parser::feed`: the parser after it, and the position at which it has refused the data as an
`int`, or -1. The data begins with what was left of the piece before it. -/
def feed (parser : Parser) (data : TString) : Parser × Long :=
  let data := parser.backBuffer ++ data
  let scanned := scan look { parser with backBuffer := [] } 0 data
  if scanned.failed then (scanned.state, BitVec.ofNat 32 (data.length - scanned.left.length))
  else ({ scanned.state with backBuffer := scanned.left }, -1)

/-- `ClientBase::parse` takes what `Parser::feed` returns for a refusal. -/
def refuses (position : Long) : Bool := 0 ≤ position.toInt

/-- The parser gets the text in pieces, as `ClientBase::parse` passes them on; after a piece that is
refused, the connection is closed. It says whether one was refused. -/
def feedAll : List TString → Parser → Parser × Bool
  | [], parser => (parser, false)
  | piece :: pieces, parser =>
    match parser.feed piece with
    | (after, position) => if refuses position then (after, true) else feedAll pieces after

end Parser

end JnTapi.Gloox
