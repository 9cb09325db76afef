import Mintarr.Lib.Percent
import Mintarr.Lib.XmlLayout
import Mintarr.Newznab.Pointer
import Mintarr.Newznab.Search

/-!
# The feed of a search

The answer to a search is put together as text, with `escape` around the values.  What reads it is
an XML reader, for which that is enough in a text and not in an attribute.
-/

namespace Mintarr.Newznab

open Lib
open Ingest (ReleaseCandidate)
open Markup (xmlEscape)
open Xml (layout lineBreak textElement plainChar)

/-! ## The answer -/

/-- `ReleaseCandidate.guid`. -/
def guid (candidate : ReleaseCandidate) : Text :=
  candidate.sourceType.toList ++ ':' :: candidate.sourceId.toList

/-- `_addurl_callback_url`. -/
def addurlCallbackUrl (baseUrl apiKey : Text) (candidate : ReleaseCandidate) : Text :=
  let encodedId := b64urlEncode candidate.sourceId.toList
  baseUrl ++ ("/download/".toList ++ (Percent.quotePlus candidate.sourceType.toList ++
    ("/".toList ++ (encodedId ++ (".nzb".toList ++
    ("?apikey=".toList ++ Percent.quotePlus apiKey))))))

/-- `datetime(year, 1, 1).weekday()`. -/
def newYearsWeekday (year : Nat) : Nat :=
  (365 * (year - 1) + (year - 1) / 4 - (year - 1) / 100 + (year - 1) / 400) % 7

def weekdayNames : List String := ["Mon", "Tue", "Wed", "Thu", "Fri", "Sat", "Sun"]

/-- `format_datetime(datetime(year, 1, 1, tzinfo=timezone.utc))`, of a year with four digits. -/
def formatNewYear (year : Nat) : Text :=
  (weekdayNames.getD (newYearsWeekday year) "").toList ++
    (", 01 Jan ".toList ++ (Nat.toDigits 10 year ++ " 00:00:00 +0000".toList))

/-- `_release_pub_date`. -/
def releasePubDate (year : Option Int) : Text :=
  match year with
  | some year => if 1900 ≤ year ∧ year ≤ 2100 then formatNewYear year.toNat else formatNewYear 2024
  | none => formatNewYear 2024

/-- An entry of `attr_xml`. -/
def attrXml (attr : Text × Text) : Text :=
  "<newznab:attr name=\"".toList ++ (attr.1 ++ ("\" value=\"".toList ++
    (xmlEscape attr.2 ++ "\"/>".toList)))

/-- `_newznab_item`. -/
def newznabItem (title guid dlUrl : Text) (size : Nat) (pubDate : Text)
    (attrs : List (Text × Text)) : Text :=
  let attrXml := List.intercalate "\n      ".toList (attrs.map attrXml)
  let date := xmlEscape pubDate
  "    <item>".toList ++ '\n' ::
  ("      <title>".toList ++ (xmlEscape title ++ ("</title>".toList ++ '\n' ::
  ("      <guid isPermaLink=\"false\">".toList ++ (xmlEscape guid ++ ("</guid>".toList ++ '\n' ::
  ("      <link>".toList ++ (xmlEscape dlUrl ++ ("</link>".toList ++ '\n' ::
  ("      <comments></comments>".toList ++ '\n' ::
  ("      <pubDate>".toList ++
    ((if date = [] then "Mon, 01 Jan 2024 00:00:00 +0000".toList else date) ++
    ("</pubDate>".toList ++ '\n' ::
  ("      <category>3040</category>".toList ++ '\n' ::
  ("      <enclosure url=\"".toList ++ (xmlEscape dlUrl ++ ("\" length=\"".toList ++
    (Nat.toDigits 10 size ++ ("\" type=\"application/x-nzb\"/>".toList ++ '\n' ::
  ("      ".toList ++ (attrXml ++ '\n' ::
  "    </item>".toList)))))))))))))))))))))

/-- `_newznab_feed`. -/
def newznabFeed (itemsXml : Text) (total : Nat) : Text :=
  "<?xml version=\"1.0\" encoding=\"UTF-8\"?>".toList ++ '\n' ::
  ("<rss version=\"2.0\" xmlns:atom=\"http://www.w3.org/2005/Atom\"".toList ++
    (" xmlns:newznab=\"http://www.newznab.com/DTD/2010/feeds/attributes/\">".toList ++ '\n' ::
  ("<channel>".toList ++ '\n' ::
  ("  <atom:link href=\"\" rel=\"self\" type=\"application/rss+xml\"/>".toList ++ '\n' ::
  ("  <title>TidalHires</title>".toList ++ '\n' ::
  ("  <description>TIDAL HiRes 24-bit indexer</description>".toList ++ '\n' ::
  ("  <link></link>".toList ++ '\n' ::
  ("  <language>en-US</language>".toList ++ '\n' ::
  ("  <newznab:response offset=\"0\" total=\"".toList ++ (Nat.toDigits 10 total ++
    ("\"/>".toList ++ '\n' ::
  (itemsXml ++ '\n' ::
  ("</channel>".toList ++ '\n' :: "</rss>".toList)))))))))))))

/-- The attributes of an item. -/
def itemAttrs (candidate : ReleaseCandidate) : List (Text × Text) :=
  [("category".toList, "3040".toList), ("size".toList, Nat.toDigits 10 candidate.sizeBytes),
    ("guid".toList, guid candidate)]

section Answer

variable (baseUrl apiKey : Text)

/-- The item of a candidate. -/
def candidateItem (candidate : ReleaseCandidate) : Text :=
  newznabItem candidate.title.toList (guid candidate) (addurlCallbackUrl baseUrl apiKey candidate)
    candidate.sizeBytes (releasePubDate candidate.year) (itemAttrs candidate)

/-- What `newznab` answers. -/
def searchResponse (candidates : List ReleaseCandidate) : Text :=
  newznabFeed (List.intercalate ['\n'] (candidates.map (candidateItem baseUrl apiKey)))
    candidates.length

end Answer

/-! ## What a reader finds in it -/

/-- An item of a feed, as it is read. -/
structure Offer where
  title : Text
  guid : Text
  link : Text
  pubDate : Text
  enclosureUrl : Text
  enclosureLength : Text
  attrs : List (Text × Text)
  deriving DecidableEq

/-- The attribute of the first element of a name. -/
def firstAttribute (element name : Text) (node : Xml.Node) : Text :=
  ((node.named element).head?.map (Xml.Node.attributeOf name)).getD []

def readOffer (item : Xml.Node) : Offer where
  title := item.contentOf "title".toList
  guid := item.contentOf "guid".toList
  link := item.contentOf "link".toList
  pubDate := item.contentOf "pubDate".toList
  enclosureUrl := firstAttribute "enclosure".toList "url".toList item
  enclosureLength := firstAttribute "enclosure".toList "length".toList item
  attrs := (item.named "newznab:attr".toList).map fun attr =>
    (attr.attributeOf "name".toList, attr.attributeOf "value".toList)

/-- The items of a document. -/
def itemsOf (root : Xml.Node) : List Xml.Node :=
  (root.named "channel".toList).flatMap (Xml.Node.named "item".toList)

/-- The offers of a feed; nothing where it is not well formed. -/
def readOffers (feed : Text) : Option (List Offer) :=
  (Xml.readDocument feed).map fun root => (itemsOf root).map readOffer

/-- What a candidate is to be read as. -/
def offerOf (baseUrl apiKey : Text) (candidate : ReleaseCandidate) : Offer where
  title := candidate.title.toList
  guid := guid candidate
  link := addurlCallbackUrl baseUrl apiKey candidate
  pubDate := releasePubDate candidate.year
  enclosureUrl := addurlCallbackUrl baseUrl apiKey candidate
  enclosureLength := Nat.toDigits 10 candidate.sizeBytes
  attrs := itemAttrs candidate

/-! ## The tree of the answer -/

def attrNode (attr : Text × Text) : Xml.Node :=
  .void "newznab:attr".toList [("name".toList, attr.1), ("value".toList, attr.2)]

def enclosureNode (offer : Offer) : Xml.Node :=
  .void "enclosure".toList [("url".toList, offer.enclosureUrl),
    ("length".toList, offer.enclosureLength), ("type".toList, "application/x-nzb".toList)]

def offerTexts (offer : Offer) : List Xml.Node :=
  [textElement "title".toList [] offer.title,
    textElement "guid".toList [("isPermaLink".toList, "false".toList)] offer.guid,
    textElement "link".toList [] offer.link, textElement "comments".toList [] [],
    textElement "pubDate".toList [] offer.pubDate, textElement "category".toList [] "3040".toList]

/-- The elements of an item. -/
def offerParts (offer : Offer) : List Xml.Node :=
  offerTexts offer ++ enclosureNode offer :: offer.attrs.map attrNode

def offerNode (offer : Offer) : Xml.Node :=
  .element "item".toList [] (layout ((offerParts offer).map fun node => (6, node)) (lineBreak 4))

def atomLink : Xml.Node :=
  .void "atom:link".toList [("href".toList, []), ("rel".toList, "self".toList),
    ("type".toList, "application/rss+xml".toList)]

def channelTexts : List Xml.Node :=
  [textElement "title".toList [] "TidalHires".toList,
    textElement "description".toList [] "TIDAL HiRes 24-bit indexer".toList,
    textElement "link".toList [] [], textElement "language".toList [] "en-US".toList]

def responseNode (total : Nat) : Xml.Node :=
  .void "newznab:response".toList [("offset".toList, "0".toList),
    ("total".toList, Nat.toDigits 10 total)]

/-- The elements of every channel. -/
def channelParts (total : Nat) : List Xml.Node :=
  atomLink :: channelTexts ++ [responseNode total]

def channelNode (offers : List Offer) : Xml.Node :=
  .element "channel".toList []
    (layout ((channelParts offers.length).map (fun node => (2, node)) ++
        offers.map fun offer => (4, offerNode offer))
      (if offers = [] then "\n\n".toList else "\n".toList))

def feedAttributes : Xml.Attributes :=
  [("version".toList, "2.0".toList),
    ("xmlns:atom".toList, "http://www.w3.org/2005/Atom".toList),
    ("xmlns:newznab".toList, "http://www.newznab.com/DTD/2010/feeds/attributes/".toList)]

def feedNode (offers : List Offer) : Xml.Node :=
  .element "rss".toList feedAttributes (layout [(0, channelNode offers)] "\n".toList)

/-! ## The answer is its tree -/

section Written

open Xml

/-- A character that is the same in a text, in an attribute and in a URL. -/
def isOrdinary (c : Char) : Bool := c.isAlphanum || c ∈ " ,:+_.-~%/?=".toList

theorem ordinary_spec {c : Char} (ordinary : isOrdinary c = true) :
    c ∉ "&<>".toList ∧ plainChar true c = true := by
  have ascii : c.toNat < 0x80 := by
    rw [isOrdinary, Bool.or_eq_true, decide_eq_true_eq] at ordinary
    rcases ordinary with letter | listed
    · exact Text.lt_of_isAlphanum letter
    · have all : " ,:+_.-~%/?=".toList.all (fun d => d.toNat < 0x80) = true := by decide
      exact of_decide_eq_true (List.all_eq_true.mp all c listed)
  have all : ∀ code < 0x80, isOrdinary (Char.ofNat code) = true →
      Char.ofNat code ∉ "&<>".toList ∧ plainChar true (Char.ofNat code) = true := by
    decide +kernel
  have found := all c.toNat ascii
  rw [Char.ofNat_toNat] at found
  exact found ordinary

theorem isOrdinary_toDigits (number : Nat) : ∀ c ∈ Nat.toDigits 10 number, isOrdinary c = true := by
  intro c listed
  have digit := Nat.isDigit_of_mem_toDigits (by decide) (by decide) listed
  have letter : c.isAlphanum = (c.isAlpha || c.isDigit) := rfl
  rw [isOrdinary, letter, digit, Bool.or_true, Bool.true_or]

theorem xmlEscape_toDigits (number : Nat) :
    xmlEscape (Nat.toDigits 10 number) = Nat.toDigits 10 number :=
  xmlEscape_eq_self fun c listed => (ordinary_spec (isOrdinary_toDigits number c listed)).1

theorem isOrdinary_formatNewYear (year : Nat) :
    formatNewYear year ≠ [] ∧ ∀ c ∈ formatNewYear year, isOrdinary c = true := by
  have weekday : ∀ day < 7, (weekdayNames.getD day "").toList.all isOrdinary = true := by decide
  have fixed : ∀ part ∈ [", 01 Jan ", " 00:00:00 +0000"], part.toList.all isOrdinary = true := by
    decide
  rw [List.forall_mem_cons, List.forall_mem_singleton] at fixed
  constructor
  · simp [formatNewYear]
  · rw [formatNewYear, List.forall_mem_append, List.forall_mem_append, List.forall_mem_append]
    exact ⟨List.all_eq_true.mp (weekday _ (Nat.mod_lt _ (by decide))),
      List.all_eq_true.mp fixed.1, isOrdinary_toDigits year, List.all_eq_true.mp fixed.2⟩

theorem isOrdinary_releasePubDate (year : Option Int) :
    releasePubDate year ≠ [] ∧ ∀ c ∈ releasePubDate year, isOrdinary c = true := by
  cases year with
  | none => exact isOrdinary_formatNewYear 2024
  | some year =>
      rw [releasePubDate]
      split_ifs
      · exact isOrdinary_formatNewYear _
      · exact isOrdinary_formatNewYear 2024

theorem write_attrNode {attr : Text × Text} (plain : xmlEscape attr.1 = attr.1) :
    (attrNode attr).write = attrXml attr := by
  rw [attrNode, write_void, writeAttributes_cons, writeAttributes_cons, writeAttributes_nil, plain]
  delta attrXml
  simp only [List.append_assoc, List.nil_append, toList_append_toList, ← String.toList_append,
    String.reduceAppend]

/-- The attributes of an item, joined by line breaks. -/
theorem write_attrs (candidate : ReleaseCandidate) :
    (((itemAttrs candidate).map attrNode).map fun node => (6, node)).flatMap
        (fun line => lineBreak line.1 ++ line.2.write) =
      "\n      ".toList ++
        List.intercalate "\n      ".toList ((itemAttrs candidate).map attrXml) := by
  have some_attr : (itemAttrs candidate).map attrXml ≠ [] := by simp [itemAttrs]
  rw [append_intercalate some_attr, List.map_map, List.flatMap_map, List.flatMap_map]
  apply List.flatMap_congr
  intro attr listed
  have plain : xmlEscape attr.1 = attr.1 := by
    simp only [itemAttrs, List.mem_cons, List.not_mem_nil, or_false] at listed
    rcases listed with rfl | rfl | rfl
    · rfl
    · rfl
    · rfl
  rw [← write_attrNode plain]
  rfl

variable (baseUrl apiKey : Text)

theorem candidateItem_eq (candidate : ReleaseCandidate) :
    candidateItem baseUrl apiKey candidate =
      "    ".toList ++ (offerNode (offerOf baseUrl apiKey candidate)).write := by
  obtain ⟨dated, ordinary⟩ := isOrdinary_releasePubDate candidate.year
  have date : xmlEscape (releasePubDate candidate.year) = releasePubDate candidate.year :=
    xmlEscape_eq_self fun c listed => (ordinary_spec (ordinary c listed)).1
  have six : lineBreak 6 = '\n' :: "      ".toList := rfl
  have four : xmlEscape (lineBreak 4) = '\n' :: "    ".toList := rfl
  have permanent : xmlEscape "false".toList = "false".toList := rfl
  have category : xmlEscape "3040".toList = "3040".toList := rfl
  have kind : xmlEscape "application/x-nzb".toList = "application/x-nzb".toList := rfl
  have empty : xmlEscape [] = [] := rfl
  have behind : ∀ rest, "\n      ".toList ++ rest = '\n' :: ("      ".toList ++ rest) :=
    fun rest => rfl
  delta candidateItem newznabItem
  dsimp only
  rw [date, if_neg dated, offerNode, write_element, writeAll_layout, offerParts, List.map_append,
    List.flatMap_append, List.map_cons, List.flatMap_cons, offerOf, write_attrs]
  delta offerTexts enclosureNode
  simp only [List.map_cons, List.map_nil, List.flatMap_cons, List.flatMap_nil, six, four, behind,
    write_textElement, write_void, writeAttributes_cons, writeAttributes_nil, permanent, category,
    kind, empty, date, xmlEscape_toDigits, List.append_assoc, List.cons_append, List.nil_append,
    List.append_nil, toList_append_toList, ← String.toList_append, String.reduceAppend]

/-- The items of a feed, joined by line breaks, and the white space behind them. -/
theorem write_offers (candidates : List ReleaseCandidate) :
    ((candidates.map (offerOf baseUrl apiKey)).map fun offer => (4, offerNode offer)).flatMap
        (fun line => lineBreak line.1 ++ line.2.write) ++
      (if candidates.map (offerOf baseUrl apiKey) = [] then "\n\n".toList else "\n".toList) =
    '\n' :: (List.intercalate ['\n'] (candidates.map (candidateItem baseUrl apiKey)) ++
      ['\n']) := by
  cases candidates with
  | nil => rfl
  | cons candidate candidates =>
      have indented : ∀ rest, lineBreak 4 ++ rest = ['\n'] ++ ("    ".toList ++ rest) :=
        fun rest => rfl
      have joined := @append_intercalate ['\n']
        ((candidate :: candidates).map (candidateItem baseUrl apiKey)) (List.cons_ne_nil _ _)
      have listed : (candidate :: candidates).map (offerOf baseUrl apiKey) ≠ [] :=
        List.cons_ne_nil _ _
      have items : (((candidate :: candidates).map (offerOf baseUrl apiKey)).map
            fun offer => (4, offerNode offer)).flatMap
          (fun line => lineBreak line.1 ++ line.2.write) =
          ['\n'] ++ List.intercalate ['\n']
            ((candidate :: candidates).map (candidateItem baseUrl apiKey)) := by
        rw [joined, List.map_map, List.flatMap_map, List.flatMap_map]
        apply List.flatMap_congr
        intro other _
        rw [candidateItem_eq, ← indented]
        rfl
      rw [if_neg listed, items]
      rfl

theorem write_channelNode (candidates : List ReleaseCandidate) :
    (channelNode (candidates.map (offerOf baseUrl apiKey))).write =
      "<channel>".toList ++
        (((channelParts candidates.length).map fun node => (2, node)).flatMap
            (fun line => lineBreak line.1 ++ line.2.write) ++
          ('\n' :: (List.intercalate ['\n'] (candidates.map (candidateItem baseUrl apiKey)) ++
              ('\n' :: "</channel>".toList)))) := by
  have last : xmlEscape (if candidates.map (offerOf baseUrl apiKey) = [] then "\n\n".toList
      else "\n".toList) =
      if candidates.map (offerOf baseUrl apiKey) = [] then "\n\n".toList else "\n".toList := by
    split_ifs
    · rfl
    · rfl
  have content : ∀ first second third rest : Text,
      (first ++ second ++ third) ++ rest = first ++ ((second ++ third) ++ rest) := by
    intro first second third rest
    rw [List.append_assoc, List.append_assoc, List.append_assoc]
  rw [channelNode, write_element, writeAll_layout, List.flatMap_append, last, content,
    write_offers, List.length_map]
  simp only [writeAttributes_nil, List.append_assoc, List.cons_append, List.nil_append,
    toList_append_toList, ← String.toList_append, String.reduceAppend]

/-- The answer is its tree, written. -/
theorem searchResponse_eq (candidates : List ReleaseCandidate) :
    searchResponse baseUrl apiKey candidates =
      writeDocument (feedNode (candidates.map (offerOf baseUrl apiKey))) := by
  have two : lineBreak 2 = '\n' :: "  ".toList := rfl
  have zero : lineBreak 0 = ['\n'] := rfl
  have ends : xmlEscape "\n".toList = ['\n'] := rfl
  have empty : xmlEscape [] = [] := rfl
  have version : xmlEscape "2.0".toList = "2.0".toList := rfl
  have atom : xmlEscape "http://www.w3.org/2005/Atom".toList =
      "http://www.w3.org/2005/Atom".toList := rfl
  have attributes : xmlEscape "http://www.newznab.com/DTD/2010/feeds/attributes/".toList =
      "http://www.newznab.com/DTD/2010/feeds/attributes/".toList := rfl
  have self : xmlEscape "self".toList = "self".toList := rfl
  have kind : xmlEscape "application/rss+xml".toList = "application/rss+xml".toList := rfl
  have title : xmlEscape "TidalHires".toList = "TidalHires".toList := rfl
  have description : xmlEscape "TIDAL HiRes 24-bit indexer".toList =
      "TIDAL HiRes 24-bit indexer".toList := rfl
  have language : xmlEscape "en-US".toList = "en-US".toList := rfl
  have offset : xmlEscape "0".toList = "0".toList := rfl
  have declared : ∀ rest, declaration ++ rest =
      "<?xml version=\"1.0\" encoding=\"UTF-8\"?>".toList ++ '\n' :: rest := by
    intro rest
    delta declaration
    rw [List.append_assoc]
    rfl
  delta searchResponse newznabFeed
  rw [feedNode, writeDocument, declared, write_element, writeAll_layout, List.flatMap_singleton,
    write_channelNode]
  delta channelParts atomLink channelTexts responseNode feedAttributes
  simp only [List.map_cons, List.map_nil, List.flatMap_cons, List.flatMap_nil, two, zero, ends,
    empty, version, atom, attributes, self, kind, title, description, language, offset,
    write_void, write_textElement, writeAttributes_cons, writeAttributes_nil, xmlEscape_toDigits,
    List.append_assoc, List.cons_append, List.nil_append, toList_append_toList,
    ← String.toList_append, String.reduceAppend]

end Written

/-! ## What is read -/

section Read

open Xml

variable {offers : List Offer} {offer : Offer}

/-- What is to be checked of an element without content are its names. -/
theorem shaped_void {name : Text} {attributes : Xml.Attributes} {keys : List Text}
    (same : attributes.map Prod.fst = keys)
    (checked : (IsName name ∧ ∀ key ∈ keys, IsName key) ∧ keys.Nodup) :
    (Xml.Node.void name attributes).isText = false ∧ (Xml.Node.void name attributes).Shaped :=
  ⟨rfl, Named.of_keys same checked⟩

theorem shaped_offerNode (offer : Offer) :
    (offerNode offer).isText = false ∧ (offerNode offer).Shaped := by
  refine ⟨rfl, Named.of_keys rfl (by decide), allShaped_layout (by decide) ?_⟩
  intro line listed
  obtain ⟨node, own, rfl⟩ := List.mem_map.mp listed
  rcases List.mem_append.mp own with text | later
  · simp only [offerTexts, List.mem_cons, List.not_mem_nil, or_false] at text
    rcases text with rfl | rfl | rfl | rfl | rfl | rfl <;>
      exact ⟨rfl, shaped_textElement (Named.of_keys rfl (by decide))⟩
  · rcases List.mem_cons.mp later with rfl | added
    · exact @shaped_void _ _ ["url".toList, "length".toList, "type".toList] rfl (by decide)
    · obtain ⟨attr, _, rfl⟩ := List.mem_map.mp added
      exact @shaped_void _ _ ["name".toList, "value".toList] rfl (by decide)

theorem shaped_channelNode (offers : List Offer) :
    (channelNode offers).isText = false ∧ (channelNode offers).Shaped := by
  refine ⟨rfl, Named.of_keys rfl (by decide), allShaped_layout ?_ ?_⟩
  · split_ifs
    · decide
    · decide
  · intro line listed
    rcases List.mem_append.mp listed with fixed | own
    · obtain ⟨node, part, rfl⟩ := List.mem_map.mp fixed
      simp only [channelParts, channelTexts, List.cons_append, List.nil_append, List.mem_cons,
        List.not_mem_nil, or_false] at part
      rcases part with rfl | rfl | rfl | rfl | rfl | rfl
      · exact @shaped_void _ _ ["href".toList, "rel".toList, "type".toList] rfl (by decide)
      · exact ⟨rfl, shaped_textElement (Named.of_keys rfl (by decide))⟩
      · exact ⟨rfl, shaped_textElement (Named.of_keys rfl (by decide))⟩
      · exact ⟨rfl, shaped_textElement (Named.of_keys rfl (by decide))⟩
      · exact ⟨rfl, shaped_textElement (Named.of_keys rfl (by decide))⟩
      · exact @shaped_void _ _ ["offset".toList, "total".toList] rfl (by decide)
    · obtain ⟨offer, _, rfl⟩ := List.mem_map.mp own
      exact shaped_offerNode offer

theorem shaped_feedNode (offers : List Offer) : (feedNode offers).Shaped := by
  refine ⟨Named.of_keys rfl (by decide), allShaped_layout (by decide) ?_⟩
  intro line listed
  cases List.mem_singleton.mp listed
  exact shaped_channelNode offers

/-- The parts of an offer are found in its node. -/
theorem readOffer_offerNode (offer : Offer) : readOffer (offerNode offer) = offer := by
  have attrs : (offerNode offer).named "newznab:attr".toList = offer.attrs.map attrNode := by
    have fixed : (offerTexts offer ++ [enclosureNode offer]).filter
        (Node.isNamed "newznab:attr".toList) = [] := rfl
    have split : offerParts offer =
        (offerTexts offer ++ [enclosureNode offer]) ++ offer.attrs.map attrNode := by
      rw [offerParts, List.append_assoc]
      rfl
    rw [offerNode, named_layout, List.map_map, Function.comp_def, List.map_id', split,
      List.filter_append, fixed, List.nil_append, List.filter_eq_self]
    intro node listed
    obtain ⟨attr, _, rfl⟩ := List.mem_map.mp listed
    rfl
  have pairs : (offer.attrs.map attrNode).map (fun attr =>
      (attr.attributeOf "name".toList, attr.attributeOf "value".toList)) = offer.attrs := by
    rw [List.map_map, List.map_congr_left (g := id), List.map_id]
    intro attr _
    rfl
  have title : (offerNode offer).contentOf "title".toList = offer.title := content_textElement
  have guid : (offerNode offer).contentOf "guid".toList = offer.guid := content_textElement
  have link : (offerNode offer).contentOf "link".toList = offer.link := content_textElement
  have date : (offerNode offer).contentOf "pubDate".toList = offer.pubDate := content_textElement
  rw [readOffer, attrs, pairs, title, guid, link, date]
  rfl

theorem itemsOf_feedNode (offers : List Offer) :
    itemsOf (feedNode offers) = offers.map offerNode := by
  have channel : (feedNode offers).named "channel".toList = [channelNode offers] := rfl
  have fixed : (channelParts offers.length).filter (Node.isNamed "item".toList) = [] := rfl
  rw [itemsOf, channel, List.flatMap_singleton, channelNode, named_layout, List.map_append,
    List.map_map, List.map_map, List.filter_append, Function.comp_def, List.map_id', fixed,
    List.nil_append, Function.comp_def, List.filter_eq_self]
  intro node listed
  obtain ⟨offer, _, rfl⟩ := List.mem_map.mp listed
  rfl

/-- No value of the offer has a character that is special where it stands. -/
structure Offer.Plain (offer : Offer) : Prop where
  title : ∀ c ∈ offer.title, plainChar false c = true
  guid : ∀ c ∈ offer.guid, plainChar false c = true
  link : ∀ c ∈ offer.link, plainChar false c = true
  pubDate : ∀ c ∈ offer.pubDate, plainChar false c = true
  enclosureUrl : ∀ c ∈ offer.enclosureUrl, plainChar true c = true
  enclosureLength : ∀ c ∈ offer.enclosureLength, plainChar true c = true
  attrs : ∀ attr ∈ offer.attrs, (∀ c ∈ attr.1, plainChar true c = true) ∧
    ∀ c ∈ attr.2, plainChar true c = true

theorem plain_void {name : Text} {attributes : Xml.Attributes}
    (plain : ∀ pair ∈ attributes, ∀ c ∈ pair.2, plainChar true c = true) :
    Xml.Plain (Xml.Node.void name attributes).values := by
  rw [Node.values]
  intro quoted listed
  obtain ⟨pair, own, rfl⟩ := List.mem_map.mp listed
  exact plain pair own

theorem plain_offerNode (plain : offer.Plain) : Xml.Plain (offerNode offer).values := by
  have within : (offerNode offer).values =
      allValues (layout ((offerParts offer).map fun node => (6, node)) (lineBreak 4)) := by
    rw [offerNode, Node.values]
    rfl
  rw [within]
  apply plain_layout (plainChar_lineBreak 4)
  intro line listed
  obtain ⟨node, own, rfl⟩ := List.mem_map.mp listed
  rcases List.mem_append.mp own with text | later
  · simp only [offerTexts, List.mem_cons, List.not_mem_nil, or_false] at text
    rcases text with rfl | rfl | rfl | rfl | rfl | rfl
    · exact plain_textElement plain.title (plain_attributes (by decide))
    · exact plain_textElement plain.guid (plain_attributes (by decide))
    · exact plain_textElement plain.link (plain_attributes (by decide))
    · exact plain_textElement (List.all_eq_true.mp (by decide)) (plain_attributes (by decide))
    · exact plain_textElement plain.pubDate (plain_attributes (by decide))
    · exact plain_textElement (List.all_eq_true.mp (by decide)) (plain_attributes (by decide))
  · rcases List.mem_cons.mp later with rfl | added
    · apply plain_void
      rw [List.forall_mem_cons, List.forall_mem_cons, List.forall_mem_singleton]
      exact ⟨plain.enclosureUrl, plain.enclosureLength, List.all_eq_true.mp (by decide)⟩
    · obtain ⟨attr, carried, rfl⟩ := List.mem_map.mp added
      apply plain_void
      rw [List.forall_mem_cons, List.forall_mem_singleton]
      exact plain.attrs attr carried

theorem plain_feedNode (plain : ∀ offer ∈ offers, offer.Plain) :
    Xml.Plain (feedNode offers).values := by
  have plain_channel : Xml.Plain (channelNode offers).values := by
    have within : (channelNode offers).values = allValues (layout
        ((channelParts offers.length).map (fun node => (2, node)) ++
          offers.map fun offer => (4, offerNode offer))
        (if offers = [] then "\n\n".toList else "\n".toList)) := by
      rw [channelNode, Node.values]
      rfl
    rw [within]
    apply plain_layout
    · split_ifs
      · exact List.all_eq_true.mp (by decide)
      · exact List.all_eq_true.mp (by decide)
    · intro line listed
      rcases List.mem_append.mp listed with fixed | own
      · obtain ⟨node, part, rfl⟩ := List.mem_map.mp fixed
        simp only [channelParts, channelTexts, List.cons_append, List.nil_append, List.mem_cons,
          List.not_mem_nil, or_false] at part
        rcases part with rfl | rfl | rfl | rfl | rfl | rfl
        · exact plain_void (plain_attributes (by decide))
        · exact plain_textElement (List.all_eq_true.mp (by decide)) (plain_attributes (by decide))
        · exact plain_textElement (List.all_eq_true.mp (by decide)) (plain_attributes (by decide))
        · exact plain_textElement (List.all_eq_true.mp (by decide)) (plain_attributes (by decide))
        · exact plain_textElement (List.all_eq_true.mp (by decide)) (plain_attributes (by decide))
        · apply plain_void
          rw [List.forall_mem_cons, List.forall_mem_singleton]
          exact ⟨List.all_eq_true.mp (by decide),
            fun c digit => (ordinary_spec (isOrdinary_toDigits _ c digit)).2⟩
      · obtain ⟨offer, carried, rfl⟩ := List.mem_map.mp own
        exact plain_offerNode (plain offer carried)
  have versions : ∀ value ∈ feedAttributes.map fun pair => (true, pair.2),
      ∀ c ∈ value.2, plainChar value.1 c = true := by
    rw [List.forall_mem_map]
    exact plain_attributes (by decide)
  rw [feedNode, Node.values, Plain.append]
  constructor
  · exact versions
  · apply plain_layout (List.all_eq_true.mp (by decide))
    rw [List.forall_mem_singleton]
    exact plain_channel

/-- What is read of a written feed is plain. -/
theorem plain_of_readOffers {found : List Offer}
    (read : readOffers (writeDocument (feedNode offers)) = some found) :
    ∀ offer ∈ found, offer.Plain := by
  obtain ⟨root, document, rfl⟩ := Option.map_eq_some_iff.mp read
  have plain := plain_of_readDocument_write (shaped_feedNode offers) document
  intro offer listed
  obtain ⟨item, own, rfl⟩ := List.mem_map.mp listed
  obtain ⟨channel, within, inside⟩ := List.mem_flatMap.mp own
  have values : Xml.Plain item.values := (plain.named within).named inside
  have valued : ∀ element name, ∀ c ∈ firstAttribute element name item,
      plainChar true c = true := by
    intro element name c member
    rw [firstAttribute] at member
    cases found : (item.named element).head? with
    | none =>
        rw [found] at member
        cases member
    | some first =>
        rw [found] at member
        exact Plain.attributeOf (values.named (List.mem_of_head? found)) c member
  refine ⟨values.contentOf, values.contentOf, values.contentOf, values.contentOf,
    valued _ _, valued _ _, ?_⟩
  intro attr member
  obtain ⟨node, part, rfl⟩ := List.mem_map.mp member
  exact ⟨(values.named part).attributeOf, (values.named part).attributeOf⟩

/-- A feed is read back just where its offers are plain. -/
theorem readOffers_write_iff :
    readOffers (writeDocument (feedNode offers)) = some offers ↔ ∀ offer ∈ offers, offer.Plain := by
  constructor
  · exact plain_of_readOffers
  · intro plain
    have document := (readDocument_write_iff rfl (shaped_feedNode offers)).mpr
      (plain_feedNode plain)
    have back : (offers.map offerNode).map readOffer = offers := by
      rw [List.map_map, List.map_congr_left (g := id), List.map_id]
      intro offer _
      exact readOffer_offerNode offer
    rw [readOffers, document, Option.map_some, itemsOf_feedNode, back]

end Read

/-! ## The feed of a search -/

section Feed

variable {baseUrl apiKey : Text} {candidate : ReleaseCandidate}

/-- No character is special in a text. -/
def PlainText (value : Text) : Prop := ∀ c ∈ value, plainChar false c = true

/-- No character is special in an attribute in double quotes. -/
def PlainAttribute (value : Text) : Prop := ∀ c ∈ value, plainChar true c = true

theorem isOrdinary_of_isQuoted {c : Char} (quoted : Percent.isQuoted c = true) :
    isOrdinary c = true := by
  rw [Percent.isQuoted, Bool.or_eq_true, decide_eq_true_eq] at quoted
  rw [isOrdinary, Bool.or_eq_true, decide_eq_true_eq]
  apply quoted.imp id
  have all : "_.-~+%".toList ⊆ " ,:+_.-~%/?=".toList := by decide
  exact @all c

theorem isOrdinary_of_isUrl {c : Char} (token : Base64.isUrl c = true) : isOrdinary c = true := by
  rw [Base64.isUrl, Bool.or_eq_true, Bool.or_eq_true, decide_eq_true_eq, decide_eq_true_eq] at token
  rcases token with (letter | rfl) | rfl
  · rw [isOrdinary, letter, Bool.true_or]
  · rfl
  · rfl

/-- A token is made of the characters of base64url. -/
theorem isUrl_b64urlEncode (value : Text) : ∀ c ∈ b64urlEncode value, Base64.isUrl c = true := by
  obtain ⟨token, encode_eq, shaped, _⟩ := Base64.exists_urlsafeEncode_eq (Utf8.encode value)
  rw [b64urlEncode, encode_eq, Base64.rdropWhile_padding token _ shaped]
  exact shaped

/-- A link is as plain as the URL that it begins with. -/
theorem plainAttribute_addurlCallbackUrl :
    PlainAttribute (addurlCallbackUrl baseUrl apiKey candidate) ↔ PlainAttribute baseUrl := by
  have ordinary : ∀ c ∈ "/download/".toList ++
      (Percent.quotePlus candidate.sourceType.toList ++
        ("/".toList ++ (b64urlEncode candidate.sourceId.toList ++ (".nzb".toList ++
          ("?apikey=".toList ++ Percent.quotePlus apiKey))))), isOrdinary c = true := by
    intro c listed
    simp only [List.mem_append] at listed
    rcases listed with fixed | quoted | fixed | token | fixed | fixed | quoted
    · exact List.all_eq_true.mp (by decide) c fixed
    · exact isOrdinary_of_isQuoted (Percent.isQuoted_of_mem_quotePlus quoted)
    · exact List.all_eq_true.mp (by decide) c fixed
    · exact isOrdinary_of_isUrl (isUrl_b64urlEncode _ c token)
    · exact List.all_eq_true.mp (by decide) c fixed
    · exact List.all_eq_true.mp (by decide) c fixed
    · exact isOrdinary_of_isQuoted (Percent.isQuoted_of_mem_quotePlus quoted)
  rw [PlainAttribute, addurlCallbackUrl, List.forall_mem_append]
  exact and_iff_left fun c listed => (ordinary_spec (ordinary c listed)).2

theorem plainText_of_plainAttribute {value : Text} (plain : PlainAttribute value) :
    PlainText value := by
  intro c listed
  have quoted := plain c listed
  rw [plainChar, Bool.and_eq_true] at quoted ⊢
  exact ⟨quoted.1, rfl⟩

theorem plain_offerOf :
    (offerOf baseUrl apiKey candidate).Plain ↔ PlainText candidate.title.toList ∧
      PlainAttribute (guid candidate) ∧ PlainAttribute baseUrl := by
  have digits : PlainAttribute (Nat.toDigits 10 candidate.sizeBytes) :=
    fun c listed => (ordinary_spec (isOrdinary_toDigits _ c listed)).2
  have dated : PlainAttribute (releasePubDate candidate.year) :=
    fun c listed => (ordinary_spec ((isOrdinary_releasePubDate _).2 c listed)).2
  constructor
  · intro plain
    refine ⟨plain.title, ?_, plainAttribute_addurlCallbackUrl.mp plain.enclosureUrl⟩
    have last : ("guid".toList, guid candidate) ∈ itemAttrs candidate := by simp [itemAttrs]
    exact (plain.attrs _ last).2
  · intro plain
    obtain ⟨title, named, based⟩ := plain
    have linked := (@plainAttribute_addurlCallbackUrl baseUrl apiKey candidate).mpr based
    refine ⟨title, plainText_of_plainAttribute named, plainText_of_plainAttribute linked,
      plainText_of_plainAttribute dated, linked, digits, ?_⟩
    have carried : (offerOf baseUrl apiKey candidate).attrs = itemAttrs candidate := rfl
    have category : PlainAttribute "category".toList ∧ PlainAttribute "3040".toList :=
      ⟨List.all_eq_true.mp (by decide), List.all_eq_true.mp (by decide)⟩
    have keys : PlainAttribute "size".toList ∧ PlainAttribute "guid".toList :=
      ⟨List.all_eq_true.mp (by decide), List.all_eq_true.mp (by decide)⟩
    rw [carried, itemAttrs, List.forall_mem_cons, List.forall_mem_cons, List.forall_mem_singleton]
    exact ⟨category, ⟨keys.1, digits⟩, keys.2, named⟩

/-- The feed of a search is read as the candidates that it is made of if and only if their titles
have no character that is special in a text, and their GUIDs and the base of their links none that
is special in an attribute. -/
theorem readOffers_searchResponse_iff (baseUrl apiKey : Text)
    (candidates : List ReleaseCandidate) :
    readOffers (searchResponse baseUrl apiKey candidates) =
        some (candidates.map (offerOf baseUrl apiKey)) ↔
      ∀ candidate ∈ candidates, PlainText candidate.title.toList ∧
        PlainAttribute (guid candidate) ∧ PlainAttribute baseUrl := by
  rw [searchResponse_eq, readOffers_write_iff, List.forall_mem_map]
  constructor
  · intro plain candidate listed
    exact plain_offerOf.mp (plain candidate listed)
  · intro plain candidate listed
    exact plain_offerOf.mpr (plain candidate listed)

end Feed

end Mintarr.Newznab
