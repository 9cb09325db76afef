import Mintarr.Lib.Markup

/-!
# Reading what was written as XML

A reader of the part of XML that feeds use: elements, attributes in double quotes, text, and the
five predefined references.  A writer that escapes no more than `escape` does is read back just where
no value has a character that is special where it stands.
-/

namespace Mintarr.Lib.Xml

open Markup (xmlEscape escaped xmlEscape_eq)

abbrev Attributes := List (List Char × List Char)

/-- A part of a document; an element without content has one tag or two. -/
inductive Node where
  | text (value : List Char)
  | void (name : List Char) (attributes : Attributes)
  | element (name : List Char) (attributes : Attributes) (children : List Node)

/-! ## Writing -/

def writeAttribute (pair : List Char × List Char) : List Char :=
  ' ' :: (pair.1 ++ ('=' :: '"' :: (xmlEscape pair.2 ++ ['"'])))

def writeAttributes (attributes : Attributes) : List Char := attributes.flatMap writeAttribute

mutual

def Node.write : Node → List Char
  | .text value => xmlEscape value
  | .void name attributes => '<' :: (name ++ (writeAttributes attributes ++ ['/', '>']))
  | .element name attributes children =>
      '<' :: (name ++ (writeAttributes attributes ++
        ('>' :: (writeAll children ++ ('<' :: '/' :: (name ++ ['>']))))))

def writeAll : List Node → List Char
  | [] => []
  | node :: nodes => node.write ++ writeAll nodes

end

/-! ## Reading -/

/-- The characters of a document. -/
def isLegal (c : Char) : Bool :=
  c = '\t' || c = '\n' || c = '\r' || (0x20 ≤ c.toNat && c.toNat ≤ 0xd7ff) ||
    (0xe000 ≤ c.toNat && c.toNat ≤ 0xfffd) || 0x10000 ≤ c.toNat

def isNameChar (c : Char) : Bool := c.isAlphanum || c = ':' || c = '-' || c = '_' || c = '.'

def isBlank (c : Char) : Bool := c = ' ' || c = '\t' || c = '\n' || c = '\r'

/-- The predefined references. -/
def references : List (List Char × Char) :=
  [("amp;".toList, '&'), ("lt;".toList, '<'), ("gt;".toList, '>'), ("quot;".toList, '"'),
    ("apos;".toList, '\x27')]

/-- The reference that a text begins with. -/
def reference (input : List Char) : Option (List Char × Char) :=
  references.find? fun known => known.1.isPrefixOf input

/-- The text after some characters, with its references replaced. -/
def unescapeFrom : Nat → List Char → Option (List Char)
  | _, [] => some []
  | skip + 1, _ :: rest => unescapeFrom skip rest
  | 0, c :: rest =>
      if c = '&' then
        (reference rest).bind fun known => (unescapeFrom known.1.length rest).map (known.2 :: ·)
      else (unescapeFrom 0 rest).map (c :: ·)

/-- The value of character data. -/
def textValue (raw : List Char) : Option (List Char) :=
  if raw.all isLegal then unescapeFrom 0 raw else none

/-- White space in an attribute is read as blanks. -/
def flat (c : Char) : Char := if isBlank c then ' ' else c

/-- The value of an attribute. -/
def attributeValue (raw : List Char) : Option (List Char) :=
  if '<' ∈ raw then none else (textValue raw).map (List.map flat)

/-- What stands behind a word. -/
def literal (word input : List Char) : Option (List Char) :=
  if word.isPrefixOf input then some (input.drop word.length) else none

def readName (input : List Char) : Option (List Char × List Char) :=
  if input.takeWhile isNameChar = [] then none
  else some (input.takeWhile isNameChar, input.dropWhile isNameChar)

/-- An attribute, and what stands behind it. -/
def readAttribute (input : List Char) : Option ((List Char × List Char) × List Char) :=
  (readName input).bind fun named =>
    (literal ['=', '"'] named.2).bind fun quoted =>
      if '"' ∈ quoted then
        (attributeValue (quoted.takeWhile (· ≠ '"'))).map fun value =>
          ((named.1, value), (quoted.dropWhile (· ≠ '"')).tail)
      else none

/-- The attributes of a tag, up to its end; white space stands before each of them. -/
def readAttributes : Nat → List Char → Option (Attributes × List Char)
  | 0, _ => none
  | fuel + 1, input =>
      let rest := input.dropWhile isBlank
      if rest.head? = some '>' ∨ rest.head? = some '/' then some ([], rest)
      else if rest = input then none
      else
        (readAttribute rest).bind fun found =>
          (readAttributes fuel found.2).map fun others => (found.1 :: others.1, others.2)

/-- The name and the attributes of a tag. -/
def readTag (input : List Char) : Option ((List Char × Attributes) × List Char) :=
  (readName input).bind fun named =>
    (readAttributes named.2.length named.2).bind fun found =>
      if (found.1.map Prod.fst).Nodup then some ((named.1, found.1), found.2) else none

mutual

/-- An element, after its bracket. -/
def readElement : Nat → List Char → Option (Node × List Char)
  | 0, _ => none
  | fuel + 1, input =>
      (readTag input).bind fun tag =>
        match literal ['/', '>'] tag.2 with
        | some rest => some (.void tag.1.1 tag.1.2, rest)
        | none =>
            (literal ['>'] tag.2).bind fun rest =>
              (readNodes fuel rest).bind fun found =>
                (literal ('<' :: '/' :: (tag.1.1 ++ ['>'])) found.2).map fun rest =>
                  (.element tag.1.1 tag.1.2 found.1, rest)

/-- The nodes before the next end tag. -/
def readNodes : Nat → List Char → Option (List Node × List Char)
  | 0, _ => none
  | fuel + 1, input =>
      if input = [] ∨ ['<', '/'].isPrefixOf input then some ([], input)
      else if input.head? = some '<' then
        (readElement fuel input.tail).bind fun found =>
          (readNodes fuel found.2).map fun others => (found.1 :: others.1, others.2)
      else
        (textValue (input.takeWhile (· ≠ '<'))).bind fun value =>
          (readNodes fuel (input.dropWhile (· ≠ '<'))).map fun others =>
            (.text value :: others.1, others.2)

end

/-- Line ends are read as line feeds. -/
def lineEnds : List Char → List Char
  | [] => []
  | c :: rest =>
      if c = '\r' then if rest.head? = some '\n' then lineEnds rest else '\n' :: lineEnds rest
      else c :: lineEnds rest

/-- What stands behind the declaration. -/
def afterDeclaration : List Char → List Char
  | [] => []
  | c :: rest => if c = '?' ∧ rest.head? = some '>' then rest.tail else afterDeclaration rest

/-- The root of a document. -/
def readDocument (input : List Char) : Option Node :=
  let lines := lineEnds input
  let rest := if "<?xml".toList.isPrefixOf lines then afterDeclaration lines else lines
  (literal ['<'] (rest.dropWhile isBlank)).bind fun rest =>
    (readElement rest.length rest).bind fun found =>
      if found.2.all isBlank then some found.1 else none

/-! ## What is read back -/

/-- A character that stands for itself: in a text all but the carriage return, in an attribute also
no quote and no other white space than the blank. -/
def plainChar (quoted : Bool) (c : Char) : Bool :=
  isLegal c && c ≠ '\r' && !(quoted && (c = '\t' || c = '\n' || c = '"'))

mutual

/-- The values of a node, and whether they stand in quotes. -/
def Node.values : Node → List (Bool × List Char)
  | .text value => [(false, value)]
  | .void _ attributes => attributes.map fun pair => (true, pair.2)
  | .element _ attributes children =>
      (attributes.map fun pair => (true, pair.2)) ++ allValues children

def allValues : List Node → List (Bool × List Char)
  | [] => []
  | node :: nodes => node.values ++ allValues nodes

end

/-- All characters of all values stand for themselves. -/
def Plain (values : List (Bool × List Char)) : Prop :=
  ∀ value ∈ values, ∀ c ∈ value.2, plainChar value.1 c = true

def IsName (name : List Char) : Prop := name ≠ [] ∧ ∀ c ∈ name, isNameChar c = true

structure Named (name : List Char) (attributes : Attributes) : Prop where
  name : IsName name
  names : ∀ pair ∈ attributes, IsName pair.1
  distinct : (attributes.map Prod.fst).Nodup

def Node.isText : Node → Bool
  | .text _ => true
  | _ => false

mutual

/-- Names are names, and a text is all there is between two tags. -/
def Node.Shaped : Node → Prop
  | .text value => value ≠ []
  | .void name attributes => Named name attributes
  | .element name attributes children => Named name attributes ∧ AllShaped children

def AllShaped : List Node → Prop
  | [] => True
  | node :: nodes =>
      node.Shaped ∧ (node.isText = true → nodes.head?.any Node.isText = false) ∧ AllShaped nodes

end

section Values

variable {value raw rest : List Char} {c : Char}

/-- What is escaped is read as it was. -/
theorem unescapeFrom_escaped : unescapeFrom 0 (escaped c ++ rest) =
    (unescapeFrom 0 rest).map (c :: ·) := by
  rw [escaped]
  split_ifs with ampersand greater less
  · subst ampersand
    rfl
  · subst greater
    rfl
  · subst less
    rfl
  · exact if_neg ampersand

theorem unescapeFrom_xmlEscape : unescapeFrom 0 (xmlEscape value) = some value := by
  rw [xmlEscape_eq]
  induction value with
  | nil => rfl
  | cons c value ih =>
      rw [List.flatMap_cons, unescapeFrom_escaped, ih]
      rfl

theorem mem_escaped {d : Char} (member : d ∈ escaped c) : d = c ∨ d ∈ "&ampltg;".toList := by
  have ampersand : "&amp;".toList ⊆ "&ampltg;".toList := by decide
  have greater : "&gt;".toList ⊆ "&ampltg;".toList := by decide
  have less : "&lt;".toList ⊆ "&ampltg;".toList := by decide
  rw [escaped] at member
  split_ifs at member
  · exact .inr (ampersand member)
  · exact .inr (greater member)
  · exact .inr (less member)
  · exact .inl (List.mem_singleton.mp member)

/-- An escaped text has no other characters than the text and the references. -/
theorem mem_xmlEscape {d : Char} (member : d ∈ xmlEscape value) :
    d ∈ value ∨ d ∈ "&ampltg;".toList := by
  rw [xmlEscape_eq, List.mem_flatMap] at member
  obtain ⟨c, listed, inside⟩ := member
  rcases mem_escaped inside with rfl | special
  · exact .inl listed
  · exact .inr special

theorem plainChar_of_reference {quoted : Bool} (special : c ∈ "&ampltg;".toList) :
    plainChar quoted c = true := by
  have all : "&ampltg;".toList.all (plainChar quoted) = true := by
    cases quoted with
    | false => decide
    | true => decide
  exact List.all_eq_true.mp all c special

theorem isLegal_of_plainChar {quoted : Bool} (plain : plainChar quoted c = true) :
    isLegal c = true := by
  rw [plainChar, Bool.and_eq_true, Bool.and_eq_true] at plain
  exact plain.1.1

/-- An escaped plain text is plain. -/
theorem plainChar_xmlEscape {quoted : Bool} (plain : ∀ c ∈ value, plainChar quoted c = true) :
    ∀ c ∈ xmlEscape value, plainChar quoted c = true := by
  intro c member
  rcases mem_xmlEscape member with own | special
  · exact plain c own
  · exact plainChar_of_reference special

theorem textValue_xmlEscape {quoted : Bool} (plain : ∀ c ∈ value, plainChar quoted c = true) :
    textValue (xmlEscape value) = some value := by
  rw [textValue, unescapeFrom_xmlEscape, if_pos]
  rw [List.all_eq_true]
  intro c member
  exact isLegal_of_plainChar (plainChar_xmlEscape plain c member)

theorem flat_of_plainChar (plain : plainChar true c = true) : flat c = c := by
  rw [flat, isBlank]
  by_cases blank : c = ' '
  · simp [blank]
  · rw [if_neg]
    simp [plainChar] at plain
    simp [blank, plain]

theorem attributeValue_xmlEscape (plain : ∀ c ∈ value, plainChar true c = true) :
    attributeValue (xmlEscape value) = some value := by
  have same : value.map flat = value := by
    rw [List.map_congr_left (g := id), List.map_id]
    intro c member
    exact flat_of_plainChar (plain c member)
  rw [attributeValue, if_neg (Markup.not_mem_xmlEscape value), textValue_xmlEscape plain,
    Option.map_some, same]

end Values

section RoundTrip

variable {word name rest : List Char} {value : List Char} {attributes : Attributes}

@[simp] theorem literal_append : literal word (word ++ rest) = some rest := by
  rw [literal, if_pos (List.isPrefixOf_iff_prefix.mpr (List.prefix_append word rest)),
    List.drop_left]

/-- A run of characters is taken up to the first that is none of them. -/
theorem takeWhile_append_stop {stops : Char → Bool} {run : List Char}
    (inside : ∀ c ∈ run, stops c = true) {rest : List Char} (after : rest.head?.any stops = false) :
    (run ++ rest).takeWhile stops = run ∧ (run ++ rest).dropWhile stops = rest := by
  rw [List.takeWhile_append_of_pos inside, List.dropWhile_append_of_pos inside]
  cases rest with
  | nil => simp
  | cons c rest =>
      have ends : stops c = false := after
      simp [ends]

theorem readName_append (named : IsName name) (after : rest.head?.any isNameChar = false) :
    readName (name ++ rest) = some (name, rest) := by
  obtain ⟨taken, dropped⟩ := takeWhile_append_stop named.2 after
  rw [readName, taken, dropped, if_neg named.1]

theorem readAttribute_write {pair : List Char × List Char} (named : IsName pair.1)
    (plain : ∀ c ∈ pair.2, plainChar true c = true) :
    readAttribute ((writeAttribute pair).tail ++ rest) = some (pair, rest) := by
  have unquoted : ∀ c ∈ xmlEscape pair.2, decide (c ≠ '"') = true := by
    intro c member
    have ordinary := plainChar_xmlEscape plain c member
    rw [decide_eq_true_eq]
    rintro rfl
    exact absurd ordinary (by decide)
  obtain ⟨taken, dropped⟩ := @takeWhile_append_stop _ _ unquoted ('"' :: rest) rfl
  have split : (writeAttribute pair).tail ++ rest =
      pair.1 ++ (['=', '"'] ++ (xmlEscape pair.2 ++ '"' :: rest)) := by
    simp [writeAttribute]
  rw [split, readAttribute, readName_append named rfl, Option.bind_some, literal_append,
    Option.bind_some, if_pos (by simp), taken, dropped, attributeValue_xmlEscape plain]
  rfl

/-- What ends a tag. -/
def EndsTag (rest : List Char) : Prop := rest.head? = some '>' ∨ rest.head? = some '/'

theorem dropWhile_isBlank_of_endsTag (ends : EndsTag rest) : rest.dropWhile isBlank = rest := by
  cases rest with
  | nil => rfl
  | cons c rest =>
      rcases ends with close | slash
      · cases close
        rfl
      · cases slash
        rfl

theorem isNameChar_ne {c other : Char} (letter : isNameChar c = true)
    (apart : isNameChar other = false) : c ≠ other := by
  rintro rfl
  rw [letter] at apart
  cases apart

theorem isBlank_of_isNameChar {c : Char} (letter : isNameChar c = true) : isBlank c = false := by
  have space : c ≠ ' ' := isNameChar_ne letter rfl
  have tab : c ≠ '\t' := isNameChar_ne letter rfl
  have feed : c ≠ '\n' := isNameChar_ne letter rfl
  have carriage : c ≠ '\r' := isNameChar_ne letter rfl
  simp [isBlank, space, tab, feed, carriage]

/-- Where a name begins an attribute is read. -/
theorem readAttributes_succ {first : Char} {others : List Char} (letter : isNameChar first = true)
    (fuel : Nat) : readAttributes (fuel + 1) (' ' :: first :: others) =
      (readAttribute (first :: others)).bind fun found =>
        (readAttributes fuel found.2).map fun others => (found.1 :: others.1, others.2) := by
  have trimmed : (' ' :: first :: others).dropWhile isBlank = first :: others := by
    rw [List.dropWhile_cons_of_pos rfl,
      List.dropWhile_cons_of_neg (by rw [isBlank_of_isNameChar letter]; decide)]
  have goes : ¬((first :: others).head? = some '>' ∨ (first :: others).head? = some '/') := by
    rw [List.head?_cons, Option.some.injEq, Option.some.injEq, not_or]
    exact ⟨isNameChar_ne letter rfl, isNameChar_ne letter rfl⟩
  rw [readAttributes]
  simp only [trimmed, if_neg goes]
  rw [if_neg (List.cons_ne_self ' ' (first :: others)).symm]

theorem readAttributes_write (names : ∀ pair ∈ attributes, IsName pair.1)
    (plain : ∀ pair ∈ attributes, ∀ c ∈ pair.2, plainChar true c = true) (ends : EndsTag rest)
    {fuel : Nat} (enough : attributes.length < fuel) :
    readAttributes fuel (writeAttributes attributes ++ rest) = some (attributes, rest) := by
  induction attributes generalizing fuel with
  | nil =>
      cases fuel with
      | zero => cases enough
      | succ fuel =>
          rw [writeAttributes, List.flatMap_nil, List.nil_append, readAttributes,
            dropWhile_isBlank_of_endsTag ends]
          exact if_pos ends
  | cons pair attributes ih =>
      rw [List.forall_mem_cons] at names plain
      obtain ⟨first, others, spelled⟩ := List.exists_cons_of_ne_nil names.1.1
      have letter : isNameChar first = true := names.1.2 first (by simp [spelled])
      have split : writeAttributes (pair :: attributes) ++ rest =
          ' ' :: ((writeAttribute pair).tail ++ (writeAttributes attributes ++ rest)) := by
        simp [writeAttributes, writeAttribute]
      have begins : (writeAttribute pair).tail ++ (writeAttributes attributes ++ rest) =
          first :: ((writeAttribute pair).tail ++ (writeAttributes attributes ++ rest)).tail := by
        simp [writeAttribute, spelled]
      cases fuel with
      | zero => cases enough
      | succ fuel =>
          rw [split, begins, readAttributes_succ letter, ← begins,
            readAttribute_write names.1 plain.1, Option.bind_some,
            ih names.2 plain.2 (Nat.lt_of_succ_lt_succ enough)]
          rfl

theorem length_le_writeAttributes (attributes : Attributes) :
    attributes.length ≤ (writeAttributes attributes).length := by
  induction attributes with
  | nil => exact Nat.le_refl 0
  | cons pair attributes ih =>
      have more : 1 ≤ (writeAttribute pair).length := by simp [writeAttribute]
      rw [writeAttributes, List.flatMap_cons, List.length_append, List.length_cons]
      change attributes.length + 1 ≤ _ + (writeAttributes attributes).length
      omega

theorem readTag_write (named : Named name attributes)
    (plain : Plain (attributes.map fun pair => (true, pair.2))) (ends : EndsTag rest) :
    readTag (name ++ (writeAttributes attributes ++ rest)) = some ((name, attributes), rest) := by
  have after : (writeAttributes attributes ++ rest).head?.any isNameChar = false := by
    cases attributes with
    | nil =>
        rcases ends with close | slash
        · change rest.head?.any isNameChar = false
          rw [close]
          rfl
        · change rest.head?.any isNameChar = false
          rw [slash]
          rfl
    | cons pair attributes => rfl
  have some_rest : rest ≠ [] := by
    rintro rfl
    rcases ends with close | slash
    · cases close
    · cases slash
  have enough : attributes.length < (writeAttributes attributes ++ rest).length := by
    have first := length_le_writeAttributes attributes
    have last := List.length_pos_iff.mpr some_rest
    rw [List.length_append]
    omega
  have values : ∀ pair ∈ attributes, ∀ c ∈ pair.2, plainChar true c = true := by
    intro pair listed
    exact plain (true, pair.2) (List.mem_map_of_mem listed)
  rw [readTag, readName_append named.name after, Option.bind_some,
    readAttributes_write named.names values ends enough, Option.bind_some, if_pos named.distinct]

theorem Plain.append {first second : List (Bool × List Char)} :
    Plain (first ++ second) ↔ Plain first ∧ Plain second := by
  rw [Plain, List.forall_mem_append]
  rfl

/-- A node that is no text begins with a bracket and a letter. -/
theorem write_of_not_text {node : Node} (solid : node.isText = false) (shaped : node.Shaped) :
    ∃ first others, node.write = '<' :: first :: others ∧ isNameChar first = true := by
  have begins : ∀ name, IsName name → ∀ tail : List Char,
      ∃ first others, '<' :: (name ++ tail) = '<' :: first :: others ∧ isNameChar first = true := by
    intro name named tail
    obtain ⟨first, others, rfl⟩ := List.exists_cons_of_ne_nil named.1
    exact ⟨first, others ++ tail, rfl, named.2 first List.mem_cons_self⟩
  cases node with
  | text value => cases solid
  | void name attributes =>
      rw [Node.write]
      exact begins name shaped.name _
  | element name attributes children =>
      rw [Node.write]
      exact begins name shaped.1.name _

/-- Behind a text stands a bracket. -/
theorem writeAll_begins {nodes : List Node} (shaped : AllShaped nodes)
    (solid : nodes.head?.any Node.isText = false) :
    ∃ others, writeAll nodes ++ '<' :: '/' :: rest = '<' :: others := by
  cases nodes with
  | nil => exact ⟨'/' :: rest, rfl⟩
  | cons node nodes =>
      obtain ⟨first, others, written, _⟩ := write_of_not_text solid shaped.1
      rw [writeAll, written]
      exact ⟨_, rfl⟩

theorem length_pos_xmlEscape (some_value : value ≠ []) : 0 < (xmlEscape value).length := by
  rw [List.length_pos_iff]
  intro empty
  have back := @unescapeFrom_xmlEscape value
  rw [empty] at back
  exact some_value (Option.some.inj back).symm

/-- An element is read back, if its content is. -/
theorem readElement_write {fuel : Nat} {node : Node} (solid : node.isText = false)
    (shaped : node.Shaped) (plain : Plain node.values) (enough : node.write.length ≤ fuel + 2)
    (inner : ∀ nodes rest, AllShaped nodes → Plain (allValues nodes) →
      (writeAll nodes).length < fuel →
      readNodes fuel (writeAll nodes ++ '<' :: '/' :: rest) = some (nodes, '<' :: '/' :: rest)) :
    readElement (fuel + 1) (node.write.tail ++ rest) = some (node, rest) := by
  cases node with
  | text value => cases solid
  | void name attributes =>
      have split : (Node.void name attributes).write.tail ++ rest =
          name ++ (writeAttributes attributes ++ (['/', '>'] ++ rest)) := by
        simp [Node.write]
      rw [split, readElement, readTag_write shaped plain (.inr rfl), Option.bind_some,
        literal_append]
  | element name attributes children =>
      rw [Node.values, Plain.append] at plain
      have split : (Node.element name attributes children).write.tail ++ rest =
          name ++ (writeAttributes attributes ++ (['>'] ++ (writeAll children ++
            '<' :: '/' :: (name ++ '>' :: rest)))) := by
        simp [Node.write]
      have short : (writeAll children).length < fuel := by
        rw [Node.write] at enough
        simp only [List.length_cons, List.length_append] at enough
        omega
      have closing : '<' :: '/' :: (name ++ '>' :: rest) =
          ('<' :: '/' :: (name ++ ['>'])) ++ rest := by simp
      have goes : literal ['/', '>'] (['>'] ++ (writeAll children ++
          '<' :: '/' :: (name ++ '>' :: rest))) = none := rfl
      rw [split, readElement, readTag_write shaped.1 plain.1 (.inl rfl), Option.bind_some]
      simp only [goes]
      rw [literal_append, Option.bind_some, inner children _ shaped.2 plain.2 short,
        Option.bind_some, closing, literal_append]
      rfl

/-- What is plain and shaped is read back. -/
theorem readNodes_write (fuel : Nat) : ∀ nodes rest, AllShaped nodes → Plain (allValues nodes) →
    (writeAll nodes).length < fuel →
    readNodes fuel (writeAll nodes ++ '<' :: '/' :: rest) = some (nodes, '<' :: '/' :: rest) := by
  induction fuel using Nat.strongRecOn with
  | ind fuel ih =>
      intro nodes rest shaped plain enough
      cases fuel with
      | zero => cases enough
      | succ fuel =>
          cases nodes with
          | nil =>
              rw [writeAll, List.nil_append, readNodes]
              exact if_pos (.inr rfl)
          | cons node nodes =>
              obtain ⟨here, alone, others⟩ := shaped
              rw [allValues, Plain.append] at plain
              rw [writeAll, List.length_append] at enough
              cases solid : node.isText with
              | true =>
                  cases node with
                  | void name attributes => cases solid
                  | element name attributes children => cases solid
                  | text value =>
                      have values : ∀ c ∈ value, plainChar false c = true :=
                        plain.1 (false, value) List.mem_cons_self
                      have long := length_pos_xmlEscape here
                      obtain ⟨first, tail, spelled⟩ := List.exists_cons_of_ne_nil
                        (List.length_pos_iff.mp long)
                      have unbracketed : ∀ c ∈ xmlEscape value, decide (c ≠ '<') = true := by
                        intro c member
                        rw [decide_eq_true_eq]
                        rintro rfl
                        exact Markup.not_mem_xmlEscape value member
                      obtain ⟨behind, bracket⟩ := @writeAll_begins rest nodes others (alone rfl)
                      obtain ⟨taken, dropped⟩ := @takeWhile_append_stop _ _ unbracketed
                        ('<' :: behind) rfl
                      have other : first ≠ '<' := by
                        have ordinary := unbracketed first
                          (by rw [spelled]; exact List.mem_cons_self)
                        exact of_decide_eq_true ordinary
                      have start : xmlEscape value ++ '<' :: behind =
                          first :: (tail ++ '<' :: behind) := by rw [spelled]; rfl
                      have open_ : ¬(xmlEscape value ++ '<' :: behind = [] ∨
                          ['<', '/'].isPrefixOf (xmlEscape value ++ '<' :: behind) = true) := by
                        rw [start]
                        simp [other.symm]
                      have data : ¬(xmlEscape value ++ '<' :: behind).head? = some '<' := by
                        rw [start]
                        simp [other]
                      rw [Node.write] at enough
                      rw [writeAll, Node.write, List.append_assoc, bracket, readNodes,
                        if_neg open_, if_neg data, taken, dropped, textValue_xmlEscape values,
                        Option.bind_some, ← bracket,
                        ih fuel (Nat.lt_succ_self fuel) nodes rest others plain.2 (by omega)]
                      rfl
              | false =>
                  obtain ⟨first, tail, written, letter⟩ := write_of_not_text solid here
                  have slash : first ≠ '/' := isNameChar_ne letter rfl
                  have open_ : ¬(node.write ++ (writeAll nodes ++ '<' :: '/' :: rest) = [] ∨
                      ['<', '/'].isPrefixOf
                        (node.write ++ (writeAll nodes ++ '<' :: '/' :: rest)) = true) := by
                    rw [written]
                    simp [slash.symm]
                  have markup : (node.write ++ (writeAll nodes ++ '<' :: '/' :: rest)).head? =
                      some '<' := by rw [written]; rfl
                  have rest_ : (node.write ++ (writeAll nodes ++ '<' :: '/' :: rest)).tail =
                      node.write.tail ++ (writeAll nodes ++ '<' :: '/' :: rest) := by
                    rw [written]
                    rfl
                  have one : 0 < node.write.length := by
                    rw [written]
                    exact Nat.succ_pos _
                  rw [writeAll, List.append_assoc, readNodes, if_neg open_, if_pos markup, rest_]
                  cases fuel with
                  | zero => omega
                  | succ fuel =>
                      rw [readElement_write solid here plain.1 (by omega)
                        (ih fuel (by omega)), Option.bind_some,
                        ih (fuel + 1) (Nat.lt_succ_self _) nodes rest others plain.2 (by omega)]
                      rfl

end RoundTrip

/-! ## What is not read back -/

/-- A text in which no character and no reference is lost or made on the way. -/
def Tame (input : List Char) : Prop := '\r' ∉ input ∧ ¬"&quot;".toList <:+: input

section Soundness

variable {input raw rest value : List Char} {c : Char}

theorem Tame.part (tame : Tame input) (inside : raw <:+: input) : Tame raw := by
  refine ⟨?_, ?_⟩
  · intro member
    exact tame.1 (inside.subset member)
  · intro quote
    exact tame.2 (quote.trans inside)

/-- What is read from a text stands in it, or a reference to it does. -/
theorem mem_unescapeFrom {skip : Nat} (read : unescapeFrom skip raw = some value)
    (member : c ∈ value) :
    c ∈ raw ∨ ∃ known ∈ references, known.2 = c ∧ '&' :: known.1 <:+: raw := by
  induction raw generalizing skip value with
  | nil =>
      rw [unescapeFrom] at read
      cases read
      cases member
  | cons first raw ih =>
      have later : ∀ {skip value}, unescapeFrom skip raw = some value → c ∈ value →
          c ∈ first :: raw ∨
            ∃ known ∈ references, known.2 = c ∧ '&' :: known.1 <:+: first :: raw := by
        intro skip value read member
        rcases ih read member with own | ⟨known, listed, same, inside⟩
        · exact .inl (List.mem_cons_of_mem _ own)
        · exact .inr ⟨known, listed, same, inside.trans (List.suffix_cons first raw).isInfix⟩
      cases skip with
      | succ skip => exact later read member
      | zero =>
          rw [unescapeFrom] at read
          split_ifs at read with ampersand
          · obtain ⟨known, found, mapped⟩ := Option.bind_eq_some_iff.mp read
            obtain ⟨others, behind, rfl⟩ := Option.map_eq_some_iff.mp mapped
            rcases List.mem_cons.mp member with here | other
            · have begins := List.isPrefixOf_iff_prefix.mp (List.find?_some
                (p := fun known : List Char × Char => known.1.isPrefixOf raw) found)
              refine .inr ⟨known, List.mem_of_find?_eq_some found, here.symm, ?_⟩
              rw [ampersand]
              exact ((List.prefix_cons_inj '&').mpr begins).isInfix
            · exact later behind other
          · obtain ⟨others, behind, rfl⟩ := Option.map_eq_some_iff.mp read
            rcases List.mem_cons.mp member with rfl | other
            · exact .inl List.mem_cons_self
            · exact later behind other

/-- No reference is to white space or to another special character than the quotes. -/
theorem plainChar_of_mem_references {known : List Char × Char} (listed : known ∈ references) :
    plainChar false known.2 = true ∧
      (plainChar true known.2 = false → '&' :: known.1 = "&quot;".toList) := by
  revert known
  decide

theorem plainChar_textValue (tame : Tame raw) (read : textValue raw = some value) :
    ∀ c ∈ value, plainChar false c = true := by
  intro c member
  rw [textValue, Option.ite_none_right_eq_some, List.all_eq_true] at read
  rcases mem_unescapeFrom read.2 member with own | ⟨known, listed, rfl, _⟩
  · have carriage : c ≠ '\r' := by
      rintro rfl
      exact tame.1 own
    simp [plainChar, read.1 c own, carriage]
  · exact (plainChar_of_mem_references listed).1

theorem plainChar_attributeValue (tame : Tame raw) (unquoted : '"' ∉ raw)
    (read : attributeValue raw = some value) : ∀ c ∈ value, plainChar true c = true := by
  rw [attributeValue, Option.ite_none_left_eq_some] at read
  obtain ⟨found, spelled, rfl⟩ := Option.map_eq_some_iff.mp read.2
  have plain := plainChar_textValue tame spelled
  intro d member
  obtain ⟨c, listed, rfl⟩ := List.mem_map.mp member
  rw [textValue, Option.ite_none_right_eq_some] at spelled
  have quote : c ≠ '"' := by
    rintro rfl
    rcases mem_unescapeFrom spelled.2 listed with own | ⟨known, known_listed, same, inside⟩
    · exact unquoted own
    · have refers := (plainChar_of_mem_references known_listed).2 (by rw [same]; decide)
      rw [refers] at inside
      exact tame.2 inside
  rw [flat]
  split_ifs with blank
  · decide
  · simp only [isBlank, Bool.or_eq_true, decide_eq_true_eq, not_or] at blank
    simp [plainChar, quote, blank, isLegal_of_plainChar (plain c listed)]

theorem literal_eq_some {word : List Char} (read : literal word input = some rest) :
    input = word ++ rest := by
  rw [literal, Option.ite_none_right_eq_some, List.isPrefixOf_iff_prefix, Option.some.injEq] at read
  obtain ⟨⟨others, rfl⟩, rfl⟩ := read
  rw [List.drop_left]

theorem literal_suffix {word : List Char} (read : literal word input = some rest) :
    rest <:+ input := by
  rw [literal_eq_some read]
  exact List.suffix_append word rest

theorem readName_suffix {name : List Char} (read : readName input = some (name, rest)) :
    rest <:+ input := by
  rw [readName, Option.ite_none_left_eq_some, Option.some.injEq, Prod.mk.injEq] at read
  rw [← read.2.2]
  exact List.dropWhile_suffix _

theorem readAttribute_sound {pair : List Char × List Char}
    (read : readAttribute input = some (pair, rest)) :
    rest <:+ input ∧ (Tame input → ∀ c ∈ pair.2, plainChar true c = true) := by
  obtain ⟨named, first, later⟩ := Option.bind_eq_some_iff.mp read
  obtain ⟨quoted, opened, last⟩ := Option.bind_eq_some_iff.mp later
  rw [Option.ite_none_right_eq_some] at last
  obtain ⟨found, valued, same⟩ := Option.map_eq_some_iff.mp last.2
  cases same
  have before : quoted <:+ input := (literal_suffix opened).trans (readName_suffix first)
  refine ⟨((List.tail_suffix _).trans (List.dropWhile_suffix _)).trans before, ?_⟩
  intro tame
  have inside : quoted.takeWhile (· ≠ '"') <:+: input :=
    (List.takeWhile_prefix _).isInfix.trans before.isInfix
  apply plainChar_attributeValue (tame.part inside) ?_ valued
  intro quote
  have apart := List.mem_takeWhile_imp quote
  cases of_decide_eq_true apart rfl

theorem readAttributes_sound {attributes : Attributes} {fuel : Nat}
    (read : readAttributes fuel input = some (attributes, rest)) :
    rest <:+ input ∧
      (Tame input → ∀ pair ∈ attributes, ∀ c ∈ pair.2, plainChar true c = true) := by
  induction fuel generalizing input attributes with
  | zero => cases read
  | succ fuel ih =>
      have trimmed : input.dropWhile isBlank <:+ input := List.dropWhile_suffix _
      simp only [readAttributes] at read
      split_ifs at read
      · cases read
        refine ⟨trimmed, ?_⟩
        intro _ pair absent
        cases absent
      · obtain ⟨found, first, later⟩ := Option.bind_eq_some_iff.mp read
        obtain ⟨others, behind, same⟩ := Option.map_eq_some_iff.mp later
        cases same
        obtain ⟨after, plain⟩ := readAttribute_sound first
        obtain ⟨ends, all_plain⟩ := ih behind
        have start := after.trans trimmed
        refine ⟨ends.trans start, ?_⟩
        intro tame
        rw [List.forall_mem_cons]
        exact ⟨plain (tame.part trimmed.isInfix), all_plain (tame.part start.isInfix)⟩

theorem readTag_sound {tag : List Char × Attributes} (read : readTag input = some (tag, rest)) :
    rest <:+ input ∧ (Tame input → Plain (tag.2.map fun pair => (true, pair.2))) := by
  obtain ⟨named, first, later⟩ := Option.bind_eq_some_iff.mp read
  obtain ⟨found, listed, last⟩ := Option.bind_eq_some_iff.mp later
  rw [Option.ite_none_right_eq_some] at last
  cases last.2
  have before := readName_suffix first
  obtain ⟨after, plain⟩ := readAttributes_sound listed
  refine ⟨after.trans before, ?_⟩
  intro tame value member
  obtain ⟨pair, given, rfl⟩ := List.mem_map.mp member
  exact plain (tame.part before.isInfix) pair given

/-- What is read from a tame text is plain. -/
theorem read_sound (fuel : Nat) :
    (∀ {input node rest}, readElement fuel input = some (node, rest) →
      rest <:+ input ∧ (Tame input → Plain node.values)) ∧
    ∀ {input nodes rest}, readNodes fuel input = some (nodes, rest) →
      rest <:+ input ∧ (Tame input → Plain (allValues nodes)) := by
  induction fuel with
  | zero =>
      constructor
      · intro input node rest read
        cases read
      · intro input nodes rest read
        cases read
  | succ fuel ih =>
      constructor
      · intro input node rest read
        rw [readElement] at read
        obtain ⟨tag, tagged, later⟩ := Option.bind_eq_some_iff.mp read
        obtain ⟨before, plain⟩ := readTag_sound tagged
        split at later
        · next closed =>
            cases later
            exact ⟨(literal_suffix closed).trans before, plain⟩
        · obtain ⟨opened, bracket, content⟩ := Option.bind_eq_some_iff.mp later
          obtain ⟨found, inner, last⟩ := Option.bind_eq_some_iff.mp content
          obtain ⟨ended, closed, same⟩ := Option.map_eq_some_iff.mp last
          cases same
          obtain ⟨inside, all_plain⟩ := ih.2 inner
          have start := (literal_suffix bracket).trans before
          refine ⟨((literal_suffix closed).trans inside).trans start, ?_⟩
          intro tame
          rw [Node.values, Plain.append]
          exact ⟨plain tame, all_plain (tame.part start.isInfix)⟩
      · intro input nodes rest read
        rw [readNodes] at read
        split_ifs at read
        · cases read
          refine ⟨List.suffix_refl input, ?_⟩
          intro _ value absent
          cases absent
        · obtain ⟨found, first, later⟩ := Option.bind_eq_some_iff.mp read
          obtain ⟨others, behind, same⟩ := Option.map_eq_some_iff.mp later
          cases same
          obtain ⟨after, plain⟩ := ih.1 first
          obtain ⟨ends, all_plain⟩ := ih.2 behind
          have start := after.trans (List.tail_suffix input)
          refine ⟨ends.trans start, ?_⟩
          intro tame
          rw [allValues, Plain.append]
          exact ⟨plain (tame.part (List.tail_suffix input).isInfix),
            all_plain (tame.part start.isInfix)⟩
        · obtain ⟨value, valued, later⟩ := Option.bind_eq_some_iff.mp read
          obtain ⟨others, behind, same⟩ := Option.map_eq_some_iff.mp later
          cases same
          obtain ⟨ends, all_plain⟩ := ih.2 behind
          have start : input.dropWhile (· ≠ '<') <:+ input := List.dropWhile_suffix _
          refine ⟨ends.trans start, ?_⟩
          intro tame
          have raw_tame := tame.part (List.takeWhile_prefix (p := (· ≠ '<')) (l := input)).isInfix
          rw [allValues, Plain.append]
          refine ⟨?_, all_plain (tame.part start.isInfix)⟩
          intro given listed
          rw [Node.values, List.mem_singleton] at listed
          rw [listed]
          exact plainChar_textValue raw_tame valued

end Soundness

/-! ## Documents -/

/-- The declaration of a document. -/
def declaration : List Char := "<?xml version=\"1.0\" encoding=\"UTF-8\"?>".toList ++ ['\n']

def writeDocument (root : Node) : List Char := declaration ++ root.write

/-- What holds of the pieces of a node holds of its text. -/
theorem write_induction {holds : List Char → Prop}
    (append : ∀ first second, holds first → holds second → holds (first ++ second))
    (marks : ∀ mark ⊆ "<>/=\" ".toList, holds mark) (names : ∀ name, IsName name → holds name) :
    ∀ node : Node, node.Shaped → (∀ value ∈ node.values, holds (xmlEscape value.2)) →
      holds node.write := by
  have some_attributes : ∀ attributes : Attributes, (∀ pair ∈ attributes, IsName pair.1) →
      (∀ value ∈ attributes.map fun pair => (true, pair.2), holds (xmlEscape value.2)) →
      holds (writeAttributes attributes) := by
    intro attributes named valued
    induction attributes with
    | nil => exact marks [] (List.nil_subset _)
    | cons pair attributes ih =>
        rw [List.forall_mem_cons] at named
        rw [List.map_cons, List.forall_mem_cons] at valued
        rw [writeAttributes, List.flatMap_cons]
        apply append _ _ ?_ (ih named.2 valued.2)
        apply append [' '] _ (marks _ (by decide))
        apply append _ _ (names _ named.1)
        apply append ['=', '"'] _ (marks _ (by decide))
        exact append _ _ valued.1 (marks _ (by decide))
  refine @Node.rec
    (fun node => node.Shaped → (∀ value ∈ node.values, holds (xmlEscape value.2)) →
      holds node.write)
    (fun nodes => AllShaped nodes → (∀ value ∈ allValues nodes, holds (xmlEscape value.2)) →
      holds (writeAll nodes)) ?_ ?_ ?_ ?_ ?_
  · intro value _ valued
    rw [Node.write]
    exact valued (false, value) List.mem_cons_self
  · intro name attributes shaped valued
    rw [Node.write]
    apply append ['<'] _ (marks _ (by decide))
    apply append _ _ (names name shaped.name)
    exact append _ _ (some_attributes attributes shaped.names valued) (marks _ (by decide))
  · intro name attributes children ih shaped valued
    rw [Node.values, List.forall_mem_append] at valued
    rw [Node.write]
    apply append ['<'] _ (marks _ (by decide))
    apply append _ _ (names name shaped.1.name)
    apply append _ _ (some_attributes attributes shaped.1.names valued.1)
    apply append ['>'] _ (marks _ (by decide))
    apply append _ _ (ih shaped.2 valued.2)
    apply append ['<', '/'] _ (marks _ (by decide))
    exact append _ _ (names name shaped.1.name) (marks _ (by decide))
  · intro _ _
    exact marks [] (List.nil_subset _)
  · intro node nodes first others shaped valued
    rw [allValues, List.forall_mem_append] at valued
    rw [writeAll]
    exact append _ _ (first shaped.1 valued.1) (others shaped.2.2 valued.2)

/-- Every ampersand begins a reference that `escape` makes. -/
def Referring : List Char → Prop
  | [] => True
  | c :: rest =>
      (c = '&' → ∃ word ∈ ["amp;".toList, "lt;".toList, "gt;".toList], word <+: rest) ∧
        Referring rest

section Documents

variable {input word : List Char} {root : Node}

theorem Referring.append {first second : List Char} (refers : Referring first)
    (others : Referring second) : Referring (first ++ second) := by
  induction first with
  | nil => exact others
  | cons c first ih =>
      refine ⟨?_, ih refers.2⟩
      intro ampersand
      obtain ⟨word, listed, begins⟩ := refers.1 ampersand
      exact ⟨word, listed, begins.trans (List.prefix_append first second)⟩

theorem referring_of_not_mem (absent : '&' ∉ input) : Referring input := by
  induction input with
  | nil => trivial
  | cons c input ih =>
      rw [List.mem_cons, not_or] at absent
      exact ⟨fun ampersand => absurd ampersand.symm absent.1, ih absent.2⟩

theorem referring_xmlEscape (value : List Char) : Referring (xmlEscape value) := by
  rw [xmlEscape_eq]
  induction value with
  | nil => trivial
  | cons c value ih =>
      rw [List.flatMap_cons]
      apply Referring.append ?_ ih
      rw [escaped]
      split_ifs with ampersand
      · exact ⟨fun _ => ⟨_, List.mem_cons_self, List.prefix_refl _⟩,
          referring_of_not_mem (by decide)⟩
      · exact ⟨fun _ => ⟨_, List.mem_cons_of_mem _ (List.mem_cons_of_mem _ List.mem_cons_self),
          List.prefix_refl _⟩, referring_of_not_mem (by decide)⟩
      · exact ⟨fun _ => ⟨_, List.mem_cons_of_mem _ List.mem_cons_self, List.prefix_refl _⟩,
          referring_of_not_mem (by decide)⟩
      · exact referring_of_not_mem (by simpa using Ne.symm ampersand)

/-- No quote is written as a reference. -/
theorem not_quote_of_referring (refers : Referring input) : ¬"&quot;".toList <:+: input := by
  intro quote
  induction input with
  | nil => exact absurd (List.infix_nil.mp quote) (by decide)
  | cons c input ih =>
      rcases List.infix_cons_iff.mp quote with here | later
      · obtain ⟨others, spelled⟩ := here
        cases spelled
        obtain ⟨word, listed, begins⟩ := refers.1 rfl
        simp only [List.mem_cons, List.not_mem_nil, or_false] at listed
        rcases listed with rfl | rfl | rfl
        · cases List.cons_prefix_cons.mp begins |>.1
        · cases List.cons_prefix_cons.mp begins |>.1
        · cases List.cons_prefix_cons.mp begins |>.1
      · exact ih refers.2 later

theorem lineEnds_of_not_mem (absent : '\r' ∉ input) : lineEnds input = input := by
  induction input with
  | nil => rfl
  | cons c input ih =>
      rw [List.mem_cons, not_or] at absent
      rw [lineEnds, if_neg (Ne.symm absent.1), ih absent.2]

theorem not_mem_lineEnds (input : List Char) : '\r' ∉ lineEnds input := by
  induction input with
  | nil => simp [lineEnds]
  | cons c input ih =>
      rw [lineEnds]
      split_ifs with carriage
      · exact ih
      · simp [ih]
      · simp [ih, Ne.symm carriage]

/-- A word within a line stands in the text as it was. -/
theorem infix_of_infix_lineEnds (unbroken : '\n' ∉ word) (inside : word <:+: lineEnds input) :
    word <:+: input := by
  have prefixed : ∀ {input word : List Char}, '\n' ∉ word → word <+: lineEnds input →
      word <+: input := by
    intro input
    induction input with
    | nil =>
        intro word _ begins
        exact begins
    | cons c input ih =>
        intro word unbroken begins
        cases word with
        | nil => exact List.nil_prefix
        | cons first word =>
            rw [List.mem_cons, not_or] at unbroken
            rw [lineEnds] at begins
            split_ifs at begins with carriage feed
            · have broken : ∃ others, lineEnds input = '\n' :: others := by
                obtain ⟨others, rfl⟩ := List.head?_eq_some_iff.mp feed
                exact ⟨lineEnds others, by rw [lineEnds, if_neg (by decide)]⟩
              obtain ⟨others, spelled⟩ := broken
              rw [spelled] at begins
              exact absurd (List.cons_prefix_cons.mp begins).1.symm unbroken.1
            · exact absurd (List.cons_prefix_cons.mp begins).1.symm unbroken.1
            · obtain ⟨same, others⟩ := List.cons_prefix_cons.mp begins
              exact List.cons_prefix_cons.mpr ⟨same, ih unbroken.2 others⟩
  induction input with
  | nil => exact inside
  | cons c input ih =>
      rw [lineEnds] at inside
      split_ifs at inside with carriage feed
      · exact (ih inside).trans (List.suffix_cons c input).isInfix
      · rcases List.infix_cons_iff.mp inside with here | later
        · cases word with
          | nil => exact List.nil_infix
          | cons first word =>
              have same := (List.cons_prefix_cons.mp here).1
              exact absurd (List.mem_cons.mpr (.inl same.symm)) unbroken
        · exact (ih later).trans (List.suffix_cons c input).isInfix
      · rcases List.infix_cons_iff.mp inside with here | later
        · have whole : word <+: lineEnds (c :: input) := by
            rw [lineEnds, if_neg carriage]
            exact here
          exact (prefixed unbroken whole).isInfix
        · exact (ih later).trans (List.suffix_cons c input).isInfix

theorem afterDeclaration_suffix (input : List Char) : afterDeclaration input <:+ input := by
  induction input with
  | nil => exact List.suffix_refl []
  | cons c input ih =>
      rw [afterDeclaration]
      split_ifs
      · exact (List.tail_suffix input).trans (List.suffix_cons c input)
      · exact ih.trans (List.suffix_cons c input)

/-- A document is plain, unless a quote was written as a reference. -/
theorem plain_of_readDocument (read : readDocument input = some root)
    (unreferred : ¬"&quot;".toList <:+: input) : Plain root.values := by
  have tame : Tame (lineEnds input) := by
    refine ⟨not_mem_lineEnds input, ?_⟩
    intro quote
    exact unreferred (infix_of_infix_lineEnds (by decide) quote)
  obtain ⟨behind, opened, later⟩ := Option.bind_eq_some_iff.mp read
  obtain ⟨found, parsed, ended⟩ := Option.bind_eq_some_iff.mp later
  rw [Option.ite_none_right_eq_some, Option.some.injEq] at ended
  have inside : behind <:+ lineEnds input := by
    apply (literal_suffix opened).trans
    apply (List.dropWhile_suffix _).trans
    split_ifs
    · exact afterDeclaration_suffix _
    · exact List.suffix_refl _
  rw [← ended.2]
  exact ((read_sound behind.length).1 parsed).2 (tame.part inside.isInfix)

/-- What is read of a written document is plain, whether it is the document or not. -/
theorem plain_of_readDocument_write {other : Node} (shaped : root.Shaped)
    (read : readDocument (writeDocument root) = some other) : Plain other.values := by
  apply plain_of_readDocument read
  apply not_quote_of_referring
  apply Referring.append (referring_of_not_mem (by decide))
  apply write_induction
  · intro first second
    exact Referring.append
  · intro mark listed
    exact referring_of_not_mem fun ampersand => absurd (listed ampersand) (by decide)
  · intro name named
    exact referring_of_not_mem fun ampersand => absurd (named.2 _ ampersand) (by decide)
  · exact shaped
  · intro value _
    exact referring_xmlEscape value.2

/-- A document whose values are escaped as `escape` does is read back just where they are plain. -/
theorem readDocument_write_iff (solid : root.isText = false) (shaped : root.Shaped) :
    readDocument (writeDocument root) = some root ↔ Plain root.values := by
  constructor
  · intro read
    exact plain_of_readDocument_write shaped read
  · intro plain
    have unbroken : '\r' ∉ writeDocument root := by
      rw [writeDocument, List.mem_append, not_or]
      refine ⟨by decide, ?_⟩
      apply @write_induction fun text => '\r' ∉ text
      · intro first second absent others
        rw [List.mem_append, not_or]
        exact ⟨absent, others⟩
      · intro mark listed carriage
        exact absurd (listed carriage) (by decide)
      · intro name named carriage
        exact absurd (named.2 _ carriage) (by decide)
      · exact shaped
      · intro value listed carriage
        have ordinary := plainChar_xmlEscape (plain value listed) _ carriage
        cases quoted : value.1 with
        | false =>
            rw [quoted] at ordinary
            cases ordinary
        | true =>
            rw [quoted] at ordinary
            cases ordinary
    obtain ⟨first, others, written, letter⟩ := write_of_not_text solid shaped
    have tail : root.write.tail = first :: others := by rw [written]; rfl
    have behind : afterDeclaration (declaration ++ root.write) = '\n' :: root.write := rfl
    have trimmed : ('\n' :: root.write).dropWhile isBlank = ['<'] ++ root.write.tail := by
      rw [written]
      rfl
    have declared : "<?xml".toList.isPrefixOf (declaration ++ root.write) = true := rfl
    have long : root.write.tail.length = others.length + 1 := by rw [tail]; rfl
    have whole : root.write.length = others.length + 2 := by rw [written]; rfl
    have parsed := @readElement_write [] others.length root solid shaped plain whole.le
      (fun nodes rest => @readNodes_write _ nodes rest)
    rw [List.append_nil] at parsed
    rw [readDocument, lineEnds_of_not_mem unbroken, writeDocument, if_pos declared, behind, trimmed,
      literal_append, Option.bind_some, long, parsed]
    rfl

end Documents

/-! ## Parts of a document -/

namespace Node

/-- The nodes between the tags. -/
def children : Node → List Node
  | .element _ _ children => children
  | _ => []

def attributes : Node → Attributes
  | .text _ => []
  | .void _ attributes => attributes
  | .element _ attributes _ => attributes

/-- The node is an element of this name. -/
def isNamed (name : List Char) : Node → Bool
  | .text _ => false
  | .void other _ => other = name
  | .element other _ _ => other = name

def named (name : List Char) (node : Node) : List Node := node.children.filter (isNamed name)

def ownText : Node → List Char
  | .text value => value
  | _ => []

/-- The text of an element, without that of the elements in it. -/
def content (node : Node) : List Char := node.children.flatMap ownText

/-- The value of an attribute; nothing where it is missing. -/
def attributeOf (name : List Char) (node : Node) : List Char :=
  (node.attributes.lookup name).getD []

/-- The text of the first element of a name. -/
def contentOf (name : List Char) (node : Node) : List Char :=
  ((node.named name).head?.map content).getD []

end Node

section Parts

variable {node inner : Node} {name : List Char}

theorem mem_allValues {nodes : List Node} {value : Bool × List Char} (listed : inner ∈ nodes)
    (own : value ∈ inner.values) : value ∈ allValues nodes := by
  induction nodes with
  | nil => cases listed
  | cons first nodes ih =>
      rw [allValues, List.mem_append]
      rcases List.mem_cons.mp listed with rfl | later
      · exact .inl own
      · exact .inr (ih later)

/-- What is within a plain node is plain. -/
theorem Plain.child (plain : Plain node.values) (within : inner ∈ node.children) :
    Plain inner.values := by
  cases node with
  | text value => cases within
  | void name attributes => cases within
  | element name attributes children =>
      intro value own
      apply plain value
      rw [Node.values, List.mem_append]
      exact .inr (mem_allValues within own)

theorem Plain.named (plain : Plain node.values) (within : inner ∈ node.named name) :
    Plain inner.values :=
  Plain.child plain (List.mem_filter.mp within).1

theorem Plain.content (plain : Plain node.values) :
    ∀ c ∈ node.content, plainChar false c = true := by
  intro c member
  obtain ⟨inner, within, own⟩ := List.mem_flatMap.mp member
  cases inner with
  | text value => exact Plain.child plain within (false, value) List.mem_cons_self c own
  | void name attributes => cases own
  | element name attributes children => cases own

theorem Plain.contentOf (plain : Plain node.values) :
    ∀ c ∈ node.contentOf name, plainChar false c = true := by
  intro c member
  rw [Node.contentOf] at member
  cases found : (node.named name).head? with
  | none =>
      rw [found] at member
      cases member
  | some child =>
      rw [found] at member
      exact Plain.content (Plain.named plain (List.mem_of_head? found)) c member

theorem mem_of_lookup {attributes : Attributes} {value : List Char}
    (found : attributes.lookup name = some value) : (name, value) ∈ attributes := by
  obtain ⟨before, after, rfl, _⟩ := List.lookup_eq_some_iff.mp found
  simp

theorem Plain.attributeOf (plain : Plain node.values) :
    ∀ c ∈ node.attributeOf name, plainChar true c = true := by
  intro c member
  rw [Node.attributeOf] at member
  cases found : node.attributes.lookup name with
  | none =>
      rw [found] at member
      cases member
  | some value =>
      rw [found] at member
      have listed : (true, value) ∈ node.attributes.map fun pair => (true, pair.2) :=
        List.mem_map.mpr ⟨(name, value), mem_of_lookup found, rfl⟩
      apply plain (true, value) ?_ c member
      cases node with
      | text own => cases listed
      | void own attributes => exact listed
      | element own attributes children => exact List.mem_append_left _ listed

end Parts

end Mintarr.Lib.Xml
