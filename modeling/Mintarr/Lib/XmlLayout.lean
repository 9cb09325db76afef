import Mintarr.Lib.Xml

/-!
# Documents on several lines

Templates put every element on a line of its own, with blanks before it.  Such a document is a tree
whose white space is text, which no reader of its elements looks at.
-/

namespace Mintarr.Lib.Xml

open Markup (xmlEscape escaped xmlEscape_eq)

/-! ## Nodes -/

/-- White space before a tag. -/
def lineBreak (indent : Nat) : List Char := '\n' :: List.replicate indent ' '

/-- What stands between the tags of a text. -/
def textNodes (value : List Char) : List Node := if value = [] then [] else [.text value]

def textElement (name : List Char) (attributes : Attributes) (value : List Char) : Node :=
  .element name attributes (textNodes value)

/-- Each node on its own line, and white space behind the last one. -/
def layout (nodes : List (Nat × Node)) (last : List Char) : List Node :=
  (nodes.flatMap fun line => [.text (lineBreak line.1), line.2]) ++ [.text last]

/-! ## Their text -/

section Text

variable {α : Type} {value last name : List Char} {attributes : Attributes}

/-- Without special characters a text is written as it is. -/
theorem xmlEscape_eq_self (plain : ∀ c ∈ value, c ∉ "&<>".toList) : xmlEscape value = value := by
  rw [xmlEscape_eq]
  induction value with
  | nil => rfl
  | cons c value ih =>
      rw [List.forall_mem_cons] at plain
      have kept : escaped c = [c] := by
        obtain ⟨ampersand, less, greater⟩ : c ≠ '&' ∧ c ≠ '<' ∧ c ≠ '>' := by
          simpa using plain.1
        rw [escaped, if_neg ampersand, if_neg greater, if_neg less]
      rw [List.flatMap_cons, kept, ih plain.2]
      rfl

theorem write_lineBreak (indent : Nat) :
    (Node.text (lineBreak indent)).write = lineBreak indent := by
  apply xmlEscape_eq_self
  intro c listed
  rcases List.mem_cons.mp listed with rfl | later
  · decide
  · cases List.eq_of_mem_replicate later
    decide

theorem writeAll_append (first second : List Node) :
    writeAll (first ++ second) = writeAll first ++ writeAll second := by
  induction first with
  | nil => rfl
  | cons node first ih => rw [List.cons_append, writeAll, writeAll, ih, List.append_assoc]

theorem writeAll_textNodes : writeAll (textNodes value) = xmlEscape value := by
  rw [textNodes]
  split_ifs with empty
  · subst empty
    rfl
  · exact List.append_nil _

theorem writeAll_layout (nodes : List (Nat × Node)) :
    writeAll (layout nodes last) =
      (nodes.flatMap fun line => lineBreak line.1 ++ line.2.write) ++ xmlEscape last := by
  have ended : writeAll [.text last] = xmlEscape last := List.append_nil _
  rw [layout, writeAll_append, ended]
  congr 1
  induction nodes with
  | nil => rfl
  | cons line nodes ih =>
      have both : writeAll [.text (lineBreak line.1), line.2] =
          lineBreak line.1 ++ line.2.write := by
        rw [writeAll, writeAll, writeAll, write_lineBreak, List.append_nil]
      rw [List.flatMap_cons, List.flatMap_cons, writeAll_append, both, ih]

theorem write_element (children : List Node) :
    (Node.element name attributes children).write =
      "<".toList ++ (name ++ (writeAttributes attributes ++ (">".toList ++ (writeAll children ++
        ("</".toList ++ (name ++ ">".toList)))))) := by
  rw [Node.write]
  rfl

theorem write_textElement : (textElement name attributes value).write =
      "<".toList ++ (name ++ (writeAttributes attributes ++ (">".toList ++ (xmlEscape value ++
        ("</".toList ++ (name ++ ">".toList)))))) := by
  rw [textElement, write_element, writeAll_textNodes]

theorem write_void : (Node.void name attributes).write =
    "<".toList ++ (name ++ (writeAttributes attributes ++ "/>".toList)) := by
  rw [Node.write]
  rfl

theorem writeAttributes_nil : writeAttributes [] = [] := rfl

theorem writeAttributes_cons : writeAttributes ((name, value) :: attributes) =
    " ".toList ++ (name ++ ("=\"".toList ++ (xmlEscape value ++ ("\"".toList ++
      writeAttributes attributes)))) := by
  simp [writeAttributes, writeAttribute]

/-- Two pieces of a template are one. -/
theorem toList_append_toList (first second : String) (rest : List Char) :
    first.toList ++ (second.toList ++ rest) = (first ++ second).toList ++ rest := by
  rw [String.toList_append, List.append_assoc]

/-- Joined lines, each behind its line break. -/
theorem append_intercalate {separator : List Char} {parts : List (List Char)}
    (some_part : parts ≠ []) :
    separator ++ separator.intercalate parts = parts.flatMap (separator ++ ·) := by
  induction parts with
  | nil => exact absurd rfl some_part
  | cons part parts ih =>
      cases parts with
      | nil => simp [List.intercalate]
      | cons next parts =>
          have split : separator.intercalate (part :: next :: parts) =
              part ++ (separator ++ separator.intercalate (next :: parts)) := by
            simp [List.intercalate]
          rw [split, ih (List.cons_ne_nil next parts), @List.flatMap_cons _ _ part,
            List.append_assoc]

end Text

/-! ## Their shape -/

instance (name : List Char) : Decidable (IsName name) :=
  decidable_of_iff (name ≠ [] ∧ name.all isNameChar = true) (by rw [IsName, List.all_eq_true])

section Shape

variable {name value last : List Char} {attributes : Attributes} {nodes : List (Nat × Node)}

/-- What is to be checked of a tag are its names. -/
theorem Named.of_keys {keys : List (List Char)} (same : attributes.map Prod.fst = keys)
    (checked : (IsName name ∧ ∀ key ∈ keys, IsName key) ∧ keys.Nodup) : Named name attributes := by
  refine ⟨checked.1.1, ?_, ?_⟩
  · intro pair listed
    apply checked.1.2
    rw [← same]
    exact List.mem_map_of_mem listed
  · rw [same]
    exact checked.2

theorem shaped_textElement (named : Named name attributes) :
    (textElement name attributes value).Shaped := by
  refine ⟨named, ?_⟩
  rw [textNodes]
  split_ifs with empty
  · trivial
  · exact ⟨empty, fun _ => rfl, trivial⟩

theorem allShaped_layout (ends : last ≠ [])
    (shaped : ∀ line ∈ nodes, line.2.isText = false ∧ line.2.Shaped) :
    AllShaped (layout nodes last) := by
  induction nodes with
  | nil => exact ⟨ends, fun _ => rfl, trivial⟩
  | cons line nodes ih =>
      rw [List.forall_mem_cons] at shaped
      have behind : line.2.isText = true →
          (layout nodes last).head?.any Node.isText = false := by
        intro text
        rw [shaped.1.1] at text
        cases text
      have solid : (line.2 :: layout nodes last).head?.any Node.isText = false := shaped.1.1
      exact ⟨List.cons_ne_nil _ _, fun _ => solid, shaped.1.2, behind, ih shaped.2⟩

end Shape

/-! ## What they hold -/

section Values

variable {name value last : List Char} {attributes : Attributes} {nodes : List (Nat × Node)}

theorem plainChar_lineBreak (indent : Nat) : ∀ c ∈ lineBreak indent, plainChar false c = true := by
  intro c listed
  rcases List.mem_cons.mp listed with rfl | later
  · decide
  · cases List.eq_of_mem_replicate later
    decide

/-- What is to be checked of the attributes of a tag. -/
theorem plain_attributes
    (checked : (attributes.all fun pair => pair.2.all (plainChar true)) = true) :
    ∀ pair ∈ attributes, ∀ c ∈ pair.2, plainChar true c = true := by
  intro pair listed
  exact List.all_eq_true.mp (List.all_eq_true.mp checked pair listed)

theorem plain_textElement (plain : ∀ c ∈ value, plainChar false c = true)
    (attributed : ∀ pair ∈ attributes, ∀ c ∈ pair.2, plainChar true c = true) :
    Plain (textElement name attributes value).values := by
  rw [textElement, Node.values, Plain.append]
  constructor
  · intro quoted listed
    obtain ⟨pair, own, rfl⟩ := List.mem_map.mp listed
    exact attributed pair own
  · rw [textNodes]
    split_ifs with empty
    · exact List.forall_mem_nil _
    · intro quoted listed
      cases List.mem_singleton.mp listed
      exact plain

theorem plain_layout (ends : ∀ c ∈ last, plainChar false c = true)
    (plain : ∀ line ∈ nodes, Plain line.2.values) : Plain (allValues (layout nodes last)) := by
  induction nodes with
  | nil =>
      intro quoted listed
      cases List.mem_singleton.mp listed
      exact ends
  | cons line nodes ih =>
      rw [List.forall_mem_cons] at plain
      have split : allValues (layout (line :: nodes) last) =
          [(false, lineBreak line.1)] ++ (line.2.values ++ allValues (layout nodes last)) := rfl
      rw [split, Plain.append, Plain.append]
      refine ⟨?_, plain.1, ih plain.2⟩
      intro quoted listed
      cases List.mem_singleton.mp listed
      exact plainChar_lineBreak line.1

theorem content_textElement : (textElement name attributes value).content = value := by
  have within : (textElement name attributes value).content =
      (textNodes value).flatMap Node.ownText := rfl
  rw [within, textNodes]
  split_ifs with empty
  · rw [empty]
    rfl
  · exact List.append_nil value

/-- The elements of a name are found through the white space. -/
theorem named_layout (wanted : List Char) :
    (Node.element name attributes (layout nodes last)).named wanted =
      (nodes.map Prod.snd).filter (Node.isNamed wanted) := by
  have within : (Node.element name attributes (layout nodes last)).named wanted =
      (layout nodes last).filter (Node.isNamed wanted) := rfl
  have ended : [Node.text last].filter (Node.isNamed wanted) = [] := rfl
  rw [within, layout, List.filter_append, ended, List.append_nil]
  clear within
  induction nodes with
  | nil => rfl
  | cons line nodes ih =>
      have one : [Node.text (lineBreak line.1), line.2].filter (Node.isNamed wanted) =
          [line.2].filter (Node.isNamed wanted) := rfl
      have single : line.2 :: nodes.map Prod.snd = [line.2] ++ nodes.map Prod.snd := rfl
      rw [List.flatMap_cons, List.filter_append, one, ih, List.map_cons, single, List.filter_append]

end Values

end Mintarr.Lib.Xml
