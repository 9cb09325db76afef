import Mathlib.Data.Rat.Defs
import Mintarr.Lib.Characters

/-!
# Python strings and values

A Python string is a list of code points, and a half of a surrogate pair is one too: JSON text
can hold it, UTF-8 cannot.  The values are what `json.loads` makes of a document that another
host has sent.
-/

namespace Mintarr.Lib.Py

/-! ## Strings -/

/-- A code point of a string. -/
inductive CodePoint where
  | char (c : Char)
  /-- `U+D800` and up. -/
  | surrogate (half : Fin 2048)
  deriving DecidableEq, Repr

/-- `str`. -/
abbrev Str := List CodePoint

instance : LawfulBEq Str := inferInstance

/-- A literal. -/
def str (text : String) : Str := text.toList.map .char

namespace CodePoint

/-- `ord(c)`. -/
def code : CodePoint → Nat
  | char c => c.toNat
  | surrogate half => 0xD800 + half

def isSpace : CodePoint → Bool
  | char c => Text.isSpace c
  | surrogate _ => false

/-- `c.isdigit()`. -/
def isdigit : CodePoint → Bool
  | char c => Text.isdigit [c]
  | surrogate _ => false

/-- The value of a decimal digit. -/
def decimal : CodePoint → Option Nat
  | char c => Text.decimal c
  | surrogate _ => none

def isDecimal (c : CodePoint) : Bool := c.decimal.isSome

end CodePoint

/-- `text.strip` of the given characters. -/
def stripOf (drops : CodePoint → Bool) (text : Str) : Str :=
  ((text.dropWhile drops).reverse.dropWhile drops).reverse

/-- `text.strip()`. -/
def strip (text : Str) : Str := stripOf CodePoint.isSpace text

/-- `text.replace("\\", "/")`. -/
def slashed (text : Str) : Str := text.map fun c => if c = .char '\\' then .char '/' else c

/-- `text.encode("utf-8")` does not raise. -/
def encodable (text : Str) : Bool :=
  text.all fun c =>
    match c with
    | .char _ => true
    | .surrogate _ => false

/-- `PurePosixPath(path).name`. -/
def nameOf (path : Str) : Str :=
  ((path.splitOn (.char '/')).filter fun part => part ≠ [] && part ≠ str ".").getLastD []

/-- `path.suffix` of a path with that name. -/
def suffixOf (name : Str) : Str :=
  let behind := (name.reverse.takeWhile (· ≠ .char '.')).reverse
  if behind ≠ [] && behind.length + 1 < name.length then .char '.' :: behind else []

/-- Digits with single underscores between them. -/
def readDigits (text : Str) : Option Nat :=
  let runs := text.splitOn (.char '_')
  let digits := runs.flatten
  if (runs.all fun run => run ≠ [] && run.all CodePoint.isDecimal) &&
      digits.length ≤ Text.maxStrDigits then
    some (digits.foldl (fun value c => 10 * value + c.decimal.getD 0) 0)
  else none

/-- `int(text)`; nothing where it raises. -/
def readInt (text : Str) : Option Int :=
  match strip text with
  | .char '-' :: rest => (readDigits rest).map fun value => -(value : Int)
  | .char '+' :: rest => (readDigits rest).map Int.ofNat
  | rest => (readDigits rest).map Int.ofNat

example : readInt (str " -1_0 ") = some (-10) := by rfl

/-! ## What `int` reads of digits -/

/-- Values that are apart from those of all digits. -/
theorem isdigit_eq_false {c : Char}
    (zeros : ∀ first ∈ Text.decimalZeros, c.toNat < first ∨ first + 10 ≤ c.toNat)
    (others : ∀ range ∈ Text.otherDigits, c.toNat < range.1 ∨ range.2 < c.toNat) :
    Text.isdigit [c] = false := by
  have decimal : Text.isDecimal c = false := by
    simp only [Text.isDecimal, Text.decimal, Option.isSome_map]
    rw [Option.isSome_eq_false_iff, Option.isNone_iff_eq_none, List.find?_eq_none]
    intro first listed
    have apart := zeros first listed
    simp only [Bool.and_eq_true, decide_eq_true_eq]
    omega
  have other : (Text.otherDigits.any fun range =>
      decide (range.1 ≤ c.toNat) && decide (c.toNat ≤ range.2)) = false := by
    rw [List.any_eq_false]
    intro range listed
    have apart := others range listed
    simp only [Bool.and_eq_true, decide_eq_true_eq]
    omega
  simp [Text.isdigit, decimal, other]

/-- White space is no digit. -/
theorem isdigit_of_isSpace {c : Char} (space : Text.isSpace c = true) :
    Text.isdigit [c] = false := by
  have apart : ∀ low high,
      (Text.decimalZeros.all fun first => decide (high < first) || decide (first + 10 ≤ low)) =
        true →
      (Text.otherDigits.all fun range => decide (high < range.1) || decide (range.2 < low)) =
        true →
      low ≤ c.toNat → c.toNat ≤ high → Text.isdigit [c] = false := by
    intro low high zeros others above below
    rw [List.all_eq_true] at zeros others
    apply isdigit_eq_false
    · intro first listed
      have here := zeros first listed
      simp only [Bool.or_eq_true, decide_eq_true_eq] at here
      omega
    · intro range listed
      have here := others range listed
      simp only [Bool.or_eq_true, decide_eq_true_eq] at here
      omega
  obtain low | listed | between := Text.toNat_of_isSpace space
  · exact apart 0 0x20 (by decide) (by decide) (Nat.zero_le _) low
  · simp only [List.mem_cons, List.not_mem_nil, or_false] at listed
    rcases listed with value | value | value | value | value | value | value | value
    · exact apart 0x85 0x85 (by decide) (by decide) (by omega) (by omega)
    · exact apart 0xA0 0xA0 (by decide) (by decide) (by omega) (by omega)
    · exact apart 0x1680 0x1680 (by decide) (by decide) (by omega) (by omega)
    · exact apart 0x2028 0x2028 (by decide) (by decide) (by omega) (by omega)
    · exact apart 0x2029 0x2029 (by decide) (by decide) (by omega) (by omega)
    · exact apart 0x202F 0x202F (by decide) (by decide) (by omega) (by omega)
    · exact apart 0x205F 0x205F (by decide) (by decide) (by omega) (by omega)
    · exact apart 0x3000 0x3000 (by decide) (by decide) (by omega) (by omega)
  · exact apart 0x2000 0x200A (by decide) (by decide) between.1 between.2

/-- What begins and ends without a dropped character is kept. -/
theorem stripOf_eq_self {drops : CodePoint → Bool} {text : Str}
    (head : ∀ c ∈ text.head?, drops c = false) (last : ∀ c ∈ text.getLast?, drops c = false) :
    stripOf drops text = text := by
  have front : text.dropWhile drops = text := by
    cases text with
    | nil => rfl
    | cons c rest => rw [List.dropWhile_cons, if_neg (by simp [head c rfl])]
  have back : text.reverse.dropWhile drops = text.reverse := by
    rw [← List.head?_reverse] at last
    cases reversed : text.reverse with
    | nil => rfl
    | cons c rest =>
        rw [reversed] at last
        rw [List.dropWhile_cons, if_neg (by simp [last c rfl])]
  rw [stripOf, front, back, List.reverse_reverse]

/-- Nothing that is dropped is at the ends of what is left. -/
theorem head?_stripOf {drops : CodePoint → Bool} {text : Str} :
    ∀ c ∈ (stripOf drops text).head?, drops c = false := by
  intro c head
  have front : ∀ c ∈ (text.dropWhile drops).head?, drops c = false := by
    intro c head
    have stops := List.head?_dropWhile_not drops text
    rw [Option.mem_def.mp head] at stops
    simpa using stops
  have kept : stripOf drops text <+: text.dropWhile drops := by
    have suffix := List.dropWhile_suffix drops (l := (text.dropWhile drops).reverse)
    rw [stripOf, ← List.reverse_suffix, List.reverse_reverse]
    exact suffix
  obtain ⟨rest, whole⟩ := kept
  apply front c
  rw [← whole, List.head?_append, Option.mem_def.mp head]
  rfl

theorem getLast?_stripOf {drops : CodePoint → Bool} {text : Str} :
    ∀ c ∈ (stripOf drops text).getLast?, drops c = false := by
  intro c last
  rw [stripOf, List.getLast?_reverse] at last
  have stops := List.head?_dropWhile_not drops (text.dropWhile drops).reverse
  rw [Option.mem_def.mp last] at stops
  simpa using stops

/-- Once is enough. -/
@[simp] theorem strip_strip (text : Str) : strip (strip text) = strip text :=
  stripOf_eq_self head?_stripOf getLast?_stripOf

/-- Digits are a number to `int` where they are decimal and not too many. -/
theorem isSome_readInt {digits : Str} (nonempty : digits ≠ [])
    (each : ∀ c ∈ digits, c.isdigit = true) :
    (readInt digits).isSome = true ↔
      (∀ c ∈ digits, c.isDecimal = true) ∧ digits.length ≤ Text.maxStrDigits := by
  have spaceless : ∀ c ∈ digits, c.isSpace = false := by
    intro c listed
    have digit := each c listed
    cases c with
    | surrogate half => rfl
    | char c =>
        cases space : Text.isSpace c with
        | false => exact space
        | true =>
            have none := isdigit_of_isSpace space
            rw [CodePoint.isdigit, none] at digit
            contradiction
  have stripped : strip digits = digits := by
    apply stripOf_eq_self
    · intro c head
      exact spaceless c (List.mem_of_mem_head? head)
    · intro c last
      exact spaceless c (List.mem_of_mem_getLast? last)
  have whole : digits.splitOn (.char '_') = [digits] := by
    rw [List.splitOn_eq_splitOnP, List.splitOnP_eq_singleton]
    intro c listed
    apply beq_false_of_ne
    intro same
    have digit := each c listed
    rw [same] at digit
    contradiction
  have reads : (readDigits digits).isSome = true ↔
      (∀ c ∈ digits, c.isDecimal = true) ∧ digits.length ≤ Text.maxStrDigits := by
    simp [readDigits, whole, nonempty]
  have unsigned : ∀ sign : Char, Text.isdigit [sign] = false → ∀ rest,
      digits ≠ .char sign :: rest := by
    intro sign signed rest same
    have digit := each (.char sign) (by rw [same]; exact List.mem_cons_self)
    rw [CodePoint.isdigit, signed] at digit
    contradiction
  unfold readInt
  rw [stripped]
  split
  · next rest => exact absurd rfl (unsigned '-' (by decide) rest)
  · next rest => exact absurd rfl (unsigned '+' (by decide) rest)
  · rw [Option.isSome_map]
    exact reads

/-- `first <= second`. -/
def le (first second : Str) : Bool :=
  !(second.map CodePoint.code).lex (first.map CodePoint.code) fun c d => decide (c < d)

/-! ## Values -/

/-- A value of `json.loads`. -/
inductive PyValue where
  | none
  | bool (value : Bool)
  | int (value : Int)
  /-- Without a value it is infinite or not a number. -/
  | float (value : Option ℚ)
  | str (text : Str)
  | list (items : List PyValue)
  | dict (fields : List (Str × PyValue))

namespace PyValue

/-- `bool(value)`. -/
def truthy : PyValue → Bool
  | none => false
  | bool value => value
  | int value => value ≠ 0
  | float value => value ≠ some 0
  | str text => text ≠ []
  | list items => !items.isEmpty
  | dict fields => !fields.isEmpty

/-- `fields.get(key)`. -/
def get (fields : List (Str × PyValue)) (key : String) : PyValue :=
  (fields.lookup (Py.str key)).getD none

/-- `first or second`. -/
def orElse (first second : PyValue) : PyValue := if first.truthy then first else second

/-- `int(value)`; nothing where it raises. -/
def toInt : PyValue → Option Int
  | bool value => some (if value then 1 else 0)
  | int value => some value
  | float value => value.map fun value => value.num.tdiv value.den
  | str text => readInt text
  | none | list _ | dict _ => Option.none

/-- `str(value)`; `repr` writes what is not a string. -/
def toStr (repr : PyValue → Str) : PyValue → Str
  | str text => text
  | other => repr other

/-- `fields[key] = value`. -/
def setItem {α : Type} (fields : List (Str × α)) (key : Str) (value : α) : List (Str × α) :=
  if (fields.lookup key).isSome then
    fields.map fun field => if field.1 = key then (key, value) else field
  else fields ++ [(key, value)]

/-- An item is found under its key. -/
@[simp] theorem lookup_setItem_self {α : Type} (fields : List (Str × α)) (key : Str) (value : α) :
    (setItem fields key value).lookup key = some value := by
  unfold setItem
  split
  · next present =>
      induction fields with
      | nil => contradiction
      | cons field fields ih =>
          rw [List.map_cons]
          by_cases here : field.1 = key
          · rw [if_pos here, List.lookup_cons]
            simp
          · have apart : (key == field.1) = false := beq_false_of_ne (Ne.symm here)
            rw [List.lookup_cons, apart] at present
            rw [if_neg here, List.lookup_cons, apart]
            exact ih present
  · next absent =>
      have missing : fields.lookup key = Option.none := by
        rw [← Option.not_isSome_iff_eq_none]
        exact absent
      simp [List.lookup_append, missing]

/-- The other items are as before. -/
theorem lookup_setItem_of_ne {α : Type} (fields : List (Str × α)) {key other : Str}
    (different : other ≠ key) (value : α) :
    (setItem fields key value).lookup other = fields.lookup other := by
  have apart : (other == key) = false := beq_false_of_ne different
  unfold setItem
  split
  · next present =>
      clear present
      induction fields with
      | nil => rfl
      | cons field fields ih =>
          rw [List.map_cons, List.lookup_cons, List.lookup_cons, ih]
          by_cases here : field.1 = key
          · rw [if_pos here, here, apart]
          · rw [if_neg here]
  · rw [List.lookup_append, List.lookup_cons, apart]
    simp

/-- What is in an object after an item was set. -/
theorem mem_setItem {α : Type} {fields : List (Str × α)} {key : Str} {value : α}
    {field : Str × α} (listed : field ∈ setItem fields key value) :
    field ∈ fields ∨ field = (key, value) := by
  unfold setItem at listed
  split at listed
  · obtain ⟨other, mem, same⟩ := List.mem_map.mp listed
    split at same
    · exact Or.inr same.symm
    · exact Or.inl (same ▸ mem)
  · rcases List.mem_append.mp listed with before | last
    · exact Or.inl before
    · exact Or.inr (List.mem_singleton.mp last)

/-- What is found is there. -/
theorem mem_of_lookup {α : Type} {fields : List (Str × α)} {key : Str} {value : α}
    (found : fields.lookup key = some value) : (key, value) ∈ fields := by
  induction fields with
  | nil => contradiction
  | cons field fields ih =>
      rw [List.lookup_cons] at found
      by_cases here : key = field.1
      · simp [here] at found
        rw [here, ← found]
        exact List.mem_cons_self
      · have apart : (key == field.1) = false := by simp [here]
        rw [apart] at found
        exact List.mem_cons_of_mem _ (ih found)

end PyValue

end Mintarr.Lib.Py
