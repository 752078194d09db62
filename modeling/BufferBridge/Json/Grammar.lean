/-! JSON texts as a grammar. It says which texts are well formed, and which of them spell a given
string or an object with given members, without reading any of them. -/
namespace BufferBridge.Json

/-- Text that may stand between any two parts. -/
def Blank (text : List Char) : Prop := ∀ c ∈ text, c ∈ [' ', '\n', '\t', '\r']

/-! ## Numbers -/

/-- A run of digits. -/
def Digits (text : List Char) : Prop := text ≠ [] ∧ ∀ c ∈ text, c.isDigit

/-- The digits before the point, without a zero in front of others. -/
inductive Whole : List Char → Prop
  | zero : Whole ['0']
  | other {first : Char} {rest : List Char} : first.isDigit → first ≠ '0' →
      (∀ c ∈ rest, c.isDigit) → Whole (first :: rest)

/-- The point and the digits after it, or nothing. -/
inductive Fraction : List Char → Prop
  | absent : Fraction []
  | present {digits : List Char} : Digits digits → Fraction ('.' :: digits)

/-- The power of ten, or nothing. -/
inductive Exponent : List Char → Prop
  | absent : Exponent []
  | present {letter : Char} {sign digits : List Char} : letter ∈ ['e', 'E'] →
      sign ∈ [[], ['+'], ['-']] → Digits digits → Exponent (letter :: (sign ++ digits))

/-- A number, of any size. -/
inductive Numeric : List Char → Prop
  | parts {sign whole fraction exponent : List Char} : sign ∈ [[], ['-']] → Whole whole →
      Fraction fraction → Exponent exponent → Numeric (sign ++ (whole ++ (fraction ++ exponent)))

/-! ## Strings -/

/-- A hexadecimal digit, of either case, and its value. -/
def Hex (c : Char) (value : Nat) : Prop :=
  "0123456789abcdef".toList[value]? = some c ∨ "0123456789ABCDEF".toList[value]? = some c

/-- Four hexadecimal digits and the number that they write. -/
inductive HexWord : List Char → Nat → Prop
  | digits {a b c d : Char} {i j k l : Nat} : Hex a i → Hex b j → Hex c k → Hex d l →
      HexWord [a, b, c, d] (((i * 16 + j) * 16 + k) * 16 + l)

/-- What a letter behind a backslash stands for. -/
def shortEscapes : List (Char × Char) :=
  [('"', '"'), ('\\', '\\'), ('/', '/'), ('b', '\x08'), ('f', '\x0c'), ('n', '\n'), ('r', '\r'),
    ('t', '\t')]

/-- A character that stands for itself in a string. -/
def Plain (c : Char) : Prop := c ≠ '"' ∧ c ≠ '\\' ∧ 32 ≤ c.toNat

instance (c : Char) : Decidable (Plain c) := inferInstanceAs (Decidable (_ ∧ _ ∧ _))

/-- What stands between the quotes of a string. An escape may be half of a surrogate pair. -/
inductive Quotable : List Char → Prop
  | nil : Quotable []
  | plain {c : Char} {text : List Char} : Plain c → Quotable text → Quotable (c :: text)
  | short {letter c : Char} {text : List Char} : (letter, c) ∈ shortEscapes → Quotable text →
      Quotable ('\\' :: letter :: text)
  | hex {digits text : List Char} {value : Nat} : HexWord digits value → Quotable text →
      Quotable ('\\' :: 'u' :: (digits ++ text))

/-- What stands between the quotes of a string with given characters. -/
inductive Spells : List Char → List Char → Prop
  | nil : Spells [] []
  | plain {c : Char} {name text : List Char} : Plain c → Spells name text →
      Spells (c :: name) (c :: text)
  | short {letter c : Char} {name text : List Char} : (letter, c) ∈ shortEscapes →
      Spells name text → Spells (c :: name) ('\\' :: letter :: text)
  | hex {c : Char} {digits name text : List Char} : HexWord digits c.toNat → Spells name text →
      Spells (c :: name) ('\\' :: 'u' :: (digits ++ text))
  /-- A character beyond the first 65536 as a surrogate pair. -/
  | pair {c : Char} {first second name text : List Char} {high low : Nat} :
      HexWord first (0xD800 + high) → HexWord second (0xDC00 + low) → high < 0x400 → low < 0x400 →
      c.toNat = 0x10000 + high * 0x400 + low → Spells name text →
      Spells (c :: name) ('\\' :: 'u' :: (first ++ '\\' :: 'u' :: (second ++ text)))

/-- A string in quotes. -/
inductive InQuotes (name : String) : List Char → Prop
  | quotes {text : List Char} : Spells name.toList text → InQuotes name ('"' :: (text ++ ['"']))

/-! ## Values -/

/-- The kinds of text that the grammar has. -/
inductive Part
  | value
  /-- A value with blanks around it. -/
  | item
  /-- The values of an array, of which there is one. -/
  | items
  /-- A key and a value, with blanks around them. -/
  | member
  /-- The members of an object, of which there is one. -/
  | members

/-- The texts of each kind. -/
inductive Derives : Part → List Char → Prop
  | word {text : List Char} : text ∈ ["null".toList, "true".toList, "false".toList] →
      Derives .value text
  | number {text : List Char} : Numeric text → Derives .value text
  | string {text : List Char} : Quotable text → Derives .value ('"' :: (text ++ ['"']))
  | emptyArray {gap : List Char} : Blank gap → Derives .value ('[' :: (gap ++ [']']))
  | array {text : List Char} : Derives .items text → Derives .value ('[' :: (text ++ [']']))
  | emptyObject {gap : List Char} : Blank gap → Derives .value ('\x7b' :: (gap ++ ['\x7d']))
  | object {text : List Char} : Derives .members text →
      Derives .value ('\x7b' :: (text ++ ['\x7d']))
  | item {before value after : List Char} : Blank before → Derives .value value → Blank after →
      Derives .item (before ++ (value ++ after))
  | oneItem {text : List Char} : Derives .item text → Derives .items text
  | moreItems {text rest : List Char} : Derives .item text → Derives .items rest →
      Derives .items (text ++ ',' :: rest)
  | member {before key after value : List Char} : Blank before → Quotable key → Blank after →
      Derives .item value → Derives .member (before ++ '"' :: (key ++ '"' :: (after ++ ':' :: value)))
  | oneMember {text : List Char} : Derives .member text → Derives .members text
  | moreMembers {text rest : List Char} : Derives .member text → Derives .members rest →
      Derives .members (text ++ ',' :: rest)

/-! ## Objects with given members -/

/-- A name and the text of a value. -/
structure Member where
  name : String
  value : List Char

/-- A member as it may stand in an object. -/
inductive Member.Writes (member : Member) : List Char → Prop
  | parts {before key after gap rest : List Char} : Blank before → InQuotes member.name key →
      Blank after → Blank gap → Blank rest →
      member.Writes (before ++ (key ++ (after ++ ':' :: (gap ++ (member.value ++ rest)))))

/-- Members, of which there is one, as they may stand in an object. -/
inductive WritesMembers : List Member → List Char → Prop
  | one {member : Member} {text : List Char} : member.Writes text → WritesMembers [member] text
  | more {member : Member} {members : List Member} {text rest : List Char} : member.Writes text →
      WritesMembers members rest → WritesMembers (member :: members) (text ++ ',' :: rest)

/-- An object with given members in the order in which they stand, and nothing else around it. -/
inductive WritesObject : List Member → List Char → Prop
  | empty {before gap after : List Char} : Blank before → Blank gap → Blank after →
      WritesObject [] (before ++ '\x7b' :: (gap ++ '\x7d' :: after))
  | members {members : List Member} {before text after : List Char} : Blank before →
      WritesMembers members text → Blank after →
      WritesObject members (before ++ '\x7b' :: (text ++ '\x7d' :: after))

end BufferBridge.Json
