import Stencil.Diagnostic

/-! Values that templates read and print. -/

namespace Stencil

/-- Kinds of failure that a value of the host program may answer with. -/
inductive FaultKind
  -- These four are told apart when a member is asked for.
  | missingAttribute
  | missingKey
  | outOfRange
  | wrongKind
  | malformed (name : String)
  | other (name : String)
  deriving DecidableEq

/-- The name under which a kind of failure is reported. -/
def FaultKind.name : FaultKind → String
  | .missingAttribute => "AttributeError"
  | .missingKey => "KeyError"
  | .outOfRange => "IndexError"
  | .wrongKind => "TypeError"
  | .malformed name | .other name => name

/-- A failure of the host program: it says something or nothing, or it fails again when it is asked
for its text, or it is a diagnostic of this library. -/
inductive Fault
  | raised (kind : FaultKind) (text : Option String)
  | untold (kind : FaultKind) (other : Fault)
  | library (report : Diagnostic)
  deriving DecidableEq

/-- The kind of a failure of the host program that is no diagnostic. -/
def Fault.kind? : Fault → Option FaultKind
  | .raised kind _ | .untold kind _ => some kind
  | .library _ => none

/-- The text of null inside a list or a dictionary. -/
def nullText : String := "None"

/-- What a failure says; a missing key is quoted, and a malformed text is null unless told. -/
def faultText (kind : FaultKind) (text : Option String) : String :=
  match kind, text with
  | .missingKey, some text => quoted text
  | .malformed _, none => nullText
  | _, some text => text
  | _, none => ""

/-- A template value; objects of the host program answer for their text, both alone and inside lists
and dictionaries, and for their attributes and items. The identity of a double counts only if it is
no number, for that is equal to nothing but itself. -/
inductive Value
  | null
  | bool (value : Bool)
  | int (value : Int)
  | float (identity : Nat) (value : Float)
  | text (value : String)
  | list (items : List Value)
  | dict (entries : List (Value × Value))
  | object (identity : Nat) (kind : String) (text shown : Except Fault String)
      (member item : String → Except Fault Value)

namespace Value

/-- The name of a value's kind. -/
def kindName : Value → String
  | null => "NoneType"
  | bool _ => "bool"
  | int _ => "int"
  | float _ _ => "float"
  | text _ => "str"
  | list _ => "list"
  | dict _ => "dict"
  | object _ kind _ _ _ _ => kind

/-- Doubles are positional from a ten-thousandth up to ten to the sixteenth. -/
def doubleFormat : DoubleFormat where
  leastPositional := -4
  leastScientific := 16
  exponentWidth := 2
  infinity := "inf"
  notANumber := "nan"

/-- The text of an integer as a value. -/
def integerText (number : Int) : Except Fault String :=
  match integerText? number with
  | some digits => .ok digits
  | none => .error (.raised (.other "ValueError") (some (digitLimitText "")))

mutual

/-- The text of a value inside a list or a dictionary. -/
def shown : Value → Except Fault String
  | null => .ok nullText
  | bool value => .ok (if value then "True" else "False")
  | int value => integerText value
  | float _ value => .ok (doubleFormat.write value)
  | text value => .ok (quoted value)
  | list items => do
    let texts ← shownItems items
    .ok ("[" ++ ", ".intercalate texts ++ "]")
  | dict entries => do
    let texts ← shownEntries entries
    .ok ("\x7b" ++ ", ".intercalate texts ++ "\x7d")
  -- The host says what stands for an object inside of a list or a mapping.
  | object _ _ _ answer _ _ => answer

/-- The texts of the items of a list, up to the first that fails. -/
def shownItems : List Value → Except Fault (List String)
  | [] => .ok []
  | item :: items => do
    let first ← item.shown
    let others ← shownItems items
    .ok (first :: others)

/-- The texts of the entries of a dictionary, each key before its value. -/
def shownEntries : List (Value × Value) → Except Fault (List String)
  | [] => .ok []
  | (key, value) :: entries => do
    let left ← key.shown
    let right ← value.shown
    let others ← shownEntries entries
    .ok ((left ++ ": " ++ right) :: others)

end

/-- The text of a value that stands alone. -/
def print : Value → Except Fault String
  | text value => .ok value
  | object _ _ answer _ _ _ => answer
  | value => value.shown

/-- The text of a value in a template, where null leaves no trace. -/
def output : Value → Except Fault String
  | null => .ok ""
  | value => value.print

end Value

end Stencil
