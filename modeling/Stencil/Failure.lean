import Stencil.Decimal.Read
import Stencil.Value

/-! Failures: diagnostics of templates, and mishaps that belong to no template. -/

namespace Stencil

/-- What goes wrong outside the rules of templates. -/
inductive Mishap
  -- What the host itself raises, with a text or with one that fails as well.
  | raised (kind : FaultKind) (text : Option String)
  | untold (kind : FaultKind) (other : Fault)
  -- What the program runs into, one case per operation that can fail.
  | badKey (kind : String)
  | unmeasured (kind : String)
  | missingValues
  | surplusValues
  | unpairedHash
  | badConstant (kind : String)
  | nulInName
  | depthLimit (limit : Int)
  | renderArguments (count : Nat)
  | keywordKind
  | keywordTaken
  | outsideRender
  | environmentGone (template : Option String)
  | tokensEnd
  | notInteger (text : String)
  | notFloat (text : String)
  | notCallable
  deriving DecidableEq

/-- The most letters of a quoted text that are shown when it is read as an integer. -/
def quotedLetters : Nat := 200

/-- What is said of a text that is no integer, or one with too many digits. -/
def notIntegerText (text : String) : String :=
  match integerDigits? text with
  | some (_, digits) => digitLimitText (": value has " ++ writeInteger digits.length ++ " digits")
  | none =>
    "invalid literal for int() with base 10: " ++
      String.ofList ((quoted text).toList.take quotedLetters)

/-- What is said of a limit of nesting that allows no component. -/
def depthLimitText (limit : Int) : String :=
  match integerText? limit with
  | some text => "max_depth must be at least 1, got " ++ text
  | none => digitLimitText ""

/-- What a mishap says; a failure of the host program may fail again instead. -/
def Mishap.message : Mishap → Except Fault String
  | raised kind text => .ok (faultText kind text)
  -- The error that came while this one was being told.
  | untold _ other => .error other
  | badKey kind => .ok ("unhashable type: '" ++ kind ++ "'")
  | unmeasured kind => .ok ("object of type '" ++ kind ++ "' has no len()")
  | missingValues => .ok "zip() argument 2 is shorter than argument 1"
  | surplusValues => .ok "zip() argument 2 is longer than argument 1"
  | unpairedHash => .ok "Dict doesn't have the same number of keys as values"
  | badConstant kind => .ok ("got an invalid type in Constant: " ++ kind)
  | nulInName => .ok "embedded null character"
  | depthLimit limit => .ok (depthLimitText limit)
  | renderArguments count =>
    .ok ("render() takes at most 1 positional argument (a dict), got " ++ writeInteger count)
  | keywordKind => .ok "keywords must be strings"
  | keywordTaken => .ok "Template.render() got multiple values for argument 'self'"
  | outsideRender => .ok "Not in a render context"
  | environmentGone template =>
    .ok ("Environment has been garbage collected (template: " ++
      (nonempty? template).getD "unknown" ++ ")")
  | tokensEnd => .ok "list index out of range"
  | notInteger text => .ok (notIntegerText text)
  | notFloat text => .ok ("could not convert string to float: " ++ quoted text)
  | notCallable => .ok "object is not callable"

/-- The name of the kind of a mishap. -/
def Mishap.kindName : Mishap → String
  | raised kind _ | untold kind _ => kind.name
  | badKey _ | unmeasured _ | badConstant _ | renderArguments _ | keywordKind | keywordTaken
  | notCallable => FaultKind.wrongKind.name
  | missingValues | surplusValues | unpairedHash | nulInName | depthLimit _ | notInteger _
  | notFloat _ => "ValueError"
  -- The program's own checks raise these two by name.
  | outsideRender | environmentGone _ => "RuntimeError"
  | tokensEnd => FaultKind.outOfRange.name

/-- What a template or the library fails with. -/
inductive Failure
  | diagnostic (diagnostic : Diagnostic)
  | mishap (mishap : Mishap)
  deriving DecidableEq

/-- What a failure says, unless that fails in turn. -/
def Failure.message : Failure → Except Fault String
  | .diagnostic report => .ok report.message
  | .mishap accident => accident.message

/-- The code of a failure. -/
def Failure.code? : Failure → Option Code
  | .diagnostic report => report.code?
  | .mishap _ => none

/-- A failure of the host program; its diagnostics are like those of this library. -/
def Fault.failure : Fault → Failure
  | .raised kind text => .mishap (.raised kind text)
  | .untold kind other => .mishap (.untold kind other)
  | .library report => .diagnostic report

/-- An answer of the host program as an outcome. -/
def ofFault {Meaning : Type} : Except Fault Meaning → Except Failure Meaning
  | .ok meaning => .ok meaning
  | .error fault => .error fault.failure

end Stencil
