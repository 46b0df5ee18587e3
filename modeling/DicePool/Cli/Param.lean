import DicePool.Form.Basic
import DicePool.Number.Fraction
import DicePool.Text.Case
import DicePool.Text.Identifier

/-!
# Cli/Param — options on a command line

Every field of a form is an option of a command line.  A truth value is a flag, which takes no value;
other options take one, which is converted to what the field wants.  A field that takes lists or objects
takes the text as it is.  The name of an option has to be an identifier.  A slash parts two spellings of a
flag: the first turns it on and the second off.
-/

namespace DicePool.Cli

/-- What an option takes. -/
inductive Kind where
  /-- Nothing: it is a flag. -/
  | flag
  /-- A string. -/
  | text
  /-- A whole number. -/
  | whole
  /-- A number. -/
  | fraction
  /-- A truth value. -/
  | truth
deriving DecidableEq, Repr

/-- What the values of a shape are converted to. -/
def Kind.ofValues : Shape → Kind
  | .whole _ => .whole
  | .fraction => .fraction
  | .truth => .truth
  | .nullable s => ofValues s
  | _ => .text

/-- What an option for a shape takes. -/
def Kind.ofShape : Shape → Kind
  | .truth => .flag
  | s => ofValues s

/-- An option. -/
structure Param where
  /-- The name of its value. -/
  name : String
  /-- How it is spelled. -/
  spelling : String
  /-- The spelling that turns it off; empty if there is none. -/
  offSpelling : String := ""
  /-- How its spellings are declared. -/
  declared : String := spelling
  /-- What it takes. -/
  kind : Kind
  /-- Its value where it is not given. -/
  fallback : Json
  /-- What it is for. -/
  help : String

namespace Param

/-- The characters that every long option begins with. -/
def lead : List Char := ['-', '-']

/-- The two spellings that a slash parts, without the blanks around it; without a slash there is one. -/
def sides (declared : List Char) : List Char × List Char :=
  match declared.dropWhile (· ≠ '/') with
  | _ :: off =>
    let on := declared.takeWhile (· ≠ '/')
    ((on.reverse.dropWhile Text.isBlank).reverse, off.dropWhile Text.isBlank)
  | [] => (declared, [])

/-- The option of a field.  Hyphens of its spelling are underscores in its name. -/
def ofField (f : FormField) : Param :=
  let declared := lead ++ f.name.toList.map fun c => if c = '_' then '-' else c
  let (on, off) := sides declared
  { name := String.ofList (Text.lower ((on.drop 2).map fun c => if c = '-' then '_' else c))
    spelling := String.ofList on
    offSpelling := String.ofList off
    declared := String.ofList declared
    kind := .ofShape f.shape
    fallback := match f.shape, f.fallback with
      | .truth, v => .bool (v.getD .null).isTruthy
      | _, v => v.getD .null
    help := f.description.getD "" }

/-- The options of a form. -/
def ofForm (form : Form) : List Param :=
  form.map ofField

/-- Whether the option can be turned off. -/
def hasOff (p : Param) : Bool :=
  p.offSpelling ≠ ""

/-- Whether the option takes a value. -/
def takesValue (p : Param) : Bool :=
  p.kind ≠ .flag && !p.hasOff

/-- The spellings. -/
def spellings (p : Param) : List String :=
  p.spelling :: if p.hasOff then [p.offSpelling] else []

end Param

/-- A text in quotes. -/
def quote (s : String) : String :=
  String.ofList (Text.quoted s.toList)

/-! ## Declarations that are of no use -/

/-- What is wrong with a declared option. -/
inductive ParamFault where
  /-- It has no name. -/
  | nameless (declared : String)
  /-- It is turned on and off by the same spelling. -/
  | sameSides (declared : String)
  /-- It can be turned off and is no truth value. -/
  | notATruth
deriving DecidableEq, Repr

/-- The text of the failure. -/
def ParamFault.message : ParamFault → String
  | .nameless declared =>
    "Could not determine name for option with declarations [" ++ quote declared ++ "]"
  | .sameSides declared =>
    "Boolean option " ++ quote declared ++ " cannot use the same flag for true/false."
  | .notATruth => "Secondary flag is not valid for non-boolean flag."

/-- What is wrong with an option, if anything is. -/
def Param.fault? (p : Param) : Option ParamFault :=
  if p.spelling = p.offSpelling then some (.sameSides p.declared)
  else if !Text.isIdentifier p.name.toList then some (.nameless p.declared)
  else if p.hasOff && p.kind ≠ .flag && p.kind ≠ .truth then some .notATruth
  else none

/-! ## Conversion -/

/-- The words for truth values. -/
def truthWords : Named Bool :=
  [("", false), ("0", false), ("1", true), ("f", false), ("false", false), ("n", false),
   ("no", false), ("off", false), ("on", true), ("t", true), ("true", true), ("y", true),
   ("yes", true)]

/-- Why an option is of no use, whatever the command line says: a value of a form does not suit it, or a
spelling. -/
inductive Misfit where
  /-- A value of this kind is no text to read a truth value from. -/
  | notReadable (kind : String)
  /-- A value of this kind is no whole number. -/
  | notWhole (kind : String)
  /-- A value of this kind is no number. -/
  | notANumber (kind : String)
  /-- The number is infinite, and a whole number is wanted. -/
  | infinite
  /-- The whole number is too large, and a fractional one is wanted. -/
  | tooLarge
  /-- A number is too long to be written. -/
  | numeral (e : NumeralError)
  /-- The spelling that turns a flag off does not begin like that of an option. -/
  | bare (spelling : String)
deriving DecidableEq, Repr

/-- The text of the failure. -/
def Misfit.message : Misfit → String
  | .notReadable kind => s!"'{kind}' object has no attribute 'strip'"
  | .notWhole kind =>
    s!"int() argument must be a string, a bytes-like object or a real number, not '{kind}'"
  | .notANumber kind => s!"float() argument must be a string or a real number, not '{kind}'"
  | .infinite => "cannot convert float infinity to integer"
  | .tooLarge => "int too large to convert to float"
  | .numeral e => e.message
  | .bare spelling => "Invalid start character for option (" ++ spelling ++ ")"

/-- Why a value is not converted. -/
inductive Refusal where
  /-- It does not spell what is wanted, for this reason. -/
  | reason (text : String)
  /-- It is a value of a form that is of no use. -/
  | misfit (m : Misfit)
deriving DecidableEq, Repr

/-- What is told of a text or number that is none of the kind. -/
def notValid (shown kind : String) : Refusal :=
  .reason (shown ++ " is not a valid " ++ kind ++ ".")

/-- The text of a flag that is turned on. -/
def onText : String := "true"

/-- The text of a flag that is turned off. -/
def offText : String := "false"

/-- The value that a text is converted to, or what is wrong with it. -/
def Kind.convert (text : String) : Kind → Except Refusal Json
  | .flag => .ok (.bool (text = onText))
  | .text => .ok (.str text)
  | .whole => match Numeral.readWhole text.toList with
    | .ok n => .ok (.int n)
    | .error _ => .error (notValid (quote text) "integer")
  | .fraction => match Fraction.readTyped? text.toList with
    | some x => .ok (.float x)
    | none => .error (notValid (quote text) "float")
  | .truth => match truthWords.get? (String.ofList (Text.lower (Text.strip text.toList))) with
    | some b => .ok (.bool b)
    | none => .error (.reason (quote text ++ " is not a valid boolean. Recognized values: "
        ++ ", ".intercalate truthWords.names))

/-- A value of a form as a text. -/
def textOfValue (v : Json) : Except Refusal Json :=
  (v.display?.map .str).mapError fun e => .misfit (.numeral e)

/-- A value of a form as a whole number; a fraction is cut off. -/
def wholeOfValue : Json → Except Refusal Json
  | .int n => .ok (.int n)
  | .bool b => .ok (.int (if b then 1 else 0))
  | .float x =>
    if x.isNaN then .error (notValid (Json.display (.float x)) "integer")
    else if x.isInf then .error (.misfit .infinite)
    else .ok (.int (Number.Exact.ofBits x.toBits).truncate)
  | v => .error (.misfit (.notWhole v.kind))

/-- A value of a form as a fractional number. -/
def fractionOfValue : Json → Except Refusal Json
  | .int n => match floatOfInt? n with
    | some x => .ok (.float x)
    | none => .error (.misfit .tooLarge)
  | .bool b => .ok (.float (if b then 1.0 else 0.0))
  | .float x => .ok (.float x)
  | v => .error (.misfit (.notANumber v.kind))

/-- A value of a form as an option converts it. -/
def Kind.convertValue (v : Json) (k : Kind) : Except Refusal Json :=
  match v with
  | .null => .ok .null
  | .str s => k.convert s
  | v => match k with
    | .text => textOfValue v
    | .whole => DicePool.Cli.wholeOfValue v
    | .fraction => fractionOfValue v
    | _ => match v with
      | .bool b => .ok (.bool b)
      | v => .error (.misfit (.notReadable v.kind))

end DicePool.Cli
