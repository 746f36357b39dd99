import Redraw.Decimal.Notation
import Redraw.Text.Quoted

/-!
# Why a document is not a value of a type

A document that does not fit the type it is read as is described by what was found and what was
wanted. The wording is in `DecodeError.message`.
-/

namespace Redraw

/-- What stands in a document at the place of a value. -/
inductive Found where
  | null
  | boolean (b : Bool)
  | integer (i : Int)
  | float (x : Float)
  | string (s : String)
  | sequence
  | map
  | unitVariant

/-- What was found, in words. -/
def Found.text : Found → String
  | null => "null"
  | boolean b => "boolean `" ++ (if b then "true" else "false") ++ "`"
  | integer i => "integer `" ++ String.ofList (Decimal.integerText i) ++ "`"
  | float x => "floating point `" ++ String.ofList (Decimal.floatText x) ++ "`"
  | string s => "string " ++ Text.quoted s
  | sequence => "sequence"
  | map => "map"
  | unitVariant => "unit variant"

/-- Why a document is not a value of the type it is read as. `unexpected` is everything that has no
description of its own, such as items after the last field. -/
inductive DecodeError where
  | missingField (name : String)
  | duplicateField (name : String)
  | unknownVariant (name : String) (known : List String)
  | invalidType (found : Found) (wanted : String)
  | invalidValue (found : Found) (wanted : String)
  | invalidLength (length : Nat) (wanted : String)
  | unexpected

namespace DecodeError

/-- A name between backquotes. -/
def quotedName (name : String) : String := "`" ++ name ++ "`"

/-- The known names, as alternatives. -/
def alternatives : List String → String
  | [one] => quotedName one
  | [one, other] => quotedName one ++ " or " ++ quotedName other
  | many => "one of " ++ ", ".intercalate (many.map quotedName)

/-- The error in words. -/
def message : DecodeError → String
  | missingField name => "missing field " ++ quotedName name
  | duplicateField name => "duplicate field " ++ quotedName name
  | unknownVariant name known =>
    "unknown variant " ++ quotedName name ++ ", expected " ++ alternatives known
  | invalidType found wanted => "invalid type: " ++ found.text ++ ", expected " ++ wanted
  | invalidValue found wanted => "invalid value: " ++ found.text ++ ", expected " ++ wanted
  | invalidLength length wanted =>
    "invalid length " ++ toString length ++ ", expected " ++ wanted
  | unexpected => "<unexpected json>"

end DecodeError

/-- Why a text is not a value of the type it is read as. -/
inductive ReadError where
  | malformed
  | undecodable (cause : DecodeError)

/-- The error in words. -/
def ReadError.message : ReadError → String
  | malformed => "<malformed json>"
  | undecodable cause => cause.message

end Redraw
