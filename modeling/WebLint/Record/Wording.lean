import WebLint.Fault
import WebLint.Path

namespace WebLint

/-- What is wrong with a part of a record. -/
def ProblemKind.text : ProblemKind → Text
  | missing => "is missing"
  | notRecord => "is not a record"
  | unknownField => "is not a known field"
  | notText => "is not a text"
  | textTooShort => "is too short"
  | textNotEncodable => "has a code point that cannot be encoded"
  | notInteger => "is not an integer"
  | unreadableInteger => "cannot be read as an integer"
  | integerTooLong => "is an integer that is too large"
  | fraction => "is not integral"
  | notFinite => "is not finite"
  | notBoolean => "is not a truth value"
  | unreadableBoolean => "cannot be read as a truth value"
  | unknownMember | unknownChoice => "is not one of the names that are allowed"
  | notShown => "holds an integer of too many digits"
  | notPath => "is not a path"
  | notList | notSequence => "is not a list"
  | blankPath => "must not be blank"
  | frozen => "cannot be changed"
  | noSuchAttribute => "is not a known attribute"

def Step.text : Step → Text
  | field name => name
  | index n => numeral n

def Problem.text (type : RecordType) (p : Problem) : Text :=
  Text.join [dot] (type.title :: p.place.map Step.text) ++ " " ++ p.kind.text

namespace Fault

def Wording.plain : Wording where
  problems type ps := Text.join "; " (ps.map (Problem.text type))
  syntaxFault := "not a table of settings"

end Fault

end WebLint
