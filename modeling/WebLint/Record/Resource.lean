import WebLint.Path
import WebLint.Record.Check
import WebLint.Resource

namespace WebLint.Resource

open Check

/-- A text of at least one code point, none of which is a half of a surrogate pair. -/
def uriRule : Rule Text
  | .text t =>
    if t.any Code.isSurrogate then problem .textNotEncodable
    else if t.isEmpty then problem .textTooShort
    else .ok t
  | _ => problem .notText

def rule : Rule Resource :=
  Rule.record fun fs =>
    Resource.mk <$> required fs "uri" uriRule <*>
      required fs "type" (Rule.choice ResourceType.ofName? .unknownMember) <*>
      defaulted fs "minimize" true Rule.boolean

def toValue (r : Resource) : Value := .object [
  ("uri", .text r.uri), ("type", .text r.type.name), ("minimize", .bool r.minimize)]

def typeOfPath? (p : Path) : Option ResourceType :=
  p.suffix?.bind fun s => ResourceType.ofName? s.lower

def ofPath (path : Text) (minimize : Value) : Except Fault Resource :=
  let p := Path.ofText path
  match typeOfPath? p with
  | none => .error (.unknownSuffix p.text)
  | some type =>
    (rule (.object [
      ("uri", .text p.text), ("type", .text type.name), ("minimize", minimize)])).run .resource

end WebLint.Resource
