import WebLint.Record.Check

namespace WebLint

/-- A finding of a script linter. -/
structure LinterRecord where
  line : Option Int := none
  character : Option Int := none
  reason : Option Text := none
  evidence : Option Text := none
  raw : Option Text := none
  code : Option Text := none
deriving DecidableEq

/-- A finding of a stylesheet linter. -/
structure CssRecord where
  line : Option Int := none
  col : Option Int := none
  message : Option Text := none
  evidence : Option Text := none
  type : Option Text := none
  ruleName : Option Text := none
deriving DecidableEq

def Value.ofOption {α : Type} (f : α → Value) : Option α → Value
  | none => .null
  | some a => f a

namespace Check

def textField (fs : List Field) (name : Text) : Check (Option Text) :=
  defaulted fs name none (Rule.optional Rule.text)

def integerField (fs : List Field) (name : Text) : Check (Option Int) :=
  defaulted fs name none (Rule.optional Rule.integer)

end Check

open Check

namespace LinterRecord

def rule : Rule LinterRecord :=
  Rule.record fun fs =>
    LinterRecord.mk <$> integerField fs "line" <*> integerField fs "character" <*>
      textField fs "reason" <*> textField fs "evidence" <*> textField fs "raw" <*>
      textField fs "code"

def toValue (r : LinterRecord) : Value := .object [
  ("line", .ofOption .int r.line), ("character", .ofOption .int r.character),
  ("reason", .ofOption .text r.reason), ("evidence", .ofOption .text r.evidence),
  ("raw", .ofOption .text r.raw), ("code", .ofOption .text r.code)]

end LinterRecord

namespace CssRecord

def rule : Rule CssRecord :=
  Rule.record fun fs =>
    CssRecord.mk <$> integerField fs "line" <*> integerField fs "col" <*>
      textField fs "message" <*> textField fs "evidence" <*> textField fs "type" <*>
      textField fs "rule"

def toValue (r : CssRecord) : Value := .object [
  ("line", .ofOption .int r.line), ("col", .ofOption .int r.col),
  ("message", .ofOption .text r.message), ("evidence", .ofOption .text r.evidence),
  ("type", .ofOption .text r.type), ("rule", .ofOption .text r.ruleName)]

end CssRecord

end WebLint
