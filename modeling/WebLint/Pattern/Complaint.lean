import WebLint.Number.Decimal
import WebLint.Text.Quoted

namespace WebLint.Pattern

inductive Reason
  | danglingBackslash
  | badEscape (escape : Text)
  | incompleteEscape (escape : Text)
  | octalOutOfRange (escape : Text)
  | missingBrace
  | missingAngle
  | missingName (what : Text)
  | unterminatedName (terminator : Text)
  | undefinedCharacter (name : Text)
  | badGroupName (name : Text)
  | badGroupNumber
  | unknownGroup (name : Text)
  | unknownReference (group : Nat)
  | noSuchGroup (name : Text)
  | openGroup
  | groupOfSameLookbehind
  | redefinedGroup (name : Text) (group earlier : Nat)
  | unterminatedSet
  | badRange (first last : Text)
  | boundsReversed
  | nothingToRepeat
  | multipleRepeat
  | repetitionTooLarge
  | unexpectedEnd
  | unknownExtension (extension : Text)
  | unterminatedComment
  | unterminatedGroup
  | unbalanced
  | threeBranches
  | flagsNotAtStart
  | localeFlag
  | repertoiresClash
  | missingFlagEnd
  | unknownFlag
  | missingFlag
  | missingColon
  | repertoireOff
  | flagOnAndOff
  | lookbehindTooLong
  | lookbehindNotFixed
  | localeRefused
  | repertoiresRefused
deriving DecidableEq

def Reason.message : Reason → Text
  | danglingBackslash => "bad escape (end of pattern)"
  | badEscape e => "bad escape " ++ e
  | incompleteEscape e => "incomplete escape " ++ e
  | octalOutOfRange e => "octal escape value " ++ e ++ " outside of range 0-0o377"
  | missingBrace => "missing \x7b"
  | missingAngle => "missing <"
  | missingName what => "missing " ++ what
  | unterminatedName t => "missing " ++ t ++ ", unterminated name"
  | undefinedCharacter name => "undefined character name " ++ name.quoted
  | badGroupName name => "bad character in group name " ++ name.quoted
  | badGroupNumber => "bad group number"
  | unknownGroup name => "unknown group name " ++ name.quoted
  | unknownReference n => "invalid group reference " ++ numeral n
  | noSuchGroup name => "unknown group name " ++ name.quoted
  | openGroup => "cannot refer to an open group"
  | groupOfSameLookbehind => "cannot refer to group defined in the same lookbehind subpattern"
  | redefinedGroup name group earlier =>
    "redefinition of group name " ++ name.quoted ++ " as group " ++ numeral group ++
      "; was group " ++ numeral earlier
  | unterminatedSet => "unterminated character set"
  | badRange a b => "bad character range " ++ a ++ "-" ++ b
  | boundsReversed => "min repeat greater than max repeat"
  | nothingToRepeat => "nothing to repeat"
  | multipleRepeat => "multiple repeat"
  | repetitionTooLarge => "the repetition number is too large"
  | unexpectedEnd => "unexpected end of pattern"
  | unknownExtension e => "unknown extension ?" ++ e
  | unterminatedComment => "missing ), unterminated comment"
  | unterminatedGroup => "missing ), unterminated subpattern"
  | unbalanced => "unbalanced parenthesis"
  | threeBranches => "conditional backref with more than two branches"
  | flagsNotAtStart => "global flags not at the start of the expression"
  | localeFlag => "bad inline flags: cannot use 'L' flag with a str pattern"
  | repertoiresClash => "bad inline flags: flags 'a', 'u' and 'L' are incompatible"
  | missingFlagEnd => "missing -, : or )"
  | unknownFlag => "unknown flag"
  | missingFlag => "missing flag"
  | missingColon => "missing :"
  | repertoireOff => "bad inline flags: cannot turn off flags 'a', 'u' and 'L'"
  | flagOnAndOff => "bad inline flags: flag turned on and off"
  | lookbehindTooLong => "looks too much behind"
  | lookbehindNotFixed => "look-behind requires fixed-width pattern"
  | localeRefused => "cannot use LOCALE flag with a str pattern"
  | repertoiresRefused => "ASCII and UNICODE flags are incompatible"

/-- Is it the size of a count or the flags of the whole pattern that is wrong, and not the pattern
as it is written? -/
def Reason.isOutside : Reason → Bool
  | repetitionTooLarge | localeRefused | repertoiresRefused => true
  | _ => false

structure Complaint where
  reason : Reason
  offset : Option Nat
deriving DecidableEq

def Complaint.message (source : Text) (c : Complaint) : Text :=
  match c.offset with
  | none => c.reason.message
  | some n =>
    let newline := Code.ofNat 0xa
    let before := source.take n
    let column := (before.reverse.takeWhile (· ≠ newline)).length + 1
    c.reason.message ++ " at position " ++ numeral n ++
      if source.contains newline then
        " (line " ++ numeral (before.count newline + 1) ++ ", column " ++ numeral column ++ ")"
      else []

end WebLint.Pattern
