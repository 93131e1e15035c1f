import WebLint.Pattern.Replacement
import WebLint.Stage.Basic

namespace WebLint

structure Replacing where
  pattern : Text
  replacement : Text := []
  flags : Pattern.Flags := {}

abbrev PatternSlot (σ : Type) := Slot σ (Option Pattern.Compiled)

namespace Replacing

variable {σ : Type}

/-- The compiled pattern. One that asks for too many repetitions or has impossible flags is refused
in other words. -/
def compile (x : Replacing) : Except Fault Pattern.Compiled :=
  match Pattern.compile x.flags x.pattern with
  | .ok c => .ok c
  | .error why =>
    .error (if why.reason.isOutside then .patternRefused x.pattern why
      else .patternInvalid x.pattern why)

def remembered (x : Replacing) (slot : PatternSlot σ) : Act σ Pattern.Compiled := fun s =>
  match slot.get s with
  | some c => ⟨.ok c, s, []⟩
  | none =>
    match x.compile with
    | .ok c => ⟨.ok c, slot.set (some c) s, []⟩
    | .error f => ⟨.error f, s, []⟩

def apply (x : Replacing) (c : Pattern.Compiled) (t : Text) : Except Fault Text :=
  (Pattern.replaceAll c x.replacement t).mapError (.replacementRefused x.replacement)

def stage (x : Replacing) (slot : PatternSlot σ) : Stage σ :=
  .gated "regex-replace" false (fun _ => true)
    (fun _ t => do
      let c ← x.remembered slot
      .ofResult (x.apply c t))
    (some do let _ ← x.remembered slot)

end Replacing

end WebLint
