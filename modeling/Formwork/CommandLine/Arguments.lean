import Formwork.CommandLine.Word
import Formwork.Settings.Environment

/-!
The arguments of a command line: the specification, which is the first operand, and the options.
Of an option that is given twice the later one counts. Short options may share one dash.
-/

namespace Formwork.CommandLine

/-- The arguments read so far; `surplus` are words that nothing was made of. -/
structure Arguments where
  specification : Option String := none
  options : Options := {}
  surplus : List String := []
  deriving DecidableEq, Repr, Inhabited

/-- Why no run follows a command line: help was asked for, or the command line is refused. -/
inductive Halt
  | help
  | usage (e : UsageError)
  deriving DecidableEq, Repr

structure Use where
  option : Switch
  name : String
  value : Option String := none
  deriving DecidableEq, Repr

def Use.awaitsValue (u : Use) : Bool := u.option.takesValue && u.value.isNone

/-- The options of one word, the first of them `s`, with what is attached to it. Behind an option
without a value other short options may follow. -/
def usesOf (s : Switch) (name : String) : List Char → Except UsageError (List Use)
  | [] => .ok [⟨s, name, none⟩]
  | c :: rest =>
    let value := String.ofList (if c = '=' then rest else c :: rest)
    if s.takesValue then .ok [⟨s, name, some value⟩]
    else
      match Switch.ofName? (String.ofList ['-', c]) with
      | some next => do
        return ⟨s, name, none⟩ :: (← usesOf next (String.ofList ['-', c]) rest)
      | none => .error (.needlessValue s value)

def columnsOf (value : String) : Except UsageError Int :=
  match Environment.integer value with
  | .error _ => .error (.notInteger .columns value)
  | .ok n =>
    if columnChoices.contains n then .ok n
    else .error (.notAmong .columns (toString n) (columnChoices.map toString))

def skeletonOf (value : String) : Except UsageError SkeletonChoice :=
  match SkeletonChoice.ofName? value with
  | some choice => .ok choice
  | none =>
    .error (.notAmong .skeleton (Text.quoted value)
      (SkeletonChoice.all.map fun c => Text.quoted c.name))

/-- The options with one more. -/
def Options.apply (o : Options) (u : Use) : Except Halt Options :=
  match u.option with
  | .help => .error .help
  | .output => .ok { o with output := u.value }
  | .bootstrap => .ok { o with bootstrap := some (u.name != Switch.withoutBootstrap) }
  | .columns => do
    let n ← (columnsOf (u.value.getD "")).mapError .usage
    return { o with columns := some n }
  | .skeleton => do
    let choice ← (skeletonOf (u.value.getD "")).mapError .usage
    return { o with skeleton := some choice }
  | .strict => .ok { o with strict := true }
  | .skipInstall => .ok { o with skipInstall := true }
  | .dryRun => .ok { o with dryRun := true }
  | .interactive => .ok { o with interactive := true }

def Options.applyAll (o : Options) : List Use → Except Halt Options
  | [] => .ok o
  | u :: rest => do (← o.apply u).applyAll rest

namespace Arguments

def setAside (a : Arguments) (words : List String) : Arguments :=
  { a with surplus := a.surplus ++ words }

def withUses (a : Arguments) (uses : List Use) : Except Halt Arguments := do
  return { a with options := ← a.options.applyAll uses }

def giveValue (uses : List Use) (value : String) : List Use :=
  match uses.getLast? with
  | some u => uses.dropLast ++ [{ u with value := some value }]
  | none => []

/-- Reads words on top of what was read before. The first operand is the specification; a double
dash beside it is dropped. -/
def readFrom (a : Arguments) : List Word → Except Halt Arguments
  | [] => .ok a
  | .separator :: rest =>
    match a.specification, rest with
    | none, .operand text :: rest =>
      .ok ({ a with specification := some text }.setAside (Word.texts rest))
    | _, _ => .ok (a.setAside (Word.texts (.separator :: rest)))
  | .operand text :: rest =>
    match a.specification, rest with
    | some _, _ => readFrom (a.setAside [text]) rest
    | none, .separator :: rest =>
      .ok ({ a with specification := some text }.setAside (Word.texts rest))
    | none, _ => readFrom { a with specification := some text } rest
  | .unknown text :: rest => readFrom (a.setAside [text]) rest
  | .option s name attached :: rest => do
    let uses ← (usesOf s name attached).mapError .usage
    match uses.getLast? with
    | none => readFrom a rest
    | some last =>
      if last.awaitsValue then
        match rest with
        | .operand value :: rest =>
          readFrom (← a.withUses (giveValue uses value)) rest
        | _ => .error (.usage (.missingValue last.option))
      else readFrom (← a.withUses uses) rest

def read (texts : List String) : Except Halt (String × Options) := do
  let words ← (Word.ofTexts texts).mapError .usage
  let a ← readFrom {} words
  match a.specification with
  | none => .error (.usage .missingSpecification)
  | some specification =>
    if a.surplus.isEmpty then .ok (specification, a.options)
    else .error (.usage (.unknownWords a.surplus))

end Arguments

end Formwork.CommandLine
