import TableExport.Options.Environment
import TableExport.Text.Quoted

/-!
The command line. A flag may be cut short as long as one flag alone begins that
way; its value follows behind an equals sign or as the next argument. All
arguments are told apart before any of them is acted on, so an ambiguous flag is
reported first. Arguments that belong to no flag are reported last. The mark that
separates flags from arguments is no value: behind an equals sign it strikes the
option.
-/

set_option autoImplicit false

namespace TableExport.Options

open TableExport.Text

inductive UsageFault where
  | ambiguous (argument : String) (candidates : List String)
  | notInteger (flag : CountFlag) (text : String)
  | valueMissing (flag : Flag)
  | valueIgnored (flag : Flag) (text : String)
  | unrecognized (arguments : List String)
deriving DecidableEq, Repr

def UsageFault.message : UsageFault → String
  | .ambiguous argument candidates =>
      "ambiguous option: " ++ argument ++ " could match " ++
        String.intercalate ", " candidates
  | .notInteger flag text =>
      "argument " ++ flag.name ++ ": invalid int value: " ++ quoted text
  | .valueMissing flag => "argument " ++ flag.name ++ ": expected one argument"
  | .valueIgnored flag text =>
      "argument " ++ flag.name ++ ": ignored explicit argument " ++ quoted text
  | .unrecognized arguments =>
      "unrecognized arguments: " ++ String.intercalate " " arguments

def programName : String := "dbexport"

/-- A flag as the usage shows it, with a word for its value if it takes one. -/
def usageOf (spelling : String) (flag : Flag) : String :=
  match flag with
  | .help => "[" ++ spelling ++ "]"
  | .text _ => "[" ++ spelling ++ " TEXT]"
  | .count _ => "[" ++ spelling ++ " COUNT]"
  | .switch _ => "[" ++ spelling ++ "]"

def usage : String :=
  "usage: " ++ programName ++ " " ++
    String.intercalate " " (spellings.map fun entry => usageOf entry.1 entry.2)

def UsageFault.complaint (fault : UsageFault) : String :=
  programName ++ ": error: " ++ fault.message

inductive Exit where
  | help
  | usage (fault : UsageFault)
deriving DecidableEq, Repr

inductive Argument where
  | value (text : String)
  | separator
  | flag (flag : Flag) (clustered : Bool) (own : Option String)
  | stray (text : String)
deriving DecidableEq, Repr

def cutAtEquals : List Char → Option (List Char × List Char)
  | [] => none
  | '=' :: rest => some ([], rest)
  | character :: rest =>
      (cutAtEquals rest).map fun cut => (character :: cut.1, cut.2)

def flagOf? (spelling : List Char) : Option Flag :=
  (spellings.find? fun entry => entry.1.toList == spelling).map Prod.snd

def spellingsFrom (start : List Char) : List (String × Flag) :=
  spellings.filter fun entry => start.isPrefixOf entry.1.toList

/-- A minus sign and digits, perhaps with a point, and perhaps a line end behind them. -/
def isNegativeNumber (text : List Char) : Bool :=
  match text with
  | '-' :: rest =>
      let body := if rest.getLast? == some '\n' then rest.dropLast else rest
      match body.dropWhile isDigit with
      | [] => !body.isEmpty
      | '.' :: decimals => !decimals.isEmpty && decimals.all isDigit
      | _ => false
  | _ => false

def abbreviated (argument : String) (text : List Char) : Except UsageFault Argument :=
  match text with
  | '-' :: '-' :: _ =>
      let (start, own) :=
        match cutAtEquals text with
        | some (start, own) => (start, some (String.ofList own))
        | none => (text, none)
      match spellingsFrom start with
      | [] => .ok (unspelled argument text)
      | [(_, flag)] => .ok (.flag flag false own)
      | several => .error (.ambiguous argument (several.map Prod.fst))
  | '-' :: 'h' :: own => .ok (.flag .help true (some (String.ofList own)))
  | _ => .ok (unspelled argument text)
where
  /-- A text that no flag begins with is a value when it is a negative number or holds a
  space. -/
  unspelled (argument : String) (text : List Char) : Argument :=
    if isNegativeNumber text || text.contains ' ' then .value argument else .stray argument

def recognized (argument : String) : Except UsageFault Argument :=
  let text := argument.toList
  match text with
  | [] => .ok (.value argument)
  | ['-'] => .ok (.value argument)
  | '-' :: second :: _ =>
      match flagOf? text with
      | some flag => .ok (.flag flag (second != '-') none)
      | none =>
          match cutAtEquals text with
          | none => abbreviated argument text
          | some (spelling, own) =>
              match flagOf? spelling with
              | some flag => .ok (.flag flag (second != '-') (some (String.ofList own)))
              | none => abbreviated argument text
  | _ => .ok (.value argument)

def separatorMark : String := "--"

/-- Tells what the arguments are; behind a separator all are values. -/
def recognizedAll : List String → Except UsageFault (List Argument)
  | [] => .ok []
  | argument :: rest =>
      if argument = separatorMark then .ok (.separator :: rest.map .value)
      else do
        let first ← recognized argument
        let later ← recognizedAll rest
        pure (first :: later)

def given (text : String) : Given String :=
  if text = separatorMark then .struck else .value text

def readCount (flag : CountFlag) : Given String → Except Exit (Given Int)
  | .struck => .ok .struck
  | .value text =>
      match Numeral.readInt? text with
      | some count => .ok (.value count)
      | none => .error (.usage (.notInteger flag text))

def apply (options : Options) (flag : Flag) (value : Given String) : Except Exit Options :=
  match flag with
  | .help => .error .help
  | .text flag => .ok (options.setText flag value)
  | .count flag => (readCount flag value).map (options.setCount flag)
  | .switch flag => .ok (options.turnOn flag)

/-- A flag for help that is clustered with more letters; only further letters for help are
understood. -/
def helpCluster (letters : List Char) : Exit :=
  match letters.dropWhile (· == 'h') with
  | [] => if letters.isEmpty then .usage (.valueIgnored .help "") else .help
  | more => .usage (.valueIgnored .help (String.ofList more))

/-- Acts on the arguments from the left. Gives the options and the arguments that belong to
no flag. -/
def actOn (options : Options) : List Argument → Except Exit (Options × List String)
  | [] => .ok (options, [])
  | .value text :: rest => do
      let (options, strays) ← actOn options rest
      pure (options, text :: strays)
  | .separator :: rest => do
      let (options, strays) ← actOn options rest
      pure (options, separatorMark :: strays)
  | .stray text :: rest => do
      let (options, strays) ← actOn options rest
      pure (options, text :: strays)
  | .flag .help clustered own :: _ =>
      match own with
      | none => .error .help
      | some text =>
          if clustered then .error (helpCluster text.toList)
          else .error (.usage (.valueIgnored .help text))
  | .flag (.switch flag) _ own :: rest =>
      match own with
      | none => actOn (options.turnOn flag) rest
      | some text => .error (.usage (.valueIgnored (.switch flag) text))
  | .flag flag _ (some text) :: rest => do
      let options ← apply options flag (given text)
      actOn options rest
  | .flag flag _ none :: .value text :: rest => do
      let options ← apply options flag (.value text)
      actOn options rest
  | .flag flag _ none :: _ => .error (.usage (.valueMissing flag))

def readOver (options : Options) (arguments : List String) : Except Exit Options := do
  let recognized ← (recognizedAll arguments).mapError .usage
  let (options, strays) ← actOn options recognized
  if strays.isEmpty then pure options else throw (.usage (.unrecognized strays))

inductive Reading where
  | options (options : Options)
  | exit (exit : Exit)
  | failure (failure : Failure)
deriving DecidableEq, Repr

def read (environment : Environment) (arguments : List String) : Reading :=
  match ofEnvironment environment with
  | .error failure => .failure failure
  | .ok options =>
      match readOver options arguments with
      | .ok options => .options options
      | .error exit => .exit exit

end TableExport.Options
