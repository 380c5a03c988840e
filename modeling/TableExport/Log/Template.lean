import TableExport.Cell.Arithmetic
import TableExport.Log.Redaction

/-!
Message templates with percent directives. A directive takes the next argument,
and a directive may also take its width or its precision from the arguments.
Every argument must be used. Redaction of a template may remove directives, so a
redacted template need not fit its arguments any more.
-/

set_option autoImplicit false

namespace TableExport.Log

open TableExport.Text
open TableExport.Number

inductive TemplateFault where
  | leftOver
  | tooFew
  | incomplete
  | needsMapping
  | starNeedsInteger
  | widthNotWord
  | precisionNotWord
  | widthTooLarge
  | precisionTooLarge
  | precisionTooLong
  | tooLong
  | unsupported (directive : Char) (index : Nat)
  | needsReal (directive : Char) (type : String)
  | needsInteger (directive : Char) (type : String)
  | realExpected (type : String)
  | characterExpected
  | characterTooLarge
  | numeral (fault : Numeral.Fault)
  | number (fault : Quantity.Fault)
deriving DecidableEq, Repr

def TemplateFault.message : TemplateFault → String
  | .leftOver => "not all arguments converted during string formatting"
  | .tooFew => "not enough arguments for format string"
  | .incomplete => "incomplete format"
  | .needsMapping => "format requires a mapping"
  | .starNeedsInteger => "* wants int"
  | .widthNotWord => "Python int too large to convert to C ssize_t"
  | .precisionNotWord => "Python int too large to convert to C int"
  | .widthTooLarge => "width too big"
  | .precisionTooLarge => "precision too big"
  | .precisionTooLong => "precision too large"
  | .tooLong => ""
  | .unsupported directive index =>
      "unsupported format character '" ++
        (if 30 < directive.toNat && directive.toNat < 127 then
          String.singleton directive else "?") ++
        "' (0x" ++ String.ofList (Nat.toDigits 16 directive.toNat) ++ ") at index " ++
        Numeral.ofNat index
  | .needsReal directive type =>
      "%" ++ String.singleton directive ++ " format: a real number is required, not " ++ type
  | .needsInteger directive type =>
      "%" ++ String.singleton directive ++ " format: an integer is required, not " ++ type
  | .realExpected type => "must be real number, not " ++ type
  | .characterExpected => "%c requires int or char"
  | .characterTooLarge => "%c arg not in range(0x110000)"
  | .numeral fault => fault.message
  | .number fault => fault.message

structure Layout where
  left : Bool
  plus : Bool
  space : Bool
  alternate : Bool
  zeros : Bool
  width : Nat
  precision : Option Nat
deriving DecidableEq, Repr

def Layout.plain : Layout := ⟨false, false, false, false, false, 0, none⟩

def Layout.fill (layout : Layout) (sign body : List Char) : List Char :=
  let missing := layout.width - (sign.length + body.length)
  if layout.left then sign ++ body ++ List.replicate missing ' '
  else if layout.zeros then sign ++ List.replicate missing '0' ++ body
  else List.replicate missing ' ' ++ sign ++ body

def Layout.text (layout : Layout) (text : String) : List Char :=
  let body :=
    match layout.precision with
    | none => text.toList
    | some count => text.toList.take count
  ({ layout with zeros := false } : Layout).fill [] body

def Layout.character (layout : Layout) (character : Char) : List Char :=
  ({ layout with zeros := false } : Layout).fill [] [character]

def Layout.sign (layout : Layout) (negative : Bool) : List Char :=
  if negative then ['-']
  else if layout.plus then ['+']
  else if layout.space then [' ']
  else []

def fillLimit : Nat := 1000000000

def Layout.isTooWide (layout : Layout) : Bool :=
  fillLimit < layout.width

def Layout.isTooPrecise (layout : Layout) : Bool :=
  fillLimit < layout.precision.getD 0

def integerPrecisionLimit : Nat := 2147483644

def Layout.checkInteger (layout : Layout) : Except TemplateFault Unit :=
  if integerPrecisionLimit < layout.precision.getD 0 then .error .precisionTooLong else .ok ()

def Layout.integer (layout : Layout) (negative : Bool) (mark digits : List Char) :
    Except TemplateFault (List Char) :=
  if layout.isTooPrecise then .error .tooLong
  else
    let count := layout.precision.getD 0
    .ok (layout.fill (layout.sign negative ++ mark)
      (List.replicate (count - digits.length) '0' ++ digits))

def wholeNumber (directive : Char) (cell : Cell) : Except TemplateFault Int :=
  match cell.quantity? with
  | some value => value.truncate.mapError .number
  | none => .error (.needsReal directive cell.typeWord)

def exactInteger (directive : Char) : Cell → Except TemplateFault Int
  | .boolean value => .ok (if value then 1 else 0)
  | .integer value => .ok value
  | other => .error (.needsInteger directive other.typeWord)

def realNumber : Cell → Except TemplateFault Binary64
  | .boolean value => .ok (Binary64.ofNat (if value then 1 else 0))
  | .integer value => (Quantity.realOf value).mapError .number
  | .real value => .ok value
  | .decimal (.nan _ true _) => .error (.number (.decimal .signalingToReal))
  | .decimal value => .ok value.toBinary64
  | other => .error (.realExpected other.typeWord)

/-- The digits behind the first one with a point before them; the point stays alone on
demand. -/
def pointedDigits (alternate : Bool) : List Char → List Char
  | [] => []
  | [only] => if alternate then [only, '.'] else [only]
  | first :: rest => first :: '.' :: rest

def exponentPart (mark : Char) (lead : Int) : List Char :=
  mark :: (if lead < 0 then '-' else '+') :: (Numeral.padded 2 lead.natAbs).toList

def exponentialDigits (precision mantissa : Nat) (exponent : Int) (alternate : Bool) :
    List Char :=
  if mantissa = 0 then
    pointedDigits alternate (List.replicate (precision + 1) '0') ++ exponentPart 'e' 0
  else
    let value := Scientific.rounded (precision + 1) (Binary64.numerator mantissa exponent)
      (Binary64.denominator exponent)
    pointedDigits alternate (Numeral.ofNat value.digits).toList ++ exponentPart 'e' value.lead

def fixedDigits (precision mantissa : Nat) (exponent : Int) (alternate : Bool) : List Char :=
  let shown := ((Binary64.finite false mantissa exponent).magnitudeFixed precision).toList
  if alternate && precision = 0 then shown ++ ['.'] else shown

/-- Removes zeros behind a point, and the point when nothing is left behind it. -/
def withoutTrailingZeros (text : List Char) : List Char :=
  if text.contains '.' then
    let kept := dropTrailing (· == '0') text
    dropTrailing (· == '.') kept
  else text

def generalDigits (precision mantissa : Nat) (exponent : Int) (alternate : Bool) :
    List Char :=
  let precision := if precision = 0 then 1 else precision
  let value : Scientific :=
    if mantissa = 0 then ⟨0, 0⟩
    else Scientific.rounded precision (Binary64.numerator mantissa exponent)
      (Binary64.denominator exponent)
  let lead := if mantissa = 0 then 0 else value.lead
  if -4 ≤ lead && lead < precision then
    let shown := fixedDigits (precision - 1 - lead).toNat mantissa exponent alternate
    if alternate then shown else withoutTrailingZeros shown
  else
    let shown := pointedDigits alternate (Numeral.ofNat value.digits).toList
    (if alternate then shown else withoutTrailingZeros shown) ++ exponentPart 'e' lead

def significantLimit : Nat := 1200

/-- The digits of a positive finite number, by directive. The shorter of two forms shows no
digit that is not significant, unless it is told to. -/
def finiteDigits (directive : Char) (layout : Layout) (mantissa : Nat) (exponent : Int) :
    Except TemplateFault (List Char) :=
  let precision := layout.precision.getD 6
  if directive == 'g' && !layout.alternate then
    .ok (generalDigits (min precision significantLimit) mantissa exponent false)
  else if layout.isTooPrecise then .error .tooLong
  else if directive == 'g' then .ok (generalDigits precision mantissa exponent true)
  else if directive == 'e' then
    .ok (exponentialDigits precision mantissa exponent layout.alternate)
  else .ok (fixedDigits precision mantissa exponent layout.alternate)

def realDigits (directive : Char) (layout : Layout) (value : Binary64) :
    Except TemplateFault (List Char) := do
  let lower ←
    match value with
    | .nan => pure "nan".toList
    | .infinite _ => pure "inf".toList
    | .finite _ mantissa exponent =>
        finiteDigits directive.toLower layout mantissa exponent
  pure (if directive.isUpper then lower.map Char.toUpper else lower)

def shownBy (directive : Char) (index : Nat) (layout : Layout) (cell : Cell) :
    Except TemplateFault (List Char) :=
  if directive == 's' then do
    let text ← cell.plain.mapError .numeral
    pure (layout.text text)
  else if directive == 'r' then do
    let text ← cell.quoted.mapError .numeral
    pure (layout.text text)
  else if directive == 'a' then do
    let text ← cell.quoted.mapError .numeral
    pure (layout.text (String.ofList (text.toList.flatMap fun character =>
      if character.toNat < 128 then [character]
      else if character.toNat < 0x100 then '\\' :: 'x' :: hexDigits 2 character.toNat
      else if character.toNat < 0x10000 then '\\' :: 'u' :: hexDigits 4 character.toNat
      else '\\' :: 'U' :: hexDigits 8 character.toNat)))
  else if directive == 'd' || directive == 'i' || directive == 'u' then do
    let value ← wholeNumber directive cell
    layout.checkInteger
    let digits ← (Numeral.write value.natAbs).mapError .numeral
    layout.integer (value < 0) [] digits.toList
  else if directive == 'x' || directive == 'X' || directive == 'o' then do
    let value ← exactInteger directive cell
    layout.checkInteger
    let base := if directive == 'o' then 8 else 16
    let digits := Nat.toDigits base value.natAbs
    let mark := if layout.alternate then
      (if directive == 'o' then ['0', 'o'] else ['0', directive]) else []
    layout.integer (value < 0) mark
      (if directive == 'X' then digits.map Char.toUpper else digits)
  else if "eEfFgG".toList.contains directive then do
    let value ← realNumber cell
    let digits ← realDigits directive layout value
    pure (layout.fill (layout.sign value.isNegative) digits)
  else if directive == 'c' then
    match cell with
    | .text text =>
        match text.toList with
        | [character] => pure (layout.character character)
        | _ => throw .characterExpected
    | .boolean value => pure (layout.character (Char.ofNat (if value then 1 else 0)))
    | .integer value =>
        if 0 ≤ value && value < 0x110000 then
          pure (layout.character (Char.ofNat value.toNat))
        else throw .characterTooLarge
    | _ => throw .characterExpected
  else throw (.unsupported directive index)

def takeFlags : Layout → List Char → Layout × List Char
  | layout, [] => (layout, [])
  | layout, character :: rest =>
      if character == '-' then takeFlags { layout with left := true } rest
      else if character == '+' then takeFlags { layout with plus := true } rest
      else if character == ' ' then takeFlags { layout with space := true } rest
      else if character == '#' then takeFlags { layout with alternate := true } rest
      else if character == '0' then takeFlags { layout with zeros := true } rest
      else (layout, character :: rest)

def takeNumber (value : Nat) : List Char → Nat × List Char
  | [] => (value, [])
  | character :: rest =>
      if character.isDigit then takeNumber (10 * value + (character.toNat - 48)) rest
      else (value, character :: rest)

/-- The greatest width in a template, the last count that a word of 64 bits holds. -/
def widthLimit : Nat := 9223372036854775807

/-- The greatest precision in a template, the last count that a word of 32 bits holds. -/
def precisionLimit : Nat := 2147483647

/-- The integer that an argument gives for a width or a precision; a word holds one more
integer below zero than above. -/
def starValue (limit : Nat) (fault : TemplateFault) :
    List Cell → Except TemplateFault (Int × List Cell)
  | [] => .error .tooFew
  | .integer value :: rest =>
      if -(limit : Int) - 1 ≤ value && value ≤ limit then .ok (value, rest) else .error fault
  | .boolean value :: rest => .ok (if value then 1 else 0, rest)
  | _ :: _ => .error .starNeedsInteger

/-- The width that an integer asks for; the least of all integers in a word has no
opposite there and asks for none. -/
def widthOf (value : Int) : Nat :=
  if value.natAbs ≤ widthLimit then value.natAbs else 0

def takeWidth (layout : Layout) (text : List Char) (arguments : List Cell) :
    Except TemplateFault (Layout × List Char × List Cell) :=
  match text with
  | '*' :: rest => do
      let (width, arguments) ← starValue widthLimit .widthNotWord arguments
      pure ({ layout with
        left := layout.left || width < 0
        width := widthOf width }, rest, arguments)
  | text =>
      let (width, rest) := takeNumber 0 text
      if widthLimit < width then .error .widthTooLarge
      else .ok ({ layout with width := width }, rest, arguments)

def takePrecision (layout : Layout) (text : List Char) (arguments : List Cell) :
    Except TemplateFault (Layout × List Char × List Cell) :=
  match text with
  | '.' :: '*' :: rest => do
      let (precision, arguments) ← starValue precisionLimit .precisionNotWord arguments
      pure ({ layout with precision := some precision.toNat }, rest, arguments)
  | '.' :: rest =>
      let (precision, rest) := takeNumber 0 rest
      if precisionLimit < precision then .error .precisionTooLarge
      else .ok ({ layout with precision := some precision }, rest, arguments)
  | text => .ok (layout, text, arguments)

def dropSizeLetter : List Char → List Char
  | character :: rest =>
      if character == 'h' || character == 'l' || character == 'L' then rest
      else character :: rest
  | [] => []

/-- Carries out a directive behind its percent sign; gives what is shown, the template
behind the directive and the arguments that are left. -/
def directive (length : Nat) (text : List Char) (arguments : List Cell) :
    Except TemplateFault (List Char × List Char × List Cell) := do
  if text.head? == some '(' then throw .needsMapping
  if text.head? == some '%' then return (['%'], text.drop 1, arguments)
  let (layout, text) := takeFlags Layout.plain text
  let (layout, text, arguments) ← takeWidth layout text arguments
  let (layout, text, arguments) ← takePrecision layout text arguments
  match dropSizeLetter text with
  | [] => throw .incomplete
  | letter :: rest =>
      match arguments with
      | [] => throw .tooFew
      | cell :: arguments => do
          let room := if layout.isTooWide then { layout with width := 0 } else layout
          let shown ← shownBy letter (length - (rest.length + 1)) room cell
          if layout.isTooWide then throw .tooLong
          pure (shown, rest, arguments)

/-- Fills a template from the left; the fuel bounds the count of its characters. -/
def fillFrom (length : Nat) : Nat → List Char → List Cell → Except TemplateFault (List Char)
  | 0, _, _ => .ok []
  | _, [], arguments => if arguments.isEmpty then .ok [] else .error .leftOver
  | fuel + 1, '%' :: rest, arguments => do
      let (shown, rest, arguments) ← directive length rest arguments
      let later ← fillFrom length fuel rest arguments
      pure (shown ++ later)
  | fuel + 1, character :: rest, arguments => do
      let later ← fillFrom length fuel rest arguments
      pure (character :: later)

def filled (template : String) (arguments : List Cell) : Except TemplateFault String :=
  let text := template.toList
  (fillFrom text.length (text.length + 1) text arguments).map String.ofList

structure Message where
  body : Cell
  arguments : List Cell
deriving DecidableEq, Repr

namespace Message

/-- An argument with its secrets masked; only text holds secrets. -/
def redactedArgument : Cell → Cell
  | .text text => .text (redact text)
  | other => other

/-- The message with its secrets masked. A body that counts as nothing stays as it is. -/
def redacted (message : Message) : Except Numeral.Fault Message := do
  let body ←
    if message.body.isSomething then
      message.body.plain.map fun text => Cell.text (redact text)
    else pure message.body
  pure ⟨body, message.arguments.map redactedArgument⟩

def text (message : Message) : Except TemplateFault String := do
  let body ← message.body.plain.mapError .numeral
  if message.arguments.isEmpty then pure body else filled body message.arguments

end Message

end TableExport.Log
