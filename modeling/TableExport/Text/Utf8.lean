import TableExport.Text.Numeral
import TableExport.Text.Quoted

/-!
Text from UTF-8 bytes. Decoding stops at the first fault and names its place,
or, in the lossy form, puts one replacement character for each fault. A fault
covers the longest run of bytes that could have begun a character.
-/

set_option autoImplicit false

namespace TableExport.Text.Utf8

inductive Reason where
  | invalidStart
  | invalidContinuation
  | unexpectedEnd
deriving DecidableEq, Repr

/-- A run of bytes that is no character: its place, its length and its first byte. -/
structure Fault where
  start : Nat
  count : Nat
  first : UInt8
  reason : Reason
deriving DecidableEq, Repr

/-- What the first bytes of a text are. The counts leave out the first byte. -/
inductive Piece where
  | character (value : Char) (more : Nat)
  | fault (more : Nat) (reason : Reason)

def isContinuation (byte : UInt8) : Bool :=
  0x80 ≤ byte.toNat && byte.toNat < 0xC0

/-- Whether a second byte may follow the first one; four first bytes narrow the choice. -/
def mayFollow (first second : UInt8) : Bool :=
  isContinuation second &&
    match first.toNat with
    | 0xE0 => 0xA0 ≤ second.toNat
    | 0xED => second.toNat < 0xA0
    | 0xF0 => 0x90 ≤ second.toNat
    | 0xF4 => second.toNat < 0x90
    | _ => true

def payload (byte : UInt8) : Nat :=
  byte.toNat % 64

def pairPiece (first : UInt8) : List UInt8 → Piece
  | [] => .fault 0 .unexpectedEnd
  | second :: _ =>
      if mayFollow first second then
        .character (Char.ofNat ((first.toNat - 0xC0) * 64 + payload second)) 1
      else .fault 0 .invalidContinuation

def triplePiece (first : UInt8) : List UInt8 → Piece
  | [] => .fault 0 .unexpectedEnd
  | second :: rest =>
      if mayFollow first second then
        match rest with
        | [] => .fault 1 .unexpectedEnd
        | third :: _ =>
            if isContinuation third then
              .character (Char.ofNat
                (((first.toNat - 0xE0) * 64 + payload second) * 64 + payload third)) 2
            else .fault 1 .invalidContinuation
      else .fault 0 .invalidContinuation

def quadruplePiece (first : UInt8) : List UInt8 → Piece
  | [] => .fault 0 .unexpectedEnd
  | second :: rest =>
      if mayFollow first second then
        match rest with
        | [] => .fault 1 .unexpectedEnd
        | third :: rest =>
            if isContinuation third then
              match rest with
              | [] => .fault 2 .unexpectedEnd
              | fourth :: _ =>
                  if isContinuation fourth then
                    .character (Char.ofNat
                      ((((first.toNat - 0xF0) * 64 + payload second) * 64 + payload third) * 64
                        + payload fourth)) 3
                  else .fault 2 .invalidContinuation
            else .fault 1 .invalidContinuation
      else .fault 0 .invalidContinuation

def piece (first : UInt8) (rest : List UInt8) : Piece :=
  if first.toNat < 0x80 then .character (Char.ofNat first.toNat) 0
  else if first.toNat < 0xC2 then .fault 0 .invalidStart
  else if first.toNat < 0xE0 then pairPiece first rest
  else if first.toNat < 0xF0 then triplePiece first rest
  else if first.toNat < 0xF5 then quadruplePiece first rest
  else .fault 0 .invalidStart

def decodeFrom (start : Nat) : List UInt8 → Except Fault (List Char)
  | [] => .ok []
  | first :: rest =>
      match piece first rest with
      | .character value more =>
          (decodeFrom (start + more + 1) (rest.drop more)).map (value :: ·)
      | .fault more reason => .error ⟨start, more + 1, first, reason⟩
termination_by bytes => bytes.length
decreasing_by
  simp only [List.length_drop, List.length_cons]
  omega

def decode (bytes : List UInt8) : Except Fault String :=
  (decodeFrom 0 bytes).map String.ofList

def decodeLossy : List UInt8 → List Char
  | [] => []
  | first :: rest =>
      match piece first rest with
      | .character value more => value :: decodeLossy (rest.drop more)
      | .fault more _ => '\ufffd' :: decodeLossy (rest.drop more)
termination_by bytes => bytes.length
decreasing_by
  all_goals
    simp only [List.length_drop, List.length_cons]
    omega

def encode (text : String) : List UInt8 :=
  text.toUTF8.toList

def Reason.message : Reason → String
  | .invalidStart => "invalid start byte"
  | .invalidContinuation => "invalid continuation byte"
  | .unexpectedEnd => "unexpected end of data"

def Fault.message (fault : Fault) : String :=
  if fault.count = 1 then
    "'utf-8' codec can't decode byte 0x" ++ String.ofList (hexDigits 2 fault.first.toNat) ++
      " in position " ++ Numeral.ofNat fault.start ++ ": " ++ fault.reason.message
  else
    "'utf-8' codec can't decode bytes in position " ++ Numeral.ofNat fault.start ++ "-" ++
      Numeral.ofNat (fault.start + fault.count - 1) ++ ": " ++ fault.reason.message

end TableExport.Text.Utf8
