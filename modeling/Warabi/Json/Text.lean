import Warabi.Json.Basic
import Mathlib.Data.Nat.Digits

/-! The text form of a document: `dump()` as nlohmann's serializer writes it (compact, with
members in key order and UTF-8 left unescaped), and `json::parse`, which reads one value
surrounded by whitespace and throws on anything else: a `parse_error` for text that is not JSON,
an `out_of_range` for a number whose `double` overflows. -/
namespace Warabi

namespace Json

/-! ## Serializer -/

def shortEscapes : List (Char × Char) :=
  [('"','"'),('\\','\\'),(Char.ofNat 8,'b'),(Char.ofNat 9,'t'),(Char.ofNat 10,'n'),
    (Char.ofNat 12,'f'),(Char.ofNat 13,'r')]

/-- `dump_escaped` for one character, with `ensure_ascii` off: the other control characters
are written as `\u00xx`. -/
def escapeChar (c : Char) : List Char :=
  match shortEscapes.lookup c with
  | some e => ['\\',e]
  | none =>
    if c.toNat < 32 then ['\\','u','0','0',hexDigit (c.toNat / 16),hexDigit (c.toNat % 16)]
    else [c]

def quote (s : String) : List Char := '"' :: s.data.flatMap escapeChar ++ ['"']

/-- `dump_integer` for either integer type, `dump_float` for a `double`. -/
def dumpNumber : Number → List Char
  | .integer n => decimalInt n.toInt
  | .unsigned n => decimal n.toNat
  | .float d => toChars d

mutual
def dumpChars : Json → List Char
  | null => "null".data
  | boolean true => "true".data
  | boolean false => "false".data
  | number n => dumpNumber n
  | string s => quote s
  | array [] => "[]".data
  | array (e :: es) => '[' :: dumpChars e ++ dumpElements es
  | object [] => "{}".data
  | object ((k,v) :: ms) => '{' :: quote k ++ ':' :: dumpChars v ++ dumpMembers ms
/-- What follows the first element of an array: `,e` for each further element, then `]`. -/
def dumpElements : List Json → List Char
  | [] => [']']
  | e :: es => ',' :: dumpChars e ++ dumpElements es
def dumpMembers : List (String × Json) → List Char
  | [] => ['}']
  | (k,v) :: ms => ',' :: quote k ++ ':' :: dumpChars v ++ dumpMembers ms
end

def dump (j : Json) : String := ⟨dumpChars j⟩

/-! ## Parser -/

/-- What `json::parse` throws: a `parse_error` for text that is not one JSON value, or an
`out_of_range` for a number token whose `double` overflows. `catch (json::parse_error&)` catches
only the first. -/
inductive ParseException where
  | parseError
  | outOfRange (token : String)
deriving DecidableEq, Repr

def ParseException.exception : ParseException → Exception
  | parseError => ⟨"[json.exception.parse_error.101] parse error: syntax error while parsing value"⟩
  | outOfRange token => ⟨"[json.exception.out_of_range.406] number overflow parsing '" ++ token ++ "'"⟩

/-- `catch (json::parse_error& e)` around `json::parse`: the `what()` of a `parse_error`; an
`out_of_range` escapes. -/
def ParseException.caught : ParseException → Except Exception String
  | parseError => .ok parseError.exception.what
  | e => .error e.exception

def lexed {α : Type} : Option α → Except ParseException α
  | some a => .ok a
  | none => .error .parseError

def isWhitespace (c : Char) : Bool := c = ' ' || c = '\t' || c = '\n' || c = '\r'

def skipWhitespace : List Char → List Char
  | c :: cs => if isWhitespace c then skipWhitespace cs else c :: cs
  | [] => []

def readLiteral (word : List Char) (j : Json) (cs : List Char) : Option (Json × List Char) :=
  if word.isPrefixOf cs then some (j,cs.drop word.length) else none

/-- A number token as `scan_number` reads it: the sign, the digits of the integral part, those
of the fraction (none without one) and the exponent. -/
structure NumberToken where
  negative : Bool
  integral : List Char
  fraction : List Char
  exponent : Option Int

def scanIntegral : List Char → Option (List Char × List Char)
  | c :: rest =>
    if c = '0' then some (['0'],rest)
    else if c.isDigit then some (c :: rest.takeWhile Char.isDigit,rest.dropWhile Char.isDigit)
    else none
  | [] => none

def scanDigits (cs : List Char) : Option (List Char × List Char) :=
  match cs.takeWhile Char.isDigit with
  | [] => none
  | ds => some (ds,cs.dropWhile Char.isDigit)

def scanFraction : List Char → Option (List Char × List Char)
  | c :: rest => if c = '.' then scanDigits rest else some ([],c :: rest)
  | [] => some ([],[])

def scanExponent : List Char → Option (Option Int × List Char)
  | c :: rest =>
    if c = 'e' ∨ c = 'E' then
      match rest with
      | s :: digits =>
        if s = '-' then (scanDigits digits).map fun (ds,rest) => (some (-(digitsValue ds : Int)),rest)
        else if s = '+' then (scanDigits digits).map fun (ds,rest) => (some (digitsValue ds : Int),rest)
        else (scanDigits rest).map fun (ds,rest) => (some (digitsValue ds : Int),rest)
      | [] => none
    else some (none,c :: rest)
  | [] => some (none,[])

def scanNumber (cs : List Char) : Option (NumberToken × List Char) := do
  let (negative,cs) := match cs with
    | c :: rest => if c = '-' then (true,rest) else (false,c :: rest)
    | [] => (false,[])
  let (integral,cs) ← scanIntegral cs
  let (fraction,cs) ← scanFraction cs
  let (exponent,cs) ← scanExponent cs
  return (⟨negative,integral,fraction,exponent⟩,cs)

/-- The number the lexer stores for a token: an integer without fraction or exponent that
`strtoull` (after a minus sign, `strtoll`) reads without overflow, and otherwise what `strtod`
reads, `none` for an infinity. -/
def NumberToken.value (t : NumberToken) : Option Number :=
  if t.fraction = [] ∧ t.exponent = none ∧
      (if t.negative then digitsValue t.integral ≤ 2 ^ 63 else digitsValue t.integral < 2 ^ 64) then
    some (if t.negative then .integer (BitVec.ofInt 64 (-(digitsValue t.integral : Int)))
      else .unsigned (UInt64.ofNat (digitsValue t.integral)))
  else (strtod t.negative (t.integral ++ t.fraction) (t.exponent.getD 0 - t.fraction.length)).map .float

/-- A number token and the number stored for it; one that overflows throws, naming the token. -/
def readNumber (cs : List Char) : Except ParseException (Json × List Char) := do
  let (token,rest) ← lexed (scanNumber cs)
  match token.value with
  | some n => .ok (number n,rest)
  | none => .error (.outOfRange ⟨cs.take (cs.length - rest.length)⟩)

def hex4 (a b c d : Char) : Option Nat := do
  return (← hexValue a) * 4096 + (← hexValue b) * 256 + (← hexValue c) * 16 + (← hexValue d)
def simpleEscape (e : Char) : Option Char :=
  if e = '"' then some '"'
  else if e = '\\' then some '\\'
  else if e = '/' then some '/'
  else if e = 'b' then some (Char.ofNat 8)
  else if e = 'f' then some (Char.ofNat 12)
  else if e = 'n' then some (Char.ofNat 10)
  else if e = 'r' then some (Char.ofNat 13)
  else if e = 't' then some (Char.ofNat 9)
  else none

inductive StringStep where
  | close (rest : List Char)
  | char (c : Char) (rest : List Char)
  | invalid

/-- The code point of the hex digits after a `\u`; a high surrogate must be followed by a `\u`
escape of a low surrogate. -/
def readCodePoint : List Char → Option (Nat × List Char)
  | h1 :: h2 :: h3 :: h4 :: rest =>
    match hex4 h1 h2 h3 h4 with
    | none => none
    | some high =>
      if 0xDC00 ≤ high ∧ high < 0xE000 then none
      else if 0xD800 ≤ high ∧ high < 0xDC00 then
        match rest with
        | x :: y :: l1 :: l2 :: l3 :: l4 :: rest =>
          match hex4 l1 l2 l3 l4 with
          | some low =>
            if x = '\\' ∧ y = 'u' ∧ 0xDC00 ≤ low ∧ low < 0xE000 then
              some (0x10000 + (high - 0xD800) * 0x400 + (low - 0xDC00),rest)
            else none
          | none => none
        | _ => none
      else some (high,rest)
  | _ => none

def readStringStep : List Char → StringStep
  | c :: rest =>
    if c = '"' then .close rest
    else if c = '\\' then
      match rest with
      | e :: rest =>
        match simpleEscape e with
        | some d => .char d rest
        | none =>
          if e = 'u' then
            match readCodePoint rest with
            | some (point,rest) => .char (Char.ofNat point) rest
            | none => .invalid
          else .invalid
      | [] => .invalid
    else if c.toNat < 32 then .invalid
    else .char c rest
  | [] => .invalid

/-- The characters of a string literal up to its closing quote, escapes resolved. Each step
reads at least one character, so the length of the input is fuel enough. -/
def readString : Nat → List Char → List Char → Option (List Char × List Char)
  | 0, _, _ => none
  | fuel + 1, cs, acc =>
    match readStringStep cs with
    | .close rest => some (acc,rest)
    | .char c rest => readString fuel rest (acc ++ [c])
    | .invalid => none

mutual
def readValue : Nat → List Char → Except ParseException (Json × List Char)
  | 0, _ => .error .parseError
  | fuel + 1, cs =>
    match skipWhitespace cs with
    | c :: rest =>
      if c = 'n' then lexed (readLiteral "ull".data null rest)
      else if c = 't' then lexed (readLiteral "rue".data (boolean true) rest)
      else if c = 'f' then lexed (readLiteral "alse".data (boolean false) rest)
      else if c = '"' then (lexed (readString rest.length rest [])).map fun (s,rest) => (string ⟨s⟩,rest)
      else if c = '[' then
        match skipWhitespace rest with
        | d :: after => if d = ']' then .ok (array [],after) else readElements fuel [] rest
        | [] => .error .parseError
      else if c = '{' then
        match skipWhitespace rest with
        | d :: after => if d = '}' then .ok (object [],after) else readMembers fuel [] rest
        | [] => .error .parseError
      else readNumber (c :: rest)
    | [] => .error .parseError
def readElements : Nat → List Json → List Char → Except ParseException (Json × List Char)
  | 0, _, _ => .error .parseError
  | fuel + 1, acc, cs =>
    match readValue fuel cs with
    | .ok (v,rest) =>
      match skipWhitespace rest with
      | c :: rest =>
        if c = ',' then readElements fuel (acc ++ [v]) rest
        else if c = ']' then .ok (array (acc ++ [v]),rest)
        else .error .parseError
      | [] => .error .parseError
    | .error e => .error e
/-- The members of an object after its `{`; a repeated key keeps its last value. -/
def readMembers : Nat → List (String × Json) → List Char → Except ParseException (Json × List Char)
  | 0, _, _ => .error .parseError
  | fuel + 1, acc, cs =>
    match skipWhitespace cs with
    | q :: rest =>
      if q = '"' then
        match readString rest.length rest [] with
        | some (key,rest) =>
          match skipWhitespace rest with
          | c :: rest =>
            if c = ':' then
              match readValue fuel rest with
              | .ok (v,rest) =>
                match skipWhitespace rest with
                | d :: rest =>
                  if d = ',' then readMembers fuel (insertMember ⟨key⟩ v acc) rest
                  else if d = '}' then .ok (object (insertMember ⟨key⟩ v acc),rest)
                  else .error .parseError
                | [] => .error .parseError
              | .error e => .error e
            else .error .parseError
          | [] => .error .parseError
        | none => .error .parseError
      else .error .parseError
    | [] => .error .parseError
end

def skipByteOrderMark : List Char → List Char
  | c :: cs => if c = '\uFEFF' then cs else c :: cs
  | [] => []

/-- `json::parse`: a byte order mark is skipped, then one value with whitespace around it. -/
def parse (s : String) : Except ParseException Json :=
  let cs := skipByteOrderMark s.data
  match readValue (cs.length + 1) cs with
  | .ok (j,rest) => if skipWhitespace rest = [] then .ok j else .error .parseError
  | .error e => .error e

example : parse "\x7b \"b\" : [1, -20, true], \"a\" : \x7b\x7d \x7d" =
    .ok (object [("a",object []),("b",array [number (.unsigned 1),number (.integer (-20)),boolean true])]) := by
  decide

example : parse "[1e400]" = .error (.outOfRange "1e400") := by decide

end Json

end Warabi
