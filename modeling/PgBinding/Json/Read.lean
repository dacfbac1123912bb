import PgBinding.Json.Value
import PgBinding.Float64.Bits
/-!
Reading JSON text the way the engine's JSON payloads are read.

* Integers that fit stay integers: non-negative ones below `2^64`, negative ones down to
  `-2^63`; `-0` and every other number become a double.
* A double is the integer of (at most) the first nineteen-odd significant digits scaled by a
  power of ten, one rounding per multiplication or division by the nearest double to that
  power, and powers past `10^308` taken in steps of `10^308`. A result past the largest double
  is an error ("number out of range").
* Nesting of 128 arrays or objects is an error; so is anything but blanks after the value.
* Errors carry the line and the byte column where they were found.
-/
namespace PgBinding
namespace Json

/-- Why a text is not JSON. -/
inductive ErrorCode where
  | eofWhileParsingList
  | eofWhileParsingObject
  | eofWhileParsingString
  | eofWhileParsingValue
  | expectedColon
  | expectedListCommaOrEnd
  | expectedObjectCommaOrEnd
  | expectedSomeIdent
  | expectedSomeValue
  | invalidEscape
  | invalidNumber
  | numberOutOfRange
  | controlCharacterWhileParsingString
  | keyMustBeAString
  | loneLeadingSurrogateInHexEscape
  | trailingComma
  | trailingCharacters
  | unexpectedEndOfHexEscape
  | recursionLimitExceeded
  deriving Repr, DecidableEq

/-- The wording of an error code. -/
def ErrorCode.message : ErrorCode → String
  | .eofWhileParsingList => "EOF while parsing a list"
  | .eofWhileParsingObject => "EOF while parsing an object"
  | .eofWhileParsingString => "EOF while parsing a string"
  | .eofWhileParsingValue => "EOF while parsing a value"
  | .expectedColon => "expected `:`"
  | .expectedListCommaOrEnd => "expected `,` or `]`"
  | .expectedObjectCommaOrEnd => "expected `,` or `\x7d`"
  | .expectedSomeIdent => "expected ident"
  | .expectedSomeValue => "expected value"
  | .invalidEscape => "invalid escape"
  | .invalidNumber => "invalid number"
  | .numberOutOfRange => "number out of range"
  | .controlCharacterWhileParsingString =>
    "control character (\\u0000-\\u001F) found while parsing a string"
  | .keyMustBeAString => "key must be a string"
  | .loneLeadingSurrogateInHexEscape => "lone leading surrogate in hex escape"
  | .trailingComma => "trailing comma"
  | .trailingCharacters => "trailing characters"
  | .unexpectedEndOfHexEscape => "unexpected end of hex escape"
  | .recursionLimitExceeded => "recursion limit exceeded"

/-- A reading error: the code and the byte offset it is reported at. -/
structure Error where
  code : ErrorCode
  offset : Nat
  deriving Repr, DecidableEq

/-- Line (from 1) and column (bytes since the line's start) of an offset in `text`. -/
def position (text : Bytes) (offset : Nat) : Nat × Nat :=
  let before := text.take offset
  let lineStart := match (before.zipIdx.filter (fun (b, _) => b == 10)).getLast? with
    | some (_, i) => i + 1
    | none => 0
  (1 + (before.take lineStart).count 10, offset - lineStart)

/-- The message of an error in `text`: the wording, then where. -/
def Error.message (e : Error) (text : Bytes) : String :=
  let (line, col) := position text e.offset
  s!"{e.code.message} at line {line} column {col}"

/-- What is left to read, and the offset of its first byte. -/
structure Cursor where
  rest : Bytes
  pos : Nat

/-- The next byte, unread. -/
def Cursor.peek (c : Cursor) : Option UInt8 := c.rest.head?

/-- Skips one byte. -/
def Cursor.bump (c : Cursor) : Cursor := ⟨c.rest.drop 1, c.pos + 1⟩

/-- Skips blanks: space, tab, line feed and carriage return. -/
def Cursor.skipBlanks : Cursor → Cursor
  | ⟨b :: rest, pos⟩ =>
    if b == 32 || b == 9 || b == 10 || b == 13 then Cursor.skipBlanks ⟨rest, pos + 1⟩
    else ⟨b :: rest, pos⟩
  | c => c

/-- An error at the cursor. -/
def Cursor.fail {α : Type} (c : Cursor) (code : ErrorCode) : Except Error α :=
  .error ⟨code, c.pos⟩

/-- An error just past the next byte, or at the end: where errors found by looking ahead are
reported. -/
def Cursor.failAhead {α : Type} (c : Cursor) (code : ErrorCode) : Except Error α :=
  .error ⟨code, if c.rest.isEmpty then c.pos else c.pos + 1⟩

/-- Whether a byte is a decimal digit. -/
def isDigit (b : UInt8) : Bool := 48 ≤ b && b ≤ 57

/-- The largest 64-bit unsigned value. -/
def u64Max : Nat := 18446744073709551615  -- 2 ^ 64 - 1

/-- Whether appending `digit` to `acc` would pass `limit`. -/
def overflows (acc digit limit : Nat) : Bool :=
  acc ≥ limit / 10 && (acc > limit / 10 || digit > limit % 10)

/-- Skips a run of digits. -/
def Cursor.skipDigits : Cursor → Cursor
  | ⟨b :: rest, pos⟩ => if isDigit b then Cursor.skipDigits ⟨rest, pos + 1⟩ else ⟨b :: rest, pos⟩
  | c => c

/-- `significand · 10^exponent` as a double: one rounding per scaling step. -/
def scale (positive : Bool) (significand : Nat) (exponent : Int) : Option Float :=
  let table := Float64.pow10Table
  let rec go (fuel : Nat) (f : Float) (e : Int) : Option Float :=
    match fuel with
    | 0 => some f
    | fuel + 1 =>
      if e.natAbs < table.size then
        let pow := table.getD e.natAbs 1.0
        if e ≥ 0 then
          let g := f * pow
          if g.isInf then none else some g
        else some (f / pow)
      else if f == 0.0 then some f
      else if e ≥ 0 then none
      else go fuel (f / 1e308) (e + 308)
  (go (exponent.natAbs / 308 + 2) (Float64.ofNat significand) exponent).map
    fun f => if positive then f else -f

/-- Saturating addition within the 32-bit signed range. -/
def addSaturating (a b : Int) : Int := max (-2147483648) (min 2147483647 (a + b))

/-- Scales and signs the digits read, or reports a result past the largest double. -/
def finishFloat (c : Cursor) (positive : Bool) (significand : Nat) (exponent : Int) :
    Except Error (Float × Cursor) :=
  match scale positive significand exponent with
  | some f => .ok (f, c)
  | none => c.fail .numberOutOfRange

/-- Reads the digits of an exponent into `exp`. -/
def exponentDigits (positive positiveExp : Bool) (significand : Nat) (start : Int) :
    Nat → Nat → Cursor → Except Error (Float × Cursor)
  | 0, exp, c | _, exp, c@⟨[], _⟩ =>
    finishFloat c positive significand
      (if positiveExp then addSaturating start exp else addSaturating start (-exp))
  | fuel + 1, exp, c@⟨d :: rest, pos⟩ =>
    if isDigit d then
      let c' : Cursor := ⟨rest, pos + 1⟩
      let digit := (d - 48).toNat
      if overflows exp digit 2147483647 then
        -- the exponent is past any double: zero, or out of range
        if significand ≠ 0 && positiveExp then c'.fail .numberOutOfRange
        else .ok (if positive then 0.0 else -0.0, c'.skipDigits)
      else exponentDigits positive positiveExp significand start fuel (exp * 10 + digit) c'
    else
      finishFloat c positive significand
        (if positiveExp then addSaturating start exp else addSaturating start (-exp))

/-- Reads the exponent part after `e` or `E`. -/
def readExponent (c : Cursor) (positive : Bool) (significand : Nat) (start : Int) :
    Except Error (Float × Cursor) :=
  let c := c.bump
  let (positiveExp, c) := match c.peek with
    | some 43 => (true, c.bump)
    | some 45 => (false, c.bump)
    | _ => (true, c)
  match c.peek with
  | none => c.fail .eofWhileParsingValue
  | some b =>
    if !isDigit b then c.bump.fail .invalidNumber
    else exponentDigits positive positiveExp significand start c.rest.length 0 c

/-- What follows the digits of a number: an exponent, or the end of the number. -/
def afterDigits (c : Cursor) (positive : Bool) (significand : Nat) (exponent : Int) :
    Except Error (Float × Cursor) :=
  match c.peek with
  | some 101 | some 69 => readExponent c positive significand exponent
  | _ => finishFloat c positive significand exponent

/-- Reads the digits after a decimal point; `after` counts them, negated. -/
def fractionDigits (positive : Bool) (start : Int) :
    Nat → Nat → Int → Cursor → Except Error (Float × Cursor)
  | fuel + 1, sig, after, c@⟨d :: rest, pos⟩ =>
    if isDigit d then
      let digit := (d - 48).toNat
      if overflows sig digit u64Max then
        -- further digits cannot change the double
        afterDigits c.skipDigits positive sig (start + after)
      else fractionDigits positive start fuel (sig * 10 + digit) (after - 1) ⟨rest, pos + 1⟩
    else fractionEnd positive start sig after c
  | _, sig, after, c => fractionEnd positive start sig after c
where
  /-- At least one digit must follow the point. -/
  fractionEnd (positive : Bool) (start : Int) (sig : Nat) (after : Int) (c : Cursor) :
      Except Error (Float × Cursor) :=
    if after == 0 then
      match c.peek with
      | some _ => c.failAhead .invalidNumber
      | none => c.failAhead .eofWhileParsingValue
    else afterDigits c positive sig (start + after)

/-- Reads digits after a decimal point. -/
def readFraction (c : Cursor) (positive : Bool) (significand : Nat) (start : Int) :
    Except Error (Float × Cursor) :=
  let c := c.bump
  fractionDigits positive start c.rest.length significand 0 c

/-- Reads the rest of a number after its leading integer digits. -/
def readAfterInteger (c : Cursor) (positive : Bool) (significand : Nat) :
    Except Error (Number × Cursor) :=
  match c.peek with
  | some 46 => (readFraction c positive significand 0).map fun (f, c) => (.float f.toBits, c)
  | some 101 | some 69 =>
    (readExponent c positive significand 0).map fun (f, c) => (.float f.toBits, c)
  | _ =>
    if positive then .ok (.nat (UInt64.ofNat significand), c)
    else if significand = 0 || significand > Nat.pow 2 63 then
      -- `-0`, and magnitudes past the signed range, are doubles
      let f := -(Float64.ofNat significand)
      .ok (.float f.toBits, c)
    else .ok (.neg (Int64.ofInt (-(significand : Int))), c)

/-- Reads a number from its first digit (after any minus sign). -/
def readNumber (c : Cursor) (positive : Bool) : Except Error (Number × Cursor) :=
  match c.peek with
  | none => c.fail .eofWhileParsingValue
  | some 48 =>
    let c := c.bump
    match c.peek with
    | some b => if isDigit b then c.failAhead .invalidNumber else readAfterInteger c positive 0
    | none => readAfterInteger c positive 0
  | some b =>
    if !isDigit b then c.bump.fail .invalidNumber else
    let rec digits (fuel : Nat) (sig : Nat) (c : Cursor) : Except Error (Number × Cursor) :=
      match fuel, c.peek with
      | fuel + 1, some d =>
        if isDigit d then
          let digit := (d - 48).toNat
          if overflows sig digit u64Max then
            -- too long for an integer: count the remaining integer digits as a power of ten
            let rest := c.skipDigits
            let extra : Int := rest.pos - c.pos
            match rest.peek with
            | some 46 =>
              (readFraction rest positive sig extra).map fun (f, c) => (.float f.toBits, c)
            | some 101 | some 69 =>
              (readExponent rest positive sig extra).map fun (f, c) => (.float f.toBits, c)
            | _ => match scale positive sig extra with
              | some f => .ok (.float f.toBits, rest)
              | none => rest.fail .numberOutOfRange
          else digits fuel (sig * 10 + digit) c.bump
        else readAfterInteger c positive sig
      | _, _ => readAfterInteger c positive sig
    digits c.rest.length (b - 48).toNat c.bump

/-- Reads four hexadecimal digits of a `\u` escape. -/
def readHex4 (c : Cursor) : Except Error (Nat × Cursor) :=
  match c.rest with
  | a :: b :: d :: e :: rest =>
    let c' : Cursor := ⟨rest, c.pos + 4⟩
    let digit (x : UInt8) : Option Nat :=
      if 48 ≤ x && x ≤ 57 then some (x - 48).toNat
      else if 97 ≤ x && x ≤ 102 then some (x - 87).toNat
      else if 65 ≤ x && x ≤ 70 then some (x - 55).toNat
      else none
    match digit a, digit b, digit d, digit e with
    | some w, some x, some y, some z => .ok (((w * 16 + x) * 16 + y) * 16 + z, c')
    | _, _, _, _ => c'.fail .invalidEscape
  | rest => Cursor.fail ⟨[], c.pos + rest.length⟩ .eofWhileParsingString

/-- The UTF-8 encoding of a code point, prepended in reverse to an accumulator. -/
def pushCodePoint (n : Nat) (acc : Bytes) : Bytes :=
  (Utf8.encode (String.singleton (Char.ofNat n))).reverse ++ acc

/-- Reads a `\u` escape (after the `u`), pairing surrogates. -/
def readUnicodeEscape (c : Cursor) (acc : Bytes) : Except Error (Bytes × Cursor) := do
  let (n, c) ← readHex4 c
  if 0xDC00 ≤ n ∧ n ≤ 0xDFFF then c.fail .loneLeadingSurrogateInHexEscape
  else if n < 0xD800 ∨ n > 0xDBFF then .ok (pushCodePoint n acc, c)
  else
    match c.peek with
    | none => c.fail .eofWhileParsingString
    | some 92 =>
      let c := c.bump
      match c.peek with
      | none => c.fail .eofWhileParsingString
      | some 117 =>
        let (m, c) ← readHex4 c.bump
        if m < 0xDC00 ∨ m > 0xDFFF then c.fail .loneLeadingSurrogateInHexEscape
        else .ok (pushCodePoint ((n - 0xD800) * 1024 + (m - 0xDC00) + 0x10000) acc, c)
      | some _ => c.bump.fail .unexpectedEndOfHexEscape
    | some _ => c.bump.fail .unexpectedEndOfHexEscape

/-- Reads a string after its opening quote. -/
def readString (c : Cursor) : Except Error (String × Cursor) :=
  let rec go (fuel : Nat) (acc : Bytes) (c : Cursor) : Except Error (String × Cursor) :=
    match fuel with
    | 0 => c.fail .eofWhileParsingString
    | fuel + 1 =>
      match c.rest with
      | [] => c.fail .eofWhileParsingString
      | b :: rest =>
        let c' : Cursor := ⟨rest, c.pos + 1⟩
        if b == 34 then .ok (Utf8.lossy acc.reverse, c')
        else if b == 92 then
          match rest with
          | [] => c'.fail .eofWhileParsingString
          | e :: rest' =>
            let c'' : Cursor := ⟨rest', c.pos + 2⟩
            let simple (x : UInt8) := go fuel (x :: acc) c''
            if e == 34 then simple 34
            else if e == 92 then simple 92
            else if e == 47 then simple 47
            else if e == 98 then simple 8
            else if e == 102 then simple 12
            else if e == 110 then simple 10
            else if e == 114 then simple 13
            else if e == 116 then simple 9
            else if e == 117 then
              match readUnicodeEscape c'' acc with
              | .ok (acc, c) => go fuel acc c
              | .error e => .error e
            else c''.fail .invalidEscape
        else if b < 0x20 then c'.fail .controlCharacterWhileParsingString
        else go fuel (b :: acc) c'
  go (c.rest.length + 1) [] c

/-- Reads a literal word after its first letter. -/
def readWord (c : Cursor) : Bytes → Except Error Cursor
  | [] => .ok c
  | w :: ws =>
    match c.peek with
    | none => c.fail .eofWhileParsingValue
    | some b => if b == w then readWord c.bump ws else c.bump.fail .expectedSomeIdent

mutual
/-- Reads one value; `depth` counts the arrays and objects still allowed to open. -/
def readValue (fuel depth : Nat) (c : Cursor) : Except Error (Value × Cursor) :=
  match fuel with
  | 0 => c.fail .eofWhileParsingValue
  | fuel + 1 =>
    let c := c.skipBlanks
    match c.peek with
    | none => c.failAhead .eofWhileParsingValue
    | some b =>
      if b == 110 then (readWord c.bump [117, 108, 108]).map fun c => (.null, c)
      else if b == 116 then (readWord c.bump [114, 117, 101]).map fun c => (.bool true, c)
      else if b == 102 then (readWord c.bump [97, 108, 115, 101]).map fun c => (.bool false, c)
      else if b == 45 then (readNumber c.bump false).map fun (n, c) => (.num n, c)
      else if isDigit b then (readNumber c true).map fun (n, c) => (.num n, c)
      else if b == 34 then (readString c.bump).map fun (s, c) => (.str s, c)
      else if b == 91 then
        if depth ≤ 1 then c.failAhead .recursionLimitExceeded
        else readArray fuel (depth - 1) c.bump true []
      else if b == 123 then
        if depth ≤ 1 then c.failAhead .recursionLimitExceeded
        else readObject fuel (depth - 1) c.bump true []
      else c.failAhead .expectedSomeValue

/-- Reads array items after `[` (or after an item); `acc` holds the items read, reversed. -/
def readArray (fuel depth : Nat) (c : Cursor) (first : Bool) (acc : List Value) :
    Except Error (Value × Cursor) :=
  match fuel with
  | 0 => c.fail .eofWhileParsingList
  | fuel + 1 =>
    let c := c.skipBlanks
    match c.peek with
    | none => c.failAhead .eofWhileParsingList
    | some 93 => .ok (.arr acc.reverse, c.bump)
    | some b =>
      if first then
        match readValue fuel depth c with
        | .ok (v, c) => readArray fuel depth c false (v :: acc)
        | .error e => .error e
      else if b == 44 then
        let c := c.bump.skipBlanks
        match c.peek with
        | some 93 => c.failAhead .trailingComma
        | none => c.failAhead .eofWhileParsingValue
        | some _ =>
          match readValue fuel depth c with
          | .ok (v, c) => readArray fuel depth c false (v :: acc)
          | .error e => .error e
      else c.failAhead .expectedListCommaOrEnd

/-- Reads object members after `{` (or after a member). -/
def readObject (fuel depth : Nat) (c : Cursor) (first : Bool) (acc : List (String × Value)) :
    Except Error (Value × Cursor) :=
  match fuel with
  | 0 => c.fail .eofWhileParsingObject
  | fuel + 1 =>
    let c := c.skipBlanks
    match c.peek with
    | none => c.failAhead .eofWhileParsingObject
    | some 125 => .ok (.obj acc, c.bump)
    | some b =>
      let member (c : Cursor) : Except Error (Value × Cursor) :=
        match readString c.bump with
        | .error e => .error e
        | .ok (k, c) =>
          let c := c.skipBlanks
          match c.peek with
          | some 58 =>
            match readValue fuel depth c.bump with
            | .ok (v, c) => readObject fuel depth c false (insertMember k v acc)
            | .error e => .error e
          | some _ => c.failAhead .expectedColon
          | none => c.failAhead .eofWhileParsingObject
      if first then
        if b == 34 then member c else c.failAhead .keyMustBeAString
      else if b == 44 then
        let c := c.bump.skipBlanks
        match c.peek with
        | some 34 => member c
        | some 125 => c.failAhead .trailingComma
        | some _ => c.failAhead .keyMustBeAString
        | none => c.failAhead .eofWhileParsingValue
      else c.failAhead .expectedObjectCommaOrEnd
end

/-- The value written by `text`, which must hold one value and nothing but blanks after it. -/
def parseBytes (text : Bytes) : Except Error Value := do
  let (v, c) ← readValue (2 * text.length + 2) 128 ⟨text, 0⟩
  let c := c.skipBlanks
  match c.peek with
  | some _ => c.failAhead .trailingCharacters
  | none => .ok v

/-- The value written by a text. -/
def parse (text : String) : Except Error Value := parseBytes (Utf8.encode text)

end Json
end PgBinding
