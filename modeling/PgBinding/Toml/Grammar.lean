import PgBinding.Toml.Reading
import PgBinding.Json.Read
/-!
The grammar of TOML 1.0 keys and values: strings in their four forms, integers in four bases,
floats, booleans, dates and times, arrays and inline tables.

Arrays and inline tables nest; a document may nest them fewer than eighty deep, and a dotted key
may have fewer than eighty parts.
-/
namespace PgBinding
namespace Toml

/-! ## Byte classes -/

/-- Space or tab. -/
def isBlank (b : UInt8) : Bool := b == 0x20 || b == 0x09

/-- Any byte of a non-ASCII character. -/
def isNonAscii (b : UInt8) : Bool := 0x80 ≤ b

/-- A byte a comment may hold: tab, printable ASCII, or non-ASCII. -/
def isCommentByte (b : UInt8) : Bool := b == 0x09 || (0x20 ≤ b && b ≤ 0x7E) || isNonAscii b

/-- A decimal digit. -/
def isDigit (b : UInt8) : Bool := 0x30 ≤ b && b ≤ 0x39

/-- A hexadecimal digit. -/
def isHexDigit (b : UInt8) : Bool :=
  isDigit b || (0x41 ≤ b && b ≤ 0x46) || (0x61 ≤ b && b ≤ 0x66)

/-- A byte of a bare key: ASCII letter, digit, `-` or `_`. -/
def isBareKeyByte (b : UInt8) : Bool :=
  isDigit b || (0x41 ≤ b && b ≤ 0x5A) || (0x61 ≤ b && b ≤ 0x7A) || b == 0x2D || b == 0x5F

/-- A byte a basic string holds as it is: all but the quote, the backslash and controls other
than tab. -/
def isBasicByte (b : UInt8) : Bool :=
  isBlank b || b == 0x21 || (0x23 ≤ b && b ≤ 0x5B) || (0x5D ≤ b && b ≤ 0x7E) || isNonAscii b

/-- A byte of a literal string: all but the apostrophe and controls other than tab. -/
def isLiteralByte (b : UInt8) : Bool :=
  b == 0x09 || (0x20 ≤ b && b ≤ 0x26) || (0x28 ≤ b && b ≤ 0x7E) || isNonAscii b

/-- The bytes of an ASCII text. -/
def ascii (s : String) : Bytes := Utf8.encode s

/-! ## Blanks, comments and line ends -/

/-- Spaces and tabs. -/
def blanks : Parse Unit := do
  let _ ← takeWhile isBlank

/-- A comment, up to the end of its line. -/
def comment : Parse Unit := do
  literal (ascii "#")
  let _ ← takeWhile isCommentByte

/-- A line feed, or a carriage return and a line feed. -/
def newline : Parse Unit := fun c =>
  match c.rest with
  | 0x0A :: r => .ok ((), ⟨r, c.pos + 1⟩)
  | 0x0D :: 0x0A :: r => .ok ((), ⟨r, c.pos + 2⟩)
  | _ :: _ => .error (Fault.deadEnd (c.pos + 1))
  | [] => .error (Fault.deadEnd c.pos)

/-- The end of a line or of the document. -/
def lineEnding : Parse Unit := orElse newline eof

/-- What may follow a value or a header on its line: blanks, a comment, the line's end. -/
def lineTrailing : Parse Unit := do
  blanks
  let _ ← optional comment
  lineEnding

/-- One step of blanks, comments and line ends between array items; `false` when none is
ahead. -/
def blankLine : Parse Bool := do
  blanks
  match ← peekByte with
  | some 0x23 => do comment; newline; pure true
  | some 0x0A | some 0x0D => do newline; pure true
  | _ => pure false

/-- Blanks, comments and line ends, as between array items. -/
def blankLines : Parse Unit := fun c =>
  let rec go : Nat → Cursor → Except Fault (Unit × Cursor)
    | 0, c => .ok ((), c)
    | fuel + 1, c =>
      match blankLine c with
      | .ok (true, c') => go fuel c'
      | .ok (false, c') => .ok ((), c')
      | .error f => .error f
  go (c.rest.length + 1) c

/-! ## Strings -/

/-- Four or eight hexadecimal digits naming a Unicode scalar value. -/
def hexEscape (n : Nat) (what : String) : Parse Char :=
  final <| withContext (.label what) fun c =>
    match takeUpTo n isHexDigit c with
    | .ok (digits, c') =>
      if digits.length ≠ n then .error (Fault.deadEnd c.pos)
      else
        let v := digits.foldl (fun acc d =>
          acc * 16 + (if isDigit d then d.toNat - 0x30
            else if d ≤ 0x46 then d.toNat - 0x41 + 10 else d.toNat - 0x61 + 10)) 0
        if v < 0xD800 || (0xDFFF < v && v < 0x110000) then .ok (Char.ofNat v, c')
        else .error ⟨c.pos, [], some "value is out of range", false⟩
    | .error f => .error f

/-- What a backslash may stand before, in order. -/
def escapeNames : List Context :=
  ["b", "f", "n", "r", "t", "u", "U", "\\", "\""].map fun s => .expected ("\x60" ++ s ++ "\x60")

/-- The character after a backslash. -/
def escapeChar : Parse Char := do
  let b ← anyByte
  match b with
  | 0x62 => pure (Char.ofNat 8)
  | 0x66 => pure (Char.ofNat 12)
  | 0x6E => pure '\n'
  | 0x72 => pure '\r'
  | 0x74 => pure '\t'
  | 0x75 => hexEscape 4 "unicode 4-digit hex code"
  | 0x55 => hexEscape 8 "unicode 8-digit hex code"
  | 0x5C => pure '\\'
  | 0x22 => pure '"'
  | _ => final (withContexts (.label "escape sequence" :: escapeNames) deadEnd)

/-- An escape sequence. -/
def escaped : Parse Char := do
  literal (ascii "\\")
  escapeChar

/-- A piece of a basic string: a run of plain bytes or one escape. -/
def basicPiece : Parse String :=
  orElse (do let bs ← takeWhile1 isBasicByte; pure (text bs)) (do let ch ← escaped; pure ch.toString)

/-- A basic string, `"..."`. -/
def basicString : Parse String := do
  literal (ascii "\"")
  let pieces ← many basicPiece
  final (withContext (.label "basic string") (literal (ascii "\"")))
  pure (String.join pieces)

/-- A literal string, `'...'`. -/
def literalString : Parse String :=
  withContext (.label "literal string") do
    literal (ascii "'")
    let body ← final (takeWhile isLiteralByte)
    final (literal (ascii "'"))
    pure (text body)

/-- Blanks and line ends, after a first line end. -/
def blankNewlines : Parse Unit := do
  newline
  let _ ← many (orElse newline (do let _ ← takeWhile1 isBlank))

/-- A backslash at the end of a line: it and all blanks and line ends after it vanish. -/
def escapedNewline : Parse Unit := do
  let _ ← many1 (do literal (ascii "\\"); blanks; blankNewlines)

/-- A piece of a multi-line basic string. -/
def mlBasicPiece : Parse String :=
  orElse (do let bs ← takeWhile1 isBasicByte; pure (text bs)) <|
  orElse (do escapedNewline; pure "") <|
  orElse (do let ch ← escaped; pure ch.toString) (do newline; pure "\n")

/-- One or two quotes that `follow` comes after. -/
def quotesBefore (q : UInt8) (follow : Parse Unit) : Parse String :=
  orElse (do literal [q, q]; lookahead follow; pure (text [q, q]))
    (do literal [q]; lookahead follow; pure (text [q]))

/-- The rest of a multi-line basic string's body after its first pieces: quotes followed by
more pieces. -/
def mlBasicRest : Nat → String → Parse String
  | 0, acc => pure acc
  | fuel + 1, acc => do
    match ← optional (quotesBefore 0x22 (do let _ ← byte (· != 0x22))) with
    | none => pure acc
    | some qs =>
      match ← optional mlBasicPiece with
      | none => pure acc
      | some p => do
        let more ← many mlBasicPiece
        mlBasicRest fuel (acc ++ qs ++ p ++ String.join more)

/-- The body of a multi-line basic string. -/
def mlBasicBody : Parse String := fun c => (do
  let first ← many mlBasicPiece
  let body ← mlBasicRest (c.rest.length + 1) (String.join first)
  let close ← optional (quotesBefore 0x22 (literal (ascii "\"\"\"")))
  pure (body ++ close.getD "")) c

/-- A multi-line basic string, `"""..."""`; a line end right after the opening is dropped. -/
def mlBasicString : Parse String :=
  withContext (.label "multiline basic string") do
    literal (ascii "\"\"\"")
    let _ ← optional newline
    let body ← final mlBasicBody
    final (literal (ascii "\"\"\""))
    pure body

/-- A piece of a multi-line literal string: a byte or a line end. -/
def mlLiteralPiece : Parse Unit := orElse (do let _ ← byte isLiteralByte) newline

/-- The body of a multi-line literal string. -/
def mlLiteralBody : Parse Unit := do
  let _ ← many mlLiteralPiece
  let _ ← many (do
    let _ ← quotesBefore 0x27 (do let _ ← byte (· != 0x27))
    let _ ← many1 mlLiteralPiece)
  let _ ← optional (quotesBefore 0x27 (literal (ascii "'''")))

/-- Replaces each carriage return and line feed pair by a line feed. -/
def unixLines : List Char → List Char
  | '\r' :: '\n' :: rest => '\n' :: unixLines rest
  | ch :: rest => ch :: unixLines rest
  | [] => []

/-- A multi-line literal string, `'''...'''`; a line end right after the opening is dropped. -/
def mlLiteralString : Parse String :=
  withContext (.label "multiline literal string") do
    literal (ascii "'''")
    let _ ← optional newline
    let (body, ()) ← final (recognize mlLiteralBody)
    final (literal (ascii "'''"))
    pure (String.ofList (unixLines (text body).toList))

/-- A string in any of its four forms. -/
def string : Parse String :=
  orElse mlBasicString (orElse basicString (orElse mlLiteralString literalString))

/-! ## Keys -/

/-- A key of one part: bare, or quoted either way; its name and its text as written. -/
def simpleKey : Parse Key := fun c =>
  let body : Parse String := do
    match ← peekByte with
    | some 0x22 => basicString
    | some 0x27 => literalString
    | some _ => do let bs ← takeWhile1 isBareKeyByte; pure (text bs)
    | none => deadEnd
  match body c with
  | .ok (name, c') => .ok (⟨name, text (c.rest.take (c'.pos - c.pos)), ⟨c.pos, c'.pos⟩⟩, c')
  | .error f => .error f

/-- The most parts a dotted key, and the deepest nesting a value, may reach. -/
def nestingLimit : Nat := 80

/-- A key: simple keys joined by dots, blanks allowed around each. -/
def key : Parse (List Key) :=
  checked (withContext (.label "key")
      (separated1 (do blanks; let k ← simpleKey; blanks; pure k) (literal (ascii "."))))
    fun ks => if nestingLimit ≤ ks.length then .error "recursion limit exceeded" else .ok ks

/-! ## Numbers, dates and times -/

/-- Digits, single underscores allowed between them; the first digit is read by `first`. -/
def digitsAfter (first : Parse Unit) (digit : UInt8 → Bool) : Parse Unit := do
  first
  let _ ← many (orElse (do let _ ← byte digit)
    (do literal (ascii "_"); final (withContext (.expected "digit") (do let _ ← byte digit))))

/-- A decimal integer as written: a sign, then `0` or digits without a leading zero. -/
def decimalInteger : Parse Bytes := do
  let (bs, ()) ← withContext (.label "integer") (recognize do
    let _ ← optional (byte fun b => b == 0x2B || b == 0x2D)
    orElse (digitsAfter (do let _ ← byte fun b => 0x31 ≤ b && b ≤ 0x39) isDigit)
      (do let _ ← byte isDigit))
  pure bs

/-- Digits that may start with zero. -/
def zeroDigits : Parse Unit := digitsAfter (do let _ ← byte isDigit) isDigit

/-- An exponent: `e`, a sign, digits. -/
def exponent : Parse Unit := do
  let _ ← byte fun b => b == 0x65 || b == 0x45
  let _ ← optional (byte fun b => b == 0x2B || b == 0x2D)
  final zeroDigits

/-- A fraction: a point, then digits. -/
def fraction : Parse Unit := do
  literal (ascii ".")
  final (withContext (.expected "digit") zeroDigits)

/-- The value of an unsigned numeral in a base, underscores skipped. -/
def numeral (base : Nat) (bs : Bytes) : Nat :=
  bs.foldl (fun acc d =>
    if d == 0x5F then acc
    else acc * base + (if isDigit d then d.toNat - 0x30
      else if d ≤ 0x5A then d.toNat - 0x41 + 10 else d.toNat - 0x61 + 10)) 0

/-- The largest 64-bit signed integer. -/
def int64Max : Nat := 9223372036854775807  -- 2 ^ 63 - 1

/-- A signed decimal numeral as a 64-bit integer. -/
def decimalValue (bs : Bytes) : Except String Int :=
  match bs with
  | 0x2D :: ds =>
    let n := numeral 10 ds
    if n ≤ int64Max + 1 then .ok (-(n : Int)) else .error "number too small to fit in target type"
  | 0x2B :: ds =>
    let n := numeral 10 ds
    if n ≤ int64Max then .ok n else .error "number too large to fit in target type"
  | ds =>
    let n := numeral 10 ds
    if n ≤ int64Max then .ok n else .error "number too large to fit in target type"

/-- An integer in base 16, 8 or 2 after its prefix. -/
def prefixedInteger (pre : String) (what : String) (base : Nat) (digit : UInt8 → Bool) :
    Parse Int :=
  final <| checked
    (withContext (.label what) do
      literal (ascii pre)
      let (bs, ()) ← final (recognize (digitsAfter (do let _ ← byte digit) digit))
      pure bs)
    fun bs =>
      let n := numeral base bs
      if n ≤ int64Max then .ok n else .error "number too large to fit in target type"

/-- An integer. -/
def integer : Parse Int := do
  if ← startsWith (ascii "0x") then prefixedInteger "0x" "hexadecimal integer" 16 isHexDigit
  else if ← startsWith (ascii "0o") then
    prefixedInteger "0o" "octal integer" 8 fun b => 0x30 ≤ b && b ≤ 0x37
  else if ← startsWith (ascii "0b") then
    prefixedInteger "0b" "binary integer" 2 fun b => b == 0x30 || b == 0x31
  else final (checked decimalInteger decimalValue)

/-- The double nearest a decimal numeral with fraction and exponent, underscores skipped. -/
def floatValue (bs : Bytes) : Float :=
  let cs := bs.filter (· != 0x5F)
  let (positive, cs) := match cs with
    | 0x2D :: r => (false, r)
    | 0x2B :: r => (true, r)
    | r => (true, r)
  let whole := cs.takeWhile isDigit
  let cs := cs.drop whole.length
  let frac := match cs with
    | 0x2E :: r => r.takeWhile isDigit
    | _ => []
  let cs := match cs with
    | 0x2E :: r => r.drop frac.length
    | r => r
  let exp : Int := match cs with
    | e :: r =>
      if e == 0x65 || e == 0x45 then
        match r with
        | 0x2D :: ds => -(numeral 10 ds : Int)
        | 0x2B :: ds => numeral 10 ds
        | ds => numeral 10 ds
      else 0
    | [] => 0
  let significand := numeral 10 (whole ++ frac)
  match Json.scale positive significand (exp - frac.length) with
  | some f => f
  | none => if positive then 1.0 / 0.0 else -1.0 / 0.0

/-- A float: a decimal integer with a fraction, an exponent or both; or `inf` or `nan` with an
optional sign. A value past the largest double is refused. -/
def float : Parse Float :=
  withContext (.label "floating-point number") <|
    orElse
      (do
        let (bs, ()) ← recognize (do
          let _ ← decimalInteger
          orElse exponent (do fraction; let _ ← optional exponent))
        let f := floatValue bs
        if f == 1.0 / 0.0 then final deadEnd else pure f)
      (do
        let sign ← optional (byte fun b => b == 0x2B || b == 0x2D)
        let f ← orElse (do literal (ascii "inf"); pure (1.0 / 0.0))
          (do literal (ascii "nan"); pure (0.0 / 0.0))
        pure (if sign == some 0x2D then -f else f))

/-- Two digits in a range. -/
def twoDigits (lo hi : Nat) : Parse Nat :=
  checked (takeExactly 2 isDigit) fun bs =>
    let n := numeral 10 bs
    if lo ≤ n ∧ n ≤ hi then .ok n else .error "value is out of range"

/-- Whether `y` is a leap year. -/
def leapYear (y : Nat) : Bool := y % 4 == 0 && (y % 100 != 0 || y % 400 == 0)

/-- The days of a month. -/
def monthDays (y m : Nat) : Nat :=
  if m = 2 then (if leapYear y then 29 else 28)
  else if m = 4 ∨ m = 6 ∨ m = 9 ∨ m = 11 then 30 else 31

/-- A date, `YYYY-MM-DD`, with a day that its month has. -/
def fullDate : Parse Unit := do
  let y ← takeExactly 4 isDigit
  literal (ascii "-")
  let m ← final (twoDigits 1 12)
  final (literal (ascii "-"))
  let dayAt ← offset
  let d ← final (twoDigits 1 31)
  if d > monthDays (numeral 10 y) m then
    (fun _ => .error ⟨dayAt, [], some "value is out of range", true⟩ : Parse Unit)
  else pure ()

/-- A time, `HH:MM:SS` with an optional fraction of a second. -/
def partialTime : Parse Unit := do
  let _ ← twoDigits 0 23
  literal (ascii ":")
  final do
    let _ ← twoDigits 0 59
    literal (ascii ":")
    let _ ← twoDigits 0 60
    let _ ← optional (do literal (ascii "."); let _ ← takeWhile1 isDigit)

/-- A time zone offset: `Z`, or a signed `HH:MM`. -/
def timeOffset : Parse Unit :=
  withContext (.label "time offset") <|
    orElse (do let _ ← byte fun b => b == 0x5A || b == 0x7A)
      (do
        let _ ← byte fun b => b == 0x2B || b == 0x2D
        final do
          let _ ← twoDigits 0 23
          literal (ascii ":")
          let _ ← twoDigits 0 59)

/-- A date with an optional time and offset, or a time alone. -/
def dateTime : Parse Unit :=
  orElse
    (withContext (.label "date-time") do
      fullDate
      let _ ← optional (do
        let _ ← byte fun b => b == 0x54 || b == 0x74 || b == 0x20
        partialTime
        let _ ← optional timeOffset))
    (withContext (.label "time") partialTime)

/-! ## Values -/

/-- The contexts of a value that starts like nothing a value can start with. -/
def stringExpected : List Context := [.label "string", .expected "\x60\"\x60", .expected "\x60'\x60"]

/-- Fails unless nesting may go one level deeper. -/
def enter (room : Nat) : Parse Unit :=
  if room = 0 then refuse "recursion limit exceeded" else pure ()

/-- A value of an array, with the blanks, comments and line ends around it. -/
def arrayItem (inner : Parse Item) : Parse Item := do
  blankLines
  let v ← inner
  blankLines
  pure v

/-- The items of an array, up to its closing bracket. -/
def arrayItems (inner : Parse Item) : Parse (List Item) := do
  if (← peekByte) == some 0x5D then pure []
  else do
    let items ← separated (arrayItem inner) (literal (ascii ","))
    if !items.isEmpty then discard <| optional (literal (ascii ","))
    blankLines
    pure items

/-- An array, `[...]`; its items are read by `inner`. -/
def array (room : Nat) (inner : Parse Item) : Parse (List Item) := do
  enter room
  literal (ascii "[")
  let items ← final (arrayItems inner)
  final (withContexts [.label "array", .expected "\x60]\x60"] (literal (ascii "]")))
  pure items

/-- Why a table cannot take a key. -/
inductive Conflict where
  /-- The key is defined twice; `table` names the table it was defined in, if known. -/
  | duplicateKey (key : String) (table : Option (List String))
  /-- A dotted key runs through a value that is not a table. -/
  | extendsValue (path : List String) (actual : String)
  deriving Repr, DecidableEq

/-- The wording of a conflict. -/
def Conflict.message : Conflict → String
  | .duplicateKey k none => "duplicate key \x60" ++ k ++ "\x60"
  | .duplicateKey k (some []) => "duplicate key \x60" ++ k ++ "\x60 in document root"
  | .duplicateKey k (some t) => "duplicate key \x60" ++ k ++ "\x60 in table \x60" ++ ".".intercalate t ++ "\x60"
  | .extendsValue p actual =>
    "dotted key \x60" ++ ".".intercalate p ++ "\x60 attempted to extend non-table type (" ++ actual ++ ")"

/-- Puts `value` under the dotted key `path ++ [k]` of an inline table, making the tables on the
way. `whole` is the full prefix, for messages; `dotted` whether the entries are those of a table
made by a dotted key. -/
def inlinePut (whole : List Key) (k : Key) (value : Item) :
    Nat → List Key → Bool → Entries → Except Conflict Entries
  | _, [], dotted, es =>
    if dotted == whole.isEmpty then .error (.duplicateKey k.name none)
    else match es.lookup k.name with
      | some _ => .error (.duplicateKey k.name none)
      | none => .ok (es ++ [(k, value)])
  | i, p :: ps, _, es =>
    match es.lookup p.name with
    | none => do
      let inner ← inlinePut whole k value (i + 1) ps true []
      pure (es ++ [(p, .table inner .inlineDotted none)])
    | some (.table inner form span) =>
      if form = .inline || form = .inlineDotted then do
        let inner ← inlinePut whole k value (i + 1) ps form.isDotted inner
        pure (es.replace p.name (.table inner form span))
      else .error (.extendsValue ((whole.take (i + 1)).map (·.name)) "table")
    | some other => .error (.extendsValue ((whole.take (i + 1)).map (·.name)) other.typeName)

/-- An inline table's entries from its key/value pairs, in order. -/
def inlineEntries (pairs : List (List Key × Key × Item)) : Except Conflict Entries :=
  pairs.foldlM (fun es (path, k, v) => inlinePut path k v 0 path false es) []

/-- A key/value pair of an inline table. -/
def inlinePair (inner : Parse Item) : Parse (List Key × Key × Item) := do
  let ks ← key
  final do
    withContexts [.expected "\x60.\x60", .expected "\x60=\x60"] (literal (ascii "="))
    blanks
    let v ← inner
    blanks
    pure (ks.dropLast, ks.getLastD ⟨"", "", ⟨0, 0⟩⟩, v)

/-- An inline table, `{ key = value, ... }`, on one line; its values are read by `inner`. -/
def inlineTable (room : Nat) (inner : Parse Item) : Parse Entries := do
  enter room
  literal (ascii "\x7b")
  let entries ← final (checked
    (do let pairs ← separated (inlinePair inner) (literal (ascii ",")); blanks; pure pairs)
    fun pairs => (inlineEntries pairs).mapError Conflict.message)
  final (withContexts [.label "inline table", .expected "\x60\x7d\x60"] (literal (ascii "\x7d")))
  pure entries

/-- A value, given how to read the values nested in it, and how much deeper nesting may go. -/
def valueWith (room : Nat) (inner : Parse Item) : Parse Item := fun c =>
  let spanned (p : Parse (Span → Item)) : Parse Item := fun c =>
    match p c with
    | .ok (f, c') => .ok (f ⟨c.pos, c'.pos⟩, c')
    | .error e => .error e
  let body : Parse Item := spanned do
    match ← peekByte with
    | none => deadEnd
    | some b =>
      if b == 0x22 || b == 0x27 then do let s ← string; pure (.string s)
      else if b == 0x5B then do let items ← array room inner; pure (.array items)
      else if b == 0x7B then do
        let es ← inlineTable room inner
        pure fun sp => .table es .inline (some sp)
      else if b == 0x2B || b == 0x2D || isDigit b then
        orElse (do dateTime; pure .datetime) <|
        orElse (do let f ← float; pure (.float f)) (do let n ← integer; pure (.integer n))
      else if b == 0x5F then
        withContext (.expected "leading digit") do let n ← integer; pure (.integer n)
      else if b == 0x2E then
        withContext (.expected "leading digit") do let f ← float; pure (.float f)
      else if b == 0x74 then
        withContexts stringExpected (do final (literal (ascii "true")); pure (.boolean true))
      else if b == 0x66 then
        withContexts stringExpected (do final (literal (ascii "false")); pure (.boolean false))
      else if b == 0x69 then
        withContexts stringExpected (do literal (ascii "inf"); pure (.float (1.0 / 0.0)))
      else if b == 0x6E then
        withContexts stringExpected (do literal (ascii "nan"); pure (.float (0.0 / 0.0)))
      else withContexts stringExpected deadEnd
  body c

/-- A value nested at most `room` levels deeper. -/
def valueAt : Nat → Parse Item
  | 0 => valueWith 0 deadEnd
  | room + 1 => valueWith (room + 1) (valueAt room)

/-- A value at the top of a document. -/
def value : Parse Item := valueAt (nestingLimit - 1)

end Toml
end PgBinding
