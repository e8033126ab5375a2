import WrapperGen.Json.Error

/-!
The tokens of JSON text. A reader takes the text at which it stands and gives what it read with the
text after it. A value that is of no interest is only passed over, and less is demanded of it.
-/

namespace WrapperGen.Json

/-- The text from its first character that is not a blank of the format. -/
def skipSpace (text : Text) : Text :=
  text.dropWhile fun char => char = ' ' || char = '\n' || char = '\t' || char = '\r'

def readWord : Text → Text → Except Error Text
  | [], text => .ok text
  | _ :: _, [] => .error (.fault .valueEnds)
  | expected :: word, first :: rest =>
    if first = expected then readWord word rest else .error (.fault .wordExpected)

/-! Strings -/

def hexDigit? (char : Char) : Option Nat :=
  if '0' ≤ char ∧ char ≤ '9' then some (char.toNat - '0'.toNat)
  else if 'a' ≤ char ∧ char ≤ 'f' then some (char.toNat - 'a'.toNat + 10)
  else if 'A' ≤ char ∧ char ≤ 'F' then some (char.toNat - 'A'.toNat + 10)
  else none

def readHex : Text → Except Error (Nat × Text)
  | first :: second :: third :: fourth :: rest =>
    match [first, second, third, fourth].mapM hexDigit? with
    | some digits => .ok (digits.foldl (fun value digit => 16 * value + digit) 0, rest)
    | none => .error (.fault .invalidEscape)
  | short => .error (.fault (if Text.byteLength short < 4 then .stringEnds else .invalidEscape))

/-- The character that a hexadecimal escape writes, alone or as the first of a surrogate pair. -/
def readCodeEscape (text : Text) : Except Error (Char × Text) :=
  match readHex text with
  | .error error => .error error
  | .ok (unit, rest) =>
    if 0xDC00 ≤ unit ∧ unit ≤ 0xDFFF then .error (.fault .loneSurrogate)
    else if unit < 0xD800 ∨ 0xDBFF < unit then .ok (Char.ofNat unit, rest)
    else match rest with
      | '\\' :: 'u' :: rest =>
        match readHex rest with
        | .error error => .error error
        | .ok (second, rest) =>
          if second < 0xDC00 ∨ 0xDFFF < second then .error (.fault .loneSurrogate)
          else .ok (Char.ofNat (0x10000 + 0x400 * (unit - 0xD800) + (second - 0xDC00)), rest)
      | [] | ['\\'] => .error (.fault .stringEnds)
      | _ => .error (.fault .surrogatePairEnds)

def shortEscape? (letter : Char) : Option Char :=
  [('"', '"'), ('\\', '\\'), ('/', '/'), ('b', '\x08'), ('f', '\x0c'), ('n', '\n'), ('r', '\r'),
    ('t', '\t')].lookup letter

def readEscape : Text → Except Error (Char × Text)
  | [] => .error (.fault .stringEnds)
  | letter :: rest =>
    if letter = 'u' then readCodeEscape rest
    else match shortEscape? letter with
      | some char => .ok (char, rest)
      | none => .error (.fault .invalidEscape)

/-- The text after an escape that is passed over, after its backslash. -/
def skipEscape : Text → Except Error Text
  | [] => .error (.fault .stringEnds)
  | letter :: rest =>
    if letter = 'u' then
      match readHex rest with
      | .error error => .error error
      | .ok (_, rest) => .ok rest
    else match shortEscape? letter with
      | some _ => .ok rest
      | none => .error (.fault .invalidEscape)

theorem readHex_length {text rest : Text} {value : Nat} (read : readHex text = .ok (value, rest)) :
    rest.length < text.length := by
  unfold readHex at read
  split at read
  · split at read
    · simp only [Except.ok.injEq, Prod.mk.injEq] at read
      rw [← read.2]
      simp only [List.length_cons]
      omega
    · simp at read
  · simp at read

theorem readCodeEscape_length {text rest : Text} {char : Char}
    (read : readCodeEscape text = .ok (char, rest)) : rest.length < text.length := by
  unfold readCodeEscape at read
  split at read
  · simp at read
  · rename_i first
    have shorter := readHex_length first
    split at read
    · simp at read
    · split at read
      · simp only [Except.ok.injEq, Prod.mk.injEq] at read
        rw [← read.2]
        exact shorter
      · split at read
        · split at read
          · simp at read
          · rename_i second
            have shortest := readHex_length second
            split at read
            · simp at read
            · simp only [Except.ok.injEq, Prod.mk.injEq] at read
              rw [← read.2]
              simp only [List.length_cons] at shorter
              omega
        all_goals simp at read

theorem readEscape_length {text rest : Text} {char : Char}
    (read : readEscape text = .ok (char, rest)) : rest.length < text.length := by
  unfold readEscape at read
  split at read
  · simp at read
  · split at read
    · have := readCodeEscape_length read
      simp only [List.length_cons]
      omega
    · split at read
      · simp only [Except.ok.injEq, Prod.mk.injEq] at read
        simp [← read.2]
      · simp at read

theorem skipEscape_length {text rest : Text} (read : skipEscape text = .ok rest) :
    rest.length < text.length := by
  unfold skipEscape at read
  split at read
  · simp at read
  · split at read
    · split at read
      · simp at read
      · rename_i hex
        have := readHex_length hex
        simp only [Except.ok.injEq] at read
        rw [← read]
        simp only [List.length_cons]
        omega
    · split at read
      · simp only [Except.ok.injEq] at read
        simp [← read]
      · simp at read

def readString : Text → Except Error (Text × Text)
  | [] => .error (.fault .stringEnds)
  | first :: rest =>
    if first = '"' then .ok ([], rest)
    else if first = '\\' then
      match escape : readEscape rest with
      | .error error => .error error
      | .ok (char, after) =>
        have := readEscape_length escape
        (readString after).map fun (chars, rest) => (char :: chars, rest)
    else if first < ' ' then .error (.fault .controlCharacter)
    else (readString rest).map fun (chars, rest) => (first :: chars, rest)
termination_by text => text.length

/-- The text after the string that ends at the next closing quote. -/
def skipString : Text → Except Error Text
  | [] => .error (.fault .stringEnds)
  | first :: rest =>
    if first = '"' then .ok rest
    else if first = '\\' then
      match escape : skipEscape rest with
      | .error error => .error error
      | .ok after =>
        have := skipEscape_length escape
        skipString after
    else if first < ' ' then .error (.fault .controlCharacter)
    else skipString rest
termination_by text => text.length

/-! Numbers -/

def spanDigits (text : Text) : Text × Text :=
  (text.takeWhile Char.isDigit, text.dropWhile Char.isDigit)

/-- The number that digits write after a number that was read before them, as long as it fits 64
bits, and how many of them it took. -/
def appendDigits (significand : Nat) : Text → Nat × Nat
  | [] => (significand, 0)
  | digit :: digits =>
    let longer := 10 * significand + (digit.toNat - '0'.toNat)
    if longer < UInt64.size then
      let (value, taken) := appendDigits longer digits
      (value, taken + 1)
    else (significand, 0)

def Number.ofDecimal? (isNegative : Bool) (significand : Nat) (exponent : Int) : Option Number :=
  (Decimal.toFloat? significand.toUInt64 exponent).map fun value =>
    .real (if isNegative then (-value).toBits else value.toBits)

/-- A whole number with its sign; a negative one that does not fit, or a negative zero, is a
floating-point number. -/
def Number.ofWhole (isNegative : Bool) (significand : Nat) : Number :=
  if !isNegative then .natural significand
  else if significand = 0 ∨ UInt64.size / 2 < significand then
    .real (-significand.toUInt64.toFloat).toBits
  else .negative significand

/-- The number that ends with an exponent, of which the `e` has been read. An exponent beyond all
measure makes the number zero or too large. -/
def readExponent (isNegative : Bool) (significand : Nat) (scale : Int) (text : Text) :
    Except Error (Number × Text) :=
  let (falls, text) : Bool × Text :=
    match text with
    | '+' :: rest => (false, rest)
    | '-' :: rest => (true, rest)
    | _ => (false, text)
  match text with
  | [] => .error (.fault .valueEnds)
  | first :: _ =>
    if !first.isDigit then .error (.fault .invalidNumber)
    else
      let (digits, rest) := spanDigits text
      let limit := UInt32.size / 2
      let exponent := digits.foldl (fun value digit =>
        min limit (10 * value + (digit.toNat - '0'.toNat))) 0
      if limit ≤ exponent ∧ (falls ∨ significand = 0) then
        .ok (.real (if isNegative then (-0.0 : Float).toBits else (0.0 : Float).toBits), rest)
      else match Number.ofDecimal? isNegative significand
          (if falls then scale - exponent else scale + exponent) with
        | some value => .ok (value, rest)
        | none => .error (.fault .numberOutOfRange)

/-- The number that goes on with a fraction, of which the point has been read. -/
def readFraction (isNegative : Bool) (significand : Nat) (scale : Int) (text : Text) :
    Except Error (Number × Text) :=
  let (digits, rest) := spanDigits text
  if digits.isEmpty then
    .error (.fault (if text.isEmpty then .valueEnds else .invalidNumber))
  else
    let (significand, taken) := appendDigits significand digits
    let scale := scale - taken
    match rest with
    | 'e' :: rest | 'E' :: rest => readExponent isNegative significand scale rest
    | _ =>
      match Number.ofDecimal? isNegative significand scale with
      | some value => .ok (value, rest)
      | none => .error (.fault .numberOutOfRange)

def readNumber (isNegative : Bool) (text : Text) : Except Error (Number × Text) :=
  let (digits, rest) := spanDigits text
  match digits with
  | [] => .error (.fault (if text.isEmpty then .valueEnds else .invalidNumber))
  | '0' :: _ :: _ => .error (.fault .invalidNumber)
  | _ =>
    let (significand, taken) := appendDigits 0 digits
    let scale := Int.ofNat (digits.length - taken)
    match rest with
    | '.' :: rest => readFraction isNegative significand scale rest
    | 'e' :: rest | 'E' :: rest => readExponent isNegative significand scale rest
    | _ =>
      if scale = 0 then .ok (Number.ofWhole isNegative significand, rest)
      else match Number.ofDecimal? isNegative significand scale with
        | some value => .ok (value, rest)
        | none => .error (.fault .numberOutOfRange)

/-- The text after the digits at its start, of which there is at least one. -/
def skipDigits (text : Text) : Except Error Text :=
  match spanDigits text with
  | ([], _) => .error (.fault .invalidNumber)
  | (_, rest) => .ok rest

/-- The text after an exponent, of which the `e` has been read. -/
def skipExponent : Text → Except Error Text
  | '+' :: rest | '-' :: rest => skipDigits rest
  | text => skipDigits text

/-- The text after a number that is passed over, after its sign. -/
def skipNumber (text : Text) : Except Error Text :=
  match spanDigits text with
  | ([], _) | ('0' :: _ :: _, _) => .error (.fault .invalidNumber)
  | (_, '.' :: rest) =>
    match skipDigits rest with
    | .ok ('e' :: rest) | .ok ('E' :: rest) => skipExponent rest
    | result => result
  | (_, 'e' :: rest) | (_, 'E' :: rest) => skipExponent rest
  | (_, rest) => .ok rest

end WrapperGen.Json
