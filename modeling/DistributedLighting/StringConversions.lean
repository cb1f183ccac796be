import DistributedLighting.SerialStream

namespace DistributedLighting

/-!
# Numbers at the front of a string

`std::stoi` and `std::stof` convert the longest prefix of a string that reads as a
number.  They throw if there is none, and if its value does not fit into the type.
-/

/-- The exceptions that are thrown while a line is read. -/
inductive StdException where
  | invalidArgument
  | outOfRange
  /-- `input_exception` with its message -/
  | input (message : String)
  deriving DecidableEq

/-- `isspace` in the C locale. -/
def isSpace (character : Byte) : Bool :=
  character = byteOf ' ' ∨ (9 ≤ character.toNat ∧ character.toNat ≤ 13)

/-- `tolower` in the C locale. -/
def toLower (character : Byte) : Byte :=
  if 65 ≤ character.toNat ∧ character.toNat ≤ 90 then
    character + 32
  else
    character

/-- The value of a digit, where it is one of this base. -/
def digitValue
    (base : Nat)
    (character : Byte) : Option Nat :=
  let code := (toLower character).toNat
  let value :=
    if 48 ≤ code ∧ code ≤ 57 then
      code - 48
    else if 97 ≤ code ∧ code ≤ 122 then
      code - 87
    else
      base
  if value < base then some value else none

/-- The digits at the front, and what follows them. -/
def takeDigits (base : Nat) : List Byte → List Nat × List Byte
  | [] => ([], [])
  | character :: rest =>
      match digitValue base character with
      | none => ([], character :: rest)
      | some digit =>
          (digit :: (takeDigits base rest).1, (takeDigits base rest).2)

/-- The number that digits stand for. -/
def ofDigits
    (base : Nat)
    (digits : List Nat) : Nat :=
  digits.foldl (fun value digit => base * value + digit) 0

/-- An optional sign: whether it is a minus, and what follows it. -/
def takeSign (text : List Byte) : Bool × List Byte :=
  match text with
  | [] => (false, [])
  | character :: rest =>
      if character = byteOf '-' then
        (true, rest)
      else if character = byteOf '+' then
        (false, rest)
      else
        (false, character :: rest)

/-- `std::stoi`, for an `int` of 32 bits. -/
def stoi (text : List Byte) : Except StdException Int :=
  let signed := takeSign (text.dropWhile isSpace)
  let digits := (takeDigits 10 signed.2).1
  let magnitude : Int := ofDigits 10 digits
  let value := if signed.1 then -magnitude else magnitude
  if digits = [] then
    .error .invalidArgument
  else if value < -2 ^ 31 ∨ 2 ^ 31 ≤ value then
    .error .outOfRange
  else
    .ok value

/-- What stands at the front of a string for `strtof`, without its sign. -/
inductive FloatText where
  | infinity
  | nan
  | finite (magnitude : ℚ)

/-- The exponent after its letter; digits must follow, or it is not read. -/
def takeExponent
    (letter : Char)
    (text : List Byte) : Int :=
  match text with
  | [] => 0
  | character :: rest =>
      if toLower character = byteOf letter then
        let signed := takeSign rest
        let magnitude : Int := ofDigits 10 (takeDigits 10 signed.2).1
        if signed.1 then -magnitude else magnitude
      else
        0

/-- Digits with a point between them: those before it, those after it, and what follows. -/
def takePointed
    (base : Nat)
    (text : List Byte) : List Nat × List Nat × List Byte :=
  let whole := takeDigits base text
  match whole.2 with
  | [] => (whole.1, [], [])
  | character :: rest =>
      if character = byteOf '.' then
        (whole.1, takeDigits base rest)
      else
        (whole.1, [], whole.2)

/-- A finite number, with the powers of `scale` as its exponents. -/
def takeMagnitude
    (base : Nat)
    (scale : ℚ)
    (letter : Char)
    (text : List Byte) : Option ℚ :=
  let pointed := takePointed base text
  let digits := pointed.1 ++ pointed.2.1
  if digits = [] then
    none
  else
    some
      ((ofDigits base digits : ℚ) / (base : ℚ) ^ pointed.2.1.length *
        scale ^ takeExponent letter pointed.2.2)

/-- Whether a string starts with a word, in either case. -/
def startsWith
    (word : String)
    (text : List Byte) : Bool :=
  (word.toList.map byteOf).isPrefixOf (text.map toLower)

/-- The number that `strtof` finds after the sign. -/
def takeFloat (text : List Byte) : Option FloatText :=
  if startsWith "inf" text then
    some .infinity
  else if startsWith "nan" text then
    some .nan
  else
    match
      if startsWith "0x" text then
        takeMagnitude 16 2 'p' (text.drop 2)
      else
        none
    with
    | some magnitude => some (.finite magnitude)
    | none => (takeMagnitude 10 10 'e' text).map .finite

/--
The bits of the nearest single-precision number, or none where `strtof` reports a
range error: beyond the largest, and inexact below the smallest normal number.  The
range is that of the rounded number.  Just below the smallest normal one, where it
rounds up to it, the C library may also report an error for the exact number.
-/
def roundToSingle (magnitude : ℚ) : Option (BitVec 32) :=
  if magnitude = 0 then
    some 0
  else
    let exponent : Int := max (Int.log 2 magnitude) (-126)
    let scaled := magnitude / (2 : ℚ) ^ (exponent - 23)
    let significand := (roundHalfEven scaled).toNat
    let bits := (exponent + 126).toNat * 2 ^ 23 + significand
    if bits ≥ 255 * 2 ^ 23 then
      none
    else if significand < 2 ^ 23 ∧ scaled ≠ significand then
      none
    else
      some (BitVec.ofNat 32 bits)

/-- `std::stof`, as the bits of the `float`. -/
def stof (text : List Byte) : Except StdException (BitVec 32) :=
  let signed := takeSign (text.dropWhile isSpace)
  let sign : BitVec 32 := if signed.1 then 0x80000000 else 0
  match takeFloat signed.2 with
  | none => .error .invalidArgument
  | some .infinity => .ok (sign ||| 0x7F800000)
  | some .nan => .ok (sign ||| 0x7FC00000)
  | some (.finite magnitude) =>
      match roundToSingle magnitude with
      | none => .error .outOfRange
      | some bits => .ok (sign ||| bits)

/-- Comparing a `float` with `0`: both zeros are equal to it. -/
def isZero (float : BitVec 32) : Bool :=
  float &&& 0x7FFFFFFF = 0

/-- Comparing a `float` with `1`. -/
def isOne (float : BitVec 32) : Bool :=
  float = 0x3F800000

/-- A number too large for an `int` is not read as a shorter one. -/
example :
    stoi ("4294967297 1".toList.map byteOf) = .error .outOfRange := by
  decide +kernel

/-- The longest prefix ends where no digit follows. -/
example :
    stoi ("  12x".toList.map byteOf) = .ok 12 := by
  decide +kernel

end DistributedLighting
