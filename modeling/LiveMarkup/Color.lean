import LiveMarkup.Decimal.Binary

/-!
# Colors

Four channels in single precision, meant to lie between zero and one.
-/

namespace LiveMarkup

/-- A color with red, green, blue and opacity. -/
structure Color where
  red : Float32
  green : Float32
  blue : Float32
  alpha : Float32
deriving BEq, Inhabited

namespace Color

def white : Color := ⟨1, 1, 1, 1⟩

def transparent : Color := ⟨0, 0, 0, 0⟩

/-- The nearest value between zero and one. -/
def clampChannel (channel : Float32) : Float32 :=
  if channel < 0 then 0 else if 1 < channel then 1 else channel

/-- The color with every channel brought between zero and one. -/
def clamped (red green blue alpha : Float32) : Color :=
  ⟨clampChannel red, clampChannel green, clampChannel blue, clampChannel alpha⟩

/-- A byte as a channel. -/
def channelOfByte (byte : Nat) : Float32 :=
  Float32.ofNat byte / 255

/-- The color given by four bytes. -/
def ofBytes (red green blue alpha : Nat) : Color :=
  ⟨channelOfByte red, channelOfByte green, channelOfByte blue, channelOfByte alpha⟩

/-- A channel as the nearest byte; no number counts as zero. -/
def byteOfChannel (channel : Float32) : Nat :=
  match Decimal.Binary.ofFloat32 (clampChannel channel * 255) with
  | .finite false mantissa exponent _ => Decimal.nearestWhole mantissa exponent
  | _ => 0

/-- The channels as bytes. -/
def bytes (color : Color) : List Nat :=
  [color.red, color.green, color.blue, color.alpha].map byteOfChannel

/-- Two hexadecimal digits. -/
def hexByte (byte : Nat) : List Char :=
  [Nat.digitChar (byte / 16), Nat.digitChar (byte % 16)]

/-- The eight hexadecimal digits of the bytes after a hash sign. -/
def text (color : Color) : String :=
  String.ofList ('#' :: color.bytes.flatMap hexByte)

end Color

end LiveMarkup
