import Walkthrough.Template.Operator
import Walkthrough.Text.Pieces
import Walkthrough.Text.Base64
import Walkthrough.Text.Utf8
import Walkthrough.Json.Reader

/-!
# Numbers and texts made of values

Conversions between values: to integers and floats, to and from base64 and JSON, and to text that is
safe in a document.
-/

namespace Walkthrough.Template.Value

/-! ## Numbers -/

/-- A value as an integer of a word: an integer stays, anything else is read as the text of a float
whose fraction is dropped. -/
def toInteger (v : Value) : Except Cause Value :=
  match v.word? with
  | some n => .ok (.int n)
  | Option.none =>
    let s := v.display
    match Binary64.readFloat? (Text.trim s).toList with
    | some x => .ok (.int (Binary64.toWord x))
    | Option.none => .error (.integerText s.isEmpty)

/-- A value as a float. -/
def toFloat (v : Value) : Except Cause Value :=
  match v with
  | .undefined | .none => .ok (.float 0.0)
  | .string s _ => match Binary64.readFloat? s.toList with
    | some x => .ok (.float x)
    | Option.none => .error (.floatText s.isEmpty)
  | _ => match v.float? true with
    | some x => .ok (.float x)
    | Option.none => .error (.floatKind v.kind)

/-- Ten to a power. -/
def tenTo (places : Int) : Float :=
  if 0 ≤ places then Binary64.ofDecimal false 1 places
  else 1.0 / Binary64.ofDecimal false 1 (-places)

/-- A float rounded to a number of decimal places; an integer stays. -/
def roundTo (v : Value) (places : Option Int) : Except Cause Value :=
  match v with
  | .int _ | .wide _ => .ok v
  | .float x =>
    let unit := tenTo (places.getD 0)
    .ok (.float (Binary64.round (unit * x) / unit))
  | _ => .error (.roundKind v.kind)

/-- The absolute value of a number. -/
def magnitude (v : Value) : Except Cause Value :=
  match v with
  | .int n => if n = minInt then .error .absolute else .ok (.int n.natAbs)
  | .wide n => .ok (.wide n)
  | .float x => .ok (.float x.abs)
  | _ => .error .absolute

/-- The sum of numbers; undefined values are passed over. -/
def total (items : List Value) : Except Cause Value :=
  items.foldlM (fun acc v =>
    match v.kind with
    | .undefined => .ok acc
    | .number => add acc v
    | kind => .error (.sumKind kind)) (.int 0)

/-! ## Text -/

/-- A value with the characters of marked-up text escaped; a safe string stays. -/
def escapeValue (v : Value) : Value :=
  match v with
  | .string _ true => v
  | .string s false => .string (Text.escapeMarkup s) true
  | .undefined | .none | .bool _ | .int _ | .wide _ | .float _ => .string v.display true
  | _ => .string (Text.escapeMarkup v.display) true

/-- The texts of values joined by a separator. -/
def joinItems (sep : String) (items : List Value) : Value :=
  .text (sep.intercalate (items.map display))

/-- The bytes of a text as base64. -/
def encodeBase64 (v : Value) : Value :=
  ofChars (Text.Base64.encode ((Text.utf8Bytes v.display).map UInt8.toNat))

/-- The text whose bytes a text encodes. -/
def decodeBase64 (v : Value) : Except Cause Value :=
  match Text.Base64.decode ((Text.utf8Bytes v.display).map UInt8.toNat) with
  | .error fault => .error (.badBase64 fault.message)
  | .ok bytes => match Text.decodeUtf8 (bytes.map UInt8.ofNat) with
    | .error fault => .error (.badUtf8 fault.message)
    | .ok s => .ok (.text s)

/-- The value that a text of JSON writes. -/
def readJson (v : Value) : Except Cause Value :=
  match Json.read v.display with
  | .ok j => .ok (ofJson j)
  | .error e => .error (.badJson e.message)

/-- A value as JSON text. -/
def writeJson (v : Value) : Except Cause Value :=
  match jsonText v with
  | .ok cs => .ok (ofChars cs)
  | .error fault => .error (.json fault)

end Walkthrough.Template.Value
