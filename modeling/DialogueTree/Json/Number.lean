import DialogueTree.Decimal.Layout
import DialogueTree.Json.Printer

/-!
# Numbers in JSON

How single-precision numbers are written in JSON.

* `Json.float32`: the JSON of a number, `null` for what is not finite.
-/

namespace DialogueTree

/-- Numbers from `0.000001` to below `10 ^ 13` are written out, all have a point unless they have
an exponent, exponents are signed, and of two equally near decimals the even one is taken. -/
def Layout.json : Layout := ⟨.toEven, fun e => -6 ≤ e && e ≤ 12, true, Json.spelling⟩

/-- A single-precision number. -/
def Json.float32 (x : Float32) : Json := .ofOption .number (Numeral.ofFloat32? Layout.json x)

end DialogueTree
