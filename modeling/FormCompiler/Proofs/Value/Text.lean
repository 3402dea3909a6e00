import FormCompiler.Value.Access
import Mathlib.Data.List.Basic

set_option autoImplicit false

namespace FormCompiler

namespace Double

theorem digitsText_ne_nil (layout : Layout) {digits : List Char} (given : digits ≠ [])
    (first : Int) : digitsText layout digits first ≠ [] := by
  cases digits with
  | nil => exact absurd rfl given
  | cons digit rest =>
    simp only [digitsText]
    split
    · split <;> simp
    · simp

theorem text_ne_empty (x : Double) : x.text ≠ "" := by
  cases x with
  | notANumber occurrence => simp [text, textIn, plainLayout]
  | infinite negative => cases negative <;> decide
  | finite negative mantissa exponent =>
    have digits := digitsText_ne_nil plainLayout
      (Nat.toDigits_ne_nil (n := (shortest mantissa exponent).coefficient) (b := 10))
    simp [text, textIn, digits]

end Double

theorem Date.text_ne_empty (day : Date) : day.text ≠ "" := by
  simp [Date.text]

theorem DateTime.text_ne_empty (time : DateTime) : time.text ≠ "" := by
  simp [DateTime.text, DateTime.textWith, DateTime.localText]

theorem Handler.quoted_ne_empty (handler : Handler) : handler.quoted ≠ "" := by
  have bracket : ")" ≠ "" := by decide
  unfold Handler.quoted
  intro empty
  exact bracket (String.append_eq_empty_iff.mp empty).2

namespace Value

theorem asText_ne_empty (value : Value) {default : String} (given : default ≠ "") :
    value.asText default ≠ "" := by
  cases value with
  | null | list | tuple | map | knot => exact given
  | bool flag => cases flag <;> simp [asText, render, quoted]
  | int n =>
    simp only [asText, render, quoted, Int.toString_eq_repr, Int.repr_eq_if]
    split <;> simp [Nat.repr_ne_empty]
  | float x =>
    simp only [asText, render, quoted]
    exact x.text_ne_empty
  | text chars =>
    -- The default stands for the empty text as well.
    simp only [asText]
    split <;> simp_all
  | set items => cases items <;> simp [asText, render, quoted]
  | bytes data => simp [asText, render, quoted, Text.quotedBytes]
  | date day =>
    simp only [asText, render]
    exact day.text_ne_empty
  | dateTime time =>
    simp only [asText, render]
    exact time.text_ne_empty
  | handler target =>
    simp only [asText, render, quoted]
    exact target.quoted_ne_empty

end Value

end FormCompiler
