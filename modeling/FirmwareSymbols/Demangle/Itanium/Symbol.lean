import FirmwareSymbols.Demangle.Itanium.Grammar.Encodings
import FirmwareSymbols.Demangle.Itanium.Writer.Encodings

/-!
# Symbols of the C++ scheme

A symbol is read as a whole and then written. A readable form has at least one character.
-/

namespace FirmwareSymbols.Demangle.Itanium

def demangle? (symbol : List Char) : Option String := do
  let text ← (← Mangled.ofSymbol? symbol).text?
  if text.isEmpty then none else return text

theorem ne_empty_of_demangle? {symbol : List Char} {text : String} (h : demangle? symbol = some text) :
    text ≠ "" := by
  simp only [demangle?, Option.bind_eq_bind, Option.bind_eq_some_iff] at h
  obtain ⟨m, -, t, -, ht⟩ := h
  split at ht
  · simp at ht
  · simp_all

end FirmwareSymbols.Demangle.Itanium
