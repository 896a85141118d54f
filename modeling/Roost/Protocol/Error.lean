-- SUMMARY: The error every contract check returns.
import Mathlib.Tactic.Common

/-!
# Protocol errors

A refused value is reported as the dotted path of the offending field and a
reason that can go straight into a log line.
-/

namespace Roost

/-- Where a value failed the contract, and how. -/
structure ProtocolError where
  field : String
  reason : String
  deriving DecidableEq

/-- Prefix the field path, for a validator that delegates to a sub-validator. -/
def ProtocolError.within (error : ProtocolError) (path : String) : ProtocolError :=
  { error with field := path ++ "." ++ error.field }

def ProtocolError.message (error : ProtocolError) : String := error.field ++ ": " ++ error.reason

/-- The result of a contract check. -/
abbrev ProtocolResult (α : Type) := Except ProtocolError α

def utf8Bytes (value : String) : List UInt8 := value.toUTF8.data.toList

theorem utf8Bytes_append (a b : String) : utf8Bytes (a ++ b) = utf8Bytes a ++ utf8Bytes b := by
  simp [utf8Bytes]

theorem utf8Bytes_inj {a b : String} : utf8Bytes a = utf8Bytes b ↔ a = b := by
  simp [utf8Bytes, ← ByteArray.ext_iff, String.toByteArray_inj]

/-- Four lowercase hex digits. -/
private def hex4 (n : Nat) : String :=
  String.ofList [Nat.digitChar (n / 4096 % 16), Nat.digitChar (n / 256 % 16),
    Nat.digitChar (n / 16 % 16), Nat.digitChar (n % 16)]

private def jsonEscape (c : Char) : String :=
  if c = '"' then "\\\""
  else if c = '\\' then "\\\\"
  else if c = '\n' then "\\n"
  else if c = '\r' then "\\r"
  else if c = '\t' then "\\t"
  else if c.toNat = 8 then "\\b"
  else if c.toNat = 12 then "\\f"
  else if c.toNat < 32 then "\\u" ++ hex4 c.toNat
  else c.toString

def quoted (value : String) : String :=
  "\"" ++ String.join (value.toList.map jsonEscape) ++ "\""

/-- One character of a `{:?}` rendering. Characters from U+0080 on are kept as they
are; the source escapes those of them that do not print. -/
private def debugEscape (c : Char) : String :=
  if c = '"' then "\\\""
  else if c = '\\' then "\\\\"
  else if c = '\n' then "\\n"
  else if c = '\r' then "\\r"
  else if c = '\t' then "\\t"
  else if c.toNat = 0 then "\\0"
  else if c.toNat < 32 ∨ c.toNat = 127 then
    "\\u\x7b" ++ String.ofList (Nat.toDigits 16 c.toNat) ++ "\x7d"
  else c.toString

def debugQuoted (value : String) : String :=
  "\"" ++ String.join (value.toList.map debugEscape) ++ "\""

end Roost
