import Mathlib.Data.List.Basic

namespace JotaTranscriber

-- A std::string: bytes, not characters. Whisper may hand back bytes that are
-- not valid UTF-8, and every length the program tests is a byte count.
abbrev Text := List UInt8

def bytes (literal : String) : Text := literal.toUTF8.data.toList

-- std::to_string of an int.
def decimalInt (n : Int) : Text := bytes (toString n)

-- steady_clock time points, in nanoseconds.
abbrev Instant := Int

def seconds (n : Int) : Int := n * 1000000000
def milliseconds (n : Int) : Int := n * 1000000

end JotaTranscriber
