import ProofKey.Text

/-!
# Latin-1

Each byte is the code point of the same number. Every list of bytes can be read this way, and
texts of code points below U+0100 are the ones that come out.
-/

namespace ProofKey.Latin1

def decode (bytes : List UInt8) : Text := bytes.map fun byte => .ofNat byte.toNat

/-- The bytes of a text, of whose code points the lowest eight bits count. -/
def encode (t : Text) : List UInt8 := t.map fun c => UInt8.ofNat c.value

end ProofKey.Latin1
