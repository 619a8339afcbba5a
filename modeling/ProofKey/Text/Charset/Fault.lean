import ProofKey.Text.Idna
import ProofKey.Text.Quoted

/-!
# Faults of character sets

Bytes that are malformed in a character set are an expected thing, for which there is an answer. A
fault is none: the set, or its name, is of a kind with which nothing can be read.
-/

namespace ProofKey

/-- What is wrong in a character set, apart from malformed bytes. -/
inductive SetFault where
  /-- In this set no bytes are text. -/
  | undefined
  /-- Text in Punycode writes no other text. -/
  | punycode (fault : Punycode.Fault)
  /-- A label of a domain name stands for no text. -/
  | idna (fault : Idna.Fault)
  /-- A single shift asks for a set that single shifts do not know. -/
  | singleShift
  deriving DecidableEq, Repr

inductive DecodeError where
  /-- They are malformed. -/
  | malformed
  /-- There is something wrong in the set. -/
  | fault (fault : SetFault)
  deriving DecidableEq, Repr

inductive CharsetFault where
  /-- The name that was asked for has a NUL in it. -/
  | nulInName
  /-- There is something wrong in the set of a name. -/
  | set (name : Text) (fault : SetFault)
  deriving DecidableEq, Repr

/-- The complaint that reading in a set has failed for an error of some kind. -/
def failed (name kind message : Text) : Text :=
  "decoding with '" ++ name ++ "' codec failed (" ++ kind ++ ": " ++ message ++ ")"

def Punycode.Fault.message : Punycode.Fault → Text
  | unfinished => "incomplete punicode string"
  | badDigit c => "Invalid extended code point '" ++ [c] ++ "'"
  | tooLarge n => "Invalid character U+" ++ (Nat.toDigits 16 n).map CodePoint.ofChar

def Nameprep.Fault.message : Nameprep.Fault → Text
  | prohibited c => "Invalid character " ++ Text.quoted [c]
  | mixedDirections => "Violation of BIDI requirement 2"
  | openEnd => "Violation of BIDI requirement 3"

def Idna.Fault.message : Idna.Fault → Text
  | punycode fault => failed "punycode" "UnicodeError" fault.message
  | refused fault => fault.message
  | prefixed => "Label starts with ACE prefix"
  | size => "label empty or too long"
  | otherLabel label other =>
      "('IDNA does not round-trip', b" ++ Text.quoted label ++ ", b" ++ Text.quoted other ++ ")"

def SetFault.message : SetFault → Text
  | undefined => "undefined encoding"
  | punycode fault => fault.message
  | idna fault => fault.message
  | singleShift => "internal codec error"

def SetFault.kind : SetFault → Text
  | singleShift => "RuntimeError"
  | _ => "UnicodeError"

/-- What a fault says. That a label is not the one of its text is said without the set. -/
def CharsetFault.message : CharsetFault → Text
  | nulInName => "embedded null character"
  | set _ (.idna (.otherLabel label other)) => (Idna.Fault.otherLabel label other).message
  | set name fault => failed name fault.kind fault.message

end ProofKey
